import SqlStatement.Tally

/-!
# Listings

Adding to a listing is associative, and the listing without characters is neutral for it.  So the
listing of names does not depend on the way in which it was put together from parts
(`Name.commaList_append`): a sub-query that is adopted with its own listing leaves the same text as
one whose names are added one by one.
-/

namespace SqlStatement

namespace Listing

@[simp] theorem add_empty (listing : String) : add listing "" = listing := by simp [add]

@[simp] theorem empty_add (text : String) : add "" text = text := by
  by_cases h : text = "" <;> simp [add, h]

/-- A listing is empty only if nothing was put into it. -/
theorem add_eq_empty_iff {listing text : String} :
    add listing text = "" ↔ listing = "" ∧ text = "" := by
  by_cases ht : text = ""
  · simp [ht]
  · by_cases hl : listing = ""
    · simp [hl]
    · simp [add, ht, hl]

/-- Two texts with characters stand on the two sides of a comma. -/
theorem add_of_ne_empty {listing text : String} (hl : listing ≠ "") (ht : text ≠ "") :
    add listing text = listing ++ ", " ++ text := by
  rw [add, if_neg ht, if_neg hl]

/-- Adding to a listing is associative. -/
theorem add_assoc (a b c : String) : add (add a b) c = add a (add b c) := by
  by_cases ha : a = ""
  · simp [ha]
  by_cases hb : b = ""
  · simp [hb]
  by_cases hc : c = ""
  · simp [hc]
  have hab : add a b ≠ "" := fun h ↦ ha (add_eq_empty_iff.mp h).1
  have hbc : add b c ≠ "" := fun h ↦ hb (add_eq_empty_iff.mp h).1
  rw [add_of_ne_empty hab hc, add_of_ne_empty ha hbc, add_of_ne_empty ha hb,
    add_of_ne_empty hb hc]
  simp only [String.append_assoc]

end Listing

namespace Name

/-- An empty name is not present. -/
theorem present_cons (n : Name) (ns : List Name) :
    present (n :: ns) = if n.isEmpty then present ns else n :: present ns := by
  cases h : n.isEmpty <;> simp [present, h]

/-- A present name has characters. -/
theorem text_ne_empty_of_mem_present {n : Name} {ns : List Name} (h : n ∈ present ns) :
    n.text ≠ "" := by
  have h := (List.mem_filter.mp h).2
  simpa [isEmpty] using h

@[simp] theorem commaList_nil : commaList [] = "" := rfl

/-- There is nothing in the listing of names exactly if none is present. -/
theorem commaList_eq_empty_iff {ns : List Name} : commaList ns = "" ↔ present ns = [] := by
  constructor
  · intro h
    cases hp : present ns with
    | nil => rfl
    | cons n r =>
      have hn : n.text ≠ "" := text_ne_empty_of_mem_present (hp ▸ List.mem_cons_self)
      rw [commaList, hp, List.map_cons] at h
      cases r with
      | nil => exact absurd (by simpa using h) hn
      | cons m r => simp at h
  · intro h
    simp [commaList, h]

/-- The first name is listed in front of the others. -/
theorem commaList_cons (n : Name) (ns : List Name) :
    commaList (n :: ns) = Listing.add n.text (commaList ns) := by
  by_cases hn : n.text = ""
  · have he : n.isEmpty = true := by simp [isEmpty, hn]
    simp [commaList, present_cons, he, hn]
  · have he : n.isEmpty = false := by simp [isEmpty, hn]
    by_cases hp : present ns = []
    · simp [commaList, present_cons, he, hp]
    · have hns : commaList ns ≠ "" := fun h ↦ hp (commaList_eq_empty_iff.mp h)
      rw [Listing.add_of_ne_empty hn hns, commaList, present_cons, he]
      have hm : (present ns).map text ≠ [] := by simpa using hp
      simp only [Bool.false_eq_true, if_false, List.map_cons]
      rw [String.intercalate_cons_of_ne_nil hm]
      rfl

/-- The names of two lists are listed one list after the other. -/
theorem commaList_append (a b : List Name) :
    commaList (a ++ b) = Listing.add (commaList a) (commaList b) := by
  induction a with
  | nil => simp
  | cons n a ih => rw [List.cons_append, commaList_cons, ih, commaList_cons, Listing.add_assoc]

end Name

end SqlStatement
