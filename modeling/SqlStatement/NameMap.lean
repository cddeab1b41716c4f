import SqlStatement.Name

/-!
# Maps from names

`NameMap α` holds one value for each of finitely many names, in ascending order of name.  A map is
determined by what it holds (`NameMap.ext_lookup`), so it keeps no trace of the order in which its
entries came, and a second value for a name replaces the first (`NameMap.lookup_insert`).
-/

namespace SqlStatement

/-- One value for each of finitely many names, the names ascending. -/
@[ext]
structure NameMap (α : Type) where
  entries : List (Name × α)
  ascending : entries.Pairwise fun a b ↦ a.1 < b.1

namespace NameMap

variable {α : Type}

/-- The map without entries. -/
def empty : NameMap α := ⟨[], .nil⟩

instance : Inhabited (NameMap α) := ⟨empty⟩

/-- The names that have a value, in ascending order. -/
def names (m : NameMap α) : List Name := m.entries.map (·.1)

/-- The value of a name. -/
def lookup (m : NameMap α) (k : Name) : Option α := m.entries.lookup k

/-- Puts an entry at its place in a list of entries; an entry of the same name gives way. -/
def insertEntry (k : Name) (v : α) : List (Name × α) → List (Name × α)
  | [] => [(k, v)]
  | e :: r => if k < e.1 then (k, v) :: e :: r else if k = e.1 then (k, v) :: r
    else e :: insertEntry k v r

/-- The entries after an insertion are the new one and some of the old ones. -/
theorem mem_insertEntry {k : Name} {v : α} {e : Name × α} {l : List (Name × α)}
    (h : e ∈ insertEntry k v l) : e = (k, v) ∨ e ∈ l := by
  induction l with
  | nil => simpa [insertEntry] using h
  | cons d r ih =>
    rw [insertEntry] at h
    split at h
    · simpa using h
    · split at h
      · rcases List.mem_cons.mp h with h | h
        · exact .inl h
        · exact .inr (List.mem_cons_of_mem d h)
      · rcases List.mem_cons.mp h with h | h
        · exact .inr (h ▸ List.mem_cons_self)
        · exact (ih h).imp id (List.mem_cons_of_mem d)

/-- An insertion keeps the names ascending. -/
theorem pairwise_insertEntry (k : Name) (v : α) {l : List (Name × α)}
    (h : l.Pairwise fun a b ↦ a.1 < b.1) :
    (insertEntry k v l).Pairwise fun a b ↦ a.1 < b.1 := by
  induction l with
  | nil => simp [insertEntry]
  | cons e r ih =>
    obtain ⟨he, hr⟩ := List.pairwise_cons.mp h
    rw [insertEntry]
    split
    · next hk =>
      refine List.pairwise_cons.mpr ⟨fun d hd ↦ ?_, h⟩
      rcases List.mem_cons.mp hd with rfl | hd
      · exact hk
      · exact Std.lt_trans hk (he d hd)
    · next hk =>
      split
      · next hke => exact List.pairwise_cons.mpr ⟨fun d hd ↦ hke ▸ he d hd, hr⟩
      · next hke =>
        refine List.pairwise_cons.mpr ⟨fun d hd ↦ ?_, ih hr⟩
        rcases mem_insertEntry hd with rfl | hd
        · exact Std.lt_of_le_of_ne (Std.not_lt.mp hk) (Ne.symm hke)
        · exact he d hd

/-- The map with one more entry; a value that the name had before is replaced. -/
def insert (m : NameMap α) (k : Name) (v : α) : NameMap α :=
  ⟨insertEntry k v m.entries, pairwise_insertEntry k v m.ascending⟩

@[simp] theorem lookup_empty (k : Name) : (empty : NameMap α).lookup k = none := rfl

/-- The first entry of a list answers for its own name, the others for all other names. -/
theorem lookup_entry_cons (k : Name) (e : Name × α) (l : List (Name × α)) :
    (e :: l).lookup k = if k = e.1 then some e.2 else l.lookup k := by
  rw [List.lookup_cons]
  by_cases h : k = e.1
  · simp [h]
  · rw [if_neg h, beq_false_of_ne h]

/-- After an insertion the name has the new value and every other name its old one. -/
theorem lookup_insert (m : NameMap α) (k j : Name) (v : α) :
    (m.insert k v).lookup j = if j = k then some v else m.lookup j := by
  suffices h : ∀ l : List (Name × α), (insertEntry k v l).lookup j =
      if j = k then some v else l.lookup j from h m.entries
  intro l
  induction l with
  | nil => simp [insertEntry, lookup_entry_cons]
  | cons e r ih =>
    rw [insertEntry]
    split
    · rw [lookup_entry_cons]
    · split
      · next hke => by_cases hj : j = k <;> simp [lookup_entry_cons, hj, ← hke]
      · next hke =>
        rw [lookup_entry_cons, lookup_entry_cons, ih]
        by_cases hj : j = e.1
        · have hjk : j ≠ k := fun h ↦ hke (h ▸ hj)
          rw [if_pos hj, if_neg hjk, if_pos hj]
        · rw [if_neg hj, if_neg hj]

/-- A name below all names of a list has no value in it. -/
theorem lookup_eq_none_of_lt {k : Name} {l : List (Name × α)} (h : ∀ e ∈ l, k < e.1) :
    l.lookup k = none := by
  induction l with
  | nil => rfl
  | cons e r ih =>
    have hne : k ≠ e.1 := fun he ↦ Std.lt_irrefl (he ▸ h e List.mem_cons_self)
    rw [lookup_entry_cons, if_neg hne]
    exact ih fun d hd ↦ h d (List.mem_cons_of_mem e hd)

/-- A name below the first name of an ascending list has no value in it. -/
theorem lookup_cons_eq_none {k : Name} {e : Name × α} {l : List (Name × α)} (hk : k < e.1)
    (he : ∀ d ∈ l, e.1 < d.1) : (e :: l).lookup k = none :=
  lookup_eq_none_of_lt fun d hd ↦ by
    rcases List.mem_cons.mp hd with rfl | hd
    · exact hk
    · exact Std.lt_trans hk (he d hd)

/-- The entries of a map are the names with the values that it holds. -/
theorem mem_entries_iff {m : NameMap α} {k : Name} {v : α} :
    (k, v) ∈ m.entries ↔ m.lookup k = some v := by
  suffices h : ∀ l : List (Name × α), l.Pairwise (fun a b ↦ a.1 < b.1) →
      ((k, v) ∈ l ↔ l.lookup k = some v) from h m.entries m.ascending
  intro l hl
  induction l with
  | nil => simp
  | cons e r ih =>
    obtain ⟨he, hr⟩ := List.pairwise_cons.mp hl
    rw [List.mem_cons, ih hr, lookup_entry_cons]
    by_cases hk : k = e.1
    · have hnone : r.lookup k = none := lookup_eq_none_of_lt fun d hd ↦ hk ▸ he d hd
      rw [if_pos hk, hnone, Option.some_inj]
      constructor
      · rintro (h | h)
        · rw [← h]
        · cases h
      · intro h
        exact .inl (Prod.ext hk h.symm)
    · have hne : (k, v) ≠ e := fun h ↦ hk (congrArg Prod.fst h)
      rw [if_neg hk, or_iff_right hne]

/-- The entry of the name without characters comes first. -/
theorem head?_entries_of_empty {m : NameMap α} {e : Name × α} (he : e ∈ m.entries)
    (h : e.1 = .empty) : m.entries.head? = some e := by
  have hascending := m.ascending
  cases hm : m.entries with
  | nil =>
    rw [hm] at he
    exact absurd he List.not_mem_nil
  | cons first r =>
    rw [hm] at he hascending
    rcases List.mem_cons.mp he with rfl | hr
    · rfl
    · have hlt := (List.pairwise_cons.mp hascending).1 e hr
      rw [h] at hlt
      exact absurd hlt (Name.not_lt_empty first.1)

/-- Two maps that hold the same values are equal. -/
theorem ext_lookup {m m' : NameMap α} (h : ∀ k, m.lookup k = m'.lookup k) : m = m' := by
  suffices H : ∀ l l' : List (Name × α), l.Pairwise (fun a b ↦ a.1 < b.1) →
      l'.Pairwise (fun a b ↦ a.1 < b.1) → (∀ k, l.lookup k = l'.lookup k) → l = l' from
    NameMap.ext (H _ _ m.ascending m'.ascending h)
  intro l
  induction l with
  | nil =>
    intro l' _ _ h
    cases l' with
    | nil => rfl
    | cons e r => simpa [lookup_entry_cons] using h e.1
  | cons e r ih =>
    intro l' hl hl' h
    obtain ⟨he, hr⟩ := List.pairwise_cons.mp hl
    cases l' with
    | nil => simpa [lookup_entry_cons] using h e.1
    | cons e' r' =>
      obtain ⟨he', hr'⟩ := List.pairwise_cons.mp hl'
      have hkey : e.1 = e'.1 := by
        apply Std.le_antisymm <;> apply Std.not_lt.mp <;> intro hlt
        · have := h e'.1
          rw [lookup_cons_eq_none hlt he, lookup_entry_cons, if_pos rfl] at this
          exact Option.some_ne_none _ this.symm
        · have := h e.1
          rw [lookup_cons_eq_none hlt he', lookup_entry_cons, if_pos rfl] at this
          exact Option.some_ne_none _ this
      have hval : e = e' := by
        have := h e.1
        rw [lookup_entry_cons, lookup_entry_cons, if_pos rfl, if_pos hkey] at this
        exact Prod.ext hkey (Option.some.inj this)
      subst hval
      refine congrArg _ (ih r' hr hr' fun k ↦ ?_)
      by_cases hk : k = e.1
      · rw [hk, lookup_eq_none_of_lt he, lookup_eq_none_of_lt he']
      · have := h k
        rwa [lookup_entry_cons, lookup_entry_cons, if_neg hk, if_neg hk] at this

end NameMap

end SqlStatement
