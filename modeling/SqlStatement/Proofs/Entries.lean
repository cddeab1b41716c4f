import Mathlib
import SqlStatement.Proofs.Credits

/-!
# Reading the parameters off their listing

Who binds the parameters of a statement takes the listing of their names apart at each comma with a
blank behind it.  This gives back the names that are not empty (`Name.entries_commaList`).  An empty
name has no entry, and the entries behind it belong to other parameters than their places tell.  So
the listing names the field behind each parameter exactly if all of these are credited to a name
that is not empty, or if there is at most one (`Kind.namesParameters_iff`).
-/

namespace SqlStatement

namespace Listing

/-- The entries of characters, behind those of the entry that is being read. -/
def entriesFrom (entry : List Char) : List Char → List String
  | [] => [.ofList entry]
  | ',' :: ' ' :: r => .ofList entry :: entriesFrom [] r
  | c :: r => entriesFrom (entry ++ [c]) r

/-- The entries of a listing, which is split at each comma with a blank behind it. -/
def entries (listing : String) : List String := entriesFrom [] listing.toList

/-- Characters without a comma belong to the entry that is being read. -/
theorem entriesFrom_append {cs : List Char} (h : ',' ∉ cs) (entry rest : List Char) :
    entriesFrom entry (cs ++ rest) = entriesFrom (entry ++ cs) rest := by
  induction cs generalizing entry with
  | nil => rw [List.nil_append, List.append_nil]
  | cons c cs ih =>
    have hc : c ≠ ',' := fun hc ↦ h (hc ▸ List.mem_cons_self)
    have hcs : ',' ∉ cs := fun hmem ↦ h (List.mem_cons_of_mem c hmem)
    have hstep : entriesFrom entry (c :: (cs ++ rest)) = entriesFrom (entry ++ [c]) (cs ++ rest) :=
      entriesFrom.eq_3 entry c (cs ++ rest) fun _ hcomma _ ↦ hc hcomma
    rw [List.cons_append, hstep, ih hcs, List.append_assoc, List.singleton_append]

/-- Texts without commas are the entries of the listing in which commas separate them. -/
theorem entries_intercalate {ts : List String} (h : ∀ t ∈ ts, ',' ∉ t.toList) (hne : ts ≠ []) :
    entries (", ".intercalate ts) = ts := by
  induction ts with
  | nil => exact absurd rfl hne
  | cons t ts ih =>
    have ht : ',' ∉ t.toList := h t List.mem_cons_self
    cases ts with
    | nil =>
      have hread := entriesFrom_append ht [] []
      rw [List.append_nil, List.nil_append] at hread
      rw [String.intercalate_singleton, entries, hread, entriesFrom, String.ofList_toList]
    | cons u us =>
      have hrest := ih (fun t' ht' ↦ h t' (List.mem_cons_of_mem t ht')) (List.cons_ne_nil u us)
      have hchars : (", ".intercalate (t :: u :: us)).toList =
          t.toList ++ ',' :: ' ' :: (", ".intercalate (u :: us)).toList := by
        simp [String.intercalate_cons_cons]
      rw [entries, hchars, entriesFrom_append ht, List.nil_append, entriesFrom,
        String.ofList_toList]
      exact congrArg (t :: ·) hrest

end Listing

namespace Name

variable {ns : List Name}

/-- The entries of a listing of names are the names that are not empty; if there are none, there is
one entry without characters. -/
theorem entries_commaList (h : ∀ n ∈ ns, ',' ∉ n.text.toList) :
    Listing.entries (commaList ns) =
      if present ns = [] then [""] else (present ns).map text := by
  split
  · next hnone =>
    rw [commaList_eq_empty_iff.mpr hnone]
    rfl
  · next hsome =>
    refine Listing.entries_intercalate (fun t ht ↦ ?_) (by simpa using hsome)
    obtain ⟨n, hn, rfl⟩ := List.mem_map.mp ht
    exact h n (List.mem_of_mem_filter hn)

/-- The entries of a listing of some names are these names exactly if none is empty, or there is
only one. -/
theorem entries_commaList_eq_iff (h : ∀ n ∈ ns, ',' ∉ n.text.toList) (hne : ns ≠ []) :
    Listing.entries (commaList ns) = ns.map text ↔
      ns.length = 1 ∨ ∀ n ∈ ns, n.isEmpty = false := by
  rw [entries_commaList h]
  constructor
  · intro heq
    have hlength := congrArg List.length heq
    split at hlength
    · left
      simpa using hlength.symm
    · right
      have hall : ∀ n ∈ ns, (!n.isEmpty) = true :=
        List.length_filter_eq_length_iff.mp (by simpa [present] using hlength)
      intro n hn
      simpa using hall n hn
  · rintro (hone | hall)
    · obtain ⟨n, rfl⟩ := List.length_eq_one_iff.mp hone
      cases hn : n.isEmpty with
      | false => simp [hn, present]
      | true =>
        have hempty : n.text = "" := by simpa [isEmpty] using hn
        simp [hn, present, hempty]
    · have hpresent : present ns = ns := List.filter_eq_self.mpr fun n hn ↦ by simp [hall n hn]
      rw [hpresent, if_neg hne]

end Name

/-- The listing of the parameters has an entry for each, the name to which it is credited. -/
def Info.NamesParameters (info : Info) (credits : List Name) : Prop :=
  (info.paramCount = 0 → info.paramFields = "") ∧
    (0 < info.paramCount →
      (Listing.entries info.paramFields).length = info.paramCount ∧
        Listing.entries info.paramFields = credits.map Name.text)

instance (info : Info) (credits : List Name) : Decidable (info.NamesParameters credits) :=
  inferInstanceAs (Decidable (_ ∧ _))

/-- If no credited name has a comma, the listing of a statement names the field behind each
parameter exactly if no credited name is empty, or there is at most one parameter. -/
theorem Kind.namesParameters_iff {k : Kind} {b : k.Builder} {terminate : Bool}
    (h : (k.build b terminate).value.diagnostic = false)
    (hcomma : ∀ n ∈ k.credits b, ',' ∉ n.text.toList) :
    (k.build b terminate).value.NamesParameters (k.credits b) ↔
      (k.credits b).length ≤ 1 ∨ ∀ n ∈ k.credits b, n.isEmpty = false := by
  rw [Info.NamesParameters, Kind.paramCount_build h, Kind.paramFields_build h]
  by_cases hne : k.credits b = []
  · simp [hne]
  · have hpos : 0 < (k.credits b).length := List.length_pos_iff.mpr hne
    have hentries := Name.entries_commaList_eq_iff hcomma hne
    constructor
    · rintro ⟨-, hnames⟩
      rcases hentries.mp (hnames hpos).2 with hone | hall
      · exact .inl (Nat.le_of_eq hone)
      · exact .inr hall
    · intro hcases
      have hnames :
          Listing.entries (Name.commaList (k.credits b)) = (k.credits b).map Name.text := by
        refine hentries.mpr (hcases.imp_left fun hle ↦ ?_)
        omega
      refine ⟨fun hzero ↦ absurd hzero (Nat.ne_of_gt hpos), fun _ ↦ ⟨?_, hnames⟩⟩
      rw [hnames, List.length_map]

/-- An insertion into two columns names both. -/
theorem Kind.namesParameters_insert :
    let i : Insert := { Insert.new default with columns := [.ofString "name", .ofString "age"] }
    (insert.build i false).value.NamesParameters [.ofString "name", .ofString "age"] := by
  intro i
  have h : (insert.build i false).value.diagnostic = false := rfl
  have hcomma : ∀ n ∈ insert.credits i, ',' ∉ n.text.toList := by decide
  exact (Kind.namesParameters_iff h hcomma).mpr (.inr (by decide))

/-- Of two parameters, the first is credited to an empty field: the only entry of the listing is
that of the second. -/
theorem Kind.not_namesParameters_blank :
    let b : Select := { Select.new (.ofEngine .postgres) with
      items := [.column (.ofString "id")]
      filter := ⟨[⟨none, .and, [.raw "" "a=?"]⟩, ⟨some .and, .and, [.compare .eq "b" "?"]⟩], true⟩ }
    let info := (select.build b false).value
    (select.run (select.new (.ofEngine .postgres))
      [.select ["id"], .filter (.require [.raw "" "a=?"]),
        .filter (.require [.compare .eq "b" "?"])]).value = b ∧
      info.diagnostic = false ∧ info.sql = "select id where (a=$1) AND (b=$2)" ∧
      (select.credits b).map Name.text = ["", "b"] ∧ info.paramFields = "b" ∧
      ¬ info.NamesParameters (select.credits b) := by
  intro b info
  have hcount : info.paramCount = 2 := by cbv
  have hfields : info.paramFields = "b" := by cbv
  refine ⟨rfl, rfl, by cbv, by cbv, hfields, fun hnames ↦ ?_⟩
  have hlength := (hnames.2 (hcount ▸ Nat.zero_lt_two)).1
  rw [hcount, hfields] at hlength
  exact absurd hlength (by decide)

end SqlStatement
