import SqlStatement.Proofs.Columns
import SqlStatement.Proofs.Returning

/-!
# The lists of a builder

A builder keeps names in lists: columns that are selected or set, columns by which rows are grouped
or ordered, columns that are returned, and arguments.  Calls fill a list in their order
(`Kind.entries_run`); only the calculated columns are kept in the order of their names.  What a call
gives is trimmed, and what is blank is left out, so a call that gives nothing else to its list may
be left out as well (`Kind.run_filter_isIdle`).
-/

namespace SqlStatement

/-- The lists of a builder. -/
inductive NameList
  /-- Columns that are selected, with sub-queries between them, or set to parameters. -/
  | columns
  | groups
  | order
  | calculated
  | returning
  | arguments
  deriving DecidableEq, Repr

/-- All lists. -/
def NameList.all : List NameList := [columns, groups, order, calculated, returning, arguments]

theorem NameList.mem_all (ℓ : NameList) : ℓ ∈ all := by
  cases ℓ <;> decide

/-- The family of the calls that fill a list. -/
def NameList.family (k : Kind) : NameList → Family
  | columns => k.columnFamily
  | groups => .groups
  | order => .order
  | calculated => .calculated
  | returning => .returning
  | arguments => .arguments

/-! ## What calls give -/

/-- The texts that a call of a query gives to a list. -/
def Select.Call.texts : NameList → Call → List String
  | .columns, select texts => texts
  | .groups, groupBy texts => texts
  | .order, orderBy text _ => [text]
  | _, _ => []

/-- A call selects a sub-query. -/
def Select.Call.isSub : Call → Bool
  | selectSub .. => true
  | _ => false

/-- The texts that a call of an insertion gives to a list. -/
def Insert.Call.texts : NameList → Call → List String
  | .columns, columns texts => texts
  | .returning, returning texts => texts
  | _, _ => []

/-- The texts that a call of an update gives to a list. -/
def Update.Call.texts : NameList → Call → List String
  | .columns, columns texts => texts
  | .calculated, calculate text _ => [text]
  | .returning, returning texts => texts
  | _, _ => []

/-- The texts that a call of a deletion gives to a list. -/
def Delete.Call.texts : NameList → Call → List String
  | .returning, returning texts => texts
  | _, _ => []

/-- The texts that a call of a procedure call gives to a list. -/
def Proc.Call.texts : NameList → Call → List String
  | .columns, select texts => texts
  | .order, orderBy text _ => [text]
  | .arguments, arguments texts => texts
  | _, _ => []

/-! ## Calls that give nothing -/

section Idle

variable {ℓ : NameList}

theorem Select.apply_of_texts {c : Call} (hfamily : c.family = ℓ.family .select)
    (hsub : c.isSub = false) (h : Name.ofStrings (c.texts ℓ) = []) (q : Select) :
    q.apply c = .ok (.silent q) := by
  cases ℓ with
  | columns =>
    cases c with
    | select texts =>
      rw [Call.texts] at h
      rw [apply, select, h, List.map_nil, List.append_nil]
      cases q
      rfl
    | selectSub query label => cases hsub
    | _ => cases hfamily
  | groups =>
    cases c with
    | groupBy texts =>
      rw [Call.texts] at h
      rw [apply, groupBy, h, List.append_nil]
      cases q
      rfl
    | _ => cases hfamily
  | order =>
    cases c with
    | orderBy text direction =>
      rw [Call.texts] at h
      rw [apply, orderBy, h, List.map_nil, List.append_nil]
      cases q
      rfl
    | _ => cases hfamily
  | _ => cases c <;> cases hfamily

theorem Insert.apply_of_texts {c : Call} (hfamily : c.family = ℓ.family .insert)
    (h : Name.ofStrings (c.texts ℓ) = []) (i : Insert) : i.apply c = .ok (.silent i) := by
  cases ℓ with
  | columns =>
    cases c with
    | columns texts =>
      rw [Call.texts] at h
      rw [apply, h, List.append_nil]
    | _ => cases hfamily
  | returning =>
    cases c with
    | returning texts =>
      rw [Call.texts] at h
      rw [apply, h, List.append_nil]
    | _ => cases hfamily
  | _ => cases c <;> cases hfamily

theorem Update.apply_of_texts {c : Call} (hfamily : c.family = ℓ.family .update)
    (h : Name.ofStrings (c.texts ℓ) = []) (u : Update) : u.apply c = .ok (.silent u) := by
  cases ℓ with
  | columns =>
    cases c with
    | columns texts =>
      rw [Call.texts] at h
      rw [apply, h, List.append_nil]
    | _ => cases hfamily
  | calculated =>
    cases c with
    | calculate text value =>
      have hblank : (Name.ofString text).isEmpty = true := by
        simpa [Call.texts, Name.ofStrings, Name.present] using h
      simp only [apply, calculate, hblank, if_true]
    | _ => cases hfamily
  | returning =>
    cases c with
    | returning texts =>
      rw [Call.texts] at h
      rw [apply, h, List.append_nil]
    | _ => cases hfamily
  | _ => cases c <;> cases hfamily

theorem Delete.apply_of_texts {c : Call} (hfamily : c.family = ℓ.family .delete)
    (h : Name.ofStrings (c.texts ℓ) = []) (x : Delete) : x.apply c = .ok (.silent x) := by
  cases ℓ with
  | returning =>
    cases c with
    | returning texts =>
      rw [Call.texts] at h
      rw [apply, h, List.append_nil]
    | _ => cases hfamily
  | _ => cases c <;> cases hfamily

theorem Proc.apply_of_texts {c : Call} (hfamily : c.family = ℓ.family .proc)
    (h : Name.ofStrings (c.texts ℓ) = []) (p : Proc) : p.apply c = .ok (.silent p) := by
  cases ℓ with
  | columns =>
    cases c with
    | select texts =>
      rw [Call.texts] at h
      rw [apply, h, List.append_nil]
    | _ => cases hfamily
  | order =>
    cases c with
    | orderBy text direction =>
      rw [Call.texts] at h
      rw [apply, h, List.map_nil, List.append_nil]
    | _ => cases hfamily
  | arguments =>
    cases c with
    | arguments texts =>
      rw [Call.texts] at h
      rw [apply, h, List.append_nil]
    | _ => cases hfamily
  | _ => cases c <;> cases hfamily

end Idle

namespace Kind

/-- The texts that a call gives to a list. -/
def texts : (k : Kind) → NameList → k.Call → List String
  | select => Select.Call.texts
  | insert => Insert.Call.texts
  | update => Update.Call.texts
  | delete => Delete.Call.texts
  | proc => Proc.Call.texts

/-- A call gives a sub-query to a list. -/
def givesSub : (k : Kind) → NameList → k.Call → Bool
  | select, .columns => Select.Call.isSub
  | _, _ => fun _ ↦ false

/-- What a call gives to a list: the names of its texts, blank ones left out. A sub-query has no
name. -/
def given (k : Kind) (ℓ : NameList) (c : k.Call) : List (Option Name) :=
  (Name.ofStrings (k.texts ℓ c)).map some ++ if k.givesSub ℓ c then [none] else []

/-- What calls give to a list, in their order; of the calculated columns each once, in the order of
their names. -/
def givenByAll (k : Kind) (ℓ : NameList) (calls : List k.Call) : List (Option Name) :=
  if ℓ = .calculated then
    (Name.distinct (calls.flatMap fun c ↦ Name.ofStrings (k.texts ℓ c))).map some
  else calls.flatMap (k.given ℓ)

/-- A call that is there to fill a list gives nothing to it. -/
def isIdle (k : Kind) (c : k.Call) : Bool :=
  NameList.all.any fun ℓ ↦ k.family c = ℓ.family k ∧ k.given ℓ c = []

/-- What is in a list of a builder. A sub-query has no name. -/
def entries : (k : Kind) → NameList → k.Builder → List (Option Name)
  | select, .columns => fun q ↦ (Select.items q).map SelectItem.column?
  | select, .groups => fun q ↦ (Select.groups q).map some
  | select, .order => fun q ↦ (Select.order q).map fun o ↦ some o.1
  | update, .calculated => fun u ↦ (Update.calculated u).names.map some
  | proc, .order => fun p ↦ (Proc.order p).map fun o ↦ some o.1
  | proc, .arguments => fun p ↦ (Proc.arguments p).map some
  | k, .columns => fun b ↦ (k.columns b).map some
  | k, .returning => fun b ↦ (k.returning b).map some
  | _, _ => fun _ ↦ []

variable {k : Kind} {ℓ : NameList}

/-! ## Calls one by one -/

/-- Only the calls of its family give something to a list. -/
theorem given_of_family {c : k.Call} (h : k.family c ≠ ℓ.family k) : k.given ℓ c = [] := by
  have htexts : k.texts ℓ c = [] := by
    cases k <;> cases c <;> cases ℓ <;> first | rfl | exact absurd rfl h
  have hsub : k.givesSub ℓ c = false := by
    cases k with
    | select => cases c <;> cases ℓ <;> first | rfl | exact absurd rfl h
    | _ => rfl
  rw [given, htexts, hsub]
  rfl

/-- What is in a list is in the part of its family. -/
theorem entries_cut (b : k.Builder) : k.entries ℓ (k.cut (ℓ.family k) b) = k.entries ℓ b := by
  cases k <;> cases ℓ <;> rfl

/-- Names are put at the end of a list. -/
theorem entries_append_names (old new : List Name) :
    old.map some ++ (new.map some ++ []) = (old ++ new).map some := by
  rw [List.append_nil, List.map_append]

/-- What has a name is put at the end of a list. -/
theorem entries_append_map {α : Type} {f : α → Option Name} {g : Name → α}
    (h : ∀ n, f (g n) = some n) (old : List α) (new : List Name) :
    old.map f ++ (new.map some ++ []) = (old ++ new.map g).map f := by
  have hnew : (new.map g).map f = new.map some := by
    rw [List.map_map]
    exact List.map_congr_left fun n _ ↦ h n
  rw [List.append_nil, List.map_append, hnew]

theorem entries_next_select (q : select.Builder) {c : select.Call}
    (h : select.family c = ℓ.family select) :
    select.entries ℓ q ++ select.given ℓ c = select.entries ℓ (next q c) := by
  cases ℓ with
  | columns =>
    cases c with
    | select texts =>
      exact entries_append_map (f := SelectItem.column?) (g := .column) (fun _ ↦ rfl) _ _
    | selectSub query label =>
      have hnext : (next (k := .select) q (.selectSub query label)).items =
        Select.items q ++ [.sub query (.ofString label)] := rfl
      show (Select.items q).map SelectItem.column? ++ [none] = List.map _ _
      rw [hnext, List.map_append]
      rfl
    | _ => cases h
  | groups =>
    cases c with
    | groupBy texts => exact entries_append_names (Select.groups q) _
    | _ => cases h
  | order =>
    cases c with
    | orderBy text direction =>
      exact entries_append_map (g := fun c ↦ (c, direction)) (fun _ ↦ rfl) (Select.order q) _
    | _ => cases h
  | _ => cases c <;> cases h

theorem entries_next_insert (i : insert.Builder) {c : insert.Call}
    (h : insert.family c = ℓ.family insert) :
    insert.entries ℓ i ++ insert.given ℓ c = insert.entries ℓ (next i c) := by
  cases ℓ with
  | columns =>
    cases c with
    | columns texts => exact entries_append_names (Insert.columns i) _
    | _ => cases h
  | returning =>
    cases c with
    | returning texts => exact entries_append_names (Insert.returning i) _
    | _ => cases h
  | _ => cases c <;> cases h

theorem entries_next_update (hℓ : ℓ ≠ .calculated) (u : update.Builder) {c : update.Call}
    (h : update.family c = ℓ.family update) :
    update.entries ℓ u ++ update.given ℓ c = update.entries ℓ (next u c) := by
  cases ℓ with
  | columns =>
    cases c with
    | columns texts => exact entries_append_names (Update.columns u) _
    | _ => cases h
  | calculated => exact absurd rfl hℓ
  | returning =>
    cases c with
    | returning texts => exact entries_append_names (Update.returning u) _
    | _ => cases h
  | _ => cases c <;> cases h

theorem entries_next_delete (x : delete.Builder) {c : delete.Call}
    (h : delete.family c = ℓ.family delete) :
    delete.entries ℓ x ++ delete.given ℓ c = delete.entries ℓ (next x c) := by
  cases ℓ with
  | returning =>
    cases c with
    | returning texts => exact entries_append_names (Delete.returning x) _
    | _ => cases h
  | _ => cases c <;> cases h

theorem entries_next_proc (p : proc.Builder) {c : proc.Call} (h : proc.family c = ℓ.family proc) :
    proc.entries ℓ p ++ proc.given ℓ c = proc.entries ℓ (next p c) := by
  cases ℓ with
  | columns =>
    cases c with
    | select texts => exact entries_append_names (Proc.columns p) _
    | _ => cases h
  | order =>
    cases c with
    | orderBy text direction =>
      exact entries_append_map (g := fun c ↦ (c, direction)) (fun _ ↦ rfl) (Proc.order p) _
    | _ => cases h
  | arguments =>
    cases c with
    | arguments texts => exact entries_append_names (Proc.arguments p) _
    | _ => cases h
  | _ => cases c <;> cases h

/-- A call adds what it gives at the end of a list. -/
theorem entries_next (hℓ : ℓ ≠ .calculated) (b : k.Builder) (c : k.Call) :
    k.entries ℓ b ++ k.given ℓ c = k.entries ℓ (next b c) := by
  by_cases h : k.family c = ℓ.family k
  · cases k with
    | select => exact entries_next_select b h
    | insert => exact entries_next_insert b h
    | update => exact entries_next_update hℓ b h
    | delete => exact entries_next_delete b h
    | proc => exact entries_next_proc b h
  · rw [view_next_of_family entries_cut h, given_of_family h]
    exact List.append_nil _

/-- A call that gives nothing to its list does nothing at all. -/
theorem apply_of_given_eq_nil {c : k.Call} (hfamily : k.family c = ℓ.family k)
    (h : k.given ℓ c = []) (b : k.Builder) : k.apply b c = .ok (.silent b) := by
  obtain ⟨hnames, hsub⟩ := List.append_eq_nil_iff.mp h
  have hnames : Name.ofStrings (k.texts ℓ c) = [] := List.map_eq_nil_iff.mp hnames
  cases k with
  | select =>
    have hsub : Select.Call.isSub c = false := by
      cases c with
      | selectSub query label =>
        cases ℓ with
        | columns => cases hsub
        | _ => cases hfamily
      | _ => rfl
    exact Select.apply_of_texts hfamily hsub hnames b
  | insert => exact Insert.apply_of_texts hfamily hnames b
  | update => exact Update.apply_of_texts hfamily hnames b
  | delete => exact Delete.apply_of_texts hfamily hnames b
  | proc => exact Proc.apply_of_texts hfamily hnames b

/-! ## Runs -/

/-- The columns that calls calculate are those whose names they give. -/
theorem namedCalculations_eq (calls : List k.Call) :
    k.namedCalculations calls = calls.flatMap fun c ↦ Name.ofStrings (k.texts .calculated c) := by
  cases k with
  | update =>
    have hcall : ∀ c : Update.Call, (c.calculation?.map (·.1)).toList =
        Name.ofStrings (c.texts .calculated) := by
      intro c
      cases c with
      | calculate column value =>
        show (Option.map _ (if _ then none else some _)).toList = Name.ofStrings [column]
        cases h : (Name.ofString column).isEmpty <;> simp [Name.ofStrings, Name.present, h]
      | _ => rfl
    have hnames : ∀ calls : List Update.Call, (Update.calculations calls).map (·.1) =
        calls.flatMap fun c ↦ Name.ofStrings (c.texts .calculated) := by
      intro calls
      rw [Update.calculations, List.map_filterMap, List.filterMap_eq_flatMap_toList]
      simp only [hcall]
    exact hnames calls
  | _ => exact (List.flatMap_eq_nil_iff.mpr fun c _ ↦ by cases c <;> rfl).symm

/-- What is in a list of a builder is what calls have given to it. -/
theorem entries_run (ℓ : NameList) (d : Dialect) (calls : List k.Call) :
    k.entries ℓ (k.run (k.new d) calls).value = k.givenByAll ℓ calls := by
  by_cases hℓ : ℓ = .calculated
  · subst hℓ
    have hentries : ∀ b, k.entries .calculated b = (k.calculatedColumns b).map some := by
      intro b
      cases k <;> rfl
    rw [hentries, calculatedColumns_run, namedCalculations_eq, givenByAll, if_pos rfl]
  · have hview : k.entries ℓ (k.run (k.new d) calls).value =
        calls.foldl (fun entries c ↦ entries ++ k.given ℓ c) (k.entries ℓ (k.new d)) :=
      view_run (entries_next hℓ) (k.new d) calls
    have hnew : k.entries ℓ (k.new d) = [] := by cases k <;> cases ℓ <;> rfl
    rw [hview, hnew, ← List.flatMap_eq_foldl, givenByAll, if_neg hℓ]

/-- The names that calls give to a list are those of their texts. -/
theorem mem_givenByAll {calls : List k.Call} {n : Name} (h : some n ∈ k.givenByAll ℓ calls) :
    ∃ c ∈ calls, n ∈ Name.ofStrings (k.texts ℓ c) := by
  rw [givenByAll] at h
  split at h
  · simpa using h
  · obtain ⟨c, hc, hn⟩ := List.mem_flatMap.mp h
    refine ⟨c, hc, ?_⟩
    rcases List.mem_append.mp hn with hn | hn
    · simpa using hn
    · split at hn <;> simp at hn

/-- A name that calls give to a list has characters, and it is one of their texts without the blanks
at its ends. -/
theorem trims_of_mem_givenByAll {calls : List k.Call} {n : Name}
    (h : some n ∈ k.givenByAll ℓ calls) :
    n.text ≠ "" ∧ ∃ c ∈ calls, ∃ t ∈ k.texts ℓ c, Text.Trims n.text t := by
  obtain ⟨c, hc, hn⟩ := mem_givenByAll h
  have hpresent := List.mem_filter.mp hn
  obtain ⟨t, ht, rfl⟩ := List.mem_map.mp hpresent.1
  exact ⟨Name.text_ne_empty_of_mem_present hn, c, hc, t, ht, Text.trims_trim t⟩

/-- A call is idle if one of the lists that it fills gets nothing from it. -/
theorem isIdle_iff {c : k.Call} :
    k.isIdle c = true ↔ ∃ ℓ : NameList, k.family c = ℓ.family k ∧ k.given ℓ c = [] := by
  simp only [isIdle, List.any_eq_true, decide_eq_true_eq, NameList.mem_all, true_and]

/-- Calls that give nothing to their lists may be left out. -/
theorem run_filter_isIdle (b : k.Builder) (calls : List k.Call) :
    k.run b (calls.filter fun c ↦ !k.isIdle c) = k.run b calls := by
  refine run_filter_of_silent (fun b c hc ↦ ?_) b calls
  have hc : k.isIdle c = true := by simpa using hc
  obtain ⟨ℓ, hfamily, hgiven⟩ := isIdle_iff.mp hc
  exact apply_of_given_eq_nil hfamily hgiven b

end Kind

end SqlStatement
