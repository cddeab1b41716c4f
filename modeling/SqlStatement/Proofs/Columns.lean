import SqlStatement.Proofs.Families
import SqlStatement.Proofs.Tables

/-!
# The columns that calls give

Of the columns of a builder, the plain ones are those that calls name, in the order of the calls
(`Kind.columns_run`).  A calculated column has the value of the last call for it
(`Update.lookup_calculated_after`), and the calculated columns are kept in the order of their names,
each once (`Update.names_calculated_after`), whatever the calls between them are.
-/

namespace SqlStatement

/-! ## Ascending names -/

namespace Name

/-- Ascending names are told by which names they are. -/
theorem eq_of_ascending {ns ns' : List Name} (h : ns.Pairwise (· < ·)) (h' : ns'.Pairwise (· < ·))
    (hmem : ∀ n, n ∈ ns ↔ n ∈ ns') : ns = ns' := by
  have hne : ∀ {a b : Name}, a < b → a ≠ b := fun hab heq ↦ Std.lt_irrefl (heq ▸ hab)
  have hperm : ns.Perm ns' := (List.perm_ext_iff_of_nodup (h.imp hne) (h'.imp hne)).mpr hmem
  exact hperm.eq_of_pairwise (fun a _ _ _ hab hba ↦ absurd (Std.lt_trans hab hba) Std.lt_irrefl) h h'

/-- Each of some names is among the distinct ones, and no other is. -/
@[simp] theorem mem_distinct {n : Name} {ns : List Name} : n ∈ distinct ns ↔ n ∈ ns := by
  simp [distinct, sorted]

@[simp] theorem distinct_nil : distinct [] = [] := by simp [distinct, sorted]

/-- If names do not descend, they ascend once the doubled ones are left out. -/
theorem pairwise_eraseDups {ns : List Name} (h : ns.Pairwise (· ≤ ·)) :
    ns.eraseDups.Pairwise (· < ·) := by
  match ns with
  | [] => exact .nil
  | a :: r =>
    obtain ⟨ha, hr⟩ := List.pairwise_cons.mp h
    rw [List.eraseDups_cons]
    refine List.pairwise_cons.mpr ⟨fun b hb ↦ ?_, pairwise_eraseDups (hr.filter _)⟩
    have hb := List.mem_filter.mp (List.mem_eraseDups.mp hb)
    have hne : b ≠ a := by simpa using hb.2
    exact Std.lt_of_le_of_ne (ha b hb.1) hne.symm
-- the rest without the doubled ones is no part of the list, so the recursion is on the length
termination_by ns.length
decreasing_by exact Nat.lt_succ_of_le (List.length_filter_le _ r)

/-- Distinct names ascend. -/
theorem ascending_distinct (ns : List Name) : (distinct ns).Pairwise (· < ·) := by
  refine pairwise_eraseDups ?_
  have hsorted : (sorted ns).Pairwise fun a b ↦ decide (a ≤ b) = true := by
    refine List.pairwise_mergeSort (fun a b c hab hbc ↦ ?_) (fun a b ↦ ?_) ns
    · exact decide_eq_true (Std.le_trans (of_decide_eq_true hab) (of_decide_eq_true hbc))
    · simpa using Std.le_total (a := a) (b := b)
  exact hsorted.imp of_decide_eq_true

end Name

/-- The names of a map are distinct. -/
theorem NameMap.names_eq_distinct {α : Type} {m : NameMap α} {ns : List Name}
    (h : ∀ n, n ∈ m.names ↔ n ∈ ns) : m.names = Name.distinct ns := by
  have hnames : m.names.Pairwise (· < ·) := List.pairwise_map.mpr m.ascending
  exact Name.eq_of_ascending hnames (Name.ascending_distinct ns) fun n ↦ by
    rw [h, Name.mem_distinct]

/-- The names of a map are those that have a value. -/
theorem NameMap.mem_names {α : Type} {m : NameMap α} {n : Name} :
    n ∈ m.names ↔ (m.lookup n).isSome := by
  rw [names, List.mem_map]
  constructor
  · rintro ⟨⟨_, v⟩, he, rfl⟩
    rw [mem_entries_iff.mp he]
    rfl
  · intro h
    obtain ⟨v, hv⟩ := Option.isSome_iff_exists.mp h
    exact ⟨(n, v), mem_entries_iff.mpr hv, rfl⟩

/-- If entries are put into a map one after the other, a name has the value of its last entry, or
the value that it had before. -/
theorem NameMap.lookup_foldl_insert {α : Type} (m : NameMap α) (entries : List (Name × α))
    (n : Name) :
    (entries.foldl (fun m e ↦ m.insert e.1 e.2) m).lookup n =
      (entries.filterMap fun e ↦ if e.1 = n then some e.2 else none).getLast?.or (m.lookup n) := by
  have hinsert : ∀ (m : NameMap α) (e : Name × α),
      (if e.1 = n then some e.2 else none).or (m.lookup n) = (m.insert e.1 e.2).lookup n := by
    intro m e
    rw [lookup_insert]
    by_cases h : e.1 = n
    · rw [if_pos h, if_pos h.symm, Option.some_or]
    · rw [if_neg h, if_neg (Ne.symm h), Option.none_or]
  have hfold : entries.foldl
      (fun chosen e ↦ (if e.1 = n then some e.2 else none).or chosen) (m.lookup n) =
      (entries.foldl (fun m e ↦ m.insert e.1 e.2) m).lookup n :=
    List.foldl_hom (fun m : NameMap α ↦ m.lookup n) hinsert
  rw [← hfold, foldl_or_eq_getLast?]

/-! ## Plain columns and the number of rows -/

/-- If each step keeps what was found before it, it is told at the end whether any step has found
something. -/
theorem foldl_or_eq_any {α : Type} (p : α → Bool) (found : Bool) (xs : List α) :
    xs.foldl (fun found x ↦ found || p x) found = (found || xs.any p) := by
  induction xs generalizing found with
  | nil => simp
  | cons x xs ih => rw [List.foldl_cons, ih, List.any_cons, Bool.or_assoc]

namespace Kind

/-- The family of the calls for plain columns. -/
def columnFamily : Kind → Family
  | select | proc => .items
  | insert | update | delete => .columns

/-- The plain columns of a builder. -/
def columns : (k : Kind) → k.Builder → List Name
  | select => Select.columns
  | insert => Insert.columns
  | update => Update.columns
  | delete => fun _ ↦ []
  | proc => Proc.columns

end Kind

/-- The texts that a call of a query gives for columns. -/
def Select.Call.columnTexts : Call → List String
  | .select texts => texts
  | _ => []

/-- The texts that a call of an insertion gives for columns. -/
def Insert.Call.columnTexts : Call → List String
  | .columns texts => texts
  | _ => []

/-- The texts that a call of an update gives for plain columns. -/
def Update.Call.columnTexts : Call → List String
  | .columns texts => texts
  | _ => []

/-- The texts that a call of a procedure call gives for columns. -/
def Proc.Call.columnTexts : Call → List String
  | .select texts => texts
  | _ => []

namespace Kind

/-- The texts that a call gives for plain columns. -/
def columnTexts : (k : Kind) → k.Call → List String
  | select => Select.Call.columnTexts
  | insert => Insert.Call.columnTexts
  | update => Update.Call.columnTexts
  | delete => fun _ ↦ []
  | proc => Proc.Call.columnTexts

/-- The plain columns that calls name, blank ones left out. -/
def namedColumns (k : Kind) (calls : List k.Call) : List Name :=
  calls.flatMap fun c ↦ Name.ofStrings (k.columnTexts c)

variable {k : Kind}

@[simp] theorem columns_cut (b : k.Builder) : k.columns (k.cut k.columnFamily b) = k.columns b := by
  cases k <;> rfl

/-- Only calls for columns name some. -/
theorem columnTexts_of_family {c : k.Call} (h : k.family c ≠ k.columnFamily) :
    k.columnTexts c = [] := by
  cases k with
  | delete => rfl
  | select | proc =>
    cases c with
    | select texts => exact absurd rfl h
    | _ => rfl
  | insert | update =>
    cases c with
    | columns texts => exact absurd rfl h
    | _ => rfl

/-- A call adds the columns that it names at the end. -/
theorem columns_next (b : k.Builder) (c : k.Call) :
    k.columns b ++ Name.ofStrings (k.columnTexts c) = k.columns (next b c) := by
  by_cases h : k.family c = k.columnFamily
  · cases k with
    | select =>
      cases c with
      | select texts =>
        show Select.columns b ++ Name.ofStrings texts = (Select.select b texts).columns
        simp [Select.columns, Select.select, List.filterMap_map, Function.comp_def,
          SelectItem.column?]
      | selectSub query label =>
        show Select.columns b ++ [] = (Select.selectSub b query label).columns
        simp [Select.columns, Select.selectSub, SelectItem.column?]
      | _ => cases h
    | insert | update =>
      cases c with
      | columns texts => rfl
      | _ => cases h
    | proc =>
      cases c with
      | select texts => rfl
      | _ => cases h
    | delete => cases c <;> cases h
  · rw [view_next_of_family columns_cut h, columnTexts_of_family h]
    exact List.append_nil _

/-- The columns of a builder are those that calls have named, in the order of the calls. -/
theorem columns_run (d : Dialect) (calls : List k.Call) :
    k.columns (k.run (k.new d) calls).value = k.namedColumns calls := by
  have hview : k.columns (k.run (k.new d) calls).value =
      calls.foldl (fun names c ↦ names ++ Name.ofStrings (k.columnTexts c)) (k.columns (k.new d)) :=
    view_run columns_next (k.new d) calls
  have hnew : k.columns (k.new d) = [] := by cases k <;> rfl
  rw [hview, hnew, ← List.flatMap_eq_foldl]
  rfl

/-- The columns that calls name are not empty. -/
theorem isEmpty_of_mem_namedColumns {calls : List k.Call} {n : Name}
    (h : n ∈ k.namedColumns calls) : n.isEmpty = false := by
  obtain ⟨c, -, hn⟩ := List.mem_flatMap.mp h
  exact Name.isEmpty_of_mem_ofStrings hn

/-- Whether a further column of a builder tells the number of all rows. -/
def counted : (k : Kind) → k.Builder → Bool
  | select => Select.counted
  | insert | update | delete => fun _ ↦ false
  | proc => Proc.counted

/-- Some of the calls ask for the number of all rows. -/
def countsRows (k : Kind) (calls : List k.Call) : Bool := calls.any fun c ↦ k.family c = .rowCount

/-- The number of all rows is told if any call asks for it. -/
theorem counted_run (d : Dialect) (calls : List k.Call) :
    k.counted (k.run (k.new d) calls).value = k.countsRows calls := by
  have hcut : ∀ b, k.counted (k.cut .rowCount b) = k.counted b := by
    intro b
    cases k <;> rfl
  have hnext : ∀ b c, (k.counted b || decide (k.family c = .rowCount)) = k.counted (next b c) := by
    intro b c
    by_cases h : k.family c = .rowCount
    · have hcounted : k.counted (next b c) = true := by
        cases k with
        | select | proc =>
          cases c with
          | countRows => rfl
          | _ => cases h
        | insert | update | delete => cases c <;> cases h
      rw [hcounted, decide_eq_true h, Bool.or_true]
    · rw [view_next_of_family hcut h, decide_eq_false h, Bool.or_false]
  have hview : k.counted (k.run (k.new d) calls).value =
      calls.foldl (fun before c ↦ before || decide (k.family c = .rowCount))
        (k.counted (k.new d)) := view_run hnext (k.new d) calls
  have hnew : k.counted (k.new d) = false := by cases k <;> rfl
  rw [hview, hnew, foldl_or_eq_any, Bool.false_or, countsRows]

end Kind

/-! ## Calculated columns -/

namespace Update

/-- The update after calls. -/
def after (u : Update) (calls : List Call) : Update := (Kind.update.run u calls).value

/-- The column that a call calculates, unless it is blank, with its value. -/
def Call.calculation? : Call → Option (Name × String)
  | calculate column value =>
    if (Name.ofString column).isEmpty then none else some (.ofString column, Text.trim value)
  | _ => none

/-- The calculated columns with their values, in the order of the calls. -/
def calculations (calls : List Call) : List (Name × String) := calls.filterMap Call.calculation?

/-- The value that the last call for a calculated column gives to it. -/
def lastValue (calls : List Call) (column : Name) : Option String :=
  ((calculations calls).filterMap fun e ↦ if e.1 = column then some e.2 else none).getLast?

/-- Only calls for calculated columns calculate one. -/
theorem Call.calculation?_of_family {c : Call} (h : c.family ≠ .calculated) :
    c.calculation? = none := by
  cases c with
  | calculate column value => exact absurd rfl h
  | _ => rfl

/-- A call gives a calculated column its value, which takes the place of an earlier one. -/
theorem calculated_next (u : Update) (c : Call) :
    (c.calculation?.elim u.calculated fun e ↦ u.calculated.insert e.1 e.2) =
      calculated (Kind.next (k := .update) u c) := by
  by_cases h : c.family = .calculated
  · cases c with
    | calculate column value =>
      show _ = (u.calculate column value).value.calculated
      rw [calculate, Call.calculation?]
      cases (Name.ofString column).isEmpty <;> rfl
    | _ => cases h
  · -- all other calls are settled at once, by their families
    have hcut : ∀ u : Update, (u.cut .calculated).calculated = u.calculated := fun _ ↦ rfl
    have hnext : calculated (Kind.next (k := .update) u c) = u.calculated :=
      Kind.view_next_of_family (k := .update) hcut h u
    rw [hnext, Call.calculation?_of_family h]
    rfl

/-- The calculated columns come from one insertion after the other. -/
theorem calculated_after (d : Dialect) (calls : List Call) :
    ((new d).after calls).calculated =
      (calculations calls).foldl (fun m e ↦ m.insert e.1 e.2) .empty := by
  have hview : ((new d).after calls).calculated =
      calls.foldl (fun m c ↦ c.calculation?.elim m fun e ↦ m.insert e.1 e.2) (new d).calculated :=
    @Kind.view_run .update _ calculated
      (fun m (c : Call) ↦ c.calculation?.elim m fun e ↦ m.insert e.1 e.2) calculated_next (new d)
      calls
  rw [hview, calculations, List.foldl_filterMap]
  refine congrArg (fun step ↦ calls.foldl step NameMap.empty) ?_
  funext m c
  cases c.calculation? <;> rfl

/-- A calculated column has the value of the last call for it. -/
theorem lookup_calculated_after (d : Dialect) (calls : List Call) (column : Name) :
    ((new d).after calls).calculated.lookup column = lastValue calls column := by
  rw [calculated_after, NameMap.lookup_foldl_insert, NameMap.lookup_empty, Option.or_none]
  rfl

/-- The columns that calls calculate are not empty. -/
theorem isEmpty_of_mem_calculations {calls : List Call} {e : Name × String}
    (h : e ∈ calculations calls) : e.1.isEmpty = false := by
  obtain ⟨c, -, hc⟩ := List.mem_filterMap.mp h
  cases c with
  | calculate column value =>
    rw [Call.calculation?] at hc
    cases hname : (Name.ofString column).isEmpty with
    | true => simp [hname] at hc
    | false =>
      rw [hname] at hc
      cases hc
      exact hname
  | _ => cases hc

/-- There is a last value for the columns that calls calculate. -/
theorem isSome_lastValue {calls : List Call} {column : Name} :
    (lastValue calls column).isSome ↔ column ∈ (calculations calls).map (·.1) := by
  simp [lastValue]

/-- The calculated columns are those of the calls, each once, in the order of their names. -/
theorem names_calculated_after (d : Dialect) (calls : List Call) :
    ((new d).after calls).calculated.names =
      Name.distinct ((calculations calls).map (·.1)) := by
  refine NameMap.names_eq_distinct fun n ↦ ?_
  rw [NameMap.mem_names, lookup_calculated_after, isSome_lastValue]

end Update

namespace Kind

/-- The calculated columns of a builder. Only updates have any. -/
def calculatedColumns : (k : Kind) → k.Builder → List Name
  | update => fun (u : Update) ↦ u.calculated.names
  | select | insert | delete | proc => fun _ ↦ []

/-- The columns that calls calculate, in the order of the calls. -/
def namedCalculations : (k : Kind) → List k.Call → List Name
  | update => fun calls ↦ (Update.calculations calls).map (·.1)
  | select | insert | delete | proc => fun _ ↦ []

variable {k : Kind}

/-- The calculated columns of a builder are those of the calls, each once, in the order of their
names. -/
theorem calculatedColumns_run (d : Dialect) (calls : List k.Call) :
    k.calculatedColumns (k.run (k.new d) calls).value =
      Name.distinct (k.namedCalculations calls) := by
  cases k with
  | update => exact Update.names_calculated_after d calls
  | select | insert | delete | proc => exact Name.distinct_nil.symm

/-- The columns that calls calculate are not empty. -/
theorem isEmpty_of_mem_namedCalculations {calls : List k.Call} {n : Name}
    (h : n ∈ k.namedCalculations calls) : n.isEmpty = false := by
  cases k with
  | update =>
    obtain ⟨e, he, rfl⟩ := List.mem_map.mp h
    exact Update.isEmpty_of_mem_calculations he
  | select | insert | delete | proc => cases h

end Kind

end SqlStatement
