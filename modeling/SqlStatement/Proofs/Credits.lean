import Mathlib
import SqlStatement.Proofs.Statement
import SqlStatement.Query.Condition

/-!
# The credits of parameters

Every parameter of a statement is credited to a name.  The names follow from the builder by a
recursion that knows nothing of pages and tallies (`Kind.credits`): a condition is credited to its
field once for each marker, a sub-query as it is by itself.  The answer of a build counts and lists
these names (`Kind.build_credits`), although each sub-query collects a listing of its own, which is
merged afterwards.
-/

namespace SqlStatement

mutual

/-- The names to which the parameters of a condition are credited. The field of a sub-query is not
credited. -/
def Condition.credits : Condition → List Name
  | .plain field predicate => List.replicate (RawText.markers predicate) field
  | .sub _ _ query => query.credits

/-- The credits of conditions with their fields. -/
def conditionCredits : List Condition → List (Name × List Name)
  | [] => []
  | c :: cs => (c.field, c.credits) :: conditionCredits cs

/-- The names to which the parameters of a group are credited, the conditions ordered by their
fields. -/
def Group.credits : Group → List Name
  | ⟨_, _, conditions⟩ => (Layout.arranged (conditionCredits conditions)).flatten

/-- The names to which the parameters of groups are credited. -/
def groupCredits : List Group → List Name
  | [] => []
  | g :: gs => g.credits ++ groupCredits gs

/-- The names to which the parameters of a clause are credited. -/
def Where.credits : Where → List Name
  | ⟨groups, _⟩ => groupCredits groups

/-- The names to which the parameters of a selected item are credited. -/
def SelectItem.credits : SelectItem → List Name
  | .column _ => []
  | .sub query _ => query.credits

/-- The names to which the parameters of selected items are credited. -/
def itemCredits : List SelectItem → List Name
  | [] => []
  | i :: is => i.credits ++ itemCredits is

/-- The names to which the parameters of a query are credited. A query that selects nothing has no
parameters. -/
def Select.credits : Select → List Name
  | ⟨_, items, _, filter, _, _, _, _, _⟩ =>
    if items.isEmpty then [] else itemCredits items ++ filter.credits

end

/-- The names to which the parameters of an update are credited: those of the plain columns, of the
calculated columns in the order of their names and of the conditions. -/
def Update.credits (u : Update) : List Name :=
  u.columns ++
    (u.calculated.entries.flatMap fun e ↦ List.replicate (RawText.markers e.2) e.1) ++
    u.filter.credits

/-- A procedure call is written as a query, which is the only form of it that has conditions. -/
def Proc.isQuery (p : Proc) : Bool :=
  p.dialect.engine != .mssql && p.target.map (·.2) != some .perform

/-- The names to which the parameters of a procedure call are credited. -/
def Proc.credits (p : Proc) : List Name :=
  p.arguments ++ if p.isQuery then p.filter.credits else []

/-- The names to which the parameters of a builder's statement are credited, from left to right. -/
def Kind.credits : (k : Kind) → k.Builder → List Name
  | select => Select.credits
  | insert => Insert.columns
  | update => Update.credits
  | delete => fun x : Delete ↦ x.filter.credits
  | proc => Proc.credits

/-! ## Credits of lists -/

@[simp] theorem conditionCredits_eq_map (cs : List Condition) :
    conditionCredits cs = cs.map fun c ↦ (c.field, c.credits) := by
  induction cs with
  | nil => simp [conditionCredits]
  | cons c cs ih => simp [conditionCredits, ih]

@[simp] theorem groupCredits_eq_flatMap (gs : List Group) :
    groupCredits gs = gs.flatMap Group.credits := by
  induction gs with
  | nil => simp [groupCredits]
  | cons g gs ih => simp [groupCredits, ih]

@[simp] theorem itemCredits_eq_flatMap (is : List SelectItem) :
    itemCredits is = is.flatMap SelectItem.credits := by
  induction is with
  | nil => simp [itemCredits]
  | cons i is ih => simp [itemCredits, ih]

/-- The credits of a group are those of its conditions in the order in which they are rendered. -/
theorem Group.credits_eq (g : Group) : g.credits = g.arranged.flatMap Condition.credits := by
  obtain ⟨join, inner, conditions⟩ := g
  rw [Group.credits, conditionCredits_eq_map, Layout.arranged_map, List.flatMap_def]
  rfl

/-- The credits of a query in terms of its parts. -/
theorem Select.credits_eq (q : Select) :
    q.credits =
      if q.items.isEmpty then [] else q.items.flatMap SelectItem.credits ++ q.filter.credits := by
  cases q
  rw [Select.credits, itemCredits_eq_flatMap]

/-! ## Credits of templates -/

/-- The slots of a query, nested or not, are credited as the recursion says. -/
def Select.Credited (q : Select) : Prop := ∀ nested, (q.template nested).credits = q.credits

/-- The slots of a condition are credited as the recursion says, if those of its query are. -/
theorem Condition.credits_template {c : Condition} (h : ∀ q ∈ c.query?, q.Credited) :
    c.template.credits = c.credits := by
  cases c with
  | plain field predicate =>
    rw [Condition.template, Condition.credits, Template.credits_ofRaw]
  | sub field operator query =>
    have hq : query.Credited := h query rfl
    rw [Condition.template, Condition.credits]
    simp [hq true]

/-- The slots of a clause are credited as the recursion says, if those of its queries are. -/
theorem Where.credits_template {w : Where} (h : ∀ q ∈ w.subqueries, q.Credited) :
    w.template.credits = w.credits := by
  have hgroups : ∀ g ∈ w.groups, g.template.credits = g.credits := by
    intro g hg
    have hconditions : ∀ c ∈ g.arranged, c.template.credits = c.credits := by
      intro c hc
      exact Condition.credits_template fun q hq ↦ h q (Where.mem_subqueries hg hc hq)
    rw [Group.template_eq, Group.credits_eq]
    simp only [Template.credits_cons, Piece.credits, List.nil_append, Template.credits_bracketed,
      Template.credits_joined, List.flatMap_map]
    exact List.flatMap_congr hconditions
  obtain ⟨groups, opened⟩ := w
  rw [Where.template, Where.credits, Template.clause, groupTemplates_eq_map,
    groupCredits_eq_flatMap]
  cases groups with
  | nil => rfl
  | cons g gs =>
    show Template.credits ((g :: gs).map Group.template).flatten = _
    rw [Template.credits_flatten, List.flatMap_map]
    exact List.flatMap_congr hgroups

/-- A space in front of a clause is not credited. -/
theorem Where.credits_spacedTemplate_eq (w : Where) :
    w.spacedTemplate.credits = w.template.credits := by
  obtain ⟨groups, opened⟩ := w
  rw [Where.spacedTemplate, Template.spaced, Where.template, Template.clause]
  cases groups with
  | nil => rfl
  | cons g gs => rfl

/-- The slots of a selected item are credited as the recursion says, if those of its query are. -/
theorem SelectItem.credits_template {i : SelectItem} (h : ∀ q ∈ i.query?, q.Credited)
    (nested : Bool) : (i.template nested).credits = i.credits := by
  cases i with
  | column name =>
    rw [SelectItem.template, SelectItem.credits]
    cases nested <;> rfl
  | sub query label =>
    have hq : query.Credited := h query rfl
    rw [SelectItem.template, SelectItem.credits]
    simp [hq true]

/-- The column that tells the number of all rows has no parameters. -/
@[simp] theorem Template.credits_rowCountColumn (counted : Bool) :
    (rowCountColumn counted).credits = [] := by
  cases counted <;> rfl

/-- The slots of a query, nested or not, are credited as the recursion says. -/
theorem Select.credits_template (q : Select) : q.Credited := by
  induction q using Select.nesting_induction with
  | step q ih =>
    intro nested
    have hfilter : q.filter.spacedTemplate.credits = q.filter.credits := by
      rw [Where.credits_spacedTemplate_eq]
      exact Where.credits_template fun q' hq' ↦ ih q' (Select.mem_subqueries_of_filter hq')
    have hitems : ∀ i ∈ q.items, (i.template nested).credits = i.credits := by
      intro i hi
      have hquery : ∀ q' ∈ i.query?, q'.Credited :=
        fun q' hq' ↦ ih q' (Select.mem_subqueries_of_item hi hq')
      exact SelectItem.credits_template hquery nested
    have hcount :
        Template.credits (if nested then [] else Template.rowCountColumn q.counted) = [] := by
      cases nested <;> simp
    rw [Select.template_eq, Select.credits_eq]
    split
    · rfl
    · simp only [Template.query, Template.credits_append, Template.credits_cons,
        Template.credits_nil, Template.credits_joined, List.flatMap_map, Piece.credits,
        List.nil_append, List.append_nil, hcount, hfilter]
      rw [List.flatMap_congr hitems]

/-- The slots of a clause are credited as the recursion says. -/
@[simp] theorem Where.credits_spacedTemplate (w : Where) :
    w.spacedTemplate.credits = w.credits := by
  rw [Where.credits_spacedTemplate_eq]
  exact Where.credits_template fun q _ ↦ q.credits_template

namespace Template

@[simp] theorem credits_returningList (before : String) (columns : List Name) :
    (returningList before columns).credits = [] := by
  simp [returningList, List.flatMap_map]

@[simp] theorem credits_output (e : Engine) (image : RowImage) (columns : List Name) :
    (output e image columns).credits = [] := by
  unfold output
  split
  · rfl
  · cases e <;> simp

@[simp] theorem credits_trailing (e : Engine) (columns : List Name) :
    (trailing e columns).credits = [] := by
  unfold trailing
  split
  · rfl
  · cases e <;> simp

end Template

theorem Insert.credits_template (i : Insert) (e : Engine) :
    (i.template e).credits = i.columns := by
  simp [Insert.template, List.flatMap_map]

theorem Update.Assignment.credits_template (x : Assignment) :
    x.template.credits =
      match x with
      | plain c => [c]
      | calculated c value => List.replicate (RawText.markers value) c := by
  cases x <;> simp [template]

theorem Update.credits_template (u : Update) (e : Engine) : (u.template e).credits = u.credits := by
  have hassignments :
      u.assignments.flatMap (fun x ↦ x.template.credits) =
        u.columns ++
          u.calculated.entries.flatMap fun e ↦ List.replicate (RawText.markers e.2) e.1 := by
    simp [assignments, List.flatMap_map, Assignment.credits_template]
  simp [template, credits, List.flatMap_map, hassignments]

theorem Delete.credits_template (x : Delete) (e : Engine) :
    (x.template e).credits = x.filter.credits := by
  simp [Delete.template]

namespace Proc

@[simp] theorem credits_argumentTemplate (p : Proc) : p.argumentTemplate.credits = p.arguments := by
  simp [argumentTemplate, List.flatMap_map]

theorem credits_execTemplate (p : Proc) (name : Name) :
    (p.execTemplate name).credits = p.arguments := by
  have hcolumns : Template.credits (p.columns.flatMap fun c ↦ [.field c]) = [] := by
    simp [Template.credits, List.flatMap_assoc]
  have harguments :
      Template.credits (if p.arguments.isEmpty then [] else .text " " :: p.argumentTemplate) =
        p.arguments := by
    split
    · next hempty => exact (List.isEmpty_iff.mp hempty).symm
    · simp
  simp only [execTemplate, Template.credits_append, harguments, hcolumns]
  simp

theorem credits_performTemplate (p : Proc) (name : Name) :
    (p.performTemplate name).credits = p.arguments := by
  simp [performTemplate]

theorem credits_rowsTemplate (p : Proc) (name : Name) :
    (p.rowsTemplate name).credits = p.arguments ++ p.filter.credits := by
  simp [rowsTemplate, List.flatMap_map]

theorem credits_template (p : Proc) : (p.template p.dialect.engine).credits = p.credits := by
  unfold template credits isQuery
  cases hengine : p.dialect.engine with
  | mssql => exact (p.credits_execTemplate _).trans (List.append_nil _).symm
  | postgres | mysql =>
    cases htarget : p.target with
    | none => exact p.credits_rowsTemplate _
    | some target =>
      obtain ⟨name, mode⟩ := target
      cases mode with
      | rows => exact p.credits_rowsTemplate name
      | perform => exact (p.credits_performTemplate name).trans (List.append_nil _).symm

end Proc

/-- The slots of a statement are credited as the recursion on its builder says. -/
theorem Kind.credits_template (k : Kind) (b : k.Builder) :
    (k.template b (k.dialect b).engine).credits = k.credits b := by
  cases k with
  | select => exact Select.credits_template b false
  | insert => exact Insert.credits_template b _
  | update => exact Update.credits_template b _
  | delete => exact Delete.credits_template b _
  | proc => exact Proc.credits_template b

/-! ## Credits of built statements -/

section Built

variable {k : Kind} {b : k.Builder} {terminate : Bool}

/-- A build counts the credits of its builder. -/
theorem Kind.paramCount_build (h : (k.build b terminate).value.diagnostic = false) :
    (k.build b terminate).value.paramCount = (k.credits b).length := by
  rw [Kind.build_value_of_not_diagnostic h, ← k.credits_template b]
  rfl

/-- A build lists the credits of its builder. -/
theorem Kind.paramFields_build (h : (k.build b terminate).value.diagnostic = false) :
    (k.build b terminate).value.paramFields = Name.commaList (k.credits b) := by
  rw [Kind.build_value_of_not_diagnostic h, ← k.credits_template b]
  rfl

/-- A statement is written by the steps of its template, in which the slots from left to right are
credited as the recursion on the builder says. The answer counts these credits and lists those that
are not empty. -/
theorem Kind.build_credits (h : (k.build b terminate).value.diagnostic = false) :
    let info := (k.build b terminate).value
    let d := k.dialect b
    let steps := k.template b d.engine
    (k.printer b).Writes ⟨d, false⟩ steps ∧
      info.sql = steps.render d 0 ++ (if terminate then ";" else "") ∧
      steps.credits = k.credits b ∧
      info.paramCount = (k.credits b).length ∧
      info.paramFields = Name.commaList (k.credits b) := by
  intro info d steps
  refine ⟨k.printer_writes b d, ?_, k.credits_template b, Kind.paramCount_build h,
    Kind.paramFields_build h⟩
  exact congrArg Info.sql (Kind.build_value_of_not_diagnostic h)

end Built

/-- An update with a marker in a calculated column and three in a sub-query, two of them in a group
whose conditions are not in the order of their fields. -/
theorem Kind.build_credits_update :
    let owned : Select := { Select.new default with
      items := [.column (.ofString "id")]
      filter := ⟨[⟨none, .and, [.compare .eq "owner" "?", .between "age" "1" "?"]⟩,
        ⟨some .or, .and, [.compare .eq "id" "?"]⟩], true⟩ }
    let b : Update := { Update.new default with
      columns := [.ofString "title"]
      calculated := NameMap.empty.insert (.ofString "hits") "hits+?"
      filter := ⟨[⟨none, .and, [.compareSub .isIn "branch" owned]⟩], true⟩ }
    (update.build b true).value.paramCount = 5 ∧
      (update.build b true).value.paramFields = "title, hits, age, owner, id" := by
  intro owned b
  have h : (update.build b true).value.diagnostic = false := rfl
  obtain ⟨-, -, -, hcount, hfields⟩ := Kind.build_credits h
  rw [hcount, hfields]
  exact ⟨by cbv, by cbv⟩

end SqlStatement
