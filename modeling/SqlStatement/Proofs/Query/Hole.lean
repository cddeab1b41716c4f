import SqlStatement.Proofs.Query.Template

/-!
# Queries with a hole

A sub-query is taken out of a query and another one put into its place.  What is left of the query
around it is a hole (`Select.Hole`), and every sub-query comes out of one
(`Select.mem_subqueries_iff`); a sub-query at any depth comes out of a list of holes, one inside the
other (`Select.exists_holes`).  The template of a query depends on what is in a hole by nothing but
the template that this has inside another statement (`Select.template_plug_congr`).
-/

namespace SqlStatement

/-- A clause without the sub-query of one of its conditions. -/
structure Where.Hole where
  groupsBefore : List Group
  join : Option Conjunction
  inner : Conjunction
  before : List Condition
  /-- The field of the condition without its sub-query. -/
  field : Name
  operator : Operator
  behind : List Condition
  groupsBehind : List Group
  opened : Bool

/-- The clause with a sub-query in the hole. -/
def Where.Hole.plug (h : Where.Hole) (s : Select) : Where where
  groups := h.groupsBefore ++
    ⟨h.join, h.inner, h.before ++ .sub h.field h.operator s :: h.behind⟩ :: h.groupsBehind
  opened := h.opened

/-- A query without one of its sub-queries. -/
inductive Select.Hole
  /-- A selected sub-query is left out between the items of the query and others behind them. -/
  | item (q : Select) (label : Name) (behind : List SelectItem)
  /-- The query has a clause in which a sub-query is left out. -/
  | condition (q : Select) (filter : Where.Hole)

/-- The query with a sub-query in the hole. -/
def Select.Hole.plug : Select.Hole → Select → Select
  | item q label behind, s => { q with items := q.items ++ .sub s label :: behind }
  | condition q filter, s => { q with filter := filter.plug s }

/-- The query with a sub-query in the innermost of some holes, each of which is in the one before
it. -/
def Select.plugAll (holes : List Select.Hole) (s : Select) : Select :=
  holes.foldr Select.Hole.plug s

/-! ## Where sub-queries come from -/

/-- The sub-queries of a clause are those that come out of a hole. -/
theorem Where.mem_subqueries_iff {w : Where} {s : Select} :
    s ∈ w.subqueries ↔ ∃ h : Where.Hole, h.plug s = w := by
  constructor
  · intro hs
    obtain ⟨g, hg, hs⟩ := List.mem_flatMap.mp hs
    obtain ⟨c, hc, hcs⟩ := List.mem_filterMap.mp hs
    obtain ⟨groups, opened⟩ := w
    obtain ⟨join, inner, conditions⟩ := g
    cases c with
    | plain field predicate => cases hcs
    | sub field operator query =>
      obtain rfl : query = s := Option.some.inj hcs
      obtain ⟨groupsBefore, groupsBehind, hgroups⟩ := List.append_of_mem hg
      obtain ⟨before, behind, hconditions⟩ := List.append_of_mem hc
      refine ⟨⟨groupsBefore, join, inner, before, field, operator, behind, groupsBehind, opened⟩,
        ?_⟩
      have hgroups : groups = _ := hgroups
      have hconditions : conditions = _ := hconditions
      rw [hgroups, hconditions]
      rfl
  · rintro ⟨h, rfl⟩
    simp [Where.subqueries, Where.Hole.plug, Condition.query?]

/-- The sub-queries of a query are those that come out of a hole. -/
theorem Select.mem_subqueries_iff {q s : Select} :
    s ∈ q.subqueries ↔ ∃ h : Select.Hole, h.plug s = q := by
  constructor
  · intro hs
    rcases List.mem_append.mp hs with hs | hs
    · obtain ⟨i, hi, his⟩ := List.mem_filterMap.mp hs
      cases i with
      | column name => cases his
      | sub query label =>
        obtain rfl : query = s := Option.some.inj his
        obtain ⟨before, behind, hitems⟩ := List.append_of_mem hi
        refine ⟨.item { q with items := before } label behind, ?_⟩
        rw [Select.Hole.plug, ← hitems]
        cases q
        rfl
    · obtain ⟨h, hh⟩ := Where.mem_subqueries_iff.mp hs
      refine ⟨.condition q h, ?_⟩
      rw [Select.Hole.plug, hh]
      cases q
      rfl
  · rintro ⟨h, rfl⟩
    cases h with
    | item q label behind =>
      simp [Select.subqueries, Select.Hole.plug, SelectItem.query?]
    | condition q filter =>
      exact Select.mem_subqueries_of_filter (Where.mem_subqueries_iff.mpr ⟨filter, rfl⟩)

/-- A query that is nested in another one, or this query itself. -/
inductive Select.Nested (s : Select) : Select → Prop
  | self : Select.Nested s s
  | inside {q q' : Select} (hq : q' ∈ q.subqueries) (hs : Select.Nested s q') : Select.Nested s q

/-- A query that is nested at any depth comes out of holes. -/
theorem Select.Nested.exists_holes {s q : Select} (h : Select.Nested s q) :
    ∃ holes, Select.plugAll holes s = q := by
  induction h with
  | self => exact ⟨[], rfl⟩
  | inside hq _ ih =>
    obtain ⟨holes, rfl⟩ := ih
    obtain ⟨hole, rfl⟩ := Select.mem_subqueries_iff.mp hq
    exact ⟨hole :: holes, rfl⟩

/-! ## The template around a hole -/

variable {s s' : Select}

/-- A clause shows of a sub-query no more than its template. -/
theorem Where.Hole.template_plug_congr (h : Where.Hole) (hs : s'.template true = s.template true) :
    (h.plug s').template = (h.plug s).template := by
  have hcondition : (Condition.sub h.field h.operator s').template =
      (Condition.sub h.field h.operator s).template := by
    rw [Condition.template, Condition.template, hs]
  rw [plug, plug, Where.template, Where.template]
  simp [Group.template, hcondition, Condition.field]

/-- A clause behind a space shows of a sub-query no more than its template. -/
theorem Where.Hole.spacedTemplate_plug_congr (h : Where.Hole)
    (hs : s'.template true = s.template true) :
    (h.plug s').spacedTemplate = (h.plug s).spacedTemplate := by
  have hempty : ∀ s, (h.plug s).groups.isEmpty = false := fun s ↦ by simp [plug]
  rw [Where.spacedTemplate, Where.spacedTemplate, Template.spaced, Template.spaced,
    h.template_plug_congr hs, hempty, hempty]

/-- A query shows of a sub-query no more than its template. -/
theorem Select.Hole.template_plug_congr (h : Select.Hole) (hs : s'.template true = s.template true)
    (nested : Bool) : (h.plug s').template nested = (h.plug s).template nested := by
  rw [Select.template_eq, Select.template_eq]
  cases h with
  | item q label behind =>
    have hitem : (SelectItem.sub s' label).template nested =
        (SelectItem.sub s label).template nested := by
      rw [SelectItem.template, SelectItem.template, hs]
    simp [plug, hitem]
  | condition q filter => simp [plug, filter.spacedTemplate_plug_congr hs]

/-- Around a query in holes, nothing but its template is seen of it. -/
theorem Select.template_plugAll_congr (holes : List Select.Hole)
    (hs : s'.template true = s.template true) :
    (Select.plugAll holes s').template true = (Select.plugAll holes s).template true := by
  induction holes with
  | nil => exact hs
  | cons h holes ih => exact h.template_plug_congr ih true

end SqlStatement
