import SqlStatement.Query.Layout

/-!
# Nested queries

The sub-queries of a query are those of its selected items and those of its conditions; they may
have sub-queries in turn.  What holds of a query whenever it holds of the sub-queries in it holds of
every query (`Select.nesting_induction`).
-/

namespace SqlStatement

/-- The query of a condition. -/
def Condition.query? : Condition → Option Select
  | plain .. => none
  | sub _ _ query => some query

/-- The query of a selected item. -/
def SelectItem.query? : SelectItem → Option Select
  | column _ => none
  | sub query _ => some query

/-- The sub-queries of a clause, but not those inside them. -/
def Where.subqueries (w : Where) : List Select :=
  w.groups.flatMap fun g ↦ g.conditions.filterMap Condition.query?

/-- The sub-queries of a query, but not those inside them. -/
def Select.subqueries (q : Select) : List Select :=
  q.items.filterMap SelectItem.query? ++ q.filter.subqueries

/-- The sub-queries of a clause are smaller than the clause. -/
theorem Where.sizeOf_lt_of_mem_subqueries {w : Where} {s : Select} (h : s ∈ w.subqueries) :
    sizeOf s < sizeOf w := by
  obtain ⟨groups, opened⟩ := w
  obtain ⟨g, hg, hs⟩ := List.mem_flatMap.mp h
  obtain ⟨c, hc, hcs⟩ := List.mem_filterMap.mp hs
  have hgroup := List.sizeOf_lt_of_mem hg
  obtain ⟨join, inner, conditions⟩ := g
  have hcondition := List.sizeOf_lt_of_mem hc
  cases c with
  | plain field predicate => cases hcs
  | sub field operator query =>
    obtain rfl : query = s := Option.some.inj hcs
    simp only [Condition.sub.sizeOf_spec, Group.mk.sizeOf_spec, Where.mk.sizeOf_spec] at *
    omega

/-- The sub-queries of a query are smaller than the query. -/
theorem Select.sizeOf_lt_of_mem_subqueries {q s : Select} (h : s ∈ q.subqueries) :
    sizeOf s < sizeOf q := by
  obtain ⟨dialect, items, tables, filter, groups, order, limit, counted, readOnly⟩ := q
  rcases List.mem_append.mp h with h | h
  · obtain ⟨i, hi, his⟩ := List.mem_filterMap.mp h
    have hitem := List.sizeOf_lt_of_mem hi
    cases i with
    | column name => cases his
    | sub query label =>
      obtain rfl : query = s := Option.some.inj his
      simp only [SelectItem.sub.sizeOf_spec, Select.mk.sizeOf_spec] at *
      omega
  · have hfilter := Where.sizeOf_lt_of_mem_subqueries h
    simp only [Select.mk.sizeOf_spec] at *
    omega

/-- Induction on the depth to which queries are nested. -/
theorem Select.nesting_induction {P : Select → Prop}
    (step : ∀ q : Select, (∀ s ∈ q.subqueries, P s) → P q) (q : Select) : P q :=
  step q fun s hs ↦
    have : sizeOf s < sizeOf q := Select.sizeOf_lt_of_mem_subqueries hs
    nesting_induction step s
termination_by sizeOf q

/-! ## The order of conditions -/

/-- Entries are arranged by their names alone. -/
theorem Layout.arranged_map {α β : Type} (key : α → Name) (f : α → β) (xs : List α) :
    arranged (xs.map fun x ↦ (key x, f x)) = (arranged (xs.map fun x ↦ (key x, x))).map f := by
  have hsort : (xs.map fun x ↦ (key x, f x)) =
      (xs.map fun x ↦ (key x, x)).map fun e ↦ (e.1, f e.2) := by simp
  rw [arranged, arranged, hsort, ← List.map_mergeSort (r := fun a b ↦ a.1 ≤ b.1) (by simp)]
  simp

/-- The conditions of a group in the order in which they are rendered. -/
def Group.arranged (g : Group) : List Condition :=
  Layout.arranged (g.conditions.map fun c ↦ (c.field, c))

/-- Arranging the conditions of a group changes their order alone. -/
theorem Group.arranged_perm (g : Group) : g.arranged.Perm g.conditions := by
  have h := (List.mergeSort_perm (g.conditions.map fun c ↦ (c.field, c))
    fun a b ↦ decide (a.1 ≤ b.1)).map (·.2)
  rwa [List.map_map, show (·.2) ∘ (fun c : Condition ↦ (c.field, c)) = id from rfl, List.map_id] at h

/-- Arranging the conditions of a group keeps them. -/
theorem Group.mem_arranged {g : Group} {c : Condition} : c ∈ g.arranged ↔ c ∈ g.conditions := by
  simp [Group.arranged, Layout.arranged]

/-- The query of an arranged condition is one of the sub-queries of the clause. -/
theorem Where.mem_subqueries {w : Where} {g : Group} {c : Condition} {s : Select}
    (hg : g ∈ w.groups) (hc : c ∈ g.arranged) (hs : s ∈ c.query?) : s ∈ w.subqueries :=
  List.mem_flatMap.mpr ⟨g, hg, List.mem_filterMap.mpr ⟨c, Group.mem_arranged.mp hc, hs⟩⟩

/-- The query of a selected item is one of the sub-queries of the query. -/
theorem Select.mem_subqueries_of_item {q s : Select} {i : SelectItem} (hi : i ∈ q.items)
    (hs : s ∈ i.query?) : s ∈ q.subqueries :=
  List.mem_append_left _ (List.mem_filterMap.mpr ⟨i, hi, hs⟩)

/-- The sub-queries of the clause of a query are sub-queries of the query. -/
theorem Select.mem_subqueries_of_filter {q s : Select} (hs : s ∈ q.filter.subqueries) :
    s ∈ q.subqueries :=
  List.mem_append_right _ hs

end SqlStatement
