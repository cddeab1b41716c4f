import Mathlib
import SqlStatement.Proofs.Calls
import SqlStatement.Proofs.Redirected
import SqlStatement.Query.Condition

/-!
# Families of calls

The calls of a builder fall into families, each of which configures a part of the builder that no
other family reads or changes.  Cut down to the part of one family, a builder is the same whether
the calls of the other families are made or not (`Kind.cut_run`), and a call is refused or accepted
as it is with the other parts in place (`Kind.refusal_cut`).  A builder is made up of its parts, so
calls that agree family by family lead to the same builder, in whatever order the families take
turns (`Kind.run_eq_of_families`).
-/

namespace SqlStatement

/-- The families of calls. -/
inductive Family
  /-- Columns and sub-queries that are selected. -/
  | items
  | tables
  | groups
  | order
  | limit
  | rowCount
  | readOnly
  /-- The table whose rows are changed. -/
  | target
  /-- Columns that are set to parameters. -/
  | columns
  | calculated
  | returning
  /-- The procedure and what it is called for. -/
  | procedure
  | arguments
  | filter
  deriving DecidableEq, Repr

/-- A call of the clause that is accepted silently puts a clause in place. -/
theorem Where.exists_of_map_apply {α : Type} {w : Where} {call : Call} {put : Where → α}
    {l : Logged α} (h : ((w.apply call).map fun v ↦ .silent (put v)) = .ok l) :
    ∃ v, l = .silent (put v) := by
  cases hw : w.apply call with
  | error e =>
    rw [hw] at h
    cases h
  | ok v =>
    rw [hw] at h
    exact ⟨v, (Except.ok.inj h).symm⟩

/-! ## The parts of a query -/

namespace Select

/-- The family of a call. -/
def Call.family : Call → Family
  | select .. | selectSub .. => .items
  | table .. => .tables
  | groupBy .. => .groups
  | orderBy .. => .order
  | limit .. => .limit
  | countRows => .rowCount
  | notReadOnly => .readOnly
  | filter .. => .filter

/-- The query of which only the part of a family is configured. -/
def cut (f : Family) (q : Select) : Select where
  dialect := q.dialect
  items := if f = .items then q.items else []
  tables := if f = .tables then q.tables else .empty
  filter := if f = .filter then q.filter else .empty
  groups := if f = .groups then q.groups else []
  order := if f = .order then q.order else []
  limit := if f = .limit then q.limit else 0
  counted := if f = .rowCount then q.counted else false
  readOnly := if f = .readOnly then q.readOnly else true

/-- A call does to the part of its family what it does to the whole query. -/
theorem apply_cut (q : Select) (c : Call) :
    (q.cut c.family).apply c = (q.apply c).map fun l ↦ l.map (cut c.family) := by
  cases c with
  | table table label =>
    by_cases h : Text.lowercase (Text.trim table) = ""
    · simp only [apply, Select.table, if_pos h]
      rfl
    · simp only [apply, Select.table, if_neg h]
      rfl
  | filter call =>
    exact (q.filter.map_apply call (fun w ↦ { q with filter := w }) (cut .filter)).symm
  | _ => rfl

/-- A call keeps the parts of all other families. -/
theorem cut_of_apply {f : Family} {q : Select} {c : Call} (h : c.family ≠ f) {l : Logged Select}
    (hl : q.apply c = .ok l) : l.value.cut f = q.cut f := by
  cases c with
  | table table label =>
    obtain rfl : q.table table label = l := Except.ok.inj hl
    have h : ¬ f = .tables := Ne.symm h
    unfold Select.table
    dsimp only
    split
    · rfl
    · simp only [cut, if_neg h]
  | filter call =>
    obtain ⟨w, rfl⟩ := Where.exists_of_map_apply hl
    have h : ¬ f = .filter := Ne.symm h
    simp only [cut, Logged.value_silent, if_neg h]
  | _ =>
    cases hl
    simp only [Call.family, ne_eq, eq_comm] at h
    simp only [cut, select, selectSub, groupBy, orderBy, Logged.value_silent, if_neg h]

/-- A query is made up of its parts. -/
theorem eq_of_cut {q q' : Select} (h : ∀ f, q.cut f = q'.cut f) : q = q' := by
  obtain ⟨dialect, items, tables, filter, groups, order, limit, counted, readOnly⟩ := q
  obtain ⟨dialect', items', tables', filter', groups', order', limit', counted', readOnly'⟩ := q'
  obtain rfl : dialect = dialect' := congrArg Select.dialect (h .items)
  obtain rfl : items = items' := congrArg Select.items (h .items)
  obtain rfl : tables = tables' := congrArg Select.tables (h .tables)
  obtain rfl : filter = filter' := congrArg Select.filter (h .filter)
  obtain rfl : groups = groups' := congrArg Select.groups (h .groups)
  obtain rfl : order = order' := congrArg Select.order (h .order)
  obtain rfl : limit = limit' := congrArg Select.limit (h .limit)
  obtain rfl : counted = counted' := congrArg Select.counted (h .rowCount)
  obtain rfl : readOnly = readOnly' := congrArg Select.readOnly (h .readOnly)
  rfl

end Select

/-! ## The parts of a statement that changes rows -/

namespace Insert

/-- The family of a call. -/
def Call.family : Call → Family
  | table .. => .target
  | columns .. => .columns
  | returning .. => .returning

/-- The insertion of which only the part of a family is configured. -/
def cut (f : Family) (i : Insert) : Insert where
  dialect := i.dialect
  table := if f = .target then i.table else .empty
  columns := if f = .columns then i.columns else []
  returning := if f = .returning then i.returning else []

theorem apply_cut (i : Insert) (c : Call) :
    (i.cut c.family).apply c = (i.apply c).map fun l ↦ l.map (cut c.family) := by
  cases c <;> rfl

theorem cut_of_apply {f : Family} {i : Insert} {c : Call} (h : c.family ≠ f) {l : Logged Insert}
    (hl : i.apply c = .ok l) : l.value.cut f = i.cut f := by
  cases c with
  | _ =>
    cases hl
    simp only [Call.family, ne_eq, eq_comm] at h
    simp only [cut, Logged.value_silent, if_neg h]

theorem eq_of_cut {i i' : Insert} (h : ∀ f, i.cut f = i'.cut f) : i = i' := by
  obtain ⟨dialect, table, columns, returning⟩ := i
  obtain ⟨dialect', table', columns', returning'⟩ := i'
  obtain rfl : dialect = dialect' := congrArg Insert.dialect (h .target)
  obtain rfl : table = table' := congrArg Insert.table (h .target)
  obtain rfl : columns = columns' := congrArg Insert.columns (h .columns)
  obtain rfl : returning = returning' := congrArg Insert.returning (h .returning)
  rfl

end Insert

namespace Update

/-- The family of a call. -/
def Call.family : Call → Family
  | table .. => .target
  | columns .. => .columns
  | calculate .. => .calculated
  | returning .. => .returning
  | filter .. => .filter

/-- The update of which only the part of a family is configured. -/
def cut (f : Family) (u : Update) : Update where
  dialect := u.dialect
  table := if f = .target then u.table else .empty
  columns := if f = .columns then u.columns else []
  calculated := if f = .calculated then u.calculated else .empty
  filter := if f = .filter then u.filter else .empty
  returning := if f = .returning then u.returning else []

theorem apply_cut (u : Update) (c : Call) :
    (u.cut c.family).apply c = (u.apply c).map fun l ↦ l.map (cut c.family) := by
  cases c with
  | calculate column value =>
    cases h : (Name.ofString column).isEmpty
    · simp only [apply, calculate, h]
      rfl
    · simp only [apply, calculate, h]
      rfl
  | filter call =>
    exact (u.filter.map_apply call (fun w ↦ { u with filter := w }) (cut .filter)).symm
  | _ => rfl

theorem cut_of_apply {f : Family} {u : Update} {c : Call} (h : c.family ≠ f) {l : Logged Update}
    (hl : u.apply c = .ok l) : l.value.cut f = u.cut f := by
  cases c with
  | calculate column value =>
    obtain rfl : u.calculate column value = l := Except.ok.inj hl
    have h : ¬ f = .calculated := Ne.symm h
    unfold Update.calculate
    dsimp only
    split
    · rfl
    · simp only [cut, if_neg h]
  | filter call =>
    obtain ⟨w, rfl⟩ := Where.exists_of_map_apply hl
    have h : ¬ f = .filter := Ne.symm h
    simp only [cut, Logged.value_silent, if_neg h]
  | _ =>
    cases hl
    simp only [Call.family, ne_eq, eq_comm] at h
    simp only [cut, Logged.value_silent, if_neg h]

theorem eq_of_cut {u u' : Update} (h : ∀ f, u.cut f = u'.cut f) : u = u' := by
  obtain ⟨dialect, table, columns, calculated, filter, returning⟩ := u
  obtain ⟨dialect', table', columns', calculated', filter', returning'⟩ := u'
  obtain rfl : dialect = dialect' := congrArg Update.dialect (h .target)
  obtain rfl : table = table' := congrArg Update.table (h .target)
  obtain rfl : columns = columns' := congrArg Update.columns (h .columns)
  obtain rfl : calculated = calculated' := congrArg Update.calculated (h .calculated)
  obtain rfl : filter = filter' := congrArg Update.filter (h .filter)
  obtain rfl : returning = returning' := congrArg Update.returning (h .returning)
  rfl

end Update

namespace Delete

/-- The family of a call. -/
def Call.family : Call → Family
  | table .. => .target
  | returning .. => .returning
  | filter .. => .filter

/-- The deletion of which only the part of a family is configured. -/
def cut (f : Family) (x : Delete) : Delete where
  dialect := x.dialect
  table := if f = .target then x.table else .empty
  filter := if f = .filter then x.filter else .empty
  returning := if f = .returning then x.returning else []

theorem apply_cut (x : Delete) (c : Call) :
    (x.cut c.family).apply c = (x.apply c).map fun l ↦ l.map (cut c.family) := by
  cases c with
  | filter call =>
    exact (x.filter.map_apply call (fun w ↦ { x with filter := w }) (cut .filter)).symm
  | _ => rfl

theorem cut_of_apply {f : Family} {x : Delete} {c : Call} (h : c.family ≠ f) {l : Logged Delete}
    (hl : x.apply c = .ok l) : l.value.cut f = x.cut f := by
  cases c with
  | filter call =>
    obtain ⟨w, rfl⟩ := Where.exists_of_map_apply hl
    have h : ¬ f = .filter := Ne.symm h
    simp only [cut, Logged.value_silent, if_neg h]
  | _ =>
    cases hl
    simp only [Call.family, ne_eq, eq_comm] at h
    simp only [cut, Logged.value_silent, if_neg h]

theorem eq_of_cut {x x' : Delete} (h : ∀ f, x.cut f = x'.cut f) : x = x' := by
  obtain ⟨dialect, table, filter, returning⟩ := x
  obtain ⟨dialect', table', filter', returning'⟩ := x'
  obtain rfl : dialect = dialect' := congrArg Delete.dialect (h .target)
  obtain rfl : table = table' := congrArg Delete.table (h .target)
  obtain rfl : filter = filter' := congrArg Delete.filter (h .filter)
  obtain rfl : returning = returning' := congrArg Delete.returning (h .returning)
  rfl

end Delete

/-! ## The parts of a procedure call -/

namespace Proc

/-- The family of a call. -/
def Call.family : Call → Family
  | select .. => .items
  | call .. => .procedure
  | arguments .. => .arguments
  | orderBy .. => .order
  | limit .. => .limit
  | countRows => .rowCount
  | notReadOnly => .readOnly
  | filter .. => .filter

/-- The procedure call of which only the part of a family is configured. -/
def cut (f : Family) (p : Proc) : Proc where
  dialect := p.dialect
  target := if f = .procedure then p.target else none
  columns := if f = .items then p.columns else []
  arguments := if f = .arguments then p.arguments else []
  filter := if f = .filter then p.filter else .empty
  order := if f = .order then p.order else []
  limit := if f = .limit then p.limit else 0
  counted := if f = .rowCount then p.counted else false
  readOnly := if f = .readOnly then p.readOnly else true

theorem apply_cut (p : Proc) (c : Call) :
    (p.cut c.family).apply c = (p.apply c).map fun l ↦ l.map (cut c.family) := by
  cases c with
  | call mode name =>
    simp only [apply, call]
    cases checkName name <;> rfl
  | filter call =>
    exact (p.filter.map_apply call (fun w ↦ { p with filter := w }) (cut .filter)).symm
  | _ => rfl

theorem cut_of_apply {f : Family} {p : Proc} {c : Call} (h : c.family ≠ f) {l : Logged Proc}
    (hl : p.apply c = .ok l) : l.value.cut f = p.cut f := by
  cases c with
  | call mode name =>
    have h : ¬ f = .procedure := Ne.symm h
    rw [apply, call] at hl
    cases hn : checkName name with
    | error e =>
      rw [hn] at hl
      cases hl
    | ok n =>
      rw [hn] at hl
      cases hl
      simp only [cut, Logged.value_silent, if_neg h]
  | filter call =>
    obtain ⟨w, rfl⟩ := Where.exists_of_map_apply hl
    have h : ¬ f = .filter := Ne.symm h
    simp only [cut, Logged.value_silent, if_neg h]
  | _ =>
    cases hl
    simp only [Call.family, ne_eq, eq_comm] at h
    simp only [cut, Logged.value_silent, if_neg h]

theorem eq_of_cut {p p' : Proc} (h : ∀ f, p.cut f = p'.cut f) : p = p' := by
  obtain ⟨dialect, target, columns, arguments, filter, order, limit, counted, readOnly⟩ := p
  obtain ⟨dialect', target', columns', arguments', filter', order', limit', counted',
    readOnly'⟩ := p'
  obtain rfl : dialect = dialect' := congrArg Proc.dialect (h .procedure)
  obtain rfl : target = target' := congrArg Proc.target (h .procedure)
  obtain rfl : columns = columns' := congrArg Proc.columns (h .items)
  obtain rfl : arguments = arguments' := congrArg Proc.arguments (h .arguments)
  obtain rfl : filter = filter' := congrArg Proc.filter (h .filter)
  obtain rfl : order = order' := congrArg Proc.order (h .order)
  obtain rfl : limit = limit' := congrArg Proc.limit (h .limit)
  obtain rfl : counted = counted' := congrArg Proc.counted (h .rowCount)
  obtain rfl : readOnly = readOnly' := congrArg Proc.readOnly (h .readOnly)
  rfl

end Proc

namespace Kind

/-- The family of a call. -/
def family : (k : Kind) → k.Call → Family
  | select => Select.Call.family
  | insert => Insert.Call.family
  | update => Update.Call.family
  | delete => Delete.Call.family
  | proc => Proc.Call.family

/-- The builder of which only the part of a family is configured. -/
def cut : (k : Kind) → Family → k.Builder → k.Builder
  | select => Select.cut
  | insert => Insert.cut
  | update => Update.cut
  | delete => Delete.cut
  | proc => Proc.cut

/-- The calls of a family. -/
def ofFamily (k : Kind) (f : Family) (calls : List k.Call) : List k.Call :=
  calls.filter fun c ↦ k.family c = f

/-- The error with which a call is refused, if it is. -/
def refusal? (k : Kind) (b : k.Builder) (c : k.Call) : Option Error :=
  match k.apply b c with
  | .error e => some e
  | .ok _ => none

/-- Calls one after the other, each with its refusal if there is one. A refused call changes
nothing. -/
def outcomes (k : Kind) (b : k.Builder) : List k.Call → List (k.Call × Option Error)
  | [] => []
  | c :: cs => (c, k.refusal? b c) :: k.outcomes (next b c) cs

/-- The calls that are not refused when they are made one after the other. -/
def acceptedCalls (k : Kind) (b : k.Builder) (calls : List k.Call) : List k.Call :=
  ((k.outcomes b calls).filter fun o ↦ o.2.isNone).map (·.1)

variable {k : Kind} {f : Family}

/-- A call does to the part of its family what it does to the whole builder. -/
theorem apply_cut (b : k.Builder) (c : k.Call) :
    k.apply (k.cut (k.family c) b) c =
      (k.apply b c).map fun l ↦ l.map (k.cut (k.family c)) := by
  cases k with
  | select => exact Select.apply_cut b c
  | insert => exact Insert.apply_cut b c
  | update => exact Update.apply_cut b c
  | delete => exact Delete.apply_cut b c
  | proc => exact Proc.apply_cut b c

/-- A call keeps the parts of all other families. -/
theorem cut_of_apply {b : k.Builder} {c : k.Call} (h : k.family c ≠ f) {l : Logged k.Builder}
    (hl : k.apply b c = .ok l) : k.cut f l.value = k.cut f b := by
  cases k with
  | select => exact Select.cut_of_apply h hl
  | insert => exact Insert.cut_of_apply h hl
  | update => exact Update.cut_of_apply h hl
  | delete => exact Delete.cut_of_apply h hl
  | proc => exact Proc.cut_of_apply h hl

/-- A builder is made up of its parts. -/
theorem eq_of_cut {b b' : k.Builder} (h : ∀ f, k.cut f b = k.cut f b') : b = b' := by
  cases k with
  | select => exact Select.eq_of_cut h
  | insert => exact Insert.eq_of_cut h
  | update => exact Update.eq_of_cut h
  | delete => exact Delete.eq_of_cut h
  | proc => exact Proc.eq_of_cut h

/-! ## Calls of one family among others -/

/-- The part of a family after a call comes from the calls of that family alone. -/
theorem cut_next (b : k.Builder) (c : k.Call) :
    k.cut f (next b c) = if k.family c = f then next (k.cut f b) c else k.cut f b := by
  split
  · next h =>
    subst h
    rw [next, next, apply_cut]
    cases k.apply b c <;> rfl
  · next h =>
    rw [next]
    cases hb : k.apply b c with
    | error e => rfl
    | ok l => exact cut_of_apply h hb

/-- What is seen of the part of one family is not changed by the calls of the others. -/
theorem view_next_of_family {σ : Type} {view : k.Builder → σ}
    (hview : ∀ b, view (k.cut f b) = view b) {c : k.Call} (h : k.family c ≠ f) (b : k.Builder) :
    view (next b c) = view b := by
  rw [← hview, cut_next, if_neg h, hview]

/-- The part of a family comes from the calls of that family alone. -/
theorem cut_run (b : k.Builder) (calls : List k.Call) :
    k.cut f (k.run b calls).value = (k.run (k.cut f b) (k.ofFamily f calls)).value := by
  refine run_filter (fun b c ↦ ?_) b calls
  simpa using cut_next b c

/-- Whether a call is refused depends on the part of its family alone. -/
theorem refusal_cut (b : k.Builder) (c : k.Call) :
    k.refusal? (k.cut (k.family c) b) c = k.refusal? b c := by
  rw [refusal?, refusal?, apply_cut]
  cases k.apply b c <;> rfl

/-- The outcomes of the calls of a family depend on these calls alone. -/
theorem outcomes_cut (b : k.Builder) (calls : List k.Call) :
    (k.outcomes b calls).filter (fun o ↦ k.family o.1 = f) =
      k.outcomes (k.cut f b) (k.ofFamily f calls) := by
  -- the builder changes with every call, but its part only with those of the family
  induction calls generalizing b with
  | nil => rfl
  | cons c cs ih =>
    have hcut := cut_next (f := f) b c
    rw [outcomes, ofFamily]
    by_cases h : k.family c = f
    · rw [if_pos h] at hcut
      rw [List.filter_cons_of_pos (by simpa using h), List.filter_cons_of_pos (by simpa using h),
        outcomes, ih, hcut, ← h, refusal_cut]
      rfl
    · rw [if_neg h] at hcut
      rw [List.filter_cons_of_neg (by simpa using h), List.filter_cons_of_neg (by simpa using h),
        ih, hcut]
      rfl

/-! ## Refused calls -/

/-- A call that is refused changes nothing. -/
theorem next_of_refusal {b : k.Builder} {c : k.Call} {e : Error} (h : k.refusal? b c = some e) :
    next b c = b := by
  rw [refusal?] at h
  rw [next]
  cases hb : k.apply b c with
  | error e' => rfl
  | ok l =>
    rw [hb] at h
    cases h

/-- A refused call may be left out: there is not even an event of it. -/
theorem run_cons_of_refusal {b : k.Builder} {c : k.Call} {e : Error}
    (h : k.refusal? b c = some e) (cs : List k.Call) : k.run b (c :: cs) = k.run b cs := by
  rw [refusal?] at h
  rw [run]
  cases hb : k.apply b c with
  | error e' => rfl
  | ok l =>
    rw [hb] at h
    cases h

/-- A refused call among others may be left out. -/
theorem run_append_cons_of_refusal {b : k.Builder} {before : List k.Call} {c : k.Call} {e : Error}
    (h : k.refusal? (k.run b before).value c = some e) (more : List k.Call) :
    k.run b (before ++ c :: more) = k.run b (before ++ more) := by
  rw [run_append, run_append]
  simp only [run_cons_of_refusal h]

/-- Behind a call that is accepted, the others go on with what it has done and reported. -/
theorem run_cons_of_accepted {b : k.Builder} {c : k.Call} (h : k.refusal? b c = none) :
    ∃ l, k.apply b c = .ok l ∧ next b c = l.value := by
  rw [refusal?] at h
  rw [next]
  cases hb : k.apply b c with
  | error e =>
    rw [hb] at h
    cases h
  | ok l => exact ⟨l, rfl, rfl⟩

/-- A refused call is not among the accepted ones. -/
theorem acceptedCalls_cons (b : k.Builder) (c : k.Call) (cs : List k.Call) :
    k.acceptedCalls b (c :: cs) =
      if (k.refusal? b c).isNone then c :: k.acceptedCalls (next b c) cs
      else k.acceptedCalls b cs := by
  rw [acceptedCalls, outcomes]
  cases h : k.refusal? b c with
  | none => rfl
  | some e =>
    rw [next_of_refusal h]
    rfl

/-- Made without the refused calls, no call is refused. -/
theorem outcomes_acceptedCalls (b : k.Builder) (calls : List k.Call) :
    k.outcomes b (k.acceptedCalls b calls) = (k.outcomes b calls).filter fun o ↦ o.2.isNone := by
  induction calls generalizing b with
  | nil => rfl
  | cons c cs ih =>
    rw [acceptedCalls_cons, outcomes]
    cases h : k.refusal? b c with
    | none =>
      show k.outcomes b (c :: _) = (c, none) :: _
      rw [outcomes, ih, h]
    | some e =>
      rw [next_of_refusal h]
      exact ih b

/-- The refused calls may be left out. -/
theorem run_acceptedCalls (b : k.Builder) (calls : List k.Call) :
    k.run b (k.acceptedCalls b calls) = k.run b calls := by
  induction calls generalizing b with
  | nil => rfl
  | cons c cs ih =>
    rw [acceptedCalls_cons]
    cases h : k.refusal? b c with
    | none =>
      obtain ⟨l, hl, hnext⟩ := run_cons_of_accepted h
      show k.run b (c :: _) = _
      rw [run, run, hl, hnext]
      simp only [ih]
    | some e =>
      rw [run_cons_of_refusal h]
      exact ih b

/-! ## Calls in another order -/

/-- Calls that agree family by family lead to the same builder. -/
theorem value_run_congr {b : k.Builder} {calls calls' : List k.Call}
    (h : ∀ f, k.ofFamily f calls = k.ofFamily f calls') :
    (k.run b calls).value = (k.run b calls').value := by
  refine eq_of_cut fun f ↦ ?_
  rw [cut_run, cut_run, h]

/-- Calls that agree in one family lead to the same view of its part. -/
theorem view_run_congr {σ : Type} {view : k.Builder → σ} (hview : ∀ b, view (k.cut f b) = view b)
    {b : k.Builder} {calls calls' : List k.Call} (h : k.ofFamily f calls = k.ofFamily f calls') :
    view (k.run b calls).value = view (k.run b calls').value := by
  rw [← hview, cut_run, h, ← cut_run, hview]

/-- Calls that agree family by family have the same outcomes, whatever the order in which the
families take turns: in each family, the same calls are refused with the same errors, and in the end
there is the same builder, which answers the same. The refused calls may be left out: nothing else
is refused then, and builder and events are the same. -/
theorem run_eq_of_families (k : Kind) (d : Dialect) {calls calls' : List k.Call}
    (h : ∀ f, k.ofFamily f calls = k.ofFamily f calls') :
    let start := k.new d
    let b := (k.run start calls).value
    let b' := (k.run start calls').value
    (∀ f, (k.outcomes start calls).filter (fun o ↦ k.family o.1 = f) =
      (k.outcomes start calls').filter (fun o ↦ k.family o.1 = f)) ∧
    b = b' ∧
    (∀ terminate, k.build b terminate = k.build b' terminate) ∧
    k.whereClause? b = k.whereClause? b' ∧
    (∀ made, k.run start (k.acceptedCalls start made) = k.run start made ∧
      k.outcomes start (k.acceptedCalls start made) =
        (k.outcomes start made).filter fun o ↦ o.2.isNone) := by
  intro start b b'
  have hb : b = b' := value_run_congr h
  refine ⟨fun f ↦ ?_, hb, fun terminate ↦ ?_, ?_, fun made ↦ ⟨?_, ?_⟩⟩
  · rw [outcomes_cut, outcomes_cut, h]
  · rw [hb]
  · rw [hb]
  · exact run_acceptedCalls start made
  · exact outcomes_acceptedCalls start made

/-- Calls of a procedure call in two orders. In both, the group comes too early and the first name
is none of a procedure. -/
theorem run_eq_of_families_refused :
    let early : Proc.Call := .filter (.joinGroup .or .and [.compare .eq "a" "?"])
    let wrong : Proc.Call := .call .perform "drop table"
    let right : Proc.Call := .call .rows "totals"
    let conditions : Proc.Call := .filter (.require [.compare .gt "score" "?"])
    let calls : List Proc.Call := [early, wrong, .select ["id"], right, conditions, .countRows]
    let calls' : List Proc.Call := [.countRows, wrong, right, early, .select ["id"], conditions]
    let start := proc.new (.ofEngine .postgres)
    let b' := (proc.run start calls').value
    (∀ f, proc.ofFamily f calls = proc.ofFamily f calls') ∧
      (proc.outcomes start calls').filter (fun o ↦ proc.family o.1 = .procedure) =
        [(wrong, some (.invalidProcName "drop table")), (right, none)] ∧
      (proc.outcomes start calls').filter (fun o ↦ proc.family o.1 = .filter) =
        [(early, some .missingWhere), (conditions, none)] ∧
      (proc.build b' true).value.sql =
        "select id, count(*) over() as rowscount from totals() where (score>$1);" ∧
      (proc.run start [.countRows, right, .select ["id"], conditions]).value = b' := by
  intro early wrong right conditions calls calls' start b'
  have hfamilies : ∀ f, proc.ofFamily f calls = proc.ofFamily f calls' := by
    intro f
    cases f <;> rfl
  obtain ⟨houtcomes, -, -, -, hkept⟩ := run_eq_of_families proc (.ofEngine .postgres) hfamilies
  refine ⟨hfamilies, (houtcomes .procedure).symm.trans rfl, (houtcomes .filter).symm.trans rfl,
    ?_, ?_⟩
  · have hrun : b' = { Proc.new (.ofEngine .postgres) with
        target := some (.ofString "totals", .rows)
        columns := [.ofString "id"]
        filter := ⟨[⟨none, .and, [.compare .gt "score" "?"]⟩], true⟩
        counted := true } := rfl
    rw [hrun]
    cbv
  · have hrun := congrArg Logged.value (hkept calls').1
    exact hrun

end Kind

end SqlStatement
