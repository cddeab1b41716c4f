import SqlStatement.Proofs.Statement

/-!
# Builders in another dialect

The dialect of a builder is chosen when it is made.  No call reads or changes it, so the same calls
lead to the same builder, but for the dialect, whatever the dialect is (`Kind.run_redirected`).  A
template does not depend on it either, and what is lacking depends on the engine alone.
-/

namespace SqlStatement

/-- The same query in another dialect. -/
def Select.redirected (d : Dialect) (q : Select) : Select := { q with dialect := d }

/-- The same insertion in another dialect. -/
def Insert.redirected (d : Dialect) (i : Insert) : Insert := { i with dialect := d }

/-- The same update in another dialect. -/
def Update.redirected (d : Dialect) (u : Update) : Update := { u with dialect := d }

/-- The same deletion in another dialect. -/
def Delete.redirected (d : Dialect) (x : Delete) : Delete := { x with dialect := d }

/-- The same procedure call in another dialect. -/
def Proc.redirected (d : Dialect) (p : Proc) : Proc := { p with dialect := d }

/-- The dialect of a query has no part in its template. -/
theorem Select.template_redirected (d : Dialect) (q : Select) (nested : Bool) :
    (q.redirected d).template nested = q.template nested := by
  rw [Select.template_eq, Select.template_eq]
  rfl

/-! ## Calls -/

/-- What is done with the clause after a call may be done in two steps. -/
theorem Where.map_apply {α : Type} (w : Where) (call : Call) (f : Where → α) (g : α → α) :
    ((w.apply call).map fun v ↦ Logged.silent (f v)).map (fun l ↦ l.map g) =
      (w.apply call).map fun v ↦ Logged.silent (g (f v)) := by
  cases w.apply call <;> rfl

theorem Select.apply_redirected (d : Dialect) (q : Select) (c : Call) :
    (q.redirected d).apply c = (q.apply c).map fun l ↦ l.map (redirected d) := by
  cases c with
  | table table label =>
    by_cases h : Text.lowercase (Text.trim table) = ""
    · simp only [apply, Select.table, if_pos h]
      rfl
    · simp only [apply, Select.table, if_neg h]
      rfl
  | filter call =>
    exact (q.filter.map_apply call (fun w ↦ { q with filter := w }) (redirected d)).symm
  | _ => rfl

theorem Insert.apply_redirected (d : Dialect) (i : Insert) (c : Call) :
    (i.redirected d).apply c = (i.apply c).map fun l ↦ l.map (redirected d) := by
  cases c <;> rfl

theorem Update.apply_redirected (d : Dialect) (u : Update) (c : Call) :
    (u.redirected d).apply c = (u.apply c).map fun l ↦ l.map (redirected d) := by
  cases c with
  | calculate column value =>
    cases h : (Name.ofString column).isEmpty
    · simp only [apply, calculate, h]
      rfl
    · simp only [apply, calculate, h]
      rfl
  | filter call =>
    exact (u.filter.map_apply call (fun w ↦ { u with filter := w }) (redirected d)).symm
  | _ => rfl

theorem Delete.apply_redirected (d : Dialect) (x : Delete) (c : Call) :
    (x.redirected d).apply c = (x.apply c).map fun l ↦ l.map (redirected d) := by
  cases c with
  | filter call =>
    exact (x.filter.map_apply call (fun w ↦ { x with filter := w }) (redirected d)).symm
  | _ => rfl

theorem Proc.apply_redirected (d : Dialect) (p : Proc) (c : Call) :
    (p.redirected d).apply c = (p.apply c).map fun l ↦ l.map (redirected d) := by
  cases c with
  | call mode name =>
    simp only [apply, call]
    cases checkName name <;> rfl
  | filter call =>
    exact (p.filter.map_apply call (fun w ↦ { p with filter := w }) (redirected d)).symm
  | _ => rfl

namespace Kind

/-- The same builder in another dialect. -/
def redirected : (k : Kind) → Dialect → k.Builder → k.Builder
  | select => Select.redirected
  | insert => Insert.redirected
  | update => Update.redirected
  | delete => Delete.redirected
  | proc => Proc.redirected

variable (k : Kind) (d : Dialect) (b : k.Builder)

theorem redirected_new (d' : Dialect) : k.redirected d (k.new d') = k.new d := by
  cases k <;> rfl

@[simp] theorem dialect_redirected : k.dialect (k.redirected d b) = d := by
  cases k <;> rfl

@[simp] theorem readOnly_redirected : k.readOnly (k.redirected d b) = k.readOnly b := by
  cases k <;> rfl

@[simp] theorem template_redirected (e : Engine) :
    k.template (k.redirected d b) e = k.template b e := by
  cases k with
  | select => exact Select.template_redirected d b false
  | insert => rfl
  | update => rfl
  | delete => rfl
  | proc => rfl

@[simp] theorem returning_redirected :
    k.returning (k.redirected d b) = k.returning b := by
  cases k <;> rfl

/-- A call does the same in another dialect. -/
theorem apply_redirected (c : k.Call) :
    k.apply (k.redirected d b) c = (k.apply b c).map fun l ↦ l.map (k.redirected d) := by
  cases k with
  | select => exact Select.apply_redirected d b c
  | insert => exact Insert.apply_redirected d b c
  | update => exact Update.apply_redirected d b c
  | delete => exact Delete.apply_redirected d b c
  | proc => exact Proc.apply_redirected d b c

/-- Calls do the same in another dialect. -/
theorem run_redirected (calls : List k.Call) :
    k.run (k.redirected d b) calls = (k.run b calls).map (k.redirected d) := by
  induction calls generalizing b with
  | nil => rfl
  | cons c cs ih =>
    rw [run, run, apply_redirected]
    cases k.apply b c with
    | error e => exact ih b
    | ok l => simp only [Except.map, Logged.map, ih]

/-- The same calls lead to the same builder in every dialect. -/
theorem run_new_value (d' : Dialect) (calls : List k.Call) :
    (k.run (k.new d) calls).value = k.redirected d (k.run (k.new d') calls).value := by
  rw [← k.redirected_new d d', run_redirected, Logged.value_map]

/-- Calls keep the dialect. -/
theorem dialect_run (calls : List k.Call) : k.dialect (k.run (k.new d) calls).value = d := by
  have hrun := k.run_new_value d d calls
  exact (congrArg k.dialect hrun).trans (k.dialect_redirected d _)

end Kind

end SqlStatement
