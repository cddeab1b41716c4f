import SqlStatement.Builder.Statement

/-!
# What calls leave behind

A run of calls is a fold of single steps (`Kind.value_run`).  So two questions about all calls are
settled by looking at one: how a part of a builder follows from the calls (`Kind.view_run`), and
which calls may be left out without a trace in what one looks at (`Kind.run_filter`).
-/

namespace SqlStatement.Kind

variable {k : Kind}

/-- The builder after a call. A refused call changes nothing. -/
def next (b : k.Builder) (c : k.Call) : k.Builder :=
  match k.apply b c with
  | .error _ => b
  | .ok l => l.value

/-- The builder after calls comes from one step after the other. -/
theorem value_run (b : k.Builder) (calls : List k.Call) :
    (k.run b calls).value = calls.foldl next b := by
  induction calls generalizing b with
  | nil => rfl
  | cons c cs ih =>
    rw [run, List.foldl_cons, next]
    cases k.apply b c with
    | error e => exact ih b
    | ok l => exact ih l.value

/-- One more call at the end of a run is one more step. -/
theorem value_run_concat (b : k.Builder) (calls : List k.Call) (c : k.Call) :
    (k.run b (calls ++ [c])).value = next (k.run b calls).value c := by
  rw [value_run, value_run, List.foldl_append]
  rfl

/-! ## What calls report -/

/-- What a call reports. A refused call reports nothing. -/
def reported (b : k.Builder) (c : k.Call) : List Event :=
  match k.apply b c with
  | .error _ => []
  | .ok l => l.events

/-- If a view of a builder tells its view after any call, then the view before some calls tells the
view behind them. -/
theorem view_run {σ : Type} {view : k.Builder → σ} {step : σ → k.Call → σ}
    (h : ∀ b c, step (view b) c = view (next b c)) (b : k.Builder) (calls : List k.Call) :
    view (k.run b calls).value = calls.foldl step (view b) := by
  rw [value_run, List.foldl_hom view h]

/-- Calls of which nothing is left when a builder is cut down may be left out: the builder that is
cut down first and then takes the other calls is the same. -/
theorem run_filter {cut : k.Builder → k.Builder} {keep : k.Call → Bool}
    (h : ∀ b c, cut (next b c) = if keep c then next (cut b) c else cut b) (b : k.Builder)
    (calls : List k.Call) :
    cut (k.run b calls).value = (k.run (cut b) (calls.filter keep)).value := by
  rw [value_run, value_run, List.foldl_filter]
  exact (List.foldl_hom cut fun b c ↦ (h b c).symm).symm

/-- A call that does nothing leaves the other calls to what they do without it. -/
theorem run_cons_of_silent {b : k.Builder} {c : k.Call} (h : k.apply b c = .ok (.silent b))
    (cs : List k.Call) : k.run b (c :: cs) = k.run b cs := by
  rw [run, h]
  rfl

/-- A call that does nothing may be left out: there is not even an event of it. -/
theorem run_skip {c : k.Call} (h : ∀ b, k.apply b c = .ok (.silent b)) (b : k.Builder)
    (calls more : List k.Call) : k.run b (calls ++ c :: more) = k.run b (calls ++ more) := by
  rw [run_append, run_append]
  simp only [run_cons_of_silent (h _)]

/-- All calls that do nothing may be left out. -/
theorem run_filter_of_silent {keep : k.Call → Bool}
    (h : ∀ b c, keep c = false → k.apply b c = .ok (.silent b)) (b : k.Builder)
    (calls : List k.Call) : k.run b (calls.filter keep) = k.run b calls := by
  induction calls generalizing b with
  | nil => rfl
  | cons c cs ih =>
    cases hc : keep c with
    | false =>
      rw [List.filter_cons_of_neg (by simp [hc]), run_cons_of_silent (h b c hc)]
      exact ih b
    | true =>
      rw [List.filter_cons_of_pos hc, run, run]
      cases k.apply b c with
      | error e => exact ih b
      | ok l => simp only [ih]

end SqlStatement.Kind
