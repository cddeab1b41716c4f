import SqlStatement.Proofs.Credits

/-!
# The clause that calls make

A clause accepts no group before a plain list of conditions has opened it, and every call after
that; an accepted call with conditions adds one group, and the first group that is added joins none.
So a clause can be told from its calls (`Where.groups_foldl`, `Where.printer_chain`).
-/

namespace SqlStatement

namespace Where

namespace Call

/-- A plain list of conditions opens the clause. -/
def opens : Call → Bool
  | require _ => true
  | joinGroup .. => false

/-- How the conditions of a call join the groups before them. -/
def join : Call → Conjunction
  | require _ => .and
  | joinGroup join _ _ => join

/-- How the conditions of a call are joined. -/
def inner : Call → Conjunction
  | require _ => .and
  | joinGroup _ inner _ => inner

/-- The conditions of a call. -/
def conditions : Call → List Condition
  | require conditions => conditions
  | joinGroup _ _ conditions => conditions

/-- A call with conditions adds a group if it is accepted. -/
def hasConditions (c : Call) : Bool := !c.conditions.isEmpty

/-- The group of a call behind other groups. -/
def laterGroup (c : Call) : Group := ⟨some c.join, c.inner, c.conditions⟩

/-- Writes the conditions of a call in the order of their fields, in round brackets. -/
def brackets (c : Call) : Printer :=
  .bracketed (.separated c.inner.withinGroup (c.laterGroup.arranged.map Condition.printer))

end Call

/-- The clause after a call. A refused call changes nothing. -/
def next (w : Where) (c : Call) : Where :=
  match w.apply c with
  | .error _ => w
  | .ok w' => w'

/-- The calls that a clause accepts: those from the first plain list of conditions on. -/
def accepted (calls : List Call) : List Call := calls.dropWhile fun c ↦ !c.opens

/-- The accepted calls that have conditions. -/
def contributing (calls : List Call) : List Call := (accepted calls).filter Call.hasConditions

/-- The groups that calls with conditions make if all are accepted. The first joins none, whatever
its call says. -/
def chain : List Call → List Group
  | [] => []
  | c :: cs => ⟨none, c.inner, c.conditions⟩ :: cs.map Call.laterGroup

/-- Writes the clause that calls with conditions make if all are accepted. -/
def chainPrinter : List Call → Printer
  | [] => .nothing
  | c :: cs =>
    .text "where " ++
      (c.brackets ++ .concat (cs.map fun c ↦ .text c.join.betweenGroups ++ c.brackets))

/-! ## What a call does to a clause -/

variable {w : Where} {c : Call}

@[simp] theorem opened_push (w : Where) (join inner : Conjunction) (conditions : List Condition) :
    (w.push join inner conditions).opened = w.opened := by
  unfold push
  split <;> rfl

/-- Nothing happens to an open clause if it is opened once more. -/
theorem opened_eq_self (h : w.opened = true) : { w with opened := true } = w := by
  obtain ⟨groups, opened⟩ := w
  obtain rfl : opened = true := h
  rfl

/-- A call is refused exactly if the clause is not open and the call does not open it. -/
theorem apply_eq (w : Where) (c : Call) :
    w.apply c =
      if w.opened || c.opens then
        .ok { w.push c.join c.inner c.conditions with opened := true }
      else .error .missingWhere := by
  cases c with
  | require conditions => simp [apply, require, Call.opens, Call.join, Call.inner, Call.conditions]
  | joinGroup join inner conditions =>
    simp only [apply, joinGroup, Call.opens, Bool.or_false, Call.join, Call.inner, Call.conditions]
    split
    · next ho =>
      have hpush : (w.push join inner conditions).opened = true := by rw [opened_push, ho]
      rw [opened_eq_self hpush]
    · rfl

theorem apply_eq_error_iff :
    w.apply c = .error .missingWhere ↔ w.opened = false ∧ c.opens = false := by
  rw [apply_eq]
  cases w.opened <;> cases c.opens <;> simp

theorem next_eq (w : Where) (c : Call) :
    w.next c =
      if w.opened || c.opens then { w.push c.join c.inner c.conditions with opened := true }
      else w := by
  rw [next, apply_eq]
  cases w.opened || c.opens <;> rfl

@[simp] theorem opened_next (w : Where) (c : Call) : (w.next c).opened = (w.opened || c.opens) := by
  rw [next_eq]
  split
  · next h => exact h.symm
  · next h => simp_all

/-- A call without conditions leaves an open clause as it is. -/
theorem next_of_conditions_eq_nil (ho : w.opened = true) (hc : c.conditions = []) :
    w.next c = w := by
  rw [next_eq, ho, hc, Bool.true_or, if_pos rfl, push, List.isEmpty_nil, if_pos rfl]
  exact opened_eq_self ho

/-- The clause is open once a call has opened it. -/
theorem opened_foldl (w : Where) (calls : List Call) :
    (calls.foldl next w).opened = (w.opened || calls.any Call.opens) := by
  induction calls generalizing w with
  | nil => simp
  | cons c cs ih => rw [List.foldl_cons, ih, opened_next, List.any_cons, Bool.or_assoc]

/-! ## Well-formed clauses -/

/-- Every group of a clause has conditions, and every group but the first joins those before it. -/
structure WellFormed (w : Where) : Prop where
  conditions_ne_nil : ∀ g ∈ w.groups, g.conditions ≠ []
  join_head : ∀ g ∈ w.groups.head?, g.join = none
  join_tail : ∀ g ∈ w.groups.tail, g.join ≠ none

theorem wellFormed_empty : empty.WellFormed where
  conditions_ne_nil _ h := absurd h List.not_mem_nil
  join_head _ h := absurd h (Option.not_mem_none _)
  join_tail _ h := absurd h List.not_mem_nil

theorem WellFormed.push (h : w.WellFormed) (join inner : Conjunction)
    (conditions : List Condition) : (w.push join inner conditions).WellFormed := by
  unfold Where.push
  split
  · exact h
  · next hne =>
    obtain ⟨groups, opened⟩ := w
    have hconditions : conditions ≠ [] := fun he ↦ hne (List.isEmpty_iff.mpr he)
    cases groups with
    | nil =>
      refine ⟨fun g hg ↦ ?_, fun g hg ↦ ?_, fun g hg ↦ absurd hg List.not_mem_nil⟩
      · obtain rfl := List.mem_singleton.mp hg
        exact hconditions
      · obtain rfl := Option.some.inj hg
        rfl
    | cons g₀ gs =>
      refine ⟨fun g hg ↦ ?_, h.join_head, fun g hg ↦ ?_⟩
      · rcases List.mem_append.mp hg with hg | hg
        · exact h.conditions_ne_nil g hg
        · obtain rfl := List.mem_singleton.mp hg
          exact hconditions
      · rcases List.mem_append.mp hg with hg | hg
        · exact h.join_tail g hg
        · obtain rfl := List.mem_singleton.mp hg
          exact Option.some_ne_none _

/-- A call keeps a clause well-formed. -/
theorem WellFormed.next (h : w.WellFormed) (c : Call) : (w.next c).WellFormed := by
  rw [next_eq]
  split
  · have hpush := h.push c.join c.inner c.conditions
    exact ⟨hpush.conditions_ne_nil, hpush.join_head, hpush.join_tail⟩
  · exact h

/-- Calls keep a clause well-formed. -/
theorem WellFormed.foldl (h : w.WellFormed) (calls : List Call) :
    (calls.foldl Where.next w).WellFormed := by
  induction calls generalizing w with
  | nil => exact h
  | cons c cs ih => exact ih (h.next c)

/-! ## The groups of a clause -/

@[simp] theorem isEmpty_chain (calls : List Call) : (chain calls).isEmpty = calls.isEmpty := by
  cases calls <;> rfl

/-- One more call adds one more group. -/
theorem chain_concat (calls : List Call) (c : Call) :
    chain (calls ++ [c]) =
      chain calls ++
        [⟨if (chain calls).isEmpty then none else some c.join, c.inner, c.conditions⟩] := by
  cases calls with
  | nil => rfl
  | cons c₀ cs => simp [chain, Call.laterGroup]

/-- An open clause takes the groups of all calls with conditions. -/
theorem groups_foldl_of_opened (ho : w.opened = true) {done : List Call}
    (hg : w.groups = chain done) (calls : List Call) :
    (calls.foldl next w).groups = chain (done ++ calls.filter Call.hasConditions) := by
  induction calls generalizing w done with
  | nil => rw [List.filter_nil, List.append_nil, List.foldl_nil, hg]
  | cons c cs ih =>
    by_cases hc : c.conditions = []
    · have hskip : c.hasConditions = false := by simp [Call.hasConditions, hc]
      rw [List.foldl_cons, next_of_conditions_eq_nil ho hc, ih ho hg,
        List.filter_cons_of_neg (by simp [hskip])]
    · have hkeep : c.hasConditions = true := by simp [Call.hasConditions, hc]
      have hgroups : (w.next c).groups = chain (done ++ [c]) := by
        rw [next_eq, ho, chain_concat, ← hg]
        simp [push, hc]
      have hopened : (w.next c).opened = true := by rw [opened_next, ho, Bool.true_or]
      rw [List.foldl_cons, ih hopened hgroups, List.filter_cons_of_pos hkeep, List.append_assoc,
        List.singleton_append]

/-- A clause has one group for each accepted call with conditions. -/
theorem groups_foldl (calls : List Call) :
    (calls.foldl next empty).groups = chain (contributing calls) := by
  induction calls with
  | nil => rfl
  | cons c cs ih =>
    have hnext := next_eq empty c
    cases ho : c.opens with
    | false =>
      have hskip : accepted (c :: cs) = accepted cs := by simp [accepted, ho]
      rw [ho] at hnext
      rw [List.foldl_cons, hnext, contributing, hskip]
      exact ih
    | true =>
      have hall : accepted (c :: cs) = c :: cs := by simp [accepted, ho]
      have hopened : (empty.next c).opened = true := by rw [opened_next, ho, Bool.or_true]
      have hgroups : (empty.next c).groups = chain ([c].filter Call.hasConditions) := by
        rw [hnext, ho]
        cases hc : c.conditions <;> simp [push, empty, chain, Call.hasConditions, hc]
      rw [List.foldl_cons, groups_foldl_of_opened hopened hgroups, contributing, hall,
        ← List.filter_append, List.singleton_append]

/-! ## The text of a clause -/

/-- A text without characters leaves the page as it is. -/
theorem empty_text_append (a : Printer) : Printer.text "" ++ a = a := by
  funext s p
  rw [Printer.append_apply, Printer.text, String.append_empty]

/-- The groups of calls are written in round brackets, each but the first behind its conjunction. -/
theorem printer_chain {calls : List Call} (h : w.groups = chain calls) :
    w.printer = chainPrinter calls := by
  obtain ⟨groups, opened⟩ := w
  obtain rfl : groups = chain calls := h
  rw [Where.printer, Layout.clause, groupPrinters_eq_map]
  cases calls with
  | nil => rfl
  | cons c cs =>
    have hfirst : Group.printer ⟨none, c.inner, c.conditions⟩ = c.brackets := by
      rw [Group.printer_eq]
      exact empty_text_append _
    have hlater : (cs.map Call.laterGroup).map Group.printer =
        cs.map fun c ↦ .text c.join.betweenGroups ++ c.brackets := by
      rw [List.map_map]
      exact List.map_congr_left fun c _ ↦ c.laterGroup.printer_eq
    simp only [chain, List.map_cons, List.isEmpty_cons, hfirst, hlater]
    rfl

/-- There is something in the brackets of a call that has conditions, unless it has but one, which
writes nothing. -/
theorem Call.exists_of_text_brackets (hc : c.conditions ≠ []) {s : Setting} {p : Page}
    (h : (c.brackets s p).text = p.text ++ "()") :
    ∃ x, c.conditions = [x] ∧ (x.printer s p).text = p.text := by
  have hbrackets : c.brackets.Writes s (Template.joined c.inner.withinGroup
      (c.laterGroup.arranged.map Condition.template)).bracketed :=
    (Printer.Writes.separated (fun x _ ↦ x.printer_writes_template s) _).bracketed
  have hinside : (Template.joined c.inner.withinGroup
      (c.laterGroup.arranged.map Condition.template)).render s.dialect p.tally.paramCount = "" := by
    rw [hbrackets.apply, Template.render_bracketed] at h
    have h : p.text ++ ("(" ++ _ ++ ")") = p.text ++ ("(" ++ "" ++ ")") := h
    simpa only [String.append_right_inj, String.append_left_inj] using h
  have hperm : c.laterGroup.arranged.Perm c.conditions := c.laterGroup.arranged_perm
  match harranged : c.laterGroup.arranged with
  | [] => exact absurd (harranged ▸ hperm).nil_eq.symm hc
  | [x] =>
    rw [harranged] at hinside hperm
    refine ⟨x, (List.perm_singleton.mp hperm.symm), ?_⟩
    have hx : x.template.render s.dialect p.tally.paramCount = "" := hinside
    rw [(x.printer_writes_template s).apply, hx, String.append_empty]
  | x :: y :: r =>
    rw [harranged] at hinside
    have hsep : c.inner.withinGroup ≠ "" := by cases c.inner <;> decide
    exact absurd hinside (Template.render_joined_ne_empty hsep _ _ _ _ _)

end Where

end SqlStatement
