import SqlStatement.Proofs.Fields
import SqlStatement.Proofs.Overwrites

/-!
# The log

A build reports what became of it: that there is nothing to render, or that a statement is built,
and before this the returning columns that the engine cannot return (`Kind.events_build`).  Nothing
else is reported while a statement is written, however deep queries are nested in it
(`Kind.events_template`), nor when a clause is written by itself.  So the log of a session, in which
any number of builders are configured and built in turn, is made up of what its steps report, and
every build has one event in it that tells its outcome (`Session.logs_steps`).
-/

namespace SqlStatement

/-- The event tells what became of a build. -/
def Event.isOutcome : Event → Bool
  | nothingToRender .. | built .. => true
  | tableOverwritten .. | calculationOverwritten .. | returningSkipped .. => false

namespace Template

/-- What is reported of returning columns: an engine that cannot return them leaves them out. -/
def skipped (e : Engine) (columns : List Name) : List Event :=
  if e = .mysql ∧ columns ≠ [] then [.returningSkipped columns.length] else []

@[simp] theorem skipped_nil (e : Engine) : skipped e [] = [] := if_neg fun h ↦ h.2 rfl

variable {e : Engine}

@[simp] theorem events_bracketed (t : Template) : t.bracketed.events = t.events := by
  simp [bracketed]

@[simp] theorem events_rowCountColumn (counted : Bool) : (rowCountColumn counted).events = [] := by
  cases counted <;> rfl

@[simp] theorem events_returningList (before : String) (columns : List Name) :
    (returningList before columns).events = [] := by
  simp [returningList, List.flatMap_map]

@[simp] theorem events_output (image : RowImage) (columns : List Name) :
    (output e image columns).events = [] := by
  unfold output
  split
  · rfl
  · cases e <;> simp

/-- Behind everything else, an engine lists returning columns or reports that it cannot. -/
@[simp] theorem events_trailing (columns : List Name) :
    (trailing e columns).events = skipped e columns := by
  cases columns with
  | nil => exact (skipped_nil e).symm
  | cons c cs => cases e <;> simp [trailing, skipped]

end Template

/-! ## What is reported while a statement is written -/

@[simp] theorem Where.events_spacedTemplate (w : Where) : w.spacedTemplate.events = [] :=
  w.plain_spacedTemplate.events_eq_nil

/-- Nothing is reported of a selected item, be it a sub-query. -/
theorem SelectItem.events_template (i : SelectItem) : (i.template false).events = [] := by
  cases i with
  | column name =>
    rw [template]
    rfl
  | sub query label =>
    rw [template, Template.events_append, Template.events_bracketed,
      query.writesNested.2.events_eq_nil]
    rfl

/-- Nothing is reported while a query is written. -/
theorem Select.events_template (q : Select) : (q.template false).events = [] := by
  rw [Select.template_eq]
  split
  · rfl
  · simp [Template.query, List.flatMap_map, SelectItem.events_template]

theorem Insert.events_template (i : Insert) (e : Engine) :
    (i.template e).events = Template.skipped e i.returning := by
  simp [template, List.flatMap_map]

theorem Update.Assignment.events_template (x : Assignment) : x.template.events = [] := by
  cases x with
  | plain c => rfl
  | calculated c value => simp [template, (Template.plain_ofRaw c value).events_eq_nil]

theorem Update.events_template (u : Update) (e : Engine) :
    (u.template e).events = Template.skipped e u.returning := by
  simp [template, List.flatMap_map, Assignment.events_template]

theorem Delete.events_template (x : Delete) (e : Engine) :
    (x.template e).events = Template.skipped e x.returning := by
  simp [template]

namespace Proc

@[simp] theorem events_argumentTemplate (p : Proc) : p.argumentTemplate.events = [] := by
  simp [argumentTemplate, List.flatMap_map]

/-- Nothing is reported while a procedure call is written, whatever its form. -/
theorem events_template (p : Proc) (e : Engine) : (p.template e).events = [] := by
  have hexec : ∀ name, (p.execTemplate name).events = [] := by
    intro name
    have hcolumns : Template.events (p.columns.flatMap fun c ↦ [.field c]) = [] := by
      simp [Template.events, List.flatMap_assoc]
    have harguments : Template.events
        (if p.arguments.isEmpty then [] else .text " " :: p.argumentTemplate) = [] := by
      split
      · rfl
      · simp
    simp only [execTemplate, Template.events_append, hcolumns, harguments]
    rfl
  have hperform : ∀ name, (p.performTemplate name).events = [] := fun name ↦ by
    simp [performTemplate]
  have hrows : ∀ name, (p.rowsTemplate name).events = [] := fun name ↦ by
    simp [rowsTemplate, List.flatMap_map]
  unfold template
  obtain ⟨name, mode⟩ := p.target.getD (.empty, .rows)
  cases e with
  | mssql => exact hexec name
  | postgres | mysql =>
    cases mode with
    | rows => exact hrows name
    | perform => exact hperform name

end Proc

namespace Kind

variable {k : Kind}

/-- While a statement is written, it is reported at most that returning columns are left out. -/
theorem events_template (b : k.Builder) (e : Engine) :
    (k.template b e).events = Template.skipped e (k.returning b) := by
  cases k with
  | select => exact (Select.events_template b).trans (Template.skipped_nil e).symm
  | insert => exact Insert.events_template b e
  | update => exact Update.events_template b e
  | delete => exact Delete.events_template b e
  | proc => exact (Proc.events_template b e).trans (Template.skipped_nil e).symm

/-! ## What a build reports -/

/-- A build reports what is lacking, or the returning columns that are left out and then the
statement that it answers. -/
theorem events_build (b : k.Builder) (terminate : Bool) :
    (k.build b terminate).events =
      match k.lack b with
      | some reason => [.nothingToRender reason]
      | none =>
        Template.skipped (k.dialect b).engine (k.returning b) ++
          [k.reportBuilt b (k.build b terminate).value] := by
  have hpage : ((k.printer b).alone (k.dialect b)).events =
      Template.skipped (k.dialect b).engine (k.returning b) := by
    rw [Printer.alone, (k.printer_writes b (k.dialect b)).apply, events_template]
    rfl
  rw [build_eq]
  unfold Printer.build
  cases k.lack b with
  | some reason => rfl
  | none => exact congrArg (· ++ _) hpage

/-- What the log tells of a statement: its kind and its counts, of a procedure call also the name of
the procedure, and of a deletion no number of fields. -/
def builtAttributes : (k : Kind) → k.Builder → Info → List (String × Attribute)
  | select => fun _ info ↦ [("statement", .text "select"), ("fields", .count info.fieldsCount),
    ("params", .count info.paramCount)]
  | insert => fun _ info ↦ [("statement", .text "insert"), ("fields", .count info.fieldsCount),
    ("params", .count info.paramCount)]
  | update => fun _ info ↦ [("statement", .text "update"), ("fields", .count info.fieldsCount),
    ("params", .count info.paramCount)]
  | delete => fun _ info ↦ [("statement", .text "delete"), ("params", .count info.paramCount)]
  | proc => fun (p : Proc) info ↦ [("statement", .text "proc"),
    ("name", .text (p.target.elim "" fun target ↦ target.1.text)),
    ("fields", .count info.fieldsCount), ("params", .count info.paramCount)]

end Kind

/-- A procedure call that lacks nothing tells the name of a procedure. -/
theorem Proc.record_builtEvent {p : Proc} (h : p.lack = none) (info : Info) :
    (p.builtEvent info).record =
      ("TRACE", "statement built", Kind.proc.builtAttributes p info) := by
  obtain ⟨dialect, target, columns, arguments, filter, order, limit, counted, readOnly⟩ := p
  cases target with
  | none => cases h
  | some target => rfl

namespace Kind

variable {k : Kind}

/-- The event of a statement that lacks nothing tells its attributes. -/
theorem record_reportBuilt {b : k.Builder} (h : k.lack b = none) (info : Info) :
    (k.reportBuilt b info).record = ("TRACE", "statement built", k.builtAttributes b info) := by
  cases k with
  | proc => exact Proc.record_builtEvent h info
  | select | insert | update | delete => rfl

/-- One event of a build tells its outcome. -/
theorem countP_isOutcome_build (b : k.Builder) (terminate : Bool) :
    (k.build b terminate).events.countP Event.isOutcome = 1 := by
  have hskipped : ∀ e columns, (Template.skipped e columns).countP Event.isOutcome = 0 := by
    intro e columns
    unfold Template.skipped
    split <;> rfl
  have hbuilt : ∀ info, (k.reportBuilt b info).isOutcome = true := by
    intro info
    cases k <;> rfl
  rw [events_build]
  cases k.lack b with
  | some reason => rfl
  | none => rw [List.countP_append, hskipped, List.countP_singleton, hbuilt, if_pos rfl]

/-- No event of a call tells the outcome of a build. -/
theorem countP_isOutcome_reported (b : k.Builder) (c : k.Call) :
    (reported b c).countP Event.isOutcome = 0 := by
  cases h : k.write? c with
  | none => rw [(apply_of_not_write? h).2, List.countP_nil]
  | some write =>
    have hoverwritten : ∀ v, (k.overwritten write.1 v).isOutcome = false := by
      intro v
      cases k <;> rfl
    rw [(apply_of_write? h).2, List.countP_map, List.countP_eq_zero]
    intro v _
    simp [hoverwritten]

end Kind

/-- Nothing is reported while a query is written as a sub-query. -/
theorem Select.events_subQuery (q : Select) (s : Setting) (p : Page) :
    (Printer.subQuery q.printer s p).events = p.events := by
  have hwrites : (Printer.subQuery q.printer).Writes s (q.template true).bracketed :=
    q.writesNested.subQuery_writes
  rw [hwrites.apply, Template.events_bracketed, q.writesNested.2.events_eq_nil, List.append_nil]

/-- Nothing is reported while a clause is written by itself. -/
theorem Where.events_printer (w : Where) (s : Setting) (p : Page) :
    (w.printer s p).events = p.events := by
  obtain ⟨hwrites, hplain⟩ := Where.printer_writes (s := s) (w := w) fun q _ ↦ q.writesNested
  rw [hwrites.apply, hplain.events_eq_nil, List.append_nil]

/-! ## Sessions -/

/-- Work with builders: those of each kind that there are, by their numbers, and what has been
reported, the first event first. -/
structure Session where
  builders : (k : Kind) → Nat → k.Builder
  log : List Event

namespace Session

/-- The steps of a session. -/
inductive Step
  /-- A builder is configured. -/
  | call (k : Kind) (i : Nat) (c : k.Call)
  /-- A builder takes the place of another one. -/
  | copy (k : Kind) (source target : Nat)
  | build (k : Kind) (i : Nat) (terminate : Bool)
  /-- The clause of a query is written by itself. -/
  | whereClause (i : Nat)

/-- The step is a build. -/
def Step.isBuild : Step → Bool
  | build .. => true
  | call .. | copy .. | whereClause .. => false

/-- The builders with another one in a place. -/
def put (s : Session) (k : Kind) (i : Nat) (b : k.Builder) : (k : Kind) → Nat → k.Builder :=
  Function.update s.builders k (Function.update (s.builders k) i b)

/-- The session after a step. A refused call changes nothing. -/
def next (s : Session) : Step → Session
  | .call k i c =>
    match k.apply (s.builders k i) c with
    | .error _ => s
    | .ok l => ⟨s.put k i l.value, s.log ++ l.events⟩
  | .copy k source target => { s with builders := s.put k target (s.builders k source) }
  | .build k i terminate => { s with log := s.log ++ (k.build (s.builders k i) terminate).events }
  | .whereClause i =>
    let q : Select := s.builders .select i
    { s with log := (q.filter.printer ⟨q.dialect, false⟩ ⟨"", .startingAt 0, s.log⟩).events }

/-- The session after steps. -/
def run (s : Session) (steps : List Step) : Session := steps.foldl next s

/-- What a step reports: a call what it does to its builder, and a build its outcome. -/
def reported (s : Session) : Step → List Event
  | .call k i c => Kind.reported (s.builders k i) c
  | .build k i terminate => (k.build (s.builders k i) terminate).events
  | .copy .. | .whereClause _ => []

/-- What steps report, each with the builders as the steps before it have left them. -/
def reports (s : Session) : List Step → List (List Event)
  | [] => []
  | step :: steps => s.reported step :: (s.next step).reports steps

/-- A step adds to the log what it reports. -/
theorem log_next (s : Session) (step : Step) : (s.next step).log = s.log ++ s.reported step := by
  cases step with
  | call k i c =>
    rw [next, reported, Kind.reported]
    cases k.apply (s.builders k i) c with
    | error e => exact (List.append_nil _).symm
    | ok l => rfl
  | copy k source target => exact (List.append_nil _).symm
  | build k i terminate => rfl
  | whereClause i => exact (Where.events_printer ..).trans (List.append_nil _).symm

/-- The log of steps is made up of what they report. -/
theorem log_run (s : Session) (steps : List Step) :
    (s.run steps).log = s.log ++ (s.reports steps).flatten := by
  induction steps generalizing s with
  | nil => exact (List.append_nil _).symm
  | cons step steps ih =>
    have hrest : (s.run (step :: steps)).log = _ := ih (s.next step)
    rw [hrest, log_next, reports, List.flatten_cons, List.append_assoc]

/-- Of the steps, a build alone reports an outcome, and it reports one. -/
theorem countP_isOutcome_reported (s : Session) (step : Step) :
    (s.reported step).countP Event.isOutcome = if step.isBuild then 1 else 0 := by
  cases step with
  | call k i c => exact Kind.countP_isOutcome_reported _ c
  | build k i terminate => exact Kind.countP_isOutcome_build _ terminate
  | copy k source target => rfl
  | whereClause i => rfl

/-- The log of everything that is done with builders. A build that finds nothing to render reports
the wording of its answer and nothing else; any other build reports that the statement is built,
with the counts of its answer, and before this, on the engine that cannot return columns, how many
are left out. A sub-query is written without a report, even if it selects nothing, and so is a
clause by itself. Hence the log of a session is made up of what its steps report, one after the
other, and each build has one event in it that tells its outcome. -/
theorem logs_steps :
    (∀ (k : Kind) (b : k.Builder) (terminate : Bool),
      let answer := k.build b terminate
      let info := answer.value
      answer.events.map Event.record =
        if info.diagnostic then
          [("DEBUG", "statement has nothing to render", [("diagnostic", .text info.sql)])]
        else
          (if (k.dialect b).engine = .mysql ∧ k.returning b ≠ [] then
            [("WARN", "returning columns are not supported on mysql, skipped",
              [("columns", .count (k.returning b).length)])]
          else []) ++ [("TRACE", "statement built", k.builtAttributes b info)]) ∧
    (∀ (q : Select) (w : Setting) (p : Page),
      (Printer.subQuery q.printer w p).events = p.events) ∧
    (∀ (q : Select) (p : Page), (q.filter.printer ⟨q.dialect, false⟩ p).events = p.events) ∧
    ∀ (s : Session) (steps : List Step),
      (s.run steps).log = s.log ++ (s.reports steps).flatten ∧
      List.Forall₂ (fun step events ↦
        events.countP Event.isOutcome = if step.isBuild then 1 else 0) steps (s.reports steps) := by
  refine ⟨fun k b terminate ↦ ?_, Select.events_subQuery, fun q p ↦ q.filter.events_printer _ p,
    fun s steps ↦ ⟨s.log_run steps, ?_⟩⟩
  · intro answer info
    have hevents : answer.events = _ := Kind.events_build b terminate
    have hdiagnostic : info.diagnostic = (k.lack b).isSome := Kind.diagnostic_build k b terminate
    have hvalue : info = _ := Kind.build_value k b terminate
    rw [hevents, hdiagnostic]
    cases h : k.lack b with
    | some reason =>
      rw [h] at hvalue
      rw [hvalue]
      rfl
    | none =>
      rw [if_neg (by simp), List.map_append, List.map_singleton, Kind.record_reportBuilt h]
      refine congrArg (· ++ _) ?_
      unfold Template.skipped
      split <;> rfl
  · induction steps generalizing s with
    | nil => exact .nil
    | cons step steps ih => exact .cons (countP_isOutcome_reported s step) (ih (s.next step))

end Session

end SqlStatement
