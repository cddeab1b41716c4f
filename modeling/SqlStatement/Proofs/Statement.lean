import SqlStatement.Builder.Statement
import SqlStatement.Proofs.Query.Template

/-!
# Templates of statements

Every builder that lacks nothing has a template, on which of the dialect only the engine has an
influence.  A build answers what this template says of a blank page (`Kind.build_value`).
-/

namespace SqlStatement

namespace Template

/-- Columns that a statement returns, each behind a text. -/
def returningList (before : String) (columns : List Name) : Template :=
  joined ", " (columns.map fun c ↦ [.text before, .text c.text, .returned c])

/-- The output list of an engine. -/
def output (e : Engine) (image : RowImage) (columns : List Name) : Template :=
  if columns.isEmpty then []
  else
    match e with
    | .mssql => .text " output " :: returningList (image.word ++ ".") columns
    | .postgres | .mysql => []

/-- What an engine has behind everything else for returning columns. -/
def trailing (e : Engine) (columns : List Name) : Template :=
  if columns.isEmpty then []
  else
    match e with
    | .postgres => .text " returning " :: returningList "" columns
    | .mssql => []
    | .mysql => [.report (.returningSkipped columns.length)]

/-- The answer of a build that takes the steps of a template on a blank page. -/
def info (t : Template) (d : Dialect) (terminate readOnly : Bool) : Info where
  sql := t.render d 0 ++ (if terminate then ";" else "")
  fields := Name.commaList t.fields
  fieldsCount := (Name.present t.fields).length
  paramFields := Name.commaList t.credits
  paramCount := t.slots
  returningFields := Name.commaList t.returnedColumns
  readOnly := readOnly
  diagnostic := false

end Template

/-- The template of an insertion. -/
def Insert.template (i : Insert) (e : Engine) : Template :=
  [.text ("insert into " ++ i.table.text)] ++
    Template.bracketed [.text (Layout.commas (i.columns.map Name.text))] ++
    Template.output e .inserted i.returning ++ [.text " values"] ++
    (Template.joined ", " (i.columns.map fun c ↦ [.field c, .slot c])).bracketed ++
    Template.trailing e i.returning

/-- The template of an assignment. -/
def Update.Assignment.template : Assignment → Template
  | plain c => [.text (c.text ++ "="), .field c, .slot c]
  | calculated c value => [.text (c.text ++ "="), .field c] ++ Template.ofRaw c value

/-- The template of an update. -/
def Update.template (u : Update) (e : Engine) : Template :=
  [.text ("update " ++ u.table.text ++ " set ")] ++
    Template.joined ", " (u.assignments.map Assignment.template) ++
    Template.output e .inserted u.returning ++ u.filter.spacedTemplate ++
    Template.trailing e u.returning

/-- The template of a deletion. -/
def Delete.template (x : Delete) (e : Engine) : Template :=
  [.text ("delete from " ++ x.table.text)] ++ Template.output e .deleted x.returning ++
    x.filter.spacedTemplate ++ Template.trailing e x.returning

namespace Proc

/-- The template of the arguments. -/
def argumentTemplate (p : Proc) : Template :=
  Template.joined ", " (p.arguments.map fun a ↦ [.slot a])

/-- The template of the call on the engine with a statement of its own. -/
def execTemplate (p : Proc) (name : Name) : Template :=
  [.text ("exec " ++ name.text)] ++
    (if p.arguments.isEmpty then [] else .text " " :: p.argumentTemplate) ++
    p.columns.flatMap fun c ↦ [.field c]

/-- The template of the call for the effect alone. -/
def performTemplate (p : Proc) (name : Name) : Template :=
  [.text ("perform " ++ name.text)] ++ p.argumentTemplate.bracketed

/-- The template of the call for the columns of its rows. -/
def rowsTemplate (p : Proc) (name : Name) : Template :=
  [.text "select "] ++ Template.joined ", " (p.columns.map fun c ↦ [.text c.text, .field c]) ++
    Template.rowCountColumn p.counted ++ [.text (" from " ++ name.text)] ++
    p.argumentTemplate.bracketed ++ p.filter.spacedTemplate ++
    [.text (Layout.tail [] p.order p.limit)]

/-- The template of a procedure call. -/
def template (p : Proc) (e : Engine) : Template :=
  let (name, mode) := p.target.getD (.empty, .rows)
  match e, mode with
  | .mssql, _ => p.execTemplate name
  | _, .perform => p.performTemplate name
  | _, .rows => p.rowsTemplate name

end Proc

/-- The template of a builder's statement for an engine. -/
def Kind.template : (k : Kind) → k.Builder → Engine → Template
  | select => fun q _ ↦ q.template false
  | insert => Insert.template
  | update => Update.template
  | delete => Delete.template
  | proc => Proc.template

/-- The columns that a builder's statement is asked to return of the rows it changes. -/
def Kind.returning : (k : Kind) → k.Builder → List Name
  | select | proc => fun _ ↦ []
  | insert => Insert.returning
  | update => Update.returning
  | delete => Delete.returning

/-- Without returning columns, only a procedure call looks different on different engines. -/
theorem Kind.template_engine {k : Kind} {b : k.Builder} (hk : k ≠ .proc)
    (hr : k.returning b = []) (e e' : Engine) : k.template b e = k.template b e' := by
  have houtput : ∀ e image, Template.output e image [] = [] := fun _ _ ↦ rfl
  have htrailing : ∀ e, Template.trailing e [] = [] := fun _ ↦ rfl
  cases k with
  | select => rfl
  | insert =>
    have hr : Insert.returning b = [] := hr
    simp only [template, Insert.template, hr, houtput, htrailing]
  | update =>
    have hr : Update.returning b = [] := hr
    simp only [template, Update.template, hr, houtput, htrailing]
  | delete =>
    have hr : Delete.returning b = [] := hr
    simp only [template, Delete.template, hr, houtput, htrailing]
  | proc => exact absurd rfl hk

/-- A procedure call looks the same on the engines that have no statement of their own for it. -/
theorem Proc.template_postgres (p : Proc) : p.template .postgres = p.template .mysql := by
  unfold template
  obtain ⟨name, mode⟩ := p.target.getD (.empty, .rows)
  cases mode <;> rfl

/-! ## Printers write templates -/

section Printers

variable {s : Setting}

/-- Steps that are single printers. -/
theorem Returning.list_writes (before : String) (columns : List Name) :
    (Returning.list before columns).Writes s (Template.returningList before columns) := by
  refine Printer.Writes.separated (fun c _ ↦ ?_) ", "
  exact ((Printer.text_writes _).append (Printer.text_writes _)).append (Printer.returned_writes c)

theorem Returning.output_writes (image : RowImage) (columns : List Name) :
    (Returning.output image columns).Writes s
      (Template.output s.dialect.engine image columns) := by
  unfold Returning.output Template.output
  split
  · exact Printer.nothing_writes
  · refine Printer.Writes.onEngine ?_
    cases s.dialect.engine with
    | mssql => exact (Printer.text_writes _).append (Returning.list_writes _ columns)
    | postgres => exact Printer.nothing_writes
    | mysql => exact Printer.nothing_writes

theorem Returning.trailing_writes (columns : List Name) :
    (Returning.trailing columns).Writes s (Template.trailing s.dialect.engine columns) := by
  unfold Returning.trailing Template.trailing
  split
  · exact Printer.nothing_writes
  · refine Printer.Writes.onEngine ?_
    cases s.dialect.engine with
    | postgres => exact (Printer.text_writes _).append (Returning.list_writes _ columns)
    | mssql => exact Printer.nothing_writes
    | mysql => exact Printer.report_writes _

theorem Insert.printer_writes (i : Insert) :
    i.printer.Writes s (i.template s.dialect.engine) := by
  have hvalues : i.values.Writes s
      (Template.joined ", " (i.columns.map fun c ↦ [.field c, .slot c])) :=
    Printer.Writes.separated
      (fun c _ ↦ (Printer.field_writes c).append (Printer.slot_writes c)) ", "
  exact (((((Printer.text_writes _).append (Printer.text_writes _).bracketed).append
    (Returning.output_writes _ _)).append (Printer.text_writes _)).append
      hvalues.bracketed).append (Returning.trailing_writes _)

theorem Update.Assignment.printer_writes (x : Assignment) : x.printer.Writes s x.template := by
  cases x with
  | plain c =>
    exact ((Printer.text_writes _).append (Printer.field_writes c)).append (Printer.slot_writes c)
  | calculated c value =>
    exact ((Printer.text_writes _).append (Printer.field_writes c)).append
      (Printer.raw_writes c value s)

theorem Update.printer_writes (u : Update) :
    u.printer.Writes s (u.template s.dialect.engine) := by
  have hassignments : (Printer.separated ", " (u.assignments.map Assignment.printer)).Writes s
      (Template.joined ", " (u.assignments.map Assignment.template)) :=
    Printer.Writes.separated (fun x _ ↦ x.printer_writes) ", "
  exact ((((Printer.text_writes _).append hassignments).append (Returning.output_writes _ _)).append
    (u.filter.spaced_writes_template s)).append (Returning.trailing_writes _)

theorem Delete.printer_writes (x : Delete) :
    x.printer.Writes s (x.template s.dialect.engine) :=
  (((Printer.text_writes _).append (Returning.output_writes _ _)).append
    (x.filter.spaced_writes_template s)).append (Returning.trailing_writes _)

namespace Proc

theorem argumentList_writes (p : Proc) : p.argumentList.Writes s p.argumentTemplate :=
  Printer.Writes.separated (fun a _ ↦ Printer.slot_writes a) ", "

theorem execPrinter_writes (p : Proc) (name : Name) :
    (p.execPrinter name).Writes s (p.execTemplate name) := by
  have harguments :
      (if p.arguments.isEmpty then Printer.nothing else .text " " ++ p.argumentList).Writes s
        (if p.arguments.isEmpty then [] else .text " " :: p.argumentTemplate) := by
    split
    · exact Printer.nothing_writes
    · exact (Printer.text_writes _).append p.argumentList_writes
  exact ((Printer.text_writes _).append harguments).append
    (Printer.Writes.concat fun c _ ↦ Printer.field_writes c)

theorem performPrinter_writes (p : Proc) (name : Name) :
    (p.performPrinter name).Writes s (p.performTemplate name) :=
  (Printer.text_writes _).append p.argumentList_writes.bracketed

theorem rowsPrinter_writes (p : Proc) (name : Name) :
    (p.rowsPrinter name).Writes s (p.rowsTemplate name) := by
  have hcolumns :
      (Printer.separated ", " (p.columns.map fun c ↦ .text c.text ++ .field c)).Writes s
        (Template.joined ", " (p.columns.map fun c ↦ [.text c.text, .field c])) :=
    Printer.Writes.separated
      (fun c _ ↦ (Printer.text_writes _).append (Printer.field_writes c)) ", "
  exact ((((((Printer.text_writes _).append hcolumns).append
    (Layout.rowCountColumn_writes p.counted)).append (Printer.text_writes _)).append
      p.argumentList_writes.bracketed).append (p.filter.spaced_writes_template s)).append
        (Printer.text_writes _)

theorem printer_writes (p : Proc) : p.printer.Writes s (p.template s.dialect.engine) := by
  unfold printer template
  generalize p.target.getD (.empty, .rows) = target
  obtain ⟨name, mode⟩ := target
  refine Printer.Writes.onEngine ?_
  cases s.dialect.engine with
  | mssql => exact p.execPrinter_writes name
  | postgres =>
    cases mode with
    | rows => exact p.rowsPrinter_writes name
    | perform => exact p.performPrinter_writes name
  | mysql =>
    cases mode with
    | rows => exact p.rowsPrinter_writes name
    | perform => exact p.performPrinter_writes name

end Proc

/-- A statement of its own writes its template. -/
theorem Kind.printer_writes (k : Kind) (b : k.Builder) (d : Dialect) :
    (k.printer b).Writes ⟨d, false⟩ (k.template b d.engine) := by
  cases k with
  | select => exact Select.printer_writes b ⟨d, false⟩
  | insert => exact Insert.printer_writes b
  | update => exact Update.printer_writes b
  | delete => exact Delete.printer_writes b
  | proc => exact Proc.printer_writes b

end Printers

/-! ## The answer of a build -/

/-- A statement of its own is written on a blank page as its template says. -/
theorem Kind.info_alone (k : Kind) (b : k.Builder) (d : Dialect) (terminate readOnly : Bool) :
    ((k.printer b).alone d).info terminate readOnly =
      (k.template b d.engine).info d terminate readOnly := by
  rw [Printer.alone, (k.printer_writes b d).apply]
  simp [Page.info, Page.blank, Tally.startingAt, Template.info, Template.count]

/-- A build answers what is lacking, or what the template of the statement says. -/
theorem Kind.build_value (k : Kind) (b : k.Builder) (terminate : Bool) :
    (k.build b terminate).value =
      match k.lack b with
      | some reason => reason.info
      | none =>
        (k.template b (k.dialect b).engine).info (k.dialect b) terminate (k.readOnly b) := by
  rw [build_eq]
  unfold Printer.build
  cases k.lack b with
  | some reason => rfl
  | none => exact k.info_alone b _ terminate _

/-- A build answers a diagnostic exactly if something is lacking. -/
theorem Kind.diagnostic_build (k : Kind) (b : k.Builder) (terminate : Bool) :
    (k.build b terminate).value.diagnostic = (k.lack b).isSome := by
  rw [build_value]
  cases k.lack b <;> rfl

/-- For a build that is no diagnostic, nothing is lacking. -/
theorem Kind.lack_of_not_diagnostic {k : Kind} {b : k.Builder} {terminate : Bool}
    (h : (k.build b terminate).value.diagnostic = false) : k.lack b = none := by
  rw [diagnostic_build] at h
  simpa using h

/-- A builder that lacks nothing has a statement. -/
theorem Kind.diagnostic_build_of_lack {k : Kind} {b : k.Builder} (h : k.lack b = none)
    (terminate : Bool) : (k.build b terminate).value.diagnostic = false := by
  rw [diagnostic_build, h, Option.isSome_none]

/-- A build of a builder that lacks nothing answers what the template of the statement says. -/
theorem Kind.build_value_of_lack {k : Kind} {b : k.Builder} (h : k.lack b = none)
    (terminate : Bool) :
    (k.build b terminate).value =
      (k.template b (k.dialect b).engine).info (k.dialect b) terminate (k.readOnly b) := by
  rw [build_value, h]

/-- A build that is no diagnostic answers what the template of the statement says. -/
theorem Kind.build_value_of_not_diagnostic {k : Kind} {b : k.Builder} {terminate : Bool}
    (h : (k.build b terminate).value.diagnostic = false) :
    (k.build b terminate).value =
      (k.template b (k.dialect b).engine).info (k.dialect b) terminate (k.readOnly b) :=
  build_value_of_lack (lack_of_not_diagnostic h) terminate

/-- A query that lacks nothing selects something. -/
theorem Select.isEmpty_items_of_lack {q : Select} (h : q.lack = none) :
    q.items.isEmpty = false := by
  rw [lack] at h
  cases hitems : q.items.isEmpty with
  | false => rfl
  | true =>
    rw [if_pos hitems] at h
    cases h

/-- The text of the clause that a query answers by itself. The other builders do not answer it. -/
def Kind.whereClause? : (k : Kind) → k.Builder → Option String
  | select => fun q ↦ some (Select.whereClause q)
  | insert | update | delete | proc => fun _ ↦ none

end SqlStatement
