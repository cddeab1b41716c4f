import Mathlib
import SqlStatement.Proofs.Fields
import SqlStatement.Proofs.Procedure

/-!
# The fields of a performed procedure

A procedure that is performed answers no rows, so there should be no fields.  The engine with a
statement of its own has one form for both modes, and this counts the columns as fields although it
does not write them.  So a performed procedure is built as if no column had been selected, but on
this engine the selected columns are listed as fields nevertheless (`Proc.fields_performed`).
-/

namespace SqlStatement

/-! ## Fields behind a template -/

namespace Template

/-- The steps that count names as fields. -/
def counting (names : List Name) : Template := names.flatMap fun n ↦ [.field n]

@[simp] theorem fields_counting (names : List Name) : (counting names).fields = names := by
  simp [counting, fields, List.flatMap_assoc]

@[simp] theorem credits_counting (names : List Name) : (counting names).credits = [] := by
  simp [counting, credits, List.flatMap_assoc]

@[simp] theorem returnedColumns_counting (names : List Name) :
    (counting names).returnedColumns = [] := by
  simp [counting, returnedColumns, List.flatMap_assoc]

/-- Fields have no text. -/
@[simp] theorem render_counting (d : Dialect) (start : Nat) (names : List Name) :
    (counting names).render d start = "" := by
  induction names generalizing start with
  | nil => rfl
  | cons n ns ih =>
    have hcons : counting (n :: ns) = .field n :: counting ns := rfl
    rw [hcons, render, ih]
    rfl

/-- A statement with further fields behind it answers the same but for the fields. -/
theorem info_append_counting (t : Template) (names : List Name) (d : Dialect)
    (terminate readOnly : Bool) :
    (t ++ counting names).info d terminate readOnly =
      { t.info d terminate readOnly with
        fields := Name.commaList (t.fields ++ names)
        fieldsCount := (Name.present (t.fields ++ names)).length } := by
  simp [info, render_append, slots]

end Template

namespace Proc

/-! ## Forms of a performed procedure -/

/-- The columns that a performed procedure lists as fields: all of them on the engine with a
statement of its own, none on the others. -/
def reportedColumns (e : Engine) (columns : List Name) : List Name :=
  if e = .mssql then columns else []

theorem reportedColumns_eq_nil_iff {e : Engine} {columns : List Name} :
    reportedColumns e columns = [] ↔ e ≠ .mssql ∨ columns = [] := by
  rw [reportedColumns, ite_eq_right_iff]
  exact imp_iff_not_or

/-- Only columns are reported. -/
theorem mem_of_mem_reportedColumns {e : Engine} {columns : List Name} {n : Name}
    (h : n ∈ reportedColumns e columns) : n ∈ columns := by
  unfold reportedColumns at h
  split at h
  · exact h
  · cases h

section Forms

variable {p : Proc} {name : Name}

/-- A performed procedure lacks nothing. -/
theorem lack_performed (h : p.target = some (name, .perform)) : p.lack = none := by
  by_cases he : p.dialect.engine = .mssql
  · exact (exec_form h he).1
  · exact (perform_form h he).1

/-- The statement of a performed procedure is that without columns, with the reported columns
behind it. -/
theorem template_performed (h : p.target = some (name, .perform)) :
    p.template p.dialect.engine =
      template { p with columns := [] } p.dialect.engine ++
        .counting (reportedColumns p.dialect.engine p.columns) := by
  unfold template
  rw [h]
  cases p.dialect.engine with
  | mssql =>
    have hbare : execTemplate { p with columns := [] } name ++ .counting p.columns =
        p.execTemplate name := by
      simp only [execTemplate, List.flatMap_nil, List.append_nil]
      rfl
    exact hbare.symm
  | postgres | mysql => exact (List.append_nil _).symm

/-- Without columns, a performed procedure has no fields. -/
theorem fields_template_bare (h : p.target = some (name, .perform)) :
    (template { p with columns := [] } p.dialect.engine).fields = [] := by
  unfold template
  rw [h]
  cases p.dialect.engine with
  | mssql => exact fields_execTemplate { p with columns := [] } name
  | postgres | mysql => exact fields_performTemplate { p with columns := [] } name

/-- The engine with a statement of its own does not tell what a procedure is called for. -/
theorem build_mode {mode : CallMode} (h : p.target = some (name, mode))
    (he : p.dialect.engine = .mssql) (mode' : CallMode) (terminate : Bool) :
    build { p with target := some (name, mode') } terminate = p.build terminate := by
  have htemplate : template { p with target := some (name, mode') } p.dialect.engine =
      p.template p.dialect.engine := by
    rw [template, template, h, he]
    rfl
  have htarget : target { p with target := some (name, mode') } = some (name, mode') := rfl
  have hlack : lack { p with target := some (name, mode') } = p.lack :=
    (exec_form htarget he).1.trans (exec_form h he).1.symm
  have hreport : builtEvent { p with target := some (name, mode') } = p.builtEvent := by
    funext info
    rw [builtEvent, builtEvent, h]
    rfl
  exact @Kind.build_congr .proc p { p with target := some (name, mode') } htemplate rfl hlack rfl
    hreport terminate

end Forms

/-! ## Calls -/

/-- If the last procedure that is accepted is to be performed, a build answers a statement, and it is
that without columns, which has no fields. The fields are the reported columns: on the engine with a
statement of its own all that calls have named, in the order of the calls, and on the others none,
whatever else is configured. So no field is reported exactly if the engine is another one or no
column is named. On the engine with a statement of its own, a call for rows builds the same. -/
theorem fields_performed (d : Dialect) {calls : List Call} {name : Name}
    (h : lastChoice calls = some (name, .perform)) (terminate : Bool) :
    let p := (new d).after calls
    let columns := Kind.proc.namedColumns calls
    let reported := reportedColumns d.engine columns
    let info := (p.build terminate).value
    let bare := (build { p with columns := [] } terminate).value
    info.diagnostic = false ∧ bare.fields = "" ∧ bare.fieldsCount = 0 ∧
    info = { bare with
      fields := Layout.commas (reported.map Name.text)
      fieldsCount := reported.length } ∧
    (info.fields = "" ∧ info.fieldsCount = 0 ↔ d.engine ≠ .mssql ∨ columns = []) ∧
    (d.engine = .mssql →
      build { p with target := some (name, .rows) } terminate = p.build terminate) := by
  intro p columns reported info bare
  have hdialect : p.dialect = d := Kind.dialect_run .proc d calls
  have htarget : p.target = some (name, .perform) := (target_after d calls).trans h
  have hcolumns : p.columns = columns := Kind.columns_run (k := .proc) d calls
  have hreported : reportedColumns p.dialect.engine p.columns = reported := by
    rw [hdialect, hcolumns]
  have hpresent : Name.present reported = reported := by
    refine List.filter_eq_self.mpr fun n hn ↦ ?_
    rw [Kind.isEmpty_of_mem_namedColumns (mem_of_mem_reportedColumns hn), Bool.not_false]
  have hbare : bare = (template { p with columns := [] } p.dialect.engine).info p.dialect terminate
      p.readOnly :=
    @Kind.build_value_of_lack .proc { p with columns := [] } (lack_performed htarget) terminate
  have hbareFields := fields_template_bare htarget
  have hfields : bare.fields = "" ∧ bare.fieldsCount = 0 := by
    rw [hbare]
    simp only [Template.info, hbareFields]
    exact ⟨rfl, rfl⟩
  have hinfo : info = { bare with
      fields := Layout.commas (reported.map Name.text)
      fieldsCount := reported.length } := by
    have hvalue : info = (p.template p.dialect.engine).info p.dialect terminate p.readOnly :=
      Kind.build_value_of_lack (k := .proc) (lack_performed htarget) terminate
    rw [hvalue, template_performed htarget, Template.info_append_counting, hbareFields,
      List.nil_append, hreported, Name.commaList, hpresent, hbare]
    rfl
  refine ⟨?_, hfields.1, hfields.2, hinfo, ?_, fun he ↦ ?_⟩
  · rw [hinfo, hbare]
    rfl
  · rw [hinfo, ← reportedColumns_eq_nil_iff]
    constructor
    · rintro ⟨-, hcount⟩
      exact List.length_eq_zero_iff.mp hcount
    · intro hnil
      rw [show reported = [] from hnil]
      exact ⟨rfl, rfl⟩
  · exact build_mode htarget (hdialect ▸ he) .rows terminate

/-- A procedure that is to be performed after calls for rows, of which the last one is refused, on
two engines. -/
theorem fields_performed_last :
    let calls : List Call := [.select ["id", " "], .call .rows "totals", .call .perform " refresh ",
      .countRows, .call .rows "drop table", .arguments ["day"], .select ["name"],
      .filter (.require [.compare .eq "id" "?"])]
    let p := (new (.ofEngine .postgres)).after calls
    let q := (new (.ofEngine .mssql)).after calls
    let info := (p.build true).value
    let info' := (q.build true).value
    (info.fields = "" ∧ info.fieldsCount = 0) ∧ info'.fields = "id, name" ∧
      info'.fieldsCount = 2 ∧
      build { q with target := some (.ofString "refresh", .rows) } true = q.build true := by
  intro calls p q info info'
  have hchoice : lastChoice calls = some (.ofString "refresh", .perform) := by decide
  have hcolumns : Kind.proc.namedColumns calls = [.ofString "id", .ofString "name"] := rfl
  obtain ⟨-, -, -, -, hiff, -⟩ := fields_performed (.ofEngine .postgres) hchoice true
  obtain ⟨-, -, -, hinfo, -, hrows⟩ := fields_performed (.ofEngine .mssql) hchoice true
  rw [hcolumns] at hinfo
  refine ⟨hiff.mpr (.inl nofun), ?_, ?_, hrows rfl⟩
  · exact (congrArg Info.fields hinfo).trans rfl
  · exact (congrArg Info.fieldsCount hinfo).trans rfl

/-- On the engine with a statement of its own, the columns of a performed procedure are reported
although there are no rows. -/
theorem perform_reports_columns :
    let calls : List Call := [.select ["id", "name"], .call .perform "archive"]
    let info := (((new (.ofEngine .mssql)).after calls).build false).value
    lastChoice calls = some (.ofString "archive", .perform) ∧ info.sql = "exec archive" ∧
      info.fields = "id, name" ∧ info.fieldsCount = 2 ∧
      ¬ (info.fields = "" ∧ info.fieldsCount = 0) := by
  intro calls info
  let p : Proc := { new (.ofEngine .mssql) with
    target := some (.ofString "archive", .perform)
    columns := [.ofString "id", .ofString "name"] }
  have hinfo : info = (p.build false).value := rfl
  have hcount : (p.build false).value.fieldsCount = 2 := by cbv
  rw [hinfo]
  refine ⟨by decide, by cbv, by cbv, hcount, fun h ↦ ?_⟩
  exact two_ne_zero (hcount.symm.trans h.2)

end Proc

end SqlStatement
