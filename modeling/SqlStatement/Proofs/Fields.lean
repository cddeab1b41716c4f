import SqlStatement.Proofs.Columns
import SqlStatement.Proofs.Returning
import SqlStatement.Proofs.Settings

/-!
# The fields of a statement

A build lists the fields of the whole statement and counts them.  They are the columns that calls
have named and, where the statement tells it, the number of all rows, in the order in which they are
written (`Kind.fields_build`).  A query inside the statement has no fields, so it does not matter
which query it is (`Kind.fields_build_plug`).
-/

namespace SqlStatement

/-- The field of the number of all rows, if it is told. -/
def rowCountField (counted : Bool) : List Name := if counted then [Layout.rowCount] else []

namespace Template

@[simp] theorem fields_rowCountColumn (counted : Bool) :
    (rowCountColumn counted).fields = rowCountField counted := by
  cases counted <;> rfl

@[simp] theorem fields_bracketed (t : Template) : t.bracketed.fields = t.fields := by
  simp [bracketed]

end Template

@[simp] theorem Where.fields_spacedTemplate (w : Where) : w.spacedTemplate.fields = [] :=
  w.plain_spacedTemplate.fields_eq_nil

/-- The fields of selected items are their columns: a sub-query has no fields. -/
theorem SelectItem.fields_template (i : SelectItem) :
    (i.template false).fields = i.column?.toList := by
  cases i with
  | column name =>
    rw [template]
    rfl
  | sub query label =>
    rw [template, Template.fields_append, Template.fields_bracketed,
      query.writesNested.2.fields_eq_nil]
    rfl

/-- A query that selects something has its columns and the number of all rows as fields. -/
theorem Select.fields_template {q : Select} (h : q.items.isEmpty = false) :
    (q.template false).fields = q.columns ++ rowCountField q.counted := by
  have hitems : (q.items.map fun i ↦ i.template false).flatMap Template.fields = q.columns := by
    simp [List.flatMap_map, SelectItem.fields_template, columns, List.filterMap_eq_flatMap_toList]
  rw [Select.template_eq, h]
  simp [Template.query, hitems]

theorem Insert.fields_template (i : Insert) (e : Engine) : (i.template e).fields = i.columns := by
  simp [template, List.flatMap_map]

theorem Update.Assignment.fields_template (x : Assignment) :
    x.template.fields =
      match x with
      | plain c => [c]
      | calculated c _ => [c] := by
  cases x with
  | plain c => rfl
  | calculated c value => simp [template, (Template.plain_ofRaw c value).fields_eq_nil]

theorem Update.fields_template (u : Update) (e : Engine) :
    (u.template e).fields = u.columns ++ u.calculated.names := by
  have hnames : (u.calculated.entries.flatMap fun e ↦ [e.1]) = u.calculated.names :=
    List.map_eq_flatMap.symm
  simp [template, assignments, List.flatMap_map, Assignment.fields_template, hnames]

theorem Delete.fields_template (x : Delete) (e : Engine) : (x.template e).fields = [] := by
  simp [template]

namespace Proc

@[simp] theorem fields_argumentTemplate (p : Proc) : p.argumentTemplate.fields = [] := by
  simp [argumentTemplate, List.flatMap_map]

theorem fields_execTemplate (p : Proc) (name : Name) :
    (p.execTemplate name).fields = p.columns := by
  have hcolumns : Template.fields (p.columns.flatMap fun c ↦ [.field c]) = p.columns := by
    simp [Template.fields, List.flatMap_assoc]
  have harguments :
      Template.fields (if p.arguments.isEmpty then [] else .text " " :: p.argumentTemplate) =
        [] := by
    split
    · rfl
    · simp
  simp only [execTemplate, Template.fields_append, hcolumns, harguments]
  rfl

theorem fields_performTemplate (p : Proc) (name : Name) :
    (p.performTemplate name).fields = [] := by
  simp [performTemplate]

theorem fields_rowsTemplate (p : Proc) (name : Name) :
    (p.rowsTemplate name).fields = p.columns ++ rowCountField p.counted := by
  simp [rowsTemplate, List.flatMap_map]

end Proc

namespace Kind

/-- The fields of a builder's statement, if its plain and its calculated columns are given, and
whether the number of all rows is asked for. A procedure call tells this number only if it is
written as a query; on the engine with a statement of its own, its fields are the columns, although
they are not written. -/
def fieldsOf : (k : Kind) → k.Builder → List Name → List Name → Bool → List Name
  | select => fun _ columns _ counted ↦ columns ++ rowCountField counted
  | insert => fun _ columns _ _ ↦ columns
  | update => fun _ columns calculated _ ↦ columns ++ calculated
  | delete => fun _ _ _ _ ↦ []
  | proc => fun (p : Proc) columns _ counted ↦
    if p.isQuery then columns ++ rowCountField counted
    else if p.dialect.engine = .mssql then columns else []

/-- The fields of a builder's statement. -/
def fields (k : Kind) (b : k.Builder) : List Name :=
  k.fieldsOf b (k.columns b) (k.calculatedColumns b) (k.counted b)

end Kind

theorem Proc.fields_template (p : Proc) :
    (p.template p.dialect.engine).fields = Kind.proc.fields p := by
  show _ = if p.isQuery then p.columns ++ rowCountField p.counted
    else if p.dialect.engine = .mssql then p.columns else []
  unfold template isQuery
  cases hengine : p.dialect.engine with
  | mssql => exact p.fields_execTemplate _
  | postgres | mysql =>
    cases htarget : p.target with
    | none => exact p.fields_rowsTemplate _
    | some target =>
      obtain ⟨name, mode⟩ := target
      cases mode with
      | rows => exact p.fields_rowsTemplate name
      | perform => exact p.fields_performTemplate name

namespace Kind

/-- If nothing is lacking, the template of a builder's statement has its fields. -/
theorem fields_template {k : Kind} {b : k.Builder} (h : k.lack b = none) :
    (k.template b (k.dialect b).engine).fields = k.fields b := by
  cases k with
  | select => exact Select.fields_template (Select.isEmpty_items_of_lack h)
  | insert => exact Insert.fields_template b _
  | update => exact Update.fields_template b _
  | delete => exact Delete.fields_template b _
  | proc => exact Proc.fields_template b

variable {k : Kind}

/-- A query in a hole has no part in the fields. -/
theorem fields_plug (h : k.Hole) (s s' : Select) :
    k.fields (k.plug h s') = k.fields (k.plug h s) := by
  cases k with
  | select =>
    cases h with
    | item q label behind =>
      have hcolumns : ∀ s, Select.columns (Select.Hole.plug (.item q label behind) s) =
          q.columns ++ behind.filterMap SelectItem.column? := by
        intro s
        rw [Select.columns, Select.Hole.plug, List.filterMap_append, List.filterMap_cons_none rfl]
        rfl
      show Select.columns _ ++ rowCountField q.counted = Select.columns _ ++ rowCountField q.counted
      exact congrArg (· ++ rowCountField q.counted) ((hcolumns s').trans (hcolumns s).symm)
    | condition q filter => rfl
  | insert => cases h
  | update | delete | proc => rfl

/-- A query in a hole has no part in the fields that a build answers. -/
theorem fields_build_plug (h : k.Hole) (s s' : Select) (terminate : Bool) :
    let info := (k.build (k.plug h s) terminate).value
    let info' := (k.build (k.plug h s') terminate).value
    info'.fields = info.fields ∧ info'.fieldsCount = info.fieldsCount := by
  intro info info'
  obtain ⟨-, hlack, -⟩ := plug_frame h s s'
  have hinfo : info = _ := build_value k (k.plug h s) terminate
  have hinfo' : info' = _ := build_value k (k.plug h s') terminate
  cases hs : k.lack (k.plug h s) with
  | some reason =>
    rw [hs] at hinfo hlack
    rw [hlack] at hinfo'
    rw [hinfo, hinfo']
    exact ⟨rfl, rfl⟩
  | none =>
    rw [hs] at hinfo hlack
    rw [hlack] at hinfo'
    rw [hinfo, hinfo']
    simp only [Template.info, fields_template hs, fields_template hlack, fields_plug h s s',
      and_self]

/-! ## The fields of configured builders -/

/-- A field is a column or tells the number of all rows. -/
theorem mem_fieldsOf {b : k.Builder} {columns calculated : List Name} {counted : Bool} {n : Name}
    (h : n ∈ k.fieldsOf b columns calculated counted) :
    n ∈ columns ∨ n ∈ calculated ∨ n = Layout.rowCount := by
  have hrowCount : ∀ {n}, n ∈ rowCountField counted → n = Layout.rowCount := by
    intro n hn
    cases counted with
    | false => cases hn
    | true => exact List.mem_singleton.mp hn
  cases k with
  | select => exact (List.mem_append.mp h).imp_right fun h ↦ .inr (hrowCount h)
  | insert => exact .inl h
  | update => exact (List.mem_append.mp h).imp_right .inl
  | delete => cases h
  | proc =>
    have h : n ∈ if Proc.isQuery b then columns ++ rowCountField counted
      else if (Proc.dialect b).engine = .mssql then columns else [] := h
    split at h
    · exact (List.mem_append.mp h).imp_right fun h ↦ .inr (hrowCount h)
    · split at h
      · exact .inl h
      · cases h

/-- A build lists and counts the fields of the whole statement. They are the plain columns that
calls have named, in the order of the calls, then the calculated ones, each once, in the order of
their names, and then the column that tells the number of all rows, as far as the statement has such
columns. None of them is empty. A query in a place of a statement has no part in them: if there is
another query in the place, the build lists and counts the same fields. -/
theorem fields_build (k : Kind) (d : Dialect) (calls : List k.Call) {terminate : Bool}
    (h : (k.build (k.run (k.new d) calls).value terminate).value.diagnostic = false) :
    let b := (k.run (k.new d) calls).value
    let info := (k.build b terminate).value
    let own := k.fieldsOf b (k.namedColumns calls) (Name.distinct (k.namedCalculations calls))
      (k.countsRows calls)
    info.fields = Layout.commas (own.map Name.text) ∧ info.fieldsCount = own.length ∧
    (∀ n ∈ own, n.isEmpty = false) ∧
    ∀ (place : k.Place) (s s' : Select) (terminate : Bool),
      let before := (k.build (k.put place s) terminate).value
      let after := (k.build (k.put place s') terminate).value
      after.fields = before.fields ∧ after.fieldsCount = before.fieldsCount := by
  intro b info own
  have hown : k.fields b = own := by
    rw [fields, columns_run, calculatedColumns_run, counted_run]
  have hnonempty : ∀ n ∈ own, n.isEmpty = false := by
    intro n hn
    rcases mem_fieldsOf hn with hn | hn | rfl
    · exact isEmpty_of_mem_namedColumns hn
    · exact isEmpty_of_mem_namedCalculations (Name.mem_distinct.mp hn)
    · rfl
  have hpresent : Name.present own = own :=
    List.filter_eq_self.mpr fun n hn ↦ by rw [hnonempty n hn, Bool.not_false]
  have hinfo : info = _ := build_value_of_not_diagnostic h
  have hfields := fields_template (lack_of_not_diagnostic h)
  refine ⟨?_, ?_, hnonempty, fun place s s' terminate ↦ fields_build_plug place.1 _ _ terminate⟩
  · rw [hinfo, Template.info, hfields, hown, Name.commaList, hpresent]
    rfl
  · rw [hinfo, Template.info, hfields, hown, hpresent]

/-- A query that selects a sub-query between its columns and compares with it. -/
theorem fields_build_nested :
    let inner : Select := { Select.new default with
      items := [.column (.ofString "owner")]
      counted := true }
    let calls : List Select.Call := [.select ["id", " "], .selectSub inner "n", .countRows,
      .select ["title"], .filter (.require [.compareSub .isIn "owner" inner])]
    let info := (select.build (select.run (select.new default) calls).value true).value
    info.fields = "id, title, rowscount" ∧ info.fieldsCount = 3 := by
  intro inner calls info
  have h : info.diagnostic = false := rfl
  obtain ⟨hfields, hcount, -⟩ := fields_build select default calls h
  exact ⟨hfields.trans rfl, hcount.trans rfl⟩

end Kind

end SqlStatement
