import SqlStatement.Proofs.Query.Nesting
import SqlStatement.Proofs.RawText.Characters

/-!
# Templates of queries

The template of a query depends on neither the dialect nor the place of the query in a statement,
but for its own fields and the number of its rows, which a query inside another statement does not
have.  The printer of a query writes its template (`Select.printer_writes`), so however deep queries
are nested, their steps follow each other as if they were taken on one page with one tally.
-/

namespace SqlStatement

namespace Template

/-- The column that tells the number of all rows. -/
def rowCountColumn (counted : Bool) : Template :=
  if counted then
    [.text (", count(*) over() as " ++ Layout.rowCount.text), .field Layout.rowCount]
  else []

/-- A group of conditions from their templates. -/
def group (join : Option Conjunction) (inner : Conjunction) (entries : List (Name × Template)) :
    Template :=
  .text (Layout.joining join) :: (joined inner.withinGroup (Layout.arranged entries)).bracketed

/-- A clause from the templates of its groups. -/
def clause (groups : List Template) : Template :=
  if groups.isEmpty then [] else .text "where " :: groups.flatten

/-- A clause behind a space, if it has groups. -/
def spaced (w : Where) (clause : Template) : Template :=
  if w.groups.isEmpty then [] else .text " " :: clause

/-- A query from the templates of its parts. -/
def query (items : List Template) (rowCount : Template) (ts : NameMap String) (filter : Template)
    (ending : String) : Template :=
  [.text "select "] ++ joined ", " items ++ rowCount ++ [.text (Layout.tables ts)] ++ filter ++
    [.text ending]

end Template

mutual

/-- The template of a condition. -/
def Condition.template : Condition → Template
  | .plain field predicate => Template.ofRaw field predicate
  | .sub field operator query =>
    .text field.text :: .text operator.text :: (query.template true).bracketed

/-- The templates of conditions with their fields. -/
def conditionTemplates : List Condition → List (Name × Template)
  | [] => []
  | c :: cs => (c.field, c.template) :: conditionTemplates cs

/-- The template of a group, with what joins it to the ones before it. -/
def Group.template : Group → Template
  | ⟨join, inner, conditions⟩ => Template.group join inner (conditionTemplates conditions)

/-- The templates of groups. -/
def groupTemplates : List Group → List Template
  | [] => []
  | g :: gs => g.template :: groupTemplates gs

/-- The template of a clause, which is empty if there is no group. -/
def Where.template : Where → Template
  | ⟨groups, _⟩ => Template.clause (groupTemplates groups)

/-- The template of a selected item. Only the columns of the whole statement are its fields. -/
def SelectItem.template : SelectItem → Bool → Template
  | .column name, nested => .text name.text :: if nested then [] else [.field name]
  | .sub query label, _ => (query.template true).bracketed ++ [.text (Layout.label label)]

/-- The templates of selected items. -/
def itemTemplates : List SelectItem → Bool → List Template
  | [], _ => []
  | i :: is, nested => i.template nested :: itemTemplates is nested

/-- The template of a query, which may be nested in another statement. -/
def Select.template : Select → Bool → Template
  | ⟨_, items, tables, filter, groups, order, limit, counted, _⟩, nested =>
    if items.isEmpty then [.text Diagnostic.nothingSelected.message]
    else Template.query (itemTemplates items nested)
      (if nested then [] else Template.rowCountColumn counted) tables
      (Template.spaced filter filter.template) (Layout.tail groups order limit)

end

/-- The template of a clause behind a space, if it has groups. -/
def Where.spacedTemplate (w : Where) : Template := Template.spaced w w.template

/-! ## Templates of lists -/

@[simp] theorem conditionTemplates_eq_map (cs : List Condition) :
    conditionTemplates cs = cs.map fun c ↦ (c.field, c.template) := by
  induction cs with
  | nil => simp [conditionTemplates]
  | cons c cs ih => simp [conditionTemplates, ih]

@[simp] theorem groupTemplates_eq_map (gs : List Group) :
    groupTemplates gs = gs.map Group.template := by
  induction gs with
  | nil => simp [groupTemplates]
  | cons g gs ih => simp [groupTemplates, ih]

@[simp] theorem itemTemplates_eq_map (is : List SelectItem) (nested : Bool) :
    itemTemplates is nested = is.map fun i ↦ i.template nested := by
  induction is with
  | nil => simp [itemTemplates]
  | cons i is ih => simp [itemTemplates, ih]

/-- The template of a group, its conditions in the order in which they are rendered. -/
theorem Group.template_eq (g : Group) :
    g.template = .text (Layout.joining g.join) ::
      (Template.joined g.inner.withinGroup (g.arranged.map Condition.template)).bracketed := by
  obtain ⟨join, inner, conditions⟩ := g
  rw [Group.template, Template.group, conditionTemplates_eq_map, Layout.arranged_map]
  rfl

/-- The printer of a group, its conditions in the order in which they are rendered. -/
theorem Group.printer_eq (g : Group) :
    g.printer = .text (Layout.joining g.join) ++
      .bracketed (.separated g.inner.withinGroup (g.arranged.map Condition.printer)) := by
  obtain ⟨join, inner, conditions⟩ := g
  rw [Group.printer, Layout.group, conditionPrinters_eq_map, Layout.arranged_map]
  rfl

/-- The template of a query in terms of its parts. -/
theorem Select.template_eq (q : Select) (nested : Bool) :
    q.template nested =
      if q.items.isEmpty then [.text Diagnostic.nothingSelected.message]
      else Template.query (q.items.map fun i ↦ i.template nested)
        (if nested then [] else Template.rowCountColumn q.counted) q.tables
        q.filter.spacedTemplate (Layout.tail q.groups q.order q.limit) := by
  cases q
  rw [Select.template, itemTemplates_eq_map, Where.spacedTemplate]

/-! ## Printers write templates -/

/-- What is shown of the queries in a statement: nested, they write their templates, in which there
is nothing but text and parameters. -/
def Select.WritesNested (q : Select) : Prop :=
  (∀ d, q.printer.Writes ⟨d, true⟩ (q.template true)) ∧ (q.template true).Plain

section Parts

variable {s : Setting}

/-- The column that tells the number of all rows writes its template. -/
theorem Layout.rowCountColumn_writes (counted : Bool) :
    (Layout.rowCountColumn counted).Writes s (Template.rowCountColumn counted) := by
  rw [Layout.rowCountColumn, Template.rowCountColumn]
  split
  · exact (Printer.text_writes _).append (Printer.field_writes _)
  · exact Printer.nothing_writes

/-- A query that writes its template is written as a sub-query in the statement around it. -/
theorem Select.WritesNested.subQuery_writes {q : Select} (h : q.WritesNested) :
    (Printer.subQuery q.printer).Writes s (q.template true).bracketed :=
  .subQuery (h.1 s.dialect) h.2.fields_eq_nil h.2.returnedColumns_eq_nil

/-- A condition writes its template if its query does. -/
theorem Condition.printer_writes {c : Condition} (h : ∀ q ∈ c.query?, q.WritesNested) :
    c.printer.Writes s c.template ∧ c.template.Plain := by
  cases c with
  | plain field predicate =>
    rw [Condition.printer, Condition.template]
    exact ⟨Printer.raw_writes field predicate s, Template.plain_ofRaw field predicate⟩
  | sub field operator query =>
    have hq : query.WritesNested := h query rfl
    rw [Condition.printer, Condition.template]
    constructor
    · exact ((Printer.text_writes _).append (Printer.text_writes _)).append hq.subQuery_writes
    · exact (Template.plain_text _).append ((Template.plain_text _).append hq.2.bracketed)

/-- A clause writes its template if the queries in it do. -/
theorem Where.printer_writes {w : Where} (h : ∀ q ∈ w.subqueries, q.WritesNested) :
    w.printer.Writes s w.template ∧ w.template.Plain := by
  have hgroups : ∀ g ∈ w.groups, g.printer.Writes s g.template ∧ g.template.Plain := by
    intro g hg
    have hconditions : ∀ c ∈ g.arranged, c.printer.Writes s c.template ∧ c.template.Plain := by
      intro c hc
      exact Condition.printer_writes fun q hq ↦ h q (Where.mem_subqueries hg hc hq)
    rw [Group.printer_eq, Group.template_eq]
    constructor
    · have hparts := Printer.Writes.separated (fun c hc ↦ (hconditions c hc).1) g.inner.withinGroup
      exact (Printer.text_writes _).append hparts.bracketed
    · refine (Template.plain_text _).append (Template.Plain.bracketed (Template.Plain.joined ?_ _))
      intro t ht
      obtain ⟨c, hc, rfl⟩ := List.mem_map.mp ht
      exact (hconditions c hc).2
  obtain ⟨groups, opened⟩ := w
  rw [Where.printer, Where.template, Layout.clause, Template.clause, groupPrinters_eq_map,
    groupTemplates_eq_map]
  cases groups with
  | nil => exact ⟨Printer.nothing_writes, Template.plain_nil⟩
  | cons g gs =>
    constructor
    · have hparts := Printer.Writes.concat fun g hg ↦ (hgroups g hg).1
      exact (Printer.text_writes _).append hparts
    · have hplain : Template.Plain ((g :: gs).map Group.template).flatten := by
        refine Template.Plain.flatten fun t ht ↦ ?_
        obtain ⟨g', hg', rfl⟩ := List.mem_map.mp ht
        exact (hgroups g' hg').2
      exact (Template.plain_text _).append hplain

/-- A clause behind a space writes its template if the queries in it do. -/
theorem Where.spaced_writes {w : Where} (h : ∀ q ∈ w.subqueries, q.WritesNested) :
    w.spaced.Writes s w.spacedTemplate ∧ w.spacedTemplate.Plain := by
  obtain ⟨hwrites, hplain⟩ := Where.printer_writes (s := s) h
  rw [Where.spaced, Layout.spaced, Where.spacedTemplate, Template.spaced]
  split
  · exact ⟨Printer.nothing_writes, Template.plain_nil⟩
  · exact ⟨(Printer.text_writes _).append hwrites, (Template.plain_text _).append hplain⟩

/-- A selected item writes its template if its query does. -/
theorem SelectItem.printer_writes {i : SelectItem} (h : ∀ q ∈ i.query?, q.WritesNested) :
    i.printer.Writes s (i.template s.nested) ∧ (i.template true).Plain := by
  cases i with
  | column name =>
    rw [SelectItem.printer, SelectItem.template, SelectItem.template]
    constructor
    · exact (Printer.text_writes _).append (Printer.field_writes name).topLevel
    · exact Template.plain_text _
  | sub query label =>
    have hq : query.WritesNested := h query rfl
    rw [SelectItem.printer, SelectItem.template, SelectItem.template]
    constructor
    · exact hq.subQuery_writes.append (Printer.text_writes _)
    · exact hq.2.bracketed.append (Template.plain_text _)

/-- A query writes its template if the queries in it do. -/
theorem Select.printer_writes_of_subqueries {q : Select}
    (h : ∀ q' ∈ q.subqueries, q'.WritesNested) :
    q.printer.Writes s (q.template s.nested) ∧ (q.template true).Plain := by
  have hitems : ∀ i ∈ q.items,
      i.printer.Writes s (i.template s.nested) ∧ (i.template true).Plain := by
    intro i hi
    exact SelectItem.printer_writes fun q' hq' ↦ h q' (Select.mem_subqueries_of_item hi hq')
  obtain ⟨hfilter, hfilterPlain⟩ :=
    Where.spaced_writes (s := s) fun q' hq' ↦ h q' (Select.mem_subqueries_of_filter hq')
  obtain ⟨dialect, items, tables, filter, groups, order, limit, counted, readOnly⟩ := q
  rw [Select.printer, Select.template, Select.template]
  split
  · exact ⟨Printer.text_writes _, Template.plain_text _⟩
  · rw [Layout.query, Template.query, Template.query, itemPrinters_eq_map, itemTemplates_eq_map,
      itemTemplates_eq_map]
    constructor
    · have hcount := Layout.rowCountColumn_writes (s := s) counted
      have hlist := Printer.Writes.separated (fun i hi ↦ (hitems i hi).1) ", "
      exact (((((Printer.text_writes _).append hlist).append hcount.topLevel).append
        (Printer.text_writes _)).append hfilter).append (Printer.text_writes _)
    · have hlist : Template.Plain (Template.joined ", " (items.map fun i ↦ i.template true)) := by
        refine Template.Plain.joined (fun t ht ↦ ?_) ", "
        obtain ⟨i, hi, rfl⟩ := List.mem_map.mp ht
        exact (hitems i hi).2
      exact (((((Template.plain_text _).append hlist).append Template.plain_nil).append
        (Template.plain_text _)).append hfilterPlain).append (Template.plain_text _)

end Parts

/-- A query inside another statement writes its template, in which there is nothing but text and
parameters. -/
theorem Select.writesNested (q : Select) : q.WritesNested := by
  induction q using Select.nesting_induction with
  | step q ih =>
    constructor
    · exact fun d ↦ (Select.printer_writes_of_subqueries (s := ⟨d, true⟩) ih).1
    · exact (Select.printer_writes_of_subqueries (s := ⟨default, true⟩) ih).2

/-- A query writes its template. -/
theorem Select.printer_writes (q : Select) (s : Setting) :
    q.printer.Writes s (q.template s.nested) :=
  (Select.printer_writes_of_subqueries fun q' _ ↦ q'.writesNested).1

/-- A condition writes its template. -/
theorem Condition.printer_writes_template (c : Condition) (s : Setting) :
    c.printer.Writes s c.template :=
  (Condition.printer_writes fun q _ ↦ q.writesNested).1

/-- A clause writes its template. -/
theorem Where.printer_writes_template (w : Where) (s : Setting) : w.printer.Writes s w.template :=
  (Where.printer_writes fun q _ ↦ q.writesNested).1

/-- A clause behind a space writes its template. -/
theorem Where.spaced_writes_template (w : Where) (s : Setting) :
    w.spaced.Writes s w.spacedTemplate :=
  (Where.spaced_writes fun q _ ↦ q.writesNested).1

/-- A clause behind a space has nothing but text and parameters. -/
theorem Where.plain_spacedTemplate (w : Where) : w.spacedTemplate.Plain :=
  (Where.spaced_writes (s := ⟨default, false⟩) fun q _ ↦ q.writesNested).2

/-- The text of a clause behind a space, if `start` parameters come before it. -/
theorem Where.text_spaced (w : Where) (d : Dialect) (start : Nat) :
    (w.spaced ⟨d, false⟩ ⟨"", .startingAt start, []⟩).text = w.spacedTemplate.render d start :=
  (w.spaced_writes_template ⟨d, false⟩).textFrom start

/-- The text of a clause that is written by itself. -/
theorem Where.text_alone (w : Where) (d : Dialect) :
    (w.printer.alone d).text = w.template.render d 0 :=
  (w.printer_writes_template ⟨d, false⟩).textFrom 0

end SqlStatement
