import SqlStatement.Diagnostic
import SqlStatement.Query.Basic
import SqlStatement.RawText

/-!
# The text of queries

Each part of a query has a printer, or a text if there is nothing in it to be numbered.  A query is
written by the same printer as a statement of its own and inside another statement, where it does
not tell its fields and the number of its rows.  A query that selects nothing has the wording of the
diagnostic in its place.  The conditions of a group are ordered by their fields; those of one field
stay in the order in which they were given.
-/

namespace SqlStatement

namespace Layout

/-- The texts, separated by commas. -/
def commas (texts : List String) : String := ", ".intercalate texts

/-- The name of the column that tells the number of all rows. -/
def rowCount : Name := .ofString "rowscount"

/-- The column that tells the number of all rows. -/
def rowCountColumn (counted : Bool) : Printer :=
  if counted then .text (", count(*) over() as " ++ rowCount.text) ++ .field rowCount else .nothing

/-- A label behind what it labels, if it is not empty. -/
def label (n : Name) : String := if n.isEmpty then "" else " " ++ n.text

/-- The tables in the order of their aliases. -/
def tables (ts : NameMap String) : String :=
  if ts.entries.isEmpty then ""
  else " from " ++ commas (ts.entries.map fun e ↦ e.2 ++ label e.1)

/-- The columns by which rows are grouped. -/
def groupBy (columns : List Name) : String :=
  if columns.isEmpty then "" else " group by " ++ commas (columns.map Name.text)

/-- The columns by which rows are ordered. -/
def orderBy (order : List (Name × Direction)) : String :=
  if order.isEmpty then ""
  else " order by " ++ commas (order.map fun o ↦ o.1.text ++ " " ++ o.2.word)

/-- The greatest number of rows. -/
def limit (rows : Nat) : String := if rows = 0 then "" else " limit " ++ toString rows

/-- Grouping, order and limit. -/
def tail (columns : List Name) (order : List (Name × Direction)) (rows : Nat) : String :=
  groupBy columns ++ orderBy order ++ limit rows

/-- What belongs to the conditions of a group, in the order in which these are rendered. -/
def arranged {α : Type} (entries : List (Name × α)) : List α :=
  (entries.mergeSort fun a b ↦ a.1 ≤ b.1).map (·.2)

/-- The text that joins a group to the ones before it. -/
def joining : Option Conjunction → String
  | none => ""
  | some c => c.betweenGroups

/-- A group of conditions from their printers. -/
def group (join : Option Conjunction) (inner : Conjunction) (entries : List (Name × Printer)) :
    Printer :=
  .text (joining join) ++ .bracketed (.separated inner.withinGroup (arranged entries))

/-- A clause from the printers of its groups. -/
def clause (groups : List Printer) : Printer :=
  if groups.isEmpty then .nothing else .text "where " ++ .concat groups

/-- A clause behind a space, if it has groups. -/
def spaced (w : Where) (clause : Printer) : Printer :=
  if w.groups.isEmpty then .nothing else .text " " ++ clause

/-- A query from the printers of its parts. -/
def query (items : List Printer) (counted : Bool) (ts : NameMap String) (filter : Printer)
    (ending : String) : Printer :=
  .text "select " ++ .separated ", " items ++ .topLevel (rowCountColumn counted) ++
    .text (tables ts) ++ filter ++ .text ending

end Layout

mutual

/-- Writes a condition. -/
def Condition.printer : Condition → Printer
  | .plain field predicate => .raw field predicate
  | .sub field operator query =>
    .text field.text ++ .text operator.text ++ .subQuery query.printer

/-- The printers of conditions with their fields. -/
def conditionPrinters : List Condition → List (Name × Printer)
  | [] => []
  | c :: cs => (c.field, c.printer) :: conditionPrinters cs

/-- Writes a group, with what joins it to the ones before it. -/
def Group.printer : Group → Printer
  | ⟨join, inner, conditions⟩ => Layout.group join inner (conditionPrinters conditions)

/-- The printers of groups. -/
def groupPrinters : List Group → List Printer
  | [] => []
  | g :: gs => g.printer :: groupPrinters gs

/-- Writes a clause, which is empty if there is no group. -/
def Where.printer : Where → Printer
  | ⟨groups, _⟩ => Layout.clause (groupPrinters groups)

/-- Writes a selected item. Only the columns of the whole statement are its fields. -/
def SelectItem.printer : SelectItem → Printer
  | .column name => .text name.text ++ .topLevel (.field name)
  | .sub query label => .subQuery query.printer ++ .text (Layout.label label)

/-- The printers of selected items. -/
def itemPrinters : List SelectItem → List Printer
  | [] => []
  | i :: is => i.printer :: itemPrinters is

/-- Writes a query. -/
def Select.printer : Select → Printer
  | ⟨_, items, tables, filter, groups, order, limit, counted, _⟩ =>
    if items.isEmpty then .text Diagnostic.nothingSelected.message
    else Layout.query (itemPrinters items) counted tables (Layout.spaced filter filter.printer)
      (Layout.tail groups order limit)

end

/-- Writes a clause behind a space, if it has groups. -/
def Where.spaced (w : Where) : Printer := Layout.spaced w w.printer

/-- The printers of conditions are taken one by one. -/
@[simp] theorem conditionPrinters_eq_map (cs : List Condition) :
    conditionPrinters cs = cs.map fun c ↦ (c.field, c.printer) := by
  induction cs with
  | nil => simp [conditionPrinters]
  | cons c cs ih => simp [conditionPrinters, ih]

/-- The printers of groups are taken one by one. -/
@[simp] theorem groupPrinters_eq_map (gs : List Group) :
    groupPrinters gs = gs.map Group.printer := by
  induction gs with
  | nil => simp [groupPrinters]
  | cons g gs ih => simp [groupPrinters, ih]

/-- The printers of selected items are taken one by one. -/
@[simp] theorem itemPrinters_eq_map (is : List SelectItem) :
    itemPrinters is = is.map SelectItem.printer := by
  induction is with
  | nil => simp [itemPrinters]
  | cons i is ih => simp [itemPrinters, ih]

end SqlStatement
