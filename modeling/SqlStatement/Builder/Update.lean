import SqlStatement.Builder.Build
import SqlStatement.Builder.Returning
import SqlStatement.Query.Layout
import SqlStatement.Query.Where

/-!
# Building updates

An update sets plain columns, each to a parameter, and then calculated columns, each to a text of
its own in which every marker is a parameter.
-/

namespace SqlStatement

/-- An update of rows. -/
structure Update where
  dialect : Dialect
  table : Name
  columns : List Name
  /-- The values of the calculated columns. -/
  calculated : NameMap String
  filter : Where
  returning : List Name

namespace Update

/-- An update without a table and columns. -/
def new (d : Dialect) : Update := ⟨d, .empty, [], .empty, .empty, []⟩

/-- Sets a column to a calculated value; an earlier value of the column gives way. A blank column is
ignored. -/
def calculate (u : Update) (column value : String) : Logged Update :=
  let key := Name.ofString column
  if key.isEmpty then .silent u
  else ⟨{ u with calculated := u.calculated.insert key (Text.trim value) },
    (u.calculated.lookup key).toList.map (.calculationOverwritten key)⟩

/-- The calls that configure an update. Blank columns are ignored. -/
inductive Call
  | table (table : String)
  | columns (columns : List String)
  | calculate (column value : String)
  | returning (columns : List String)
  | filter (call : Where.Call)

/-- The update after a call. -/
def apply (u : Update) : Call → Except Error (Logged Update)
  | .table table => .ok (.silent { u with table := .ofString table })
  | .columns columns => .ok (.silent { u with columns := u.columns ++ Name.ofStrings columns })
  | .calculate column value => .ok (u.calculate column value)
  | .returning columns =>
    .ok (.silent { u with returning := u.returning ++ Name.ofStrings columns })
  | .filter call => (u.filter.apply call).map fun w ↦ .silent { u with filter := w }

/-- What one column is set to. -/
inductive Assignment
  /-- A parameter. -/
  | plain (column : Name)
  /-- A value in raw text. -/
  | calculated (column : Name) (value : String)

/-- The assignments to the plain columns and then to the calculated ones in the order of their
names. -/
def assignments (u : Update) : List Assignment :=
  u.columns.map .plain ++ u.calculated.entries.map fun e ↦ .calculated e.1 e.2

/-- Writes an assignment. -/
def Assignment.printer : Assignment → Printer
  | plain c => .text (c.text ++ "=") ++ .field c ++ .slot c
  | calculated c value => .text (c.text ++ "=") ++ .field c ++ .raw c value

/-- Writes the update. -/
def printer (u : Update) : Printer :=
  .text ("update " ++ u.table.text ++ " set ") ++
    .separated ", " (u.assignments.map Assignment.printer) ++
    Returning.output .inserted u.returning ++ u.filter.spaced ++ Returning.trailing u.returning

/-- What the update lacks to be a statement: there are no columns of either sort. -/
def lack (u : Update) : Option Diagnostic :=
  if u.columns.isEmpty ∧ u.calculated.entries.isEmpty then some .nothingUpdated else none

/-- The answer of a build. -/
def build (u : Update) (terminate : Bool) : Logged Info :=
  u.printer.build u.lack u.dialect terminate false Kind.update.builtEvent

end Update

end SqlStatement
