import SqlStatement.Builder.Build
import SqlStatement.Builder.Returning
import SqlStatement.Query.Layout
import SqlStatement.Query.Where

/-!
# Building deletions

A deletion always has a statement, if only one that deletes all rows.
-/

namespace SqlStatement

/-- A deletion of rows. -/
structure Delete where
  dialect : Dialect
  table : Name
  filter : Where
  returning : List Name

namespace Delete

/-- A deletion without a table. -/
def new (d : Dialect) : Delete := ⟨d, .empty, .empty, []⟩

/-- The calls that configure a deletion. Blank columns are ignored. -/
inductive Call
  | table (table : String)
  | returning (columns : List String)
  | filter (call : Where.Call)

/-- The deletion after a call. -/
def apply (x : Delete) : Call → Except Error (Logged Delete)
  | .table table => .ok (.silent { x with table := .ofString table })
  | .returning columns =>
    .ok (.silent { x with returning := x.returning ++ Name.ofStrings columns })
  | .filter call => (x.filter.apply call).map fun w ↦ .silent { x with filter := w }

/-- Writes the deletion. -/
def printer (x : Delete) : Printer :=
  .text ("delete from " ++ x.table.text) ++ Returning.output .deleted x.returning ++
    x.filter.spaced ++ Returning.trailing x.returning

/-- The event of a deletion, which does not tell a number of fields. -/
def builtEvent (info : Info) : Event := .built .delete none none info.paramCount

/-- The answer of a build. -/
def build (x : Delete) (terminate : Bool) : Logged Info :=
  x.printer.build none x.dialect terminate false builtEvent

end Delete

end SqlStatement
