import SqlStatement.Builder.Build
import SqlStatement.Builder.Returning
import SqlStatement.Query.Layout

/-!
# Building insertions
-/

namespace SqlStatement

/-- An insertion of one row. -/
structure Insert where
  dialect : Dialect
  table : Name
  columns : List Name
  returning : List Name

namespace Insert

/-- An insertion without a table and columns. -/
def new (d : Dialect) : Insert := ⟨d, .empty, [], []⟩

/-- The calls that configure an insertion. Blank columns are ignored. -/
inductive Call
  | table (table : String)
  | columns (columns : List String)
  | returning (columns : List String)

/-- The insertion after a call. -/
def apply (i : Insert) : Call → Except Error (Logged Insert)
  | .table table => .ok (.silent { i with table := .ofString table })
  | .columns columns => .ok (.silent { i with columns := i.columns ++ Name.ofStrings columns })
  | .returning columns =>
    .ok (.silent { i with returning := i.returning ++ Name.ofStrings columns })

/-- The values, one parameter for each column. -/
def values (i : Insert) : Printer := .separated ", " (i.columns.map fun c ↦ .field c ++ .slot c)

/-- Writes the insertion. -/
def printer (i : Insert) : Printer :=
  .text ("insert into " ++ i.table.text) ++
    .bracketed (.text (Layout.commas (i.columns.map Name.text))) ++
    Returning.output .inserted i.returning ++ .text " values" ++ .bracketed i.values ++
    Returning.trailing i.returning

/-- What the insertion lacks to be a statement: there are no columns. -/
def lack (i : Insert) : Option Diagnostic :=
  if i.columns.isEmpty then some .nothingInserted else none

/-- The answer of a build. -/
def build (i : Insert) (terminate : Bool) : Logged Info :=
  i.printer.build i.lack i.dialect terminate false Kind.insert.builtEvent

end Insert

end SqlStatement
