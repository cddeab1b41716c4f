import SqlStatement.Printer

/-!
# Returning columns

A statement that changes rows can return columns of them.  One engine writes the columns as an
output list before the values or the conditions, one behind everything else, and one cannot return
any.
-/

namespace SqlStatement

/-- The image of a changed row from which an output list takes its columns. -/
inductive RowImage
  | inserted
  | deleted
  deriving DecidableEq, Repr

/-- The word that names an image. -/
def RowImage.word : RowImage → String
  | inserted => "inserted"
  | deleted => "deleted"

namespace Returning

/-- The columns of a list, each behind a text, as columns that the statement returns. -/
def list (before : String) (columns : List Name) : Printer :=
  .separated ", " (columns.map fun c ↦ .text before ++ .text c.text ++ .returned c)

/-- The output list, on the engine that writes one. -/
def output (image : RowImage) (columns : List Name) : Printer :=
  if columns.isEmpty then .nothing
  else .onEngine fun e ↦
    match e with
    | .mssql => .text " output " ++ list (image.word ++ ".") columns
    | .postgres | .mysql => .nothing

/-- The list behind everything else, on the engine that writes one. On the engine that cannot return
any columns it is reported that they are left out. -/
def trailing (columns : List Name) : Printer :=
  if columns.isEmpty then .nothing
  else .onEngine fun e ↦
    match e with
    | .postgres => .text " returning " ++ list "" columns
    | .mssql => .nothing
    | .mysql => .report (.returningSkipped columns.length)

end Returning

end SqlStatement
