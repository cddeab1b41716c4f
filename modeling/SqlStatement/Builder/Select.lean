import SqlStatement.Builder.Build
import SqlStatement.Query.Layout
import SqlStatement.Query.Where

/-!
# Building queries
-/

namespace SqlStatement.Select

/-- Selects columns; blank ones are ignored. -/
def select (q : Select) (columns : List String) : Select :=
  { q with items := q.items ++ (Name.ofStrings columns).map .column }

/-- Selects a sub-query, with a label if this is not blank. -/
def selectSub (q : Select) (query : Select) (label : String) : Select :=
  { q with items := q.items ++ [.sub query (.ofString label)] }

/-- Takes a table, in lower case, under an alias; an earlier table of the alias gives way. A blank
table is ignored. -/
def table (q : Select) (table label : String) : Logged Select :=
  let table := Text.lowercase (Text.trim table)
  let key := Name.ofString label
  if table = "" then .silent q
  else ⟨{ q with tables := q.tables.insert key table },
    (q.tables.lookup key).toList.map (.tableOverwritten key)⟩

/-- Groups rows by columns; blank ones are ignored. -/
def groupBy (q : Select) (columns : List String) : Select :=
  { q with groups := q.groups ++ Name.ofStrings columns }

/-- Orders rows by one more column; a blank one is ignored. -/
def orderBy (q : Select) (column : String) (direction : Direction) : Select :=
  { q with order := q.order ++ (Name.ofStrings [column]).map fun c ↦ (c, direction) }

/-- The calls that configure a query. -/
inductive Call
  | select (columns : List String)
  | selectSub (query : Select) (label : String)
  | table (table label : String)
  | groupBy (columns : List String)
  | orderBy (column : String) (direction : Direction)
  | limit (rows : Nat)
  | countRows
  | notReadOnly
  | filter (call : Where.Call)

/-- The query after a call. -/
def apply (q : Select) : Call → Except Error (Logged Select)
  | .select columns => .ok (.silent (q.select columns))
  | .selectSub query label => .ok (.silent (q.selectSub query label))
  | .table table label => .ok (q.table table label)
  | .groupBy columns => .ok (.silent (q.groupBy columns))
  | .orderBy column direction => .ok (.silent (q.orderBy column direction))
  | .limit rows => .ok (.silent { q with limit := rows })
  | .countRows => .ok (.silent { q with counted := true })
  | .notReadOnly => .ok (.silent { q with readOnly := false })
  | .filter call => (q.filter.apply call).map fun w ↦ .silent { q with filter := w }

/-- What the query lacks to be a statement: it selects nothing. -/
def lack (q : Select) : Option Diagnostic := if q.items.isEmpty then some .nothingSelected else none

/-- The answer of a build. -/
def build (q : Select) (terminate : Bool) : Logged Info :=
  q.printer.build q.lack q.dialect terminate q.readOnly Kind.select.builtEvent

/-- The clause of the query by itself, its parameters numbered from 1. -/
def whereClause (q : Select) : String := (q.filter.printer.alone q.dialect).text

end SqlStatement.Select
