import SqlStatement.Builder.Build
import SqlStatement.Query.Layout
import SqlStatement.Query.Where

/-!
# Building procedure calls

A procedure is called for the rows that it answers or for its effect alone.  One engine has a
statement of its own for both, which takes the arguments and nothing else.
-/

namespace SqlStatement

/-- What a procedure is called for. -/
inductive CallMode
  /-- Columns of its rows are selected. -/
  | rows
  /-- It is performed, and its rows are dropped. -/
  | perform
  deriving DecidableEq, Repr

/-- A call of a procedure. -/
structure Proc where
  dialect : Dialect
  /-- The procedure and what it is called for, once that is known. -/
  target : Option (Name × CallMode)
  columns : List Name
  arguments : List Name
  filter : Where
  order : List (Name × Direction)
  /-- The greatest number of rows, or 0 if there is no limit. -/
  limit : Nat
  /-- A further column tells the number of all rows. -/
  counted : Bool
  readOnly : Bool

namespace Proc

/-- A call without a procedure. -/
def new (d : Dialect) : Proc := ⟨d, none, [], [], .empty, [], 0, false, true⟩

/-- A character that cannot be part of the name of a procedure. -/
def breaksName (c : Char) : Bool := Text.isBlank c || c == ';' || c == '(' || c == ')'

/-- The name of a procedure, if it is one. -/
def checkName (s : String) : Except Error Name :=
  let name := Name.ofString s
  if name.isEmpty || name.text.toList.any breaksName then .error (.invalidProcName name.text)
  else .ok name

/-- Chooses the procedure and what it is called for; an earlier choice gives way. -/
def call (p : Proc) (mode : CallMode) (name : String) : Except Error Proc :=
  (checkName name).map fun name ↦ { p with target := some (name, mode) }

/-- The calls that configure a procedure call. Blank columns and arguments are ignored. -/
inductive Call
  | select (columns : List String)
  | call (mode : CallMode) (name : String)
  | arguments (arguments : List String)
  | orderBy (column : String) (direction : Direction)
  | limit (rows : Nat)
  | countRows
  | notReadOnly
  | filter (call : Where.Call)

/-- The procedure call after a call that configures it. -/
def apply (p : Proc) : Call → Except Error (Logged Proc)
  | .select columns => .ok (.silent { p with columns := p.columns ++ Name.ofStrings columns })
  | .call mode name => (p.call mode name).map .silent
  | .arguments arguments =>
    .ok (.silent { p with arguments := p.arguments ++ Name.ofStrings arguments })
  | .orderBy column direction =>
    .ok (.silent { p with
      order := p.order ++ (Name.ofStrings [column]).map fun c ↦ (c, direction) })
  | .limit rows => .ok (.silent { p with limit := rows })
  | .countRows => .ok (.silent { p with counted := true })
  | .notReadOnly => .ok (.silent { p with readOnly := false })
  | .filter call => (p.filter.apply call).map fun w ↦ .silent { p with filter := w }

/-- Writes the arguments, one parameter each. -/
def argumentList (p : Proc) : Printer := .separated ", " (p.arguments.map .slot)

/-- Writes the call on the engine with a statement of its own. Its fields are the columns, although
these are not written. -/
def execPrinter (p : Proc) (name : Name) : Printer :=
  .text ("exec " ++ name.text) ++
    (if p.arguments.isEmpty then .nothing else .text " " ++ p.argumentList) ++
    .concat (p.columns.map .field)

/-- Writes the call for the effect alone. -/
def performPrinter (p : Proc) (name : Name) : Printer :=
  .text ("perform " ++ name.text) ++ .bracketed p.argumentList

/-- Writes the call for the columns of its rows. -/
def rowsPrinter (p : Proc) (name : Name) : Printer :=
  .text "select " ++ .separated ", " (p.columns.map fun c ↦ .text c.text ++ .field c) ++
    Layout.rowCountColumn p.counted ++ .text (" from " ++ name.text) ++ .bracketed p.argumentList ++
    p.filter.spaced ++ .text (Layout.tail [] p.order p.limit)

/-- Writes the call. -/
def printer (p : Proc) : Printer :=
  let (name, mode) := p.target.getD (.empty, .rows)
  .onEngine fun e ↦
    match e, mode with
    | .mssql, _ => p.execPrinter name
    | _, .perform => p.performPrinter name
    | _, .rows => p.rowsPrinter name

/-- What the call lacks to be a statement: there is no procedure, or no column of its rows although
these are asked for. -/
def lack (p : Proc) : Option Diagnostic :=
  match p.target, p.dialect.engine with
  | none, _ => some .noProcedure
  | some _, .mssql => none
  | some (_, .perform), _ => none
  | some (_, .rows), _ => if p.columns.isEmpty then some .nothingSelected else none

/-- The event of a call, which tells the procedure. -/
def builtEvent (p : Proc) (info : Info) : Event :=
  .built .proc (p.target.map (·.1)) (some info.fieldsCount) info.paramCount

/-- The answer of a build. -/
def build (p : Proc) (terminate : Bool) : Logged Info :=
  p.printer.build p.lack p.dialect terminate p.readOnly p.builtEvent

end Proc

end SqlStatement
