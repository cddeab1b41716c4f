import SqlStatement.Dialect
import SqlStatement.Stored.Document

/-!
# Stored dialects
-/

namespace SqlStatement

/-- The name under which an engine is stored. -/
def Engine.storedName : Engine → String
  | postgres => "Postgres"
  | mssql => "MsSql"
  | mysql => "MySql"

/-- The engine that is stored in a document. -/
def Engine.ofDocument? (x : Document) : Option Engine :=
  x.choice?.bind fun name ↦ all.find? fun e ↦ e.storedName = name

namespace Dialect

/-- The names of the members of a stored dialect. -/
def storedFields : List String := ["kind", "prefix", "numbered"]

/-- The document in which a dialect is stored. -/
def toDocument (d : Dialect) : Document :=
  .object (storedFields.zip [.text d.engine.storedName, .text d.sigil, .bool d.numbered])

/-- The dialect that is stored in a document. -/
def ofDocument? (x : Document) : Option Dialect := do
  let [engine, sigil, numbered] ← x.fields? storedFields | none
  return ⟨← Engine.ofDocument? engine, ← sigil.text?, ← numbered.bool?⟩

end Dialect

end SqlStatement
