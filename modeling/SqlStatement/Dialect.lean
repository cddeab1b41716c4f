import SqlStatement.Error
import SqlStatement.Text.Blank
import SqlStatement.Text.Lowercase

/-!
# Dialects

A dialect is a database engine together with the way in which parameters are marked in its
statements: a sigil, with or without the ordinal of the parameter behind it.
-/

namespace SqlStatement

/-- The database engines, which differ in the form of their statements. -/
inductive Engine
  | postgres
  | mssql
  | mysql
  deriving DecidableEq, Repr, Inhabited

namespace Engine

/-- All engines. -/
def all : List Engine := [postgres, mssql, mysql]

/-- The word by which an engine is known. -/
def word : Engine → String
  | postgres => "pgsql"
  | mssql => "mssql"
  | mysql => "mysql"

/-- The lower-case words that stand for an engine. -/
def spellings : Engine → List String
  | postgres => ["pgsql", "postgres", "postgresql"]
  | mssql => ["mssql", "sqlserver"]
  | mysql => ["mysql"]

/-- The engine that a word stands for. The case of ASCII letters and blanks around the word do not
matter; a refusal repeats the word as it was given. -/
def parse (s : String) : Except Error Engine :=
  match all.find? fun e ↦ Text.asciiLower (Text.trim s) ∈ e.spellings with
  | some e => .ok e
  | none => .error (.unknownDialect s)

end Engine

/-- An engine and its parameter markers. -/
structure Dialect where
  engine : Engine
  sigil : String
  numbered : Bool
  deriving DecidableEq, Repr

namespace Dialect

/-- The usual dialect of an engine. -/
def ofEngine : Engine → Dialect
  | .postgres => ⟨.postgres, "$", true⟩
  | .mssql => ⟨.mssql, "@p", true⟩
  | .mysql => ⟨.mysql, "?", false⟩

instance : Inhabited Dialect := ⟨ofEngine .mysql⟩

/-- The usual dialect of the engine that a word stands for. -/
def parse (s : String) : Except Error Dialect := (Engine.parse s).map ofEngine

/-- The same dialect with another sigil. -/
def withSigil (d : Dialect) (sigil : String) : Dialect := { d with sigil }

/-- The same dialect with or without ordinals behind the sigil. -/
def withNumbered (d : Dialect) (numbered : Bool) : Dialect := { d with numbered }

/-- The marker of the parameter with the given ordinal, the first parameter having ordinal 1. -/
def placeholder (d : Dialect) (ordinal : Nat) : String :=
  if d.numbered then d.sigil ++ toString ordinal else d.sigil

end Dialect

end SqlStatement
