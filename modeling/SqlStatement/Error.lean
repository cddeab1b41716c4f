/-!
# Refused calls

The reasons for which a call to a builder, or the choice of a dialect, is refused, and their
wording.
-/

namespace SqlStatement

/-- Why a call is refused. -/
inductive Error
  /-- A group of conditions joins a clause that no plain list of conditions has opened. -/
  | missingWhere
  /-- The name cannot stand for a procedure in a call. -/
  | invalidProcName (name : String)
  /-- No database engine goes by this word. -/
  | unknownDialect (word : String)
  deriving DecidableEq, Repr

/-- The wording of a refusal. -/
def Error.message : Error → String
  | missingWhere => "default where condition must be added before a where group"
  | invalidProcName name => "invalid procedure name: '" ++ name ++ "'"
  | unknownDialect word => "unknown database dialect: '" ++ word ++ "'"

end SqlStatement
