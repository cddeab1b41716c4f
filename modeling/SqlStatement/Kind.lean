/-!
# Kinds of statements
-/

namespace SqlStatement

/-- What a statement does. -/
inductive Kind
  | select
  | insert
  | update
  | delete
  | proc
  deriving DecidableEq, Repr

/-- The word that names a kind. -/
def Kind.word : Kind → String
  | select => "select"
  | insert => "insert"
  | update => "update"
  | delete => "delete"
  | proc => "proc"

end SqlStatement
