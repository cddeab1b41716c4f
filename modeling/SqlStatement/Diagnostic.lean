/-!
# Diagnostics

What a builder lacks when there is no statement that it could build.
-/

namespace SqlStatement

/-- Why there is no statement to render. -/
inductive Diagnostic
  | nothingSelected
  | nothingInserted
  | nothingUpdated
  | noProcedure
  deriving DecidableEq, Repr

/-- The wording that stands in the place of the statement. -/
def Diagnostic.message : Diagnostic → String
  | nothingSelected => "no fields to select"
  | nothingInserted => "no fields to insert"
  | nothingUpdated => "no fields to update"
  | noProcedure => "no procedure to call"

end SqlStatement
