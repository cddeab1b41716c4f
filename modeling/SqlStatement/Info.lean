import SqlStatement.Diagnostic
import SqlStatement.Printer

/-!
# Built statements

`Info` is what a build answers: the text of the statement and what a caller needs to know to run it.
It comes from a page on which the whole statement is written (`Page.info`), or from the reason why
there is no statement (`Diagnostic.info`).
-/

namespace SqlStatement

/-- What a build answers. -/
structure Info where
  /-- The statement, or the wording of a diagnostic. -/
  sql : String
  /-- The fields of the statement, separated by commas. -/
  fields : String
  fieldsCount : Nat
  /-- The credited fields of the parameters, separated by commas. -/
  paramFields : String
  paramCount : Nat
  /-- The returned columns, separated by commas. -/
  returningFields : String
  /-- The statement changes no data. -/
  readOnly : Bool
  /-- There was no statement to render. -/
  diagnostic : Bool
  deriving DecidableEq, Repr

/-- The answer of a build with nothing to render. -/
def Diagnostic.info (reason : Diagnostic) : Info where
  sql := reason.message
  fields := ""
  fieldsCount := 0
  paramFields := ""
  paramCount := 0
  returningFields := ""
  readOnly := false
  diagnostic := true

/-- The answer of a build that has written a page. A terminated statement ends in a semicolon. -/
def Page.info (p : Page) (terminate readOnly : Bool) : Info where
  sql := p.text ++ (if terminate then ";" else "")
  fields := p.tally.fields
  fieldsCount := p.tally.fieldCount
  paramFields := p.tally.params
  paramCount := p.tally.paramCount
  returningFields := p.tally.returning
  readOnly := readOnly
  diagnostic := false

end SqlStatement
