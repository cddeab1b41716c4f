import SqlStatement.Name

/-!
# Tallies

While a statement is written, a tally counts its fields and its parameters and lists the names that
belong to them.  A sub-query has a tally of its own, which starts at the number of parameters before
it; when it ends, the statement around it takes over the number and the list of its parameters and
nothing else (`Tally.adopt`).
-/

namespace SqlStatement

/-- A listing with one more text, behind a comma if there is something in front. A text without
characters is not listed. -/
def Listing.add (listing text : String) : String :=
  if text = "" then listing else if listing = "" then text else listing ++ ", " ++ text

/-- What is counted and listed while a statement is written. -/
structure Tally where
  fieldCount : Nat
  paramCount : Nat
  /-- The fields, separated by commas. -/
  fields : String
  /-- The credited fields of the parameters, separated by commas. -/
  params : String
  /-- The returned columns, separated by commas. -/
  returning : String
  deriving DecidableEq, Repr

namespace Tally

/-- The tally of a statement that comes after a number of parameters. -/
def startingAt (paramCount : Nat) : Tally := ⟨0, paramCount, "", "", ""⟩

/-- One more field, unless its name is empty. -/
def field (t : Tally) (n : Name) : Tally :=
  if n.isEmpty then t
  else { t with fieldCount := t.fieldCount + 1, fields := Listing.add t.fields n.text }

/-- One more parameter. It is counted even if the name to which it is credited is empty. -/
def param (t : Tally) (credit : Name) : Tally :=
  { t with paramCount := t.paramCount + 1, params := Listing.add t.params credit.text }

/-- One more returned column. -/
def returned (t : Tally) (n : Name) : Tally :=
  { t with returning := Listing.add t.returning n.text }

/-- The tally behind a sub-query, from the one before it and the sub-query's own. -/
def adopt (t sub : Tally) : Tally :=
  { t with paramCount := sub.paramCount, params := Listing.add t.params sub.params }

end Tally

end SqlStatement
