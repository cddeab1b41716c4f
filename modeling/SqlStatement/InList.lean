import SqlStatement.Number.Fixed

/-!
# Value lists

The condition that a field has one of some values, with the values written into the text.  Texts are
not escaped, and a list of texts has its outer quotes even if it is empty.
-/

namespace SqlStatement

/-- A list of values, all of one type. Floating-point numbers are given by their bits. -/
inductive InList
  | ints (values : List Int)
  | floats (values : List UInt64)
  | texts (values : List String)

namespace InList

/-- The form in which a list of values is written. -/
inductive Form
  /-- A list in brackets behind `IN`. -/
  | list
  /-- An array literal behind `=ANY`. -/
  | array
  deriving DecidableEq, Repr

/-- Floating-point numbers have six decimal places. -/
def floatPlaces : Nat := 6

/-- The texts of the values. -/
def items : InList → List String
  | ints values => values.map toString
  | floats values => values.map fun b ↦ Fixed.ofBinary64 floatPlaces (Binary64.ofBits b)
  | texts values => values

/-- The type of the elements if the values are written as an array. -/
def elementType : InList → String
  | ints _ => "integer"
  | floats _ => "numeric"
  | texts _ => "text"

/-- The condition that a field has one of the values. -/
def render (form : Form) (field : String) (values : InList) : String :=
  match form, values with
  | .array, _ =>
    field ++ "=ANY('\x7b" ++ ",".intercalate values.items ++ "\x7d'::" ++ values.elementType ++
      "[])"
  | .list, texts vs => field ++ " IN ('" ++ "','".intercalate vs ++ "')"
  | .list, _ => field ++ " IN (" ++ ",".intercalate values.items ++ ")"

end InList

end SqlStatement
