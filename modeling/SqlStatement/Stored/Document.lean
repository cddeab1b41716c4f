/-!
# Documents

The values in which dialects and answers are stored: null, truth values, numbers, texts, arrays and
objects.  A whole number is told apart from a fractional one by the way it is written.

A record is stored as an object with one member for each of its fields.  It is read from such an
object, whatever the order of the members and whatever further members there are, or from an array
of the fields in their order.
-/

namespace SqlStatement

/-- A stored value. -/
inductive Document
  | null
  | bool (b : Bool)
  | whole (n : Int)
  /-- A number written with a fraction or an exponent, by its bits. -/
  | real (bits : UInt64)
  | text (s : String)
  | array (elements : List Document)
  | object (members : List (String × Document))

namespace Document

/-- A truth value. -/
def bool? : Document → Option Bool
  | bool b => some b
  | _ => none

/-- A text. -/
def text? : Document → Option String
  | text s => some s
  | _ => none

/-- A whole number that fits into 64 bits without a sign. -/
def count? : Document → Option Nat
  | whole n => if 0 ≤ n ∧ n < 0x10000000000000000 then some n.toNat else none
  | _ => none

/-- The fields of a record whose members have the given names. -/
def fields? (names : List String) : Document → Option (List Document)
  | array elements => if elements.length = names.length then some elements else none
  | object members => names.mapM fun name ↦ members.lookup name
  | _ => none

/-- A choice without further data, from its name or from an object whose only member has that name
and is null. -/
def choice? : Document → Option String
  | text s => some s
  | object [(name, null)] => some name
  | _ => none

end Document

end SqlStatement
