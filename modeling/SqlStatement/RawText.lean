import SqlStatement.Printer

/-!
# Parameter markers in raw text

Raw text is SQL that a caller writes by hand.  A question mark in it marks a parameter unless it
stands in single or double quotes or belongs to one of the operators `??`, `?&` and `?|`; before
`||` it is a parameter, whose value is then concatenated.

The text is scanned by the offsets of its bytes in UTF-8.  The scan answers the `Cut`s of the text:
the markers and the spans between them.  `Printer.raw` writes them one after the other.
-/

namespace SqlStatement

namespace RawText

/-- The byte of an ASCII character. -/
abbrev octet (c : Char) : UInt8 := c.toUInt8

/-- A quoted literal or identifier starts with a single or a double quote. -/
def isQuote (b : UInt8) : Bool := b == octet '\'' || b == octet '"'

/-- The offset behind the quoted text of which the bytes from `i` on are left. A doubled quote does
not end it; if nothing does, the answer is one more than the number of bytes. -/
def behindQuoted (bytes : ByteArray) (quote : UInt8) (i : Nat) : Nat :=
  if h : i < bytes.size then
    if bytes[i] = quote then
      if bytes[i + 1]? = some quote then behindQuoted bytes quote (i + 2) else i + 1
    else behindQuoted bytes quote (i + 1)
  else i + 1
termination_by bytes.size - i

/-- The offset behind a quoted text is further on. -/
theorem lt_behindQuoted (bytes : ByteArray) (quote : UInt8) (i : Nat) :
    i < behindQuoted bytes quote i := by
  fun_induction behindQuoted bytes quote i <;> omega

/-- Two bytes behind a question mark tell that it is no marker: it is the first character of an
operator. -/
def isOperator : Option UInt8 → Option UInt8 → Bool
  | some b, next =>
    b == octet '?' || b == octet '&' || (b == octet '|' && next != some (octet '|'))
  | none, _ => false

/-- What the scan does at the offset `i`. -/
inductive Move (i : Nat)
  /-- It goes on at a later offset. -/
  | skip (next : Nat) (later : i < next)
  /-- It has found a marker. -/
  | mark

/-- What the scan does at an offset, as the byte there and the two behind it demand. -/
def move (bytes : ByteArray) (i : Nat) (h : i < bytes.size) : Move i :=
  if isQuote bytes[i] then
    .skip (behindQuoted bytes bytes[i] (i + 1))
      (Nat.lt_of_succ_lt (lt_behindQuoted bytes bytes[i] (i + 1)))
  else if bytes[i] = octet '?' then
    if isOperator bytes[i + 1]? bytes[i + 2]? then .skip (i + 2) (by omega) else .mark
  else .skip (i + 1) (by omega)

/-- A part of a scanned text. -/
inductive Cut
  /-- The bytes from `start` on and before `stop`. -/
  | span (start stop : Nat)
  /-- The question mark at an offset. -/
  | marker (offset : Nat)
  deriving DecidableEq, Repr

/-- Where the scan stands, and where the span began that it has not yet cut off. -/
structure Cursor where
  index : Nat
  spanStart : Nat
  deriving DecidableEq, Repr

/-- The cuts of a text from a cursor on. -/
def cutsFrom (bytes : ByteArray) (c : Cursor) : List Cut :=
  if h : c.index < bytes.size then
    match move bytes c.index h with
    | .skip next _ => cutsFrom bytes ⟨next, c.spanStart⟩
    | .mark => .span c.spanStart c.index :: .marker c.index ::
        cutsFrom bytes ⟨c.index + 1, c.index + 1⟩
  else if c.spanStart < bytes.size then [.span c.spanStart bytes.size]
  else []
termination_by bytes.size - c.index

/-- The cuts of a text. -/
def cuts (s : String) : List Cut := cutsFrom s.toByteArray ⟨0, 0⟩

/-- The part of a text between two offsets, if these lie inside it and between characters. -/
def slice? (s : String) (start stop : Nat) : Option String :=
  if start ≤ stop ∧ stop ≤ s.utf8ByteSize then
    String.fromUTF8? (s.toByteArray.extract start stop)
  else none

/-- Writes what a cut of a text stands for: a span as it is, and a parameter for a marker. -/
def Cut.printer (s : String) (credit : Name) : Cut → Printer
  | span start stop => .text ((slice? s start stop).getD "")
  | marker _ => .slot credit

end RawText

/-- Writes raw text, every marker in it being a parameter credited to the same field. -/
def Printer.raw (credit : Name) (s : String) : Printer :=
  concat ((RawText.cuts s).map fun c ↦ c.printer s credit)

end SqlStatement
