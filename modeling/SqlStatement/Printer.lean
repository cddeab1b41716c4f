import SqlStatement.Dialect
import SqlStatement.Event
import SqlStatement.Tally

/-!
# Printers

A statement is written on a page, which keeps its text so far, its tally and the events reported on
the way.  A printer writes a part of a statement: it goes on with the page as it finds it, in a
setting that tells the dialect and whether it is inside a sub-query.  Printers are put together from
single steps (`text`, `slot`, `field`, `returned`, `report`), one after the other (`++`, `concat`,
`separated`) and one inside the other (`subQuery`).
-/

namespace SqlStatement

/-- A statement that is being written. -/
structure Page where
  text : String
  tally : Tally
  /-- What has been reported, the first event first. -/
  events : List Event
  deriving DecidableEq

/-- The page on which nothing is written. -/
def Page.blank : Page := ⟨"", .startingAt 0, []⟩

/-- Where a part of a statement is written. -/
structure Setting where
  dialect : Dialect
  /-- The part is inside a sub-query. -/
  nested : Bool

/-- A way to go on with a page. -/
def Printer := Setting → Page → Page

namespace Printer

/-- Writes nothing. -/
def nothing : Printer := fun _ p ↦ p

/-- Writes a text. -/
def text (t : String) : Printer := fun _ p ↦ { p with text := p.text ++ t }

/-- Takes the next parameter, credited to a name, and writes the dialect's placeholder for it. -/
def slot (credit : Name) : Printer := fun s p ↦
  let tally := p.tally.param credit
  { p with text := p.text ++ s.dialect.placeholder tally.paramCount, tally }

/-- Counts a field of the statement. -/
def field (n : Name) : Printer := fun _ p ↦ { p with tally := p.tally.field n }

/-- Lists a column that the statement returns. -/
def returned (n : Name) : Printer := fun _ p ↦ { p with tally := p.tally.returned n }

/-- Reports an event. -/
def report (e : Event) : Printer := fun _ p ↦ { p with events := p.events ++ [e] }

instance : Append Printer := ⟨fun a b s p ↦ b s (a s p)⟩

/-- The second of two printers goes on with the page of the first. -/
@[simp] theorem append_apply (a b : Printer) (s : Setting) (p : Page) :
    (a ++ b) s p = b s (a s p) := rfl

/-- Printers one after the other. -/
def concat : List Printer → Printer
  | [] => nothing
  | a :: r => a ++ concat r

/-- Printers one after the other, each two with a text between them. -/
def separated (sep : String) : List Printer → Printer
  | [] => nothing
  | [a] => a
  | a :: b :: r => a ++ text sep ++ separated sep (b :: r)

/-- A printer in round brackets. -/
def bracketed (a : Printer) : Printer := text "(" ++ a ++ text ")"

/-- A printer that is left out inside sub-queries. -/
def topLevel (a : Printer) : Printer := fun s p ↦ if s.nested then p else a s p

/-- A printer that depends on the engine. -/
def onEngine (f : Engine → Printer) : Printer := fun s p ↦ f s.dialect.engine s p

/-- A sub-query in round brackets, in the dialect of the statement around it. It has a tally of its
own, whose parameters the statement around it adopts. -/
def subQuery (a : Printer) : Printer := fun s p ↦
  let inner := a { s with nested := true }
    ⟨p.text ++ "(", .startingAt p.tally.paramCount, p.events⟩
  ⟨inner.text ++ ")", p.tally.adopt inner.tally, inner.events⟩

/-- The page of a part that is written by itself in a dialect. -/
def alone (a : Printer) (d : Dialect) : Page := a ⟨d, false⟩ .blank

end Printer

end SqlStatement
