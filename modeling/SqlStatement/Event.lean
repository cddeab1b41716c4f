import SqlStatement.Diagnostic
import SqlStatement.Kind
import SqlStatement.Name

/-!
# Events

Builders report what a reader of a log may want to know: that an earlier value was overwritten, that
returning columns were skipped, and what became of each build.  An operation that reports answers a
value of type `Logged α`.
-/

namespace SqlStatement

/-- How much an event matters. -/
inductive Level
  | trace
  | debug
  | warn
  deriving DecidableEq, Repr

/-- The word that names a level. -/
def Level.word : Level → String
  | trace => "TRACE"
  | debug => "DEBUG"
  | warn => "WARN"

/-- The value of an attribute of an event. -/
inductive Attribute
  | text (s : String)
  | count (n : Nat)
  deriving DecidableEq, Repr

/-- Something that happened in a builder. -/
inductive Event
  /-- A table took the place of the table that an alias had before. -/
  | tableOverwritten (label : Name) (previous : String)
  /-- A value took the place of the value that a calculated column had before. -/
  | calculationOverwritten (column : Name) (previous : String)
  /-- Returning columns were left out, since the engine cannot return any. -/
  | returningSkipped (columns : Nat)
  /-- A build found nothing to render. -/
  | nothingToRender (reason : Diagnostic)
  /-- A build rendered a statement; a call of a procedure tells its name, and a statement that has
  fields their number. -/
  | built (statement : Kind) (procedure : Option Name) (fields : Option Nat) (params : Nat)
  deriving DecidableEq

namespace Event

/-- How much the event matters. -/
def level : Event → Level
  | tableOverwritten .. | calculationOverwritten .. | nothingToRender .. => .debug
  | returningSkipped .. => .warn
  | built .. => .trace

/-- The wording of the event. -/
def message : Event → String
  | tableOverwritten .. => "table alias overwritten"
  | calculationOverwritten .. => "calculated column overwritten"
  | returningSkipped .. => "returning columns are not supported on mysql, skipped"
  | nothingToRender .. => "statement has nothing to render"
  | built .. => "statement built"

/-- The attributes of the event with their names. -/
def attributes : Event → List (String × Attribute)
  | tableOverwritten label previous => [("alias", .text label.text), ("previous", .text previous)]
  | calculationOverwritten column previous =>
    [("column", .text column.text), ("previous", .text previous)]
  | returningSkipped columns => [("columns", .count columns)]
  | nothingToRender reason => [("diagnostic", .text reason.message)]
  | built statement procedure fields params =>
    ("statement", .text statement.word) ::
      (procedure.toList.map fun n ↦ ("name", .text n.text)) ++
      (fields.toList.map fun n ↦ ("fields", .count n)) ++ [("params", .count params)]

/-- What a reader of the log sees of an event. -/
def record (e : Event) : String × String × List (String × Attribute) :=
  (e.level.word, e.message, e.attributes)

end Event

/-- A value and the events reported on the way to it. -/
structure Logged (α : Type) where
  value : α
  events : List Event
  deriving DecidableEq

namespace Logged

variable {α β : Type}

/-- A value of which nothing is reported. -/
def silent (a : α) : Logged α := ⟨a, []⟩

/-- The result of a function on the value, with the same events. -/
def map (f : α → β) (l : Logged α) : Logged β := ⟨f l.value, l.events⟩

@[simp] theorem value_silent (a : α) : (silent a).value = a := rfl

@[simp] theorem value_map (f : α → β) (l : Logged α) : (l.map f).value = f l.value := rfl

end Logged

end SqlStatement
