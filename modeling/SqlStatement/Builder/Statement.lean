import SqlStatement.Builder.Delete
import SqlStatement.Builder.Insert
import SqlStatement.Builder.Proc
import SqlStatement.Builder.Select
import SqlStatement.Builder.Update

/-!
# Builders of every kind

The builders of the five kinds of statements have their calls and their build in common.  A builder
is configured by a list of calls (`Kind.run`), of which the refused ones change nothing; calls may
be made in one list or in several (`Kind.run_append`).
-/

namespace SqlStatement.Kind

/-- The builder of a kind of statements. -/
def Builder : Kind → Type
  | select => Select
  | insert => Insert
  | update => Update
  | delete => Delete
  | proc => Proc

/-- The calls that configure a builder. -/
def Call : Kind → Type
  | select => Select.Call
  | insert => Insert.Call
  | update => Update.Call
  | delete => Delete.Call
  | proc => Proc.Call

/-- A builder that is not configured yet. -/
def new : (k : Kind) → Dialect → k.Builder
  | select => Select.new
  | insert => Insert.new
  | update => Update.new
  | delete => Delete.new
  | proc => Proc.new

/-- The dialect of a builder. -/
def dialect : (k : Kind) → k.Builder → Dialect
  | select => Select.dialect
  | insert => Insert.dialect
  | update => Update.dialect
  | delete => Delete.dialect
  | proc => Proc.dialect

/-- The builder after a call. -/
def apply : (k : Kind) → k.Builder → k.Call → Except Error (Logged k.Builder)
  | select => Select.apply
  | insert => Insert.apply
  | update => Update.apply
  | delete => Delete.apply
  | proc => Proc.apply

/-- Writes the statement of a builder. -/
def printer : (k : Kind) → k.Builder → Printer
  | select => Select.printer
  | insert => Insert.printer
  | update => Update.printer
  | delete => Delete.printer
  | proc => Proc.printer

/-- What a builder lacks to have a statement. A deletion never lacks anything. -/
def lack : (k : Kind) → k.Builder → Option Diagnostic
  | select => Select.lack
  | insert => Insert.lack
  | update => Update.lack
  | delete => fun _ ↦ none
  | proc => Proc.lack

/-- Whether the statement of a builder is taken to change no data. -/
def readOnly : (k : Kind) → k.Builder → Bool
  | select => Select.readOnly
  | proc => Proc.readOnly
  | insert | update | delete => fun _ ↦ false

/-- The event of a build that has a statement. -/
def reportBuilt : (k : Kind) → k.Builder → Info → Event
  | select => fun _ ↦ select.builtEvent
  | insert => fun _ ↦ insert.builtEvent
  | update => fun _ ↦ update.builtEvent
  | delete => fun _ ↦ Delete.builtEvent
  | proc => Proc.builtEvent

/-- The answer of a build. -/
def build : (k : Kind) → k.Builder → Bool → Logged Info
  | select => Select.build
  | insert => Insert.build
  | update => Update.build
  | delete => Delete.build
  | proc => Proc.build

/-- All builders answer a build in the same way. -/
theorem build_eq (k : Kind) (b : k.Builder) (terminate : Bool) :
    k.build b terminate =
      (k.printer b).build (k.lack b) (k.dialect b) terminate (k.readOnly b) (k.reportBuilt b) := by
  cases k <;> rfl

/-- The builder after calls, with all that they report. A refused call changes nothing. -/
def run (k : Kind) (b : k.Builder) : List k.Call → Logged k.Builder
  | [] => .silent b
  | c :: cs =>
    match k.apply b c with
    | .error _ => k.run b cs
    | .ok l =>
      let rest := k.run l.value cs
      ⟨rest.value, l.events ++ rest.events⟩

/-- Calls may be made in two lists, one after the other. -/
theorem run_append (k : Kind) (b : k.Builder) (cs cs' : List k.Call) :
    k.run b (cs ++ cs') =
      let first := k.run b cs
      let rest := k.run first.value cs'
      ⟨rest.value, first.events ++ rest.events⟩ := by
  induction cs generalizing b with
  | nil => rfl
  | cons c cs ih =>
    rw [List.cons_append, run, run]
    cases k.apply b c with
    | error e => exact ih b
    | ok l => simp [ih, List.append_assoc]

end SqlStatement.Kind
