import SqlStatement.Info

/-!
# Building a statement

Every builder answers a build in the same way: it says what it lacks, or it writes its statement on
a blank page.
-/

namespace SqlStatement

/-- The answer of a build with its events. If something is lacking, this alone is reported; for a
statement, what is reported while it is written, and then that it is built. -/
def Printer.build (lack : Option Diagnostic) (a : Printer) (d : Dialect) (terminate readOnly : Bool)
    (built : Info → Event) : Logged Info :=
  match lack with
  | some reason => ⟨reason.info, [.nothingToRender reason]⟩
  | none =>
    let page := a.alone d
    let info := page.info terminate readOnly
    ⟨info, page.events ++ [built info]⟩

/-- The event of a statement that has fields. -/
def Kind.builtEvent (k : Kind) (info : Info) : Event :=
  .built k none (some info.fieldsCount) info.paramCount

end SqlStatement
