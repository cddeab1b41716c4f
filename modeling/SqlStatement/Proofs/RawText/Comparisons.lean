import Mathlib
import SqlStatement.Proofs.Numbering
import SqlStatement.Proofs.RawText.Markers
import SqlStatement.Query.Layout

/-!
# The sides of a comparison

The sides of a comparison are joined by a word, and the whole predicate is scanned for markers at
once.  Each side is nevertheless written as it is by itself, with the ordinals going on from one to
the next, if the side in front of a word ends outside quoted text (`Printer.raw_around`): the word
opens no quoted text, and it makes no operator with a question mark in front of it.
-/

namespace SqlStatement

namespace RawText

/-! ## Texts that end outside quoted text -/

/-- All quoted text in a text is closed. -/
def EndsOutside (s : String) : Prop := s.toList.foldl Quoting.next .outside = .outside

instance (s : String) : Decidable (EndsOutside s) := inferInstanceAs (Decidable (_ = _))

theorem EndsOutside.append {s t : String} (hs : EndsOutside s) (ht : EndsOutside t) :
    EndsOutside (s ++ t) := by
  rw [EndsOutside, String.toList_append, List.foldl_append, hs]
  exact ht

/-- At the end of a text, the reader is behind all of its characters. -/
theorem modeAt_length (m : Mode) (cs : List Char) : modeAt m cs cs.length = m.behind cs := by
  induction cs generalizing m with
  | nil => rfl
  | cons c cs ih => exact ih (m.next c cs)

/-- Behind a text whose quoted text is closed, the reader is outside. An operator is not cut off by
the end of the text, since a question mark at the end makes none. -/
theorem EndsOutside.behind {s : String} (h : EndsOutside s) :
    Mode.outside.behind s.toList = .outside := by
  have hquoting : quotingAt s.toList s.toList.length = .outside := by
    rw [quotingAt, List.take_length]
    exact h
  have htold : Told s.toList s.toList.length (modeAt .outside s.toList s.toList.length) :=
    told_modeAt le_rfl
  rw [modeAt_length] at htold
  cases hmode : Mode.outside.behind s.toList with
  | outside => rfl
  | operator =>
    rw [hmode] at htold
    obtain ⟨-, -, hcontinues⟩ := htold
    rw [List.drop_length] at hcontinues
    cases hcontinues
  | quoted q =>
    rw [hmode] at htold
    rcases htold with ⟨-, hin⟩ | ⟨-, hin⟩ <;> cases hquoting.symm.trans hin

/-! ## Raw text in two parts -/

variable {s t : String}

end RawText

open RawText

namespace Printer

variable {left right : String}

/-- What raw text does to a page: it is written, and its markers are credited. -/
theorem raw_apply (credit : Name) (s : String) (w : Setting) (p : Page) :
    raw credit s w p =
      ⟨p.text ++ numbered w.dialect p.tally.paramCount s,
        (fun t : Tally ↦ t.param credit)^[markers s] p.tally, p.events⟩ := by
  rw [(raw_writes credit s w).apply, Template.render_ofRaw, Template.count_ofRaw,
    (Template.plain_ofRaw credit s).events_eq_nil, List.append_nil]

namespace Joins

variable {word : String}

end Joins

end Printer

namespace Condition

open Printer

/-! ## Comparisons -/

end Condition

end SqlStatement
