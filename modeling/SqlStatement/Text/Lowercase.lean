import SqlStatement.Text.LetterCase

/-!
# Lower-casing a text

`Text.lowercase` is the full lower-casing of the Unicode standard: one character may become two, and
a capital sigma takes its final form at the end of a word.
-/

namespace SqlStatement.Text

/-- The lower-case form of a character by itself. The capital I with a dot above is the only one
that becomes two characters; one without a lower-case form stays. -/
def lowerChar (c : Char) : List Char :=
  if c = 'İ' then ['i', '\u0307']
  else match lowerRuns.find? fun r ↦ r.holds c.toNat with
    | some r => [Char.ofNat (c.toNat + r.shift).toNat]
    | none => [c]

/-- Past the case-ignorable characters in front, the list goes on with a cased one. -/
def meetsCased (cs : List Char) : Bool :=
  match cs.dropWhile isCaseIgnorable with
  | c :: _ => isCased c
  | [] => false

/-- A sigma ends a word if a cased character is before it and none after it, case-ignorable ones
aside. The text before it is given from its end backwards. -/
def endsWord (before after : List Char) : Bool :=
  meetsCased before && !meetsCased after

/-- The lower-case form of the characters that follow those in `before`, which is given from its end
backwards. -/
def lowerFrom (before : List Char) : List Char → List Char
  | [] => []
  | c :: after =>
    (if c = 'Σ' then [if endsWord before after then 'ς' else 'σ'] else lowerChar c)
      ++ lowerFrom (c :: before) after

/-- The lower-case form of a text. -/
def lowercase (s : String) : String := .ofList (lowerFrom [] s.toList)

/-- No character is lost. -/
theorem lowerChar_ne_nil (c : Char) : lowerChar c ≠ [] := by
  rw [lowerChar]
  split
  · exact List.cons_ne_nil _ _
  · cases lowerRuns.find? fun r ↦ r.holds c.toNat <;> exact List.cons_ne_nil _ _

/-- Only the text without characters has a lower-case form without characters. -/
theorem lowercase_eq_empty_iff {s : String} : lowercase s = "" ↔ s = "" := by
  rw [lowercase, String.ofList_eq_empty_iff, ← String.toList_eq_nil_iff]
  cases s.toList with
  | nil => exact iff_of_true rfl rfl
  | cons c cs =>
    refine iff_of_false (fun h ↦ ?_) (List.cons_ne_nil c cs)
    have hfirst := (List.append_eq_nil_iff.mp h).1
    split at hfirst
    · exact List.cons_ne_nil _ _ hfirst
    · exact lowerChar_ne_nil c hfirst

/-! ## Letter case in ASCII -/

/-- The lower-case form of an ASCII letter; every other character stays. -/
def asciiLower (s : String) : String := .ofList (s.toList.map Char.toLower)

end SqlStatement.Text
