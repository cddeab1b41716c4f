import SqlStatement.Text.Blank

/-!
# Names

A name is the text of an identifier, a table, an alias or a credited field, without blanks at its
ends. It may be empty.  Names are ordered by the bytes of their UTF-8 encoding; this is a linear
order, in which the name without characters is the first (`Name.not_lt_empty`).
-/

namespace SqlStatement

/-- A text without blanks at its ends. -/
@[ext]
structure Name where
  text : String
  trimmed : Text.trim text = text
  deriving DecidableEq

namespace Name

/-- The name that a text gives: the blanks at its ends are dropped. -/
def ofString (s : String) : Name := ⟨Text.trim s, Text.trim_trim s⟩

/-- The name without characters. -/
def empty : Name := ⟨"", by simp [Text.trim, Text.trimChars, Text.trimEnd]⟩

instance : Inhabited Name := ⟨empty⟩

/-- A name is empty if it has no characters. -/
def isEmpty (n : Name) : Bool := n.text == ""

/-- The names that are not empty, in their order. -/
def present (names : List Name) : List Name := names.filter fun n ↦ !n.isEmpty

/-- The names that a list of texts gives, those without characters left out. -/
def ofStrings (texts : List String) : List Name := present (texts.map ofString)

/-- The names that are not empty, separated by commas. -/
def commaList (names : List Name) : String := ", ".intercalate ((present names).map text)

@[simp] theorem text_ofString (s : String) : (ofString s).text = Text.trim s := rfl

@[simp] theorem text_empty : empty.text = "" := rfl

/-- A name is the name of its own text. -/
@[simp] theorem ofString_text (n : Name) : ofString n.text = n :=
  Name.ext n.trimmed

/-- The present names of two lists are those of the first and then those of the second. -/
@[simp] theorem present_append (a b : List Name) : present (a ++ b) = present a ++ present b :=
  List.filter_append ..

/-- The names taken from a list of texts are not empty. -/
theorem isEmpty_of_mem_ofStrings {texts : List String} {n : Name} (h : n ∈ ofStrings texts) :
    n.isEmpty = false := by
  simpa using (List.mem_filter.mp h).2

/-! ## Order -/

/-- The bytes of the name in UTF-8. -/
def octets (n : Name) : List UInt8 := n.text.toByteArray.data.toList

/-- A name is determined by its bytes. -/
theorem octets_injective {a b : Name} (h : a.octets = b.octets) : a = b := by
  apply Name.ext
  rw [← String.toByteArray_inj]
  exact ByteArray.ext (Array.toList_inj.mp h)

instance : LE Name := ⟨fun a b ↦ a.octets ≤ b.octets⟩

instance : LT Name := ⟨fun a b ↦ a.octets < b.octets⟩

instance (a b : Name) : Decidable (a ≤ b) := inferInstanceAs (Decidable (a.octets ≤ b.octets))

instance (a b : Name) : Decidable (a < b) := inferInstanceAs (Decidable (a.octets < b.octets))

/-- Names are ordered linearly, since their bytes are. -/
instance : Std.IsLinearOrder Name where
  le_refl a := Std.le_refl a.octets
  le_trans _ _ _ := Std.le_trans (α := List UInt8)
  le_antisymm _ _ h h' := octets_injective (Std.le_antisymm h h')
  le_total a b := Std.le_total (a := a.octets) (b := b.octets)

instance : Std.LawfulOrderLT Name where
  lt_iff a b := Std.LawfulOrderLT.lt_iff a.octets b.octets

/-- The name without characters is the first of all. -/
theorem not_lt_empty (a : Name) : ¬ a < empty := List.not_lt_nil a.octets

/-- Names in ascending order; equal names keep all their occurrences. -/
def sorted (names : List Name) : List Name := names.mergeSort fun a b ↦ a ≤ b

/-- Names in ascending order, each once. -/
def distinct (names : List Name) : List Name := (sorted names).eraseDups

end Name

end SqlStatement
