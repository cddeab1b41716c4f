import Mathlib
import SqlStatement.Proofs.RawText.Values

/-!
# Decimal numerals and lists of integers

A whole number has one decimal numeral (`IsNumeral`), and so has an integer, with a minus sign in
front of it or none (`IsInteger`).  There is no comma in it, so a list of integers between commas is
taken apart at the commas and read back, whatever the form of the list (`InList.ints_read_back`).
-/

namespace SqlStatement

/-! ## Numerals -/

/-- Digits that begin with a zero only if there is nothing else. -/
structure IsNumeral (cs : List Char) : Prop where
  ne_nil : cs ≠ []
  isDigit : ∀ c ∈ cs, c.isDigit = true
  lead : cs.head? = some '0' → cs = ['0']

/-- The digits of a number are a numeral. -/
theorem isNumeral_toDigits (n : Nat) : IsNumeral (Nat.toDigits 10 n) where
  ne_nil := Nat.toDigits_ne_nil
  isDigit _ h := Nat.isDigit_of_mem_toDigits (by decide) (by decide) h
  lead := by
    induction n using Nat.strongRecOn with
    | ind n ih =>
      intro hlead
      rw [Nat.toDigits_eq_if (by decide)] at hlead ⊢
      split at hlead
      · next hn =>
        have hdigit : ∀ d : Fin 10, Nat.digitChar d = '0' → [Nat.digitChar d] = ['0'] := by decide
        rw [if_pos hn]
        exact hdigit ⟨n, hn⟩ (Option.some.inj hlead)
      · next hn =>
        -- the digits in front are those of a smaller number, which would have to be zero
        rw [List.head?_append_of_ne_nil _ Nat.toDigits_ne_nil] at hlead
        have hzero := ih (n / 10) (by omega) hlead
        have hvalue := congrArg (fun cs ↦ Nat.ofDigitChars 10 cs 0) hzero
        rw [Nat.ofDigitChars_ten_toDigits] at hvalue
        have hten : n / 10 = 0 := hvalue
        omega

/-- The decimal text of an integer in its only form: a numeral, or a minus sign in front of a
numeral other than zero. -/
def IsInteger (s : String) : Prop :=
  ∃ digits, IsNumeral digits ∧ (s = .ofList digits ∨ s = "-" ++ .ofList digits ∧ digits ≠ ['0'])

namespace IsInteger

variable {s : String}

/-- There is nothing but digits and a minus sign in the text of an integer. -/
theorem mem (h : IsInteger s) {c : Char} (hc : c ∈ s.toList) : c = '-' ∨ c.isDigit = true := by
  obtain ⟨digits, hdigits, rfl | ⟨rfl, -⟩⟩ := h
  · rw [String.toList_ofList] at hc
    exact .inr (hdigits.isDigit c hc)
  · simp only [String.toList_append, String.toList_ofList, List.mem_append] at hc
    rcases hc with hc | hc
    · exact .inl (List.mem_singleton.mp hc)
    · exact .inr (hdigits.isDigit c hc)

theorem comma_notMem (h : IsInteger s) : ',' ∉ s.toList := by
  intro hc
  rcases h.mem hc with hc | hc <;> exact absurd hc (by decide)

theorem ne_empty (h : IsInteger s) : s ≠ "" := by
  obtain ⟨digits, hdigits, rfl | ⟨rfl, -⟩⟩ := h
  · rw [Ne, String.ofList_eq_empty_iff]
    exact hdigits.ne_nil
  · rw [Ne, String.append_eq_empty_iff]
    exact fun h ↦ absurd h.1 (by decide)

end IsInteger

/-- An integer is written in the only form of its text. -/
theorem isInteger_toString (n : Int) : IsInteger (toString n) := by
  rw [Int.toString_eq_repr, Int.repr_eq_if]
  split
  · exact ⟨_, isNumeral_toDigits n.toNat, .inl Nat.repr_eq_ofList_toDigits⟩
  · next hn =>
    refine ⟨_, isNumeral_toDigits (-n).toNat, .inr ⟨by rw [Nat.repr_eq_ofList_toDigits], ?_⟩⟩
    intro hzero
    have hvalue := congrArg (fun cs ↦ Nat.ofDigitChars 10 cs 0) hzero
    rw [Nat.ofDigitChars_ten_toDigits] at hvalue
    have hnat : (-n).toNat = 0 := hvalue
    omega

/-- The text of an integer reads as the integer. -/
theorem toInt?_toString (n : Int) : (toString n).toInt? = some n := by
  rw [Int.toString_eq_repr, Int.repr_eq_if, String.toInt?_eq_some_iff]
  split
  · next hn => exact .inl ⟨n.toNat, Nat.toNat?_repr _, (Int.toNat_of_nonneg hn).symm⟩
  · next hn =>
    refine .inr ⟨_, rfl, (-n).toNat, Nat.toNat?_repr _, ?_⟩
    omega

/-- Different integers have different texts. -/
theorem toString_injective : Function.Injective fun n : Int ↦ toString n := by
  intro m n hmn
  have hread := congrArg String.toInt? hmn
  simpa only [toInt?_toString, Option.some.injEq] using hread

/-! ## Values between commas -/

namespace InList

/-- The items of a text that has a comma between each two of them. There is none in the text without
characters. -/
def itemsBetweenCommas (text : String) : List String :=
  if text = "" then [] else (text.split ',').toList.map (·.copy)

/-- Texts with something between them are empty only if there is no text. -/
theorem intercalate_eq_empty_iff {sep : String} {ts : List String} (h : ∀ t ∈ ts, t ≠ "") :
    sep.intercalate ts = "" ↔ ts = [] := by
  match ts with
  | [] => exact iff_of_true rfl rfl
  | [t] =>
    rw [String.intercalate_singleton]
    exact iff_of_false (h t List.mem_cons_self) (List.cons_ne_nil _ _)
  | t :: u :: r =>
    refine iff_of_false (fun hempty ↦ ?_) (List.cons_ne_nil _ _)
    rw [String.intercalate_cons_cons, String.append_eq_empty_iff, String.append_eq_empty_iff]
      at hempty
    exact h t List.mem_cons_self hempty.1.1

/-- Items without commas, none of them empty, are found between the commas. -/
theorem itemsBetweenCommas_intercalate {ts : List String} (hempty : ∀ t ∈ ts, t ≠ "")
    (hcomma : ∀ t ∈ ts, ',' ∉ t.toList) : itemsBetweenCommas (",".intercalate ts) = ts := by
  by_cases hts : ts = []
  · rw [hts]
    rfl
  · have hsplit := String.toList_split_intercalate hcomma
    rw [if_neg hts] at hsplit
    rw [itemsBetweenCommas, if_neg (mt (intercalate_eq_empty_iff hempty).mp hts)]
    exact hsplit

/-! ## Lists of integers -/

/-- Integers are separated by commas in all forms. -/
theorem middle_ints (form : Form) (values : List Int) :
    (ints values).middle form = ",".intercalate (values.map toString) := by
  cases form <;> rfl

/-- What is around integers does not depend on them. -/
theorem render_ints (form : Form) (field : String) (values : List Int) :
    render form field (.ints values) =
      field ++ opening form (.ints []) ++ (ints values).middle form ++ closing form (.ints []) := by
  rw [render_eq]
  cases form <;> rfl

theorem isInteger_of_mem_map {values : List Int} {item : String}
    (h : item ∈ values.map toString) : IsInteger item := by
  obtain ⟨n, -, rfl⟩ := List.mem_map.mp h
  exact isInteger_toString n

/-- The items of a list of integers are the texts of the values. -/
theorem itemsBetweenCommas_middle_ints (form : Form) (values : List Int) :
    itemsBetweenCommas ((ints values).middle form) = values.map toString := by
  rw [middle_ints]
  exact itemsBetweenCommas_intercalate (fun _ h ↦ (isInteger_of_mem_map h).ne_empty)
    fun _ h ↦ (isInteger_of_mem_map h).comma_notMem

/-- A list of integers is written as the field, the opening of the form, the values, and the closing
of the form. There is nothing in the place of the values only if there are none. The items between
the commas of that part are, value by value, the texts of integers in their only form, and read as
the values. So lists that are written alike are equal. -/
theorem ints_read_back (form : Form) (field : String) (values : List Int) :
    ∃ middle : String,
      render form field (.ints values) =
        field ++ opening form (.ints []) ++ middle ++ closing form (.ints []) ∧
      (middle = "" ↔ values = []) ∧
      List.Forall₂ (fun item n ↦ IsInteger item ∧ item.toInt? = some n)
        (itemsBetweenCommas middle) values ∧
      ∀ others, render form field (.ints values) = render form field (.ints others) →
        values = others := by
  refine ⟨(ints values).middle form, render_ints form field values, ?_, ?_, fun others hrender ↦ ?_⟩
  · rw [middle_ints, intercalate_eq_empty_iff fun _ h ↦ (isInteger_of_mem_map h).ne_empty,
      List.map_eq_nil_iff]
  · rw [itemsBetweenCommas_middle_ints, List.forall₂_map_left_iff, List.forall₂_same]
    exact fun n _ ↦ ⟨isInteger_toString n, toInt?_toString n⟩
  · rw [render_ints, render_ints, String.append_left_inj, String.append_right_inj] at hrender
    have htexts := congrArg itemsBetweenCommas hrender
    rw [itemsBetweenCommas_middle_ints, itemsBetweenCommas_middle_ints] at htexts
    exact toString_injective.list_map htexts

/-- The least and the greatest integer of 64 bits, and zero twice. -/
theorem ints_read_back_extremes :
    let values : List Int := [0, -9223372036854775808, 9223372036854775807, 0]
    ∃ middle : String,
      render .array "id" (.ints values) = "id" ++ "=ANY('\x7b" ++ middle ++ "\x7d'::integer[])" ∧
      middle ≠ "" ∧
      List.Forall₂ (fun item n ↦ IsInteger item ∧ item.toInt? = some n)
        (itemsBetweenCommas middle) values ∧
      render .array "id" (.ints values) ≠ render .array "id" (.ints values.tail) := by
  intro values
  obtain ⟨middle, hrender, hempty, hread, hinj⟩ := ints_read_back .array "id" values
  have hne : values ≠ [] := List.cons_ne_nil _ _
  exact ⟨middle, hrender, mt hempty.mp hne, hread, fun h ↦ absurd (hinj _ h) (by decide)⟩

end InList

end SqlStatement
