import Mathlib
import SqlStatement.Proofs.Numerals

/-!
# Decimal texts with a fixed number of places

A number with decimal places is written as a numeral, a point and the places, behind a minus sign if
it is negative (`Fixed.IsDecimal`).  Such a text is read by its digits alone: all of them form a
whole number, and those behind the point tell its places (`Fixed.valueOf`).
-/

namespace SqlStatement.Fixed

/-- A text consists of a minus sign if the number is negative, a numeral, a point, and a digit for
each of the places; all its digits form the number `m`. -/
def IsDecimal (places : ℕ) (negative : Bool) (s : String) (m : ℕ) : Prop :=
  ∃ whole fraction : List Char,
    s = (if negative then "-" else "") ++ .ofList whole ++ "." ++ .ofList fraction ∧
      IsNumeral whole ∧ fraction.length = places ∧ (∀ c ∈ fraction, c.isDigit = true) ∧
      Nat.ofDigitChars 10 (whole ++ fraction) 0 = m

/-- The number for which a decimal text stands: the number that its digits form, divided by ten for
each of the digits behind the point. -/
def valueOf (s : String) : ℚ :=
  (if '-' ∈ s.toList then -1 else 1) * Nat.ofDigitChars 10 (s.toList.filter Char.isDigit) 0 /
    10 ^ ((s.toList.dropWhile (· ≠ '.')).filter Char.isDigit).length

/-! ## The last digits of a number -/

@[simp] theorem length_lastDigits (count n : ℕ) : (lastDigits count n).length = count := by
  induction count generalizing n with
  | zero => rfl
  | succ count ih => rw [lastDigits, List.length_append, ih, List.length_singleton]

/-- Behind the digits of `before`, the last digits of a number make up for what is cut off. -/
theorem ofDigitChars_lastDigits (count n before : ℕ) :
    Nat.ofDigitChars 10 (lastDigits count n) before = before * 10 ^ count + n % 10 ^ count := by
  induction count generalizing n with
  | zero => simp [lastDigits, Nat.ofDigitChars_nil, Nat.mod_one]
  | succ count ih =>
    have hmod : n % 10 ^ (count + 1) = 10 * (n / 10 % 10 ^ count) + n % 10 := by
      rw [Nat.pow_succ', Nat.mod_mul, Nat.add_comm]
    rw [lastDigits, Nat.ofDigitChars_append, ih,
      Nat.ofDigitChars_cons_digitChar_of_lt_ten (Nat.mod_lt n (by decide)), Nat.ofDigitChars_nil,
      hmod, Nat.pow_succ']
    ring

/-! ## Writing and reading -/

/-- The decimal text of `n / 10 ^ places` has all the digits of `n`. -/
theorem isDecimal_text (places : ℕ) (negative : Bool) (n : ℕ) :
    IsDecimal places negative ((if negative then "-" else "") ++ text places n) n := by
  have hpow : Nat.pow 10 places = 10 ^ places := rfl
  refine ⟨Nat.toDigits 10 (n / 10 ^ places), lastDigits places n, ?_, isNumeral_toDigits _,
    length_lastDigits places n, fun c ↦ isDigit_of_mem_lastDigits, ?_⟩
  · rw [text, hpow, Nat.toString_eq_ofList_toDigits, String.append_assoc, String.append_assoc,
      String.append_assoc]
  · rw [Nat.ofDigitChars_append, Nat.ofDigitChars_ten_toDigits, ofDigitChars_lastDigits,
      Nat.div_add_mod']

namespace IsDecimal

variable {places : ℕ} {negative : Bool} {s : String} {m : ℕ}

/-- There is nothing but digits, a point and a minus sign in a decimal text. -/
theorem mem (h : IsDecimal places negative s m) {c : Char} (hc : c ∈ s.toList) :
    c = '-' ∨ c = '.' ∨ c.isDigit = true := by
  obtain ⟨whole, fraction, rfl, hwhole, -, hfraction, -⟩ := h
  simp only [String.toList_append, String.toList_ofList, List.mem_append] at hc
  rcases hc with ((hc | hc) | hc) | hc
  · cases negative with
    | false => exact absurd hc List.not_mem_nil
    | true => exact .inl (List.mem_singleton.mp hc)
  · exact .inr (.inr (hwhole.isDigit c hc))
  · exact .inr (.inl (List.mem_singleton.mp hc))
  · exact .inr (.inr (hfraction c hc))

theorem ne_empty (h : IsDecimal places negative s m) : s ≠ "" := by
  obtain ⟨whole, fraction, rfl, -⟩ := h
  rw [Ne, String.append_eq_empty_iff, String.append_eq_empty_iff]
  exact fun hempty ↦ absurd hempty.1.2 (by decide)

/-- A decimal text is read as the number that its digits form, with its places and its sign. -/
theorem valueOf_eq (h : IsDecimal places negative s m) :
    valueOf s = (if negative then -1 else 1) * m / 10 ^ places := by
  obtain ⟨whole, fraction, rfl, hwhole, hplaces, hfraction, hm⟩ := h
  let sign : List Char := if negative then ['-'] else []
  have hs : ((if negative then "-" else "") ++ String.ofList whole ++ "." ++
      String.ofList fraction).toList = sign ++ whole ++ '.' :: fraction := by
    cases negative <;> simp [sign]
  have hwhole_digits : whole.filter Char.isDigit = whole := List.filter_eq_self.mpr hwhole.isDigit
  have hfraction_digits : fraction.filter Char.isDigit = fraction :=
    List.filter_eq_self.mpr hfraction
  have hminus : '-' ∈ sign ++ whole ++ '.' :: fraction ↔ negative = true := by
    have hnone : '-' ∉ whole ∧ '-' ∉ fraction :=
      ⟨fun h ↦ absurd (hwhole.isDigit _ h) (by decide), fun h ↦ absurd (hfraction _ h) (by decide)⟩
    cases negative <;> simp [sign, hnone]
  have hdigits : (sign ++ whole ++ '.' :: fraction).filter Char.isDigit = whole ++ fraction := by
    have hsign : sign.filter Char.isDigit = [] := by cases negative <;> rfl
    rw [List.filter_append, List.filter_append, hsign, hwhole_digits,
      List.filter_cons_of_neg (by decide), hfraction_digits, List.nil_append]
  have hbehind : (sign ++ whole ++ '.' :: fraction).dropWhile (· ≠ '.') = '.' :: fraction := by
    have hfront : ∀ c ∈ sign ++ whole, decide (c ≠ '.') = true := by
      intro c hc
      refine decide_eq_true ?_
      rintro rfl
      rcases List.mem_append.mp hc with hc | hc
      · cases negative <;> simp [sign] at hc
      · exact absurd (hwhole.isDigit _ hc) (by decide)
    rw [List.dropWhile_append_of_pos hfront, List.dropWhile_cons_of_neg (by decide)]
  have hlength : (('.' :: fraction).filter Char.isDigit).length = places := by
    rw [List.filter_cons_of_neg (by decide), hfraction_digits, hplaces]
  simp only [valueOf, hs, hminus, hdigits, hbehind, hlength, hm]

end IsDecimal

end SqlStatement.Fixed
