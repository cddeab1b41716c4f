import Mathlib
import SqlStatement.Proofs.Decimals
import SqlStatement.Proofs.Rounding

/-!
# Lists of floating-point numbers

The bits of a number are taken apart as Lean's own model of floating-point numbers does it
(`Binary64.ofBits_denotes`).  The text of a finite number is the decimal text of its exact value
rounded to six places, with a minus sign if the sign bit is set (`InList.floatText_isRounded`).  So
texts are off by half of the last place at most, and in the same order as the numbers.
-/

namespace SqlStatement

open Float.Model (UnpackedFloat)
open Float.Model.UnpackedFloat (Sign unpackExponent unpackMantissa unpackSign)

/-! ## Numbers of 64 bits -/

namespace Binary64

/-- What 64 bits stand for. -/
def unpacked (bits : UInt64) : UnpackedFloat := .unpack .binary64 bits.toBitVec

/-- The exact value of a number that is finite. -/
def rational? : UnpackedFloat → Option ℚ
  | .finite sign mantissa exponent _ => some (sign.apply mantissa * 2 ^ exponent)
  | .zero _ => some 0
  | .infinity _ | .notANumber => none

/-- The sign bit of a sign. -/
def isNegative : Sign → Bool
  | .negative => true
  | .positive => false

/-- A number in parts is the unpacked number. -/
inductive Denotes : Binary64 → UnpackedFloat → Prop
  | zero (sign : Sign) : Denotes (finite (isNegative sign) 0) (.zero sign)
  | finite (sign : Sign) {mantissa : ℕ} (h : 0 < mantissa) (exponent : ℕ) :
    Denotes (finite (isNegative sign) (mantissa * Nat.pow 2 exponent))
      (.finite sign mantissa (exponent - 1074) h)
  | infinite (sign : Sign) : Denotes (infinite (isNegative sign)) (.infinity sign)
  | nan : Denotes nan .notANumber

/-! ### The parts of the bits -/

section Parts

variable (bits : UInt64)

theorem toNat_unpackExponent :
    (@unpackExponent .binary64 bits.toBitVec).toNat = bits.toNat / fractions % exponents := by
  change bits.toNat >>> 52 % 2 ^ 11 = _
  rw [Nat.shiftRight_eq_div_pow]
  rfl

theorem toNat_unpackMantissa :
    (@unpackMantissa .binary64 bits.toBitVec).toNat = bits.toNat % fractions := by
  change bits.toNat >>> 0 % 2 ^ 52 = _
  rfl

/-- The one in front of a mantissa counts as many as there are mantissas. -/
theorem toNat_one_append (mantissa : BitVec 52) :
    (1#1 ++ mantissa).toNat = fractions + mantissa.toNat := by
  rw [BitVec.toNat_append, ← Nat.shiftLeft_add_eq_or_of_lt mantissa.isLt]
  rfl

theorem msb_toBitVec : bits.toBitVec.msb = decide (exponents * fractions ≤ bits.toNat) := by
  rw [BitVec.msb_eq_decide]
  rfl

theorem isNegative_unpackSign :
    isNegative (.ofBitVec (@unpackSign .binary64 bits.toBitVec)) = bits.toBitVec.msb := by
  have hsign : (@unpackSign .binary64 bits.toBitVec).toNat =
      bits.toNat / (exponents * fractions) % 2 := by
    change bits.toNat >>> 63 % 2 ^ 1 = _
    rw [Nat.shiftRight_eq_div_pow]
    rfl
  have hpositive : @unpackSign .binary64 bits.toBitVec = 0#1 ↔
      ¬exponents * fractions ≤ bits.toNat := by
    have hlt := bits.toNat_lt
    rw [← BitVec.toNat_inj, hsign, BitVec.toNat_zero]
    simp only [exponents, fractions]
    omega
  rw [Sign.ofBitVec, msb_toBitVec]
  split_ifs with h
  · exact (decide_eq_false (hpositive.mp h)).symm
  · exact (decide_eq_true (not_not.mp (mt hpositive.mpr h))).symm

/-- Both ways to take the bits apart give the same number. -/
theorem ofBits_denotes : Denotes (ofBits bits) (unpacked bits) := by
  have hmax : @unpackExponent .binary64 bits.toBitVec = -1#11 ↔
      bits.toNat / fractions % exponents = exponents - 1 := by
    rw [← BitVec.toNat_inj, toNat_unpackExponent]
    rfl
  have hmin : @unpackExponent .binary64 bits.toBitVec = 0#11 ↔
      bits.toNat / fractions % exponents = 0 := by
    rw [← BitVec.toNat_inj, toNat_unpackExponent, BitVec.toNat_zero]
  have hnone : @unpackMantissa .binary64 bits.toBitVec = 0#52 ↔ bits.toNat % fractions = 0 := by
    rw [← BitVec.toNat_inj, toNat_unpackMantissa, BitVec.toNat_zero]
  have hbias : (Float.Model.Format.exponentBias .binary64 : ℤ) + (52 : ℕ) = 1075 := by decide
  unfold ofBits unpacked UnpackedFloat.unpack
  simp only [hmax, hmin, hnone, hbias, ← msb_toBitVec, ← isNegative_unpackSign, toNat_one_append,
    toNat_unpackExponent, toNat_unpackMantissa]
  split_ifs with hgreatest hfraction hleast hfraction
  · exact .infinite _
  · exact .nan
  · rw [hfraction]
    exact .zero _
  · have hexponent : ((bits.toNat / fractions % exponents : ℕ) : ℤ) - 1075 + 1 =
        (0 : ℕ) - 1074 := by
      rw [hleast]
      rfl
    have hunits : bits.toNat % fractions = bits.toNat % fractions * Nat.pow 2 0 :=
      (Nat.mul_one _).symm
    simp only [hexponent]
    nth_rewrite 1 [hunits]
    exact .finite _ _ 0
  · have hexponent : ((bits.toNat / fractions % exponents : ℕ) : ℤ) - 1075 =
        (bits.toNat / fractions % exponents - 1 : ℕ) - 1074 := by
      omega
    simp only [hexponent]
    exact .finite _ _ _

end Parts

/-! ### The exact value -/

theorem apply_eq (sign : Sign) (n : ℕ) :
    (sign.apply n : ℚ) = (if isNegative sign then -1 else 1) * n := by
  cases sign <;> simp [isNegative, Sign.apply]

/-- A power of two in units. -/
theorem two_zpow_sub (e : ℕ) : (2 : ℚ) ^ (e - 1074 : ℤ) = Nat.pow 2 e / unitsPerOne := by
  have hpow : ∀ k : ℕ, ((Nat.pow 2 k : ℕ) : ℚ) = 2 ^ k := fun k ↦ Nat.cast_pow 2 k
  have hunits : ∃ k : ℕ, k = 1074 ∧ unitsPerOne = Nat.pow 2 k := ⟨1074, rfl, by decide +kernel⟩
  obtain ⟨k, hk, hunits⟩ := hunits
  have hint : (1074 : ℤ) = k := by rw [hk]; rfl
  rw [hunits, hpow, hpow, hint, zpow_sub₀ two_ne_zero, zpow_natCast, zpow_natCast]

/-- A number in parts that has an exact value is finite, and its units tell the value. -/
theorem Denotes.finite_of_rational? {number : Binary64} {float : UnpackedFloat} {x : ℚ}
    (h : Denotes number float) (hx : rational? float = some x) :
    ∃ negative units, number = .finite negative units ∧
      x = (if negative then -1 else 1) * (units / unitsPerOne) := by
  cases h with
  | zero sign =>
    obtain rfl : 0 = x := Option.some.inj hx
    exact ⟨_, 0, rfl, by rw [Nat.cast_zero, zero_div, mul_zero]⟩
  | finite sign hm exponent =>
    refine ⟨_, _, rfl, (Option.some.inj hx).symm.trans ?_⟩
    rw [apply_eq, two_zpow_sub, Nat.cast_mul, mul_assoc, mul_div_assoc]
  | infinite sign => exact nomatch hx
  | nan => exact nomatch hx

section Bits

variable {bits : UInt64}

theorem eq_msb_of_ofBits {negative : Bool} {units : ℕ}
    (h : ofBits bits = .finite negative units) : negative = bits.toBitVec.msb := by
  rw [ofBits, ← msb_toBitVec] at h
  split_ifs at h <;> cases h <;> rfl

theorem ofBits_of_infinity {sign : Sign} (h : unpacked bits = .infinity sign) :
    ofBits bits = .infinite (isNegative sign) := by
  have hdenotes := ofBits_denotes bits
  rw [h] at hdenotes
  generalize ofBits bits = number at hdenotes ⊢
  cases hdenotes with
  | infinite => rfl

theorem ofBits_of_notANumber (h : unpacked bits = .notANumber) : ofBits bits = .nan := by
  have hdenotes := ofBits_denotes bits
  rw [h] at hdenotes
  generalize ofBits bits = number at hdenotes ⊢
  cases hdenotes with
  | nan => rfl

end Bits

end Binary64

/-! ## Rounded texts -/

namespace Fixed

/-- A text has a sign and the digits of `m`, and `m` is what a number rounds to. -/
structure IsRounded (places : ℕ) (negative : Bool) (x : ℚ) (s : String) (m : ℕ) : Prop where
  isDecimal : IsDecimal places negative s m
  roundsTo : RoundsTo (|x| * 10 ^ places) m
  sign : x = (if negative then -1 else 1) * |x|

namespace IsRounded

variable {places : ℕ} {negative negative' : Bool} {x x' : ℚ} {s s' : String} {m m' : ℕ}

/-- A text differs from the number by half of the last place at most. -/
theorem abs_valueOf_sub_le (h : IsRounded places negative x s m) :
    |valueOf s - x| ≤ 1 / (2 * 10 ^ places) := by
  have hdistance : |valueOf s - x| = |(m : ℚ) / 10 ^ places - abs x| := by
    rw [h.isDecimal.valueOf_eq]
    nth_rewrite 1 [h.sign]
    rw [mul_div_assoc, ← mul_sub, abs_mul]
    cases negative <;> simp
  rw [hdistance, abs_div_sub (ten_pow_pos places), ← div_div]
  exact div_le_div_of_nonneg_right h.roundsTo.within (ten_pow_pos places).le

/-- A greater magnitude does not round to less. -/
theorem le_of_abs_le (h : IsRounded places negative x s m)
    (h' : IsRounded places negative' x' s' m') (hle : |x| ≤ |x'|) : m ≤ m' :=
  h.roundsTo.mono h'.roundsTo (mul_le_mul_of_nonneg_right hle (ten_pow_pos places).le)

theorem eq_zero (h : IsRounded places negative x s m) (hx : |x| = 0) : m = 0 := by
  have hzero := h.roundsTo
  rw [hx, zero_mul] at hzero
  exact hzero.eq_zero

/-- The texts are in the same order as the numbers. -/
theorem valueOf_le_valueOf (h : IsRounded places negative x s m)
    (h' : IsRounded places negative' x' s' m') (hle : x ≤ x') : valueOf s ≤ valueOf s' := by
  have hsign := h.sign
  have hsign' := h'.sign
  have hx := abs_nonneg x
  have hx' := abs_nonneg x'
  rw [h.isDecimal.valueOf_eq, h'.isDecimal.valueOf_eq]
  refine div_le_div_of_nonneg_right ?_ (ten_pow_pos places).le
  cases negative <;> cases negative' <;>
    simp only [Bool.false_eq_true, if_true, if_false, one_mul, neg_mul] at hsign hsign' ⊢
  · exact_mod_cast h.le_of_abs_le h' (by linarith)
  · -- a positive sign on the left and a negative one on the right leave only zeros
    rw [h.eq_zero (by linarith), h'.eq_zero (by linarith), Nat.cast_zero, neg_zero]
  · exact (neg_nonpos.mpr m.cast_nonneg).trans m'.cast_nonneg
  · have hm : m' ≤ m := h'.le_of_abs_le h (by linarith)
    exact neg_le_neg (by exact_mod_cast hm)

end IsRounded

/-- The text of a finite number has its sign, also if nothing but the sign is left of it. -/
theorem ofBinary64_isRounded (places : ℕ) (negative : Bool) (units : ℕ) :
    ∃ m, IsRounded places negative ((if negative then -1 else 1) * (units / Binary64.unitsPerOne))
      (ofBinary64 places (.finite negative units)) m := by
  have hunits : 0 < Binary64.unitsPerOne := by decide +kernel
  rw [ofBinary64]
  generalize Binary64.unitsPerOne = den at hunits ⊢
  have habs : |(if negative then -1 else 1 : ℚ) * (units / den)| = units / den := by
    have hnonneg : (0 : ℚ) ≤ units / den := by positivity
    rw [abs_mul, abs_of_nonneg hnonneg]
    cases negative <;> simp
  have hscaled : (units / den * 10 ^ places : ℚ) = (units * Nat.pow 10 places : ℕ) / den := by
    have hpow : ((Nat.pow 10 places : ℕ) : ℚ) = 10 ^ places := Nat.cast_pow 10 places
    rw [Nat.cast_mul, hpow, div_mul_eq_mul_div]
  refine ⟨_, isDecimal_text places negative _, ?_, by rw [habs]⟩
  rw [habs, hscaled]
  exact roundHalfEven_roundsTo _ hunits

end Fixed

/-! ## Lists -/

namespace InList

open Binary64 (unpacked rational? ofBits_denotes)

/-- The text of a floating-point number in a list. -/
def floatText (bits : UInt64) : String := Fixed.ofBinary64 floatPlaces (Binary64.ofBits bits)

/-- The text of a number that is finite is its decimal text. -/
theorem floatText_isRounded {bits : UInt64} {x : ℚ} (h : rational? (unpacked bits) = some x) :
    ∃ m, Fixed.IsRounded floatPlaces bits.toBitVec.msb x (floatText bits) m := by
  obtain ⟨negative, units, hbits, rfl⟩ := (ofBits_denotes bits).finite_of_rational? h
  rw [floatText, hbits, ← Binary64.eq_msb_of_ofBits hbits]
  exact Fixed.ofBinary64_isRounded floatPlaces negative units

/-- There is nothing in the text of a number that ends an item, a list or a literal, or that is a
marker. -/
theorem delimiter_notMem_floatText (bits : UInt64) :
    ∀ c ∈ [',', '\'', '"', '?'], c ∉ (floatText bits).toList := by
  rw [floatText]
  cases Binary64.ofBits bits with
  | finite negative units =>
    obtain ⟨m, hm⟩ := Fixed.ofBinary64_isRounded floatPlaces negative units
    have hother : ∀ c ∈ [',', '\'', '"', '?'], ¬(c = '-' ∨ c = '.' ∨ c.isDigit = true) := by
      simp
    exact fun c hc hmem ↦ hother c hc (hm.isDecimal.mem hmem)
  | infinite negative => cases negative <;> simp [Fixed.ofBinary64]
  | nan => simp [Fixed.ofBinary64]

theorem floatText_ne_empty (bits : UInt64) : floatText bits ≠ "" := by
  rw [floatText]
  cases Binary64.ofBits bits with
  | finite negative units =>
    obtain ⟨m, hm⟩ := Fixed.ofBinary64_isRounded floatPlaces negative units
    exact hm.isDecimal.ne_empty
  | infinite negative => cases negative <;> decide
  | nan => decide

/-- Floating-point numbers are separated by commas in all forms, and what is around them does not
depend on them. -/
theorem render_floats (form : Form) (field : String) (values : List UInt64) :
    render form field (.floats values) =
      field ++ opening form (.floats []) ++ ",".intercalate (values.map floatText) ++
        closing form (.floats []) := by
  rw [render_eq]
  cases form <;> rfl

theorem itemsBetweenCommas_floats (values : List UInt64) :
    itemsBetweenCommas (",".intercalate (values.map floatText)) = values.map floatText := by
  refine itemsBetweenCommas_intercalate (List.forall_mem_map.mpr fun bits _ ↦ ?_)
    (List.forall_mem_map.mpr fun bits _ ↦ ?_)
  · exact floatText_ne_empty bits
  · exact delimiter_notMem_floatText bits ',' List.mem_cons_self

/-- A list of floating-point numbers is written as the field, the opening of the form, the texts of
the values with commas between them, and the closing of the form.  There are no commas, quotes and
question marks in the texts.  What is not a number and what is infinite is a word.  The text of a
finite number has six places, and a minus sign if the sign bit is set; its digits are those of the
nearest number with six places, of the even one if two are nearest.  So it is off by half of the
last place at most, and texts are in the order of the numbers. -/
theorem floats_rendered (form : Form) (field : String) (values : List UInt64) :
    (render form field (.floats values) =
      field ++ opening form (.floats []) ++ ",".intercalate (values.map floatText) ++
        closing form (.floats []) ∧
      itemsBetweenCommas (",".intercalate (values.map floatText)) = values.map floatText) ∧
    (∀ bits, ∀ c ∈ [',', '\'', '"', '?'], c ∉ (floatText bits).toList) ∧
    (∀ bits, unpacked bits = .notANumber → floatText bits = "NaN") ∧
    (∀ bits, unpacked bits = .infinity .positive → floatText bits = "inf") ∧
    (∀ bits, unpacked bits = .infinity .negative → floatText bits = "-inf") ∧
    (∀ bits x, rational? (unpacked bits) = some x →
      (∃ m, Fixed.IsDecimal 6 bits.toBitVec.msb (floatText bits) m ∧ Fixed.NearestEven 6 |x| m) ∧
        |Fixed.valueOf (floatText bits) - x| ≤ 1 / 2000000) ∧
    ∀ bits bits' x x', rational? (unpacked bits) = some x → rational? (unpacked bits') = some x' →
      x ≤ x' → Fixed.valueOf (floatText bits) ≤ Fixed.valueOf (floatText bits') := by
  refine ⟨⟨render_floats form field values, itemsBetweenCommas_floats values⟩,
    delimiter_notMem_floatText, fun bits h ↦ ?_, fun bits h ↦ ?_, fun bits h ↦ ?_,
    fun bits x h ↦ ?_, fun bits bits' x x' h h' hle ↦ ?_⟩
  · rw [floatText, Binary64.ofBits_of_notANumber h]
    rfl
  · rw [floatText, Binary64.ofBits_of_infinity h]
    rfl
  · rw [floatText, Binary64.ofBits_of_infinity h]
    rfl
  · obtain ⟨m, hm⟩ := floatText_isRounded h
    refine ⟨⟨m, hm.isDecimal, hm.roundsTo.nearestEven⟩, hm.abs_valueOf_sub_le.trans_eq ?_⟩
    norm_num [floatPlaces]
  · obtain ⟨m, hm⟩ := floatText_isRounded h
    obtain ⟨m', hm'⟩ := floatText_isRounded h'
    exact hm.valueOf_le_valueOf hm' hle

/-- Two ties, a negative zero, the least positive number, a payload and an infinity. -/
theorem floats_rendered_ties :
    let values : List UInt64 :=
      [0x3F80000000000000, 0xBF98000000000000, 0x8000000000000000, 1, 0x7FF8000000000001,
        0xFFF0000000000000]
    itemsBetweenCommas (",".intercalate (values.map floatText)) =
        ["0.007812", "-0.023438", "-0.000000", "0.000000", "NaN", "-inf"] ∧
      (∃ m, Fixed.IsDecimal 6 true "-0.023438" m ∧ Fixed.NearestEven 6 |(-3 / 128 : ℚ)| m) ∧
      Fixed.valueOf "-0.023438" ≤ Fixed.valueOf "0.007812" := by
  intro values
  have htexts : values.map floatText =
      ["0.007812", "-0.023438", "-0.000000", "0.000000", "NaN", "-inf"] := by decide +kernel
  have hneg : rational? (unpacked 0xBF98000000000000) = some (-3 / 128) := by
    have hunpacked : unpacked 0xBF98000000000000 =
        .finite .negative 0x18000000000000 (-58) (by decide) := rfl
    rw [hunpacked]
    norm_num [rational?, Sign.apply]
  have hpos : rational? (unpacked 0x3F80000000000000) = some (1 / 128) := by
    have hunpacked : unpacked 0x3F80000000000000 =
        .finite .positive 0x10000000000000 (-59) (by decide) := rfl
    rw [hunpacked]
    norm_num [rational?, Sign.apply]
  obtain ⟨⟨-, hitems⟩, -, -, -, -, hfinite, hmono⟩ := floats_rendered .list "x" values
  obtain ⟨hpos_text, htail⟩ := List.cons.inj htexts
  obtain ⟨hneg_text, -⟩ := List.cons.inj htail
  refine ⟨hitems.trans htexts, ?_, ?_⟩
  · rw [← hneg_text]
    exact (hfinite _ _ hneg).1
  · rw [← hneg_text, ← hpos_text]
    exact hmono _ _ _ _ hneg hpos (by norm_num)

end InList

end SqlStatement
