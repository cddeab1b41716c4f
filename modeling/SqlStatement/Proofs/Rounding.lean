import Mathlib
import SqlStatement.Number.Fixed

/-!
# Rounding to decimal places

A magnitude is rounded to a natural number that differs by one half at most, and to an even one if
it differs by one half (`Fixed.RoundsTo`).  Rounding a quotient of natural numbers does this
(`Fixed.roundHalfEven_roundsTo`), and it keeps the order (`Fixed.RoundsTo.mono`).  With decimal
places, it gives the nearest number that has no more places, and the one with the even last digit if
two are equally near (`Fixed.NearestEven`).
-/

namespace SqlStatement.Fixed

variable {x y : ℚ} {m n : ℕ}

/-- A magnitude and a natural number differ by one half at most, and by less if the number is
odd. -/
structure RoundsTo (x : ℚ) (m : ℕ) : Prop where
  within : |m - x| ≤ 1 / 2
  tie : |m - x| = 1 / 2 → Even m

/-- Of the numbers with some decimal places, `m / 10 ^ places` is nearest to a magnitude, and `m` is
even if another one is equally near. -/
structure NearestEven (places : ℕ) (x : ℚ) (m : ℕ) : Prop where
  nearest : ∀ k : ℕ, |m / 10 ^ places - x| ≤ |k / 10 ^ places - x|
  even : ∀ k : ℕ, k ≠ m → |m / 10 ^ places - x| = |k / 10 ^ places - x| → Even m

/-! ## The nearest number -/

namespace RoundsTo

/-- All other numbers differ by one half at least. -/
theorem half_le (h : RoundsTo x m) {k : ℕ} (hk : k ≠ m) : 1 / 2 ≤ |k - x| := by
  have hint : (1 : ℤ) ≤ |(k : ℤ) - m| := Int.one_le_abs (by omega)
  have hapart : (1 : ℚ) ≤ |(k : ℚ) - m| := by exact_mod_cast hint
  have htriangle := abs_sub_le (k : ℚ) x m
  have hwithin := h.within
  rw [abs_sub_comm] at hwithin
  linarith

/-- Rounding keeps the order. -/
theorem mono (hx : RoundsTo x m) (hy : RoundsTo y n) (hxy : x ≤ y) : m ≤ n := by
  by_contra hlt
  obtain ⟨-, hleft⟩ := abs_le.mp hx.within
  obtain ⟨hright, -⟩ := abs_le.mp hy.within
  have hle : (m : ℚ) ≤ (n + 1 : ℕ) := by
    push_cast
    linarith
  -- both numbers are off by exactly one half, so they are even and differ by one
  obtain rfl : m = n + 1 := le_antisymm (by exact_mod_cast hle) (not_le.mp hlt)
  push_cast at hleft
  have hm : |((n + 1 : ℕ) : ℚ) - x| = 1 / 2 := by
    push_cast
    rw [abs_of_nonneg] <;> linarith
  have hn : |(n : ℚ) - y| = 1 / 2 := by
    rw [abs_of_nonpos] <;> linarith
  exact Nat.not_even_iff_odd.mpr (hy.tie hn).add_one (hx.tie hm)

/-- Zero stays zero. -/
theorem eq_zero (h : RoundsTo 0 m) : m = 0 := by
  have hzero : RoundsTo 0 0 := ⟨by norm_num, fun _ ↦ Even.zero⟩
  exact Nat.le_zero.mp (h.mono hzero le_rfl)

end RoundsTo

/-- The difference to a quotient is a quotient. -/
theorem abs_div_sub {d : ℚ} (hd : 0 < d) (a x : ℚ) : |a / d - x| = |a - x * d| / d := by
  rw [← abs_of_pos hd, ← abs_div, abs_of_pos hd, sub_div, mul_div_cancel_right₀ x hd.ne']

theorem ten_pow_pos (places : ℕ) : (0 : ℚ) < 10 ^ places := pow_pos (by norm_num) places

/-- To round to decimal places is to round as many times the magnitude. -/
theorem RoundsTo.nearestEven {places : ℕ} (h : RoundsTo (x * 10 ^ places) m) :
    NearestEven places x m where
  nearest k := by
    rw [abs_div_sub (ten_pow_pos places), abs_div_sub (ten_pow_pos places)]
    refine div_le_div_of_nonneg_right ?_ (ten_pow_pos places).le
    by_cases hk : k = m
    · rw [hk]
    · exact h.within.trans (h.half_le hk)
  even k hk heq := by
    rw [abs_div_sub (ten_pow_pos places), abs_div_sub (ten_pow_pos places),
      div_left_inj' (ten_pow_pos places).ne'] at heq
    exact h.tie (le_antisymm h.within (heq ▸ h.half_le hk))

/-! ## Rounding a quotient -/

/-- Rounding a quotient goes wrong by one half at most, and by less if the result is odd. -/
theorem roundHalfEven_bounds (num : ℕ) {den : ℕ} (hden : 0 < den) :
    let m := roundHalfEven num den
    2 * (m * den) ≤ 2 * num + den ∧ 2 * num ≤ 2 * (m * den) + den ∧
      (2 * (m * den) = 2 * num + den ∨ 2 * num = 2 * (m * den) + den → Even m) := by
  intro m
  have hnum : num / den * den + num % den = num := Nat.div_add_mod' num den
  have hrem : num % den < den := Nat.mod_lt num hden
  by_cases hdown : 2 * (num % den) < den ∨ 2 * (num % den) = den ∧ num / den % 2 = 0
  · have hm : m = num / den := if_pos hdown
    rw [hm, Nat.even_iff]
    generalize num / den * den = whole at hnum
    omega
  · have hm : m = num / den + 1 := if_neg hdown
    rw [hm, Nat.even_iff, Nat.add_mul, Nat.one_mul]
    generalize num / den * den = whole at hnum
    omega

/-- A quotient is rounded. -/
theorem roundHalfEven_roundsTo (num : ℕ) {den : ℕ} (hden : 0 < den) :
    RoundsTo (num / den) (roundHalfEven num den) := by
  obtain ⟨hlow, hhigh, htie⟩ := roundHalfEven_bounds num hden
  generalize roundHalfEven num den = m at hlow hhigh htie
  have hden' : (0 : ℚ) < den := by exact_mod_cast hden
  have hlow' : 2 * ((m : ℚ) * den) ≤ 2 * num + den := by exact_mod_cast hlow
  have hhigh' : 2 * (num : ℚ) ≤ 2 * (m * den) + den := by exact_mod_cast hhigh
  have hdistance : |(m : ℚ) - num / den| = |num - (m : ℚ) * den| / den := by
    rw [abs_sub_comm, abs_div_sub hden']
  constructor
  · rw [hdistance, div_le_iff₀ hden', abs_le]
    constructor <;> linarith
  · intro heq
    rw [hdistance, div_eq_iff hden'.ne', abs_eq (by positivity)] at heq
    apply htie
    rcases heq with heq | heq
    · right
      have hsum : 2 * (num : ℚ) = 2 * (m * den) + den := by linarith
      exact_mod_cast hsum
    · left
      have hsum : 2 * ((m : ℚ) * den) = 2 * num + den := by linarith
      exact_mod_cast hsum

end SqlStatement.Fixed
