import SqlStatement.Number.Binary64

/-!
# Numbers with a fixed number of decimal places

A quotient of natural numbers is rounded to the nearest natural number, a tie going to the even
one. A floating-point number is written with a fixed number of decimal places by rounding its exact
value in this way; it keeps its sign even if it rounds to zero.
-/

namespace SqlStatement.Fixed

/-- The natural number nearest to a quotient; of two that are equally near, the even one. -/
def roundHalfEven (num den : Nat) : Nat :=
  if 2 * (num % den) < den ∨ 2 * (num % den) = den ∧ num / den % 2 = 0 then num / den
  else num / den + 1

/-- The last `count` decimal digits of a number, zeros in front included. -/
def lastDigits : (count n : Nat) → List Char
  | 0, _ => []
  | count + 1, n => lastDigits count (n / 10) ++ [Nat.digitChar (n % 10)]

/-- The decimal text of `n / 10 ^ places`, with all its places. -/
def text (places n : Nat) : String :=
  toString (n / Nat.pow 10 places) ++ "." ++ String.ofList (lastDigits places n)

/-- The text of a floating-point number with the given number of decimal places. -/
def ofBinary64 (places : Nat) : Binary64 → String
  | .finite negative units =>
    (if negative then "-" else "") ++
      text places (roundHalfEven (units * Nat.pow 10 places) Binary64.unitsPerOne)
  | .infinite negative => if negative then "-inf" else "inf"
  | .nan => "NaN"

end SqlStatement.Fixed
