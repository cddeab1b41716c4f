/-!
# Binary floating-point numbers of 64 bits

A number is taken apart into its sign and its magnitude.  Every finite magnitude is a whole number
of units of `2 ^ -1074`, so that magnitudes are natural numbers and no arithmetic on them rounds.
-/

namespace SqlStatement

/-- The meaning of 64 bits as a floating-point number. -/
inductive Binary64
  /-- A finite number, by its sign bit and its magnitude in units of `2 ^ -1074`. -/
  | finite (negative : Bool) (units : Nat)
  | infinite (negative : Bool)
  | nan
  deriving DecidableEq, Repr

namespace Binary64

/-- The number of units that make one. -/
def unitsPerOne : Nat := Nat.pow 2 1074

/-- The fraction has 52 bits. -/
def fractions : Nat := 0x10000000000000

/-- The exponent has eleven bits. -/
def exponents : Nat := 0x800

/-- The meaning of 64 bits: a sign bit, the exponent and the fraction. The greatest exponent stands
for what is not finite, and an exponent other than 0 puts a one in front of the fraction. -/
def ofBits (bits : UInt64) : Binary64 :=
  let negative : Bool := exponents * fractions ≤ bits.toNat
  let exponent := bits.toNat / fractions % exponents
  let fraction := bits.toNat % fractions
  if exponent = exponents - 1 then
    if fraction = 0 then infinite negative else nan
  else if exponent = 0 then finite negative fraction
  else finite negative ((fractions + fraction) * Nat.pow 2 (exponent - 1))

end Binary64

end SqlStatement
