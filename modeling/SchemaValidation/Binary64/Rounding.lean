import SchemaValidation.Binary64.Basic

/-!
# Rounding to the nearest number

A ratio of natural numbers is rounded to a nearest 64-bit number, the one with
the even significand where two are equally near, and to infinity from half a
unit beyond the largest finite number on.
-/

namespace SchemaValidation.Binary64

/-- The integer nearest to a quotient, the even one of two that are equally near. -/
def roundHalfEven (numerator denominator : Nat) : Nat :=
  let quotient := numerator / denominator
  let remainder := 2 * (numerator % denominator)
  if remainder < denominator ∨ (remainder = denominator ∧ quotient % 2 = 0) then quotient
  else quotient + 1

/-- The exponent of the largest power of two that does not exceed a positive ratio. -/
def leadingExponent (numerator denominator : Nat) : Int :=
  let guess : Int := (numerator.log2 : Int) - denominator.log2
  if denominator * twoTo guess.toNat ≤ numerator * twoTo (-guess).toNat then guess else guess - 1

/-- The magnitude nearest to a ratio. The ratio is counted in units of the last place, and the
units below the range of its exponent are counted in before. -/
def nearestMagnitude (numerator denominator : Nat) : Nat :=
  if numerator = 0 then 0
  else
    let leading := leadingExponent numerator denominator - 52
    let unit := if leading < -1074 then -1074 else leading
    let steps := roundHalfEven (numerator * twoTo (-unit).toNat) (denominator * twoTo unit.toNat)
    let magnitude := (unit + 1074).toNat * leadingOne + steps
    if magnitude < infinity then magnitude else infinity

/-- The number nearest to a ratio with a sign. -/
def nearest (negative : Bool) (numerator denominator : Nat) : Binary64 :=
  ofMagnitude negative (nearestMagnitude numerator denominator)

/-- The number nearest to a natural number. -/
def ofNat (n : Nat) : Binary64 :=
  nearest false n 1

/-- The number nearest to an integer. -/
def ofInt (n : Int) : Binary64 :=
  nearest (n < 0) n.natAbs 1

/-- The number nearest to `digits` times ten to the power of `scale`. Scales so large or so small
that the result is infinite or zero whatever the digits are decided without computing the power. -/
def ofDecimal (negative : Bool) (digits : Nat) (scale : Int) : Binary64 :=
  if digits = 0 then ofMagnitude negative 0
  else if 0 ≤ scale then
    if 400 ≤ scale then infinite negative
    else nearest negative (digits * tenTo scale.toNat) 1
  else if digits.log2 + 1 + 3 * scale ≤ -1076 then ofMagnitude negative 0
  else nearest negative digits (tenTo (-scale).toNat)

end SchemaValidation.Binary64
