/-!
# Binary floating-point numbers of 64 bits

A number is a sign and the remaining 63 bits, read as a natural number. That
number orders the magnitudes: it is zero for the two zeros, `infinity` for the
two infinities, and larger for everything that is not a number. A finite number
denotes its `significand` times two to the power of its `exponent`.
-/

namespace SchemaValidation

/-- Two to the power of `n`. -/
def twoTo (n : Nat) : Nat := Nat.pow 2 n

/-- Ten to the power of `n`. -/
def tenTo (n : Nat) : Nat := Nat.pow 10 n

/-- A binary floating-point number of 64 bits. -/
structure Binary64 where
  negative : Bool
  magnitude : Fin 0x8000000000000000
deriving DecidableEq, Inhabited

namespace Binary64

/-- The leading one of a significand of full precision, two to the power of 52. Magnitudes that are
multiples of it are the powers of two of full precision. -/
def leadingOne : Nat := 0x10000000000000

/-- The magnitude of the infinities, which bounds the magnitudes of all numbers. -/
def infinity : Nat := 0x7FF0000000000000

/-- The number with the given sign and magnitude, a magnitude beyond the last one being cut. -/
def ofMagnitude (negative : Bool) (magnitude : Nat) : Binary64 :=
  ⟨negative, ⟨magnitude % 0x8000000000000000, Nat.mod_lt _ (by decide)⟩⟩

/-- The number with the given bits, the sign first. -/
def ofBits (bits : Nat) : Binary64 :=
  ofMagnitude (bits / 0x8000000000000000 % 2 == 1) bits

/-- The bits of a number, the sign first. -/
def toBits (x : Binary64) : Nat :=
  (if x.negative then 0x8000000000000000 else 0) + x.magnitude

/-- Positive zero. -/
def zero : Binary64 := ofMagnitude false 0

/-- One. -/
def one : Binary64 := ofMagnitude false 0x3FF0000000000000

/-- The infinity of a sign. -/
def infinite (negative : Bool) : Binary64 := ofMagnitude negative infinity

/-- Whether the bits denote no number. -/
def isNaN (x : Binary64) : Bool :=
  infinity < x.magnitude.val

/-- Whether the number is infinite. -/
def isInfinite (x : Binary64) : Bool :=
  x.magnitude.val == infinity

/-- Whether the number is finite. -/
def isFinite (x : Binary64) : Bool :=
  x.magnitude.val < infinity

/-- Whether the number is one of the two zeros. -/
def isZero (x : Binary64) : Bool :=
  x.magnitude.val == 0

/-- The integer that is scaled by the exponent. Numbers below the first power of two of full
precision have no leading one. -/
def significand (x : Binary64) : Nat :=
  if x.magnitude.val < leadingOne then x.magnitude.val
  else leadingOne + x.magnitude.val % leadingOne

/-- The power of two that scales the significand. -/
def exponent (x : Binary64) : Int :=
  if x.magnitude.val < leadingOne then -1074
  else (x.magnitude.val / leadingOne : Nat) - 1075

/-- The place of a number in the order of all numbers. Both zeros have place zero. -/
def place (x : Binary64) : Int :=
  if x.negative then -(x.magnitude.val : Int) else x.magnitude.val

/-- Whether two numbers are the same in arithmetic: nothing is the same as a non-number. -/
def same (x y : Binary64) : Bool :=
  !x.isNaN && !y.isNaN && x.place == y.place

/-- Whether the first number is below the second. -/
def less (x y : Binary64) : Bool :=
  !x.isNaN && !y.isNaN && x.place < y.place

/-- Whether the first number is not above the second. -/
def atMost (x y : Binary64) : Bool :=
  !x.isNaN && !y.isNaN && x.place ≤ y.place

/-- The integer that a number denotes, if it denotes one. -/
def integer? (x : Binary64) : Option Int :=
  if !x.isFinite then none
  else
    let multiple := x.significand * twoTo x.exponent.toNat
    let divisor := twoTo (-x.exponent).toNat
    if multiple % divisor = 0 then
      some (if x.negative then -((multiple / divisor : Nat) : Int) else (multiple / divisor : Nat))
    else none

/-- Whether the number is finite and has no fraction. -/
def isIntegral (x : Binary64) : Bool :=
  x.integer?.isSome

end Binary64

end SchemaValidation
