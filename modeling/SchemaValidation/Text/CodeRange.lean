/-!
# Tables over code points

A property of characters is a list of ranges of code points, first and last
included. A mapping of characters is a list of shifts, each of which moves
every `stride`-th code point of a range by the same distance.
-/

namespace SchemaValidation.Text

/-- Whether a code point lies in one of the ranges. -/
def inRanges (ranges : List (Nat × Nat)) (code : Nat) : Bool :=
  ranges.any fun range => range.1 ≤ code && code ≤ range.2

/-- Every `stride`-th code point from `first` to `last`, moved so that `first` becomes `target`. -/
structure CodeShift where
  first : Nat
  last : Nat
  stride : Nat
  target : Nat

namespace CodeShift

/-- Whether the shift moves the code point. -/
def covers (shift : CodeShift) (code : Nat) : Bool :=
  shift.first ≤ code && code ≤ shift.last && (code - shift.first) % shift.stride == 0

/-- The code point that the first fitting shift makes of `code`. -/
def image? (shifts : List CodeShift) (code : Nat) : Option Nat :=
  (shifts.find? (·.covers code)).map fun shift => shift.target + (code - shift.first)

/-- The code point that a shift moves to `image`. -/
def preimage? (image : Nat) (shift : CodeShift) : Option Nat :=
  let code := shift.first + image - shift.target
  if shift.target ≤ image && shift.covers code then some code else none

end CodeShift

end SchemaValidation.Text
