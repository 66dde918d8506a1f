import SchemaValidation.Binary64.Basic

/-!
# Shortest decimal digits

The shortest decimal of a finite number other than zero is the multiple of the
largest power of ten among those that round to the number. Where two multiples
of that power do, the nearer one is taken, and where both are equally near, a
rule of the format decides.
-/

namespace SchemaValidation

/-- Which of two equally near neighbours is taken. -/
inductive TieRule where
  | upward
  | toEven
deriving DecidableEq

/-- A positive decimal: `digits` times ten to the power of `scale`. -/
structure Decimal where
  digits : Nat
  scale : Int
deriving DecidableEq

namespace Binary64

/-- Four times the distance from a number to its lower neighbour, in units of the last place,
halved: the reals below the number that round to it reach this far. -/
def reachBelow (x : Binary64) : Nat :=
  if x.significand = leadingOne ∧ 2 * leadingOne ≤ x.magnitude.val then 1 else 2

/-- The multiple of ten to the power of `scale` that stands for the number: among the two
neighbours of the number on that grid, one that rounds to the number, the nearer one if both do. -/
def onGrid? (rule : TieRule) (x : Binary64) (scale : Int) : Option Nat :=
  let unit := x.exponent - 2
  let scaleUp := twoTo unit.toNat * tenTo (-scale).toNat
  let step := twoTo (-unit).toNat * tenTo scale.toNat
  let value := 4 * x.significand * scaleUp
  let low := (4 * x.significand - x.reachBelow) * scaleUp
  let high := (4 * x.significand + 2) * scaleUp
  let inside := fun (point : Nat) =>
    if x.significand % 2 = 0 then low ≤ point && point ≤ high else low < point && point < high
  let floor := value / step
  let below := value - floor * step
  let above := (floor + 1) * step - value
  if inside (floor * step) && floor != 0 then
    if inside ((floor + 1) * step) then
      if below < above then some floor
      else if above < below then some (floor + 1)
      else match rule with
        | .upward => some (floor + 1)
        | .toEven => some (if floor % 2 = 0 then floor else floor + 1)
    else some floor
  else if inside ((floor + 1) * step) then some (floor + 1)
  else none

/-- The first grid, from the one of `scale` on towards finer ones, that holds a point for the
number. The last grid is so fine that it holds one for every number. -/
def searchGrids (rule : TieRule) (x : Binary64) : Nat → Int → Decimal
  | 0, scale => ⟨(onGrid? rule x scale).getD 0, scale⟩
  | steps + 1, scale =>
      match onGrid? rule x scale with
      | some digits => ⟨digits, scale⟩
      | none => searchGrids rule x steps (scale - 1)

/-- The power of ten of a grid that is coarser than the number is large. -/
def coarsestScale (x : Binary64) : Int :=
  let bits : Int := x.significand.log2 + 1 + x.exponent
  if 0 ≤ bits then (bits + 2) / 3 + 1 else 3 * (bits / 10) + 4

/-- The shortest decimal of a finite number other than zero. -/
def shortest (rule : TieRule) (x : Binary64) : Decimal :=
  searchGrids rule x (x.coarsestScale + 324).toNat x.coarsestScale

end Binary64

end SchemaValidation
