import SchemaValidation.Binary64.Shortest
import SchemaValidation.Proofs.NearestNumbers

/-!
# Decimals that round to a number

The search for the shortest decimal of a number looks at points of finer and
finer grids and takes one that lies between the midpoints to the neighbours of
the number.  Its integer comparisons are comparisons of amounts, and the last
grid is fine enough to have such a point for every number, so that the decimal
that is found rounds to the number.
-/

namespace SchemaValidation.Binary64

/-! ## The reals that round to a number -/

theorem lastPlace_magnitude (x : Binary64) : lastPlace x.magnitude.val = x.exponent := rfl

theorem two_zpow_exponent (x : Binary64) : (2 : ℚ) ^ x.exponent = 4 * 2 ^ (x.exponent - 2) := by
  rw [show x.exponent = x.exponent - 2 + 1 + 1 by ring, two_zpow_succ, two_zpow_succ,
    show x.exponent - 2 + 1 + 1 - 2 = x.exponent - 2 by ring]
  ring

/-- The significand counts at least as much as the distance to the lower midpoint. -/
theorem reachBelow_le {x : Binary64} (nonzero : x.isZero = false) :
    x.reachBelow ≤ 4 * x.significand := by
  have positive : x.magnitude.val ≠ 0 := by simpa [isZero] using nonzero
  unfold reachBelow significand leadingOne
  split <;> split <;> omega

/-- The distance to the lower midpoint is half of the last place of the number below, which counts
half as much at the bottom of a binade. -/
theorem reachBelow_eq {x : Binary64} {less : ℕ} (next : less + 1 = x.magnitude.val) :
    (2 : ℚ) ^ lastPlace less / 2 = x.reachBelow * 2 ^ (x.exponent - 2) := by
  by_cases bottom : x.significand = leadingOne ∧ 2 * leadingOne ≤ x.magnitude.val
  · have last : lastPlace less = x.exponent - 2 + 1 := by
      obtain ⟨leading, high⟩ := bottom
      unfold significand at leading
      unfold lastPlace exponent leadingOne at *
      split at leading <;> split <;> omega
    rw [reachBelow, if_pos bottom, last, two_zpow_succ]
    push_cast
    ring
  · have last : lastPlace less = x.exponent := by
      unfold significand at bottom
      unfold lastPlace exponent leadingOne at *
      split at bottom <;> split <;> omega
    rw [reachBelow, if_neg bottom, last, two_zpow_exponent]
    push_cast
    ring

/-- An amount from the lower to the upper midpoint of a finite number, the midpoints themselves only
for an even significand, is rounded to the number. -/
theorem isNearest_of_reach {x : Binary64} (finite : x.isFinite = true) {goal : ℚ}
    (lower : (4 * x.significand - x.reachBelow : ℚ) * 2 ^ (x.exponent - 2) < goal ∨
      ((4 * x.significand - x.reachBelow : ℚ) * 2 ^ (x.exponent - 2) = goal ∧
        x.significand % 2 = 0))
    (upper : goal < (4 * x.significand + 2 : ℚ) * 2 ^ (x.exponent - 2) ∨
      (goal = (4 * x.significand + 2 : ℚ) * 2 ^ (x.exponent - 2) ∧ x.significand % 2 = 0)) :
    x.IsNearest goal := by
  have bounded : x.magnitude.val ≤ infinity := (of_decide_eq_true finite).le
  have amount : amountAt x.magnitude.val = 4 * x.significand * 2 ^ (x.exponent - 2) := by
    rw [← amount_eq, Binary64.amount, two_zpow_exponent]
    ring
  have around : LiesAround goal x.magnitude.val := by
    rw [significand_mod_two] at lower upper
    refine ⟨fun less next => ?_, ?_⟩
    · have middle : midpoint less =
          (4 * x.significand - x.reachBelow : ℚ) * 2 ^ (x.exponent - 2) := by
        have step := amountAt_succ less
        have reach := reachBelow_eq next
        rw [next, amount] at step
        rw [midpoint]
        linarith
      exact middle ▸ lower
    · have middle : midpoint x.magnitude.val =
          (4 * x.significand + 2 : ℚ) * 2 ^ (x.exponent - 2) := by
        rw [midpoint, amount, lastPlace_magnitude, two_zpow_exponent]
        ring
      exact middle ▸ upper
  exact around.isNearest (Nat.min_eq_left bounded).symm

/-! ## Points of a grid -/

section Grid

variable {x : Binary64} {scale : ℤ} {digits count : ℕ}

/-- The integers of a grid are proportional to the amounts of its points and of the unit. -/
theorem grid_ratio (unit scale : ℤ) :
    ((twoTo (-unit).toNat * tenTo scale.toNat : ℕ) : ℚ) * 2 ^ unit =
      10 ^ scale * (twoTo unit.toNat * tenTo (-scale).toNat : ℕ) := by
  have first := (twoTo_pos (-unit).toNat).ne'
  have second := (tenTo_pos (-scale).toNat).ne'
  rw [two_zpow_eq, ten_zpow_eq]
  push_cast
  field_simp

/-- Comparing the integers of a point and of a multiple of the unit compares their amounts. -/
theorem point_lt_iff (unit scale : ℤ) (digits count : ℕ) :
    (digits * (twoTo (-unit).toNat * tenTo scale.toNat) <
        count * (twoTo unit.toNat * tenTo (-scale).toNat) ↔
      (digits * 10 ^ scale : ℚ) < count * 2 ^ unit) ∧
    (count * (twoTo unit.toNat * tenTo (-scale).toNat) <
        digits * (twoTo (-unit).toNat * tenTo scale.toNat) ↔
      (count * 2 ^ unit : ℚ) < digits * 10 ^ scale) := by
  have ratio := grid_ratio unit scale
  have positive : (0 : ℚ) < (twoTo unit.toNat * tenTo (-scale).toNat : ℕ) := by
    rw [Nat.cast_mul]
    exact mul_pos (twoTo_pos _) (tenTo_pos _)
  generalize twoTo (-unit).toNat * tenTo scale.toNat = step at *
  generalize twoTo unit.toNat * tenTo (-scale).toNat = scaleUp at *
  have point : ((digits * step : ℕ) : ℚ) * 2 ^ unit = digits * 10 ^ scale * scaleUp := by
    rw [Nat.cast_mul, mul_assoc, ratio, mul_assoc]
  have multiple : ((count * scaleUp : ℕ) : ℚ) * 2 ^ unit = count * 2 ^ unit * scaleUp := by
    rw [Nat.cast_mul, mul_right_comm]
  exact ⟨lt_iff_of_proportional (two_zpow_pos unit) positive point multiple,
    lt_iff_of_proportional (two_zpow_pos unit) positive multiple point⟩

/-- The distance of two points of a grid, in the integers of the search for a number. -/
def gridStep (x : Binary64) (scale : ℤ) : ℕ :=
  twoTo (-(x.exponent - 2)).toNat * tenTo scale.toNat

/-- A quarter of the last place of a number, in the integers of the search for it. -/
def gridUnit (x : Binary64) (scale : ℤ) : ℕ :=
  twoTo (x.exponent - 2).toNat * tenTo (-scale).toNat

/-- Whether a point of a grid lies between the midpoints around a number, as the search decides. -/
def holdsPoint (x : Binary64) (scale : ℤ) (digits : ℕ) : Bool :=
  let point := digits * gridStep x scale
  let low := (4 * x.significand - x.reachBelow) * gridUnit x scale
  let high := (4 * x.significand + 2) * gridUnit x scale
  if x.significand % 2 = 0 then low ≤ point && point ≤ high else low < point && point < high

/-- The last point of a grid that is not above a number. -/
def floorPoint (x : Binary64) (scale : ℤ) : ℕ :=
  4 * x.significand * gridUnit x scale / gridStep x scale

/-- The search looks at the neighbours of the number on the grid. -/
theorem onGrid?_eq (rule : TieRule) (x : Binary64) (scale : ℤ) :
    let floor := floorPoint x scale
    let below := 4 * x.significand * gridUnit x scale - floor * gridStep x scale
    let above := (floor + 1) * gridStep x scale - 4 * x.significand * gridUnit x scale
    onGrid? rule x scale =
      if holdsPoint x scale floor && floor != 0 then
        if holdsPoint x scale (floor + 1) then
          if below < above then some floor
          else if above < below then some (floor + 1)
          else match rule with
            | .upward => some (floor + 1)
            | .toEven => some (if floor % 2 = 0 then floor else floor + 1)
        else some floor
      else if holdsPoint x scale (floor + 1) then some (floor + 1)
      else none := rfl

/-- Whatever the rule for ties, what is found is a point between the midpoints. -/
theorem holdsPoint_of_onGrid? {rule : TieRule} (found : onGrid? rule x scale = some digits) :
    holdsPoint x scale digits = true := by
  rw [onGrid?_eq] at found
  generalize floorPoint x scale = floor at found
  split at found
  · rename_i lower
    have lower := (Bool.and_eq_true_iff.mp lower).1
    split at found
    · rename_i upper
      have neighbour : digits = floor ∨ digits = floor + 1 := by
        split at found
        · exact .inl (Option.some.inj found).symm
        · split at found
          · exact .inr (Option.some.inj found).symm
          · cases rule with
            | upward => exact .inr (Option.some.inj found).symm
            | toEven =>
                have chosen := Option.some.inj found
                split at chosen
                · exact .inl chosen.symm
                · exact .inr chosen.symm
      rcases neighbour with rfl | rfl
      · exact lower
      · exact upper
    · exact Option.some.inj found ▸ lower
  · split at found
    · rename_i upper
      exact Option.some.inj found ▸ upper
    · cases found

/-- If the last point that is not above the number lies between the midpoints, one is found. -/
theorem onGrid?_isSome (rule : TieRule) (positive : floorPoint x scale ≠ 0)
    (inside : holdsPoint x scale (floorPoint x scale) = true) :
    (onGrid? rule x scale).isSome = true := by
  rw [onGrid?_eq, if_pos (Bool.and_eq_true_iff.mpr ⟨inside, bne_iff_ne.mpr positive⟩)]
  split
  · split
    · rfl
    · split
      · rfl
      · cases rule <;> rfl
  · rfl

theorem holdsPoint_iff (nonzero : x.isZero = false) : holdsPoint x scale digits = true ↔
    ((4 * x.significand - x.reachBelow : ℚ) * 2 ^ (x.exponent - 2) < digits * 10 ^ scale ∨
      ((4 * x.significand - x.reachBelow : ℚ) * 2 ^ (x.exponent - 2) = digits * 10 ^ scale ∧
        x.significand % 2 = 0)) ∧
    ((digits * 10 ^ scale : ℚ) < (4 * x.significand + 2 : ℚ) * 2 ^ (x.exponent - 2) ∨
      ((digits * 10 ^ scale : ℚ) = (4 * x.significand + 2 : ℚ) * 2 ^ (x.exponent - 2) ∧
        x.significand % 2 = 0)) := by
  obtain ⟨low, low'⟩ :=
    point_lt_iff (x.exponent - 2) scale digits (4 * x.significand - x.reachBelow)
  obtain ⟨high, high'⟩ := point_lt_iff (x.exponent - 2) scale digits (4 * x.significand + 2)
  rw [Nat.cast_sub (reachBelow_le nonzero)] at low low'
  push_cast at low low' high high'
  unfold holdsPoint gridStep gridUnit
  dsimp only
  split
  · rename_i even
    rw [Bool.and_eq_true_iff, decide_eq_true_iff, decide_eq_true_iff, ← not_lt, ← not_lt, low,
      high', not_lt, not_lt, le_iff_lt_or_eq, le_iff_lt_or_eq]
    simp only [even, and_true]
  · rename_i odd
    rw [Bool.and_eq_true_iff, decide_eq_true_iff, decide_eq_true_iff, low', high]
    simp only [odd, and_false, or_false]

theorem ten_zpow_lt {scale : ℤ} (fine : scale ≤ -324) : (10 : ℚ) ^ scale < 2 ^ (-1075 : ℤ) := by
  have powers : ((2 ^ 1075 : ℕ) : ℚ) < (10 ^ 324 : ℕ) := Nat.cast_lt.mpr (by decide +kernel)
  rw [Nat.cast_pow, Nat.cast_pow] at powers
  calc (10 : ℚ) ^ scale ≤ 10 ^ (-324 : ℤ) := zpow_le_zpow_right₀ (by norm_num) fine
    _ < 2 ^ (-1075 : ℤ) := by
        rw [zpow_neg, zpow_neg]
        exact inv_strictAnti₀ (zpow_pos (by norm_num) _) powers

/-- The distance to the lower midpoint is at least half of the smallest positive number. -/
theorem le_reachBelow (x : Binary64) :
    (2 : ℚ) ^ (-1075 : ℤ) ≤ x.reachBelow * 2 ^ (x.exponent - 2) := by
  unfold reachBelow
  split
  · rename_i bottom
    rw [Nat.cast_one, one_mul]
    refine zpow_le_zpow_right₀ (by norm_num) ?_
    unfold exponent leadingOne at *
    split <;> omega
  · rw [Nat.cast_ofNat, ← two_zpow_succ]
    refine zpow_le_zpow_right₀ (by norm_num) ?_
    unfold exponent leadingOne at *
    split <;> omega

/-- On a grid that is fine enough, the last point that is not above the number lies between the
midpoints. -/
theorem holdsPoint_floorPoint (nonzero : x.isZero = false) (fine : scale ≤ -324) :
    floorPoint x scale ≠ 0 ∧ holdsPoint x scale (floorPoint x scale) = true := by
  have step : 0 < gridStep x scale :=
    Nat.mul_pos (Nat.two_pow_pos _) (Nat.pow_pos (by decide))
  have place : (0 : ℚ) < 2 ^ (x.exponent - 2) := two_zpow_pos _
  have small := lt_of_lt_of_le (ten_zpow_lt fine) (le_reachBelow x)
  have reach : (x.reachBelow * 2 ^ (x.exponent - 2) : ℚ) ≤
      4 * x.significand * 2 ^ (x.exponent - 2) :=
    mul_le_mul_of_nonneg_right (by exact_mod_cast reachBelow_le nonzero) place.le
  have below :
      (floorPoint x scale * 10 ^ scale : ℚ) ≤ 4 * x.significand * 2 ^ (x.exponent - 2) := by
    have floor : floorPoint x scale * gridStep x scale ≤ 4 * x.significand * gridUnit x scale :=
      Nat.div_mul_le_self _ _
    have := mt (point_lt_iff (x.exponent - 2) scale (floorPoint x scale)
      (4 * x.significand)).2.mpr (not_lt.mpr floor)
    push_cast at this
    exact not_lt.mp this
  have above : (4 * x.significand * 2 ^ (x.exponent - 2) : ℚ) <
      (floorPoint x scale + 1) * 10 ^ scale := by
    have next : 4 * x.significand * gridUnit x scale <
        (floorPoint x scale + 1) * gridStep x scale := by
      rw [Nat.mul_comm (floorPoint x scale + 1)]
      exact Nat.lt_mul_div_succ _ step
    have := (point_lt_iff (x.exponent - 2) scale (floorPoint x scale + 1)
      (4 * x.significand)).2.mp next
    push_cast at this
    exact this
  constructor
  · intro zero
    rw [zero, Nat.cast_zero, zero_add, one_mul] at above
    linarith
  · exact (holdsPoint_iff nonzero).mpr ⟨.inl (by linarith), .inl (by linarith)⟩

/-! ## The search -/

theorem onGrid?_searchGrids (rule : TieRule) (nonzero : x.isZero = false) {steps : ℕ}
    (fine : scale - steps ≤ -324) :
    onGrid? rule x (searchGrids rule x steps scale).scale =
      some (searchGrids rule x steps scale).digits := by
  induction steps generalizing scale with
  | zero =>
      obtain ⟨positive, inside⟩ := holdsPoint_floorPoint nonzero (by simpa using fine)
      obtain ⟨digits, found⟩ := Option.isSome_iff_exists.mp (onGrid?_isSome rule positive inside)
      rw [searchGrids, found]
      rfl
  | succ steps ih =>
      rw [searchGrids]
      cases found : onGrid? rule x scale with
      | some digits => exact found
      | none =>
          refine ih ?_
          push_cast at fine
          omega

/-- The shortest decimal of a finite number other than zero rounds to the number. -/
theorem isNearest_shortest (rule : TieRule) (finite : x.isFinite = true)
    (nonzero : x.isZero = false) :
    x.IsNearest ((x.shortest rule).digits * 10 ^ (x.shortest rule).scale) := by
  have found : onGrid? rule x (x.shortest rule).scale = some (x.shortest rule).digits :=
    onGrid?_searchGrids rule nonzero (by omega)
  obtain ⟨lower, upper⟩ := (holdsPoint_iff nonzero).mp (holdsPoint_of_onGrid? found)
  exact isNearest_of_reach finite lower upper

end Grid

end SchemaValidation.Binary64
