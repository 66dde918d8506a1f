import Mathlib.Algebra.Order.Field.Power
import Mathlib.Algebra.Order.Field.Rat
import Mathlib.Tactic.FieldSimp
import Mathlib.Tactic.Linarith
import Mathlib.Tactic.Ring
import SchemaValidation.Binary64.Rounding

/-!
# Nearest numbers

A finite number has an amount, and the amounts grow with the magnitudes.  The
infinities take the place that the next power of two would have, so that
rounding to a nearest number, and to the even one of two that are equally near,
is one rule for all amounts.  A number is the nearest one exactly between the
midpoints to its neighbours; what rounding of ratios and of decimals computes is
the nearest number.
-/

namespace SchemaValidation

/-- A power with an integer exponent as a ratio of two natural numbers. -/
theorem zpow_eq_ratio (base : ℕ) (positive : 0 < base) (power : ℤ) :
    (base : ℚ) ^ power = (base ^ power.toNat : ℕ) / (base ^ (-power).toNat : ℕ) := by
  have nonzero : (base : ℚ) ≠ 0 := by exact_mod_cast positive.ne'
  have parts : power = (power.toNat : ℤ) - ((-power).toNat : ℤ) := by omega
  conv_lhs => rw [parts]
  rw [zpow_sub₀ nonzero, zpow_natCast, zpow_natCast]
  push_cast
  rfl

theorem two_zpow_eq (power : ℤ) :
    (2 : ℚ) ^ power = (twoTo power.toNat : ℕ) / (twoTo (-power).toNat : ℕ) :=
  zpow_eq_ratio 2 (by decide) power

theorem ten_zpow_eq (power : ℤ) :
    (10 : ℚ) ^ power = (tenTo power.toNat : ℕ) / (tenTo (-power).toNat : ℕ) :=
  zpow_eq_ratio 10 (by decide) power

theorem twoTo_pos (n : ℕ) : (0 : ℚ) < twoTo n := by
  exact_mod_cast Nat.two_pow_pos n

theorem tenTo_pos (n : ℕ) : (0 : ℚ) < tenTo n := by
  exact_mod_cast Nat.pow_pos (by decide : 0 < 10)

namespace Binary64

/-- What a number amounts to, without its sign.  The infinities amount to the power of two behind
the largest finite number. -/
def amount (x : Binary64) : ℚ :=
  x.significand * 2 ^ x.exponent

/-- A number is nearest to an amount if no other magnitude is nearer, and none is equally near
unless the significand is even. -/
structure IsNearest (goal : ℚ) (x : Binary64) : Prop where
  number : x.isNaN = false
  nearest : ∀ y : Binary64, y.isNaN = false → y.magnitude ≠ x.magnitude →
    |goal - x.amount| < |goal - y.amount| ∨
      (|goal - x.amount| = |goal - y.amount| ∧ x.significand % 2 = 0)

/-! ## Amounts by magnitude -/

/-- The power of two that the last place of a magnitude counts. -/
def lastPlace (magnitude : ℕ) : ℤ :=
  if magnitude < leadingOne then -1074 else (magnitude / leadingOne : ℕ) - 1075

/-- What the numbers with a magnitude amount to. -/
def amountAt (magnitude : ℕ) : ℚ :=
  (if magnitude < leadingOne then magnitude else leadingOne + magnitude % leadingOne : ℕ) *
    2 ^ lastPlace magnitude

theorem amount_eq (x : Binary64) : x.amount = amountAt x.magnitude.val := rfl

theorem two_zpow_pos (power : ℤ) : (0 : ℚ) < 2 ^ power :=
  zpow_pos (by norm_num) power

theorem two_zpow_succ (power : ℤ) : (2 : ℚ) ^ (power + 1) = 2 * 2 ^ power := by
  rw [zpow_add_one₀ (by norm_num), mul_comm]

theorem leadingOne_eq : (leadingOne : ℚ) = 2 ^ (52 : ℤ) := by
  norm_num [leadingOne]

section Steps

variable {binade steps : ℕ}

theorem lastPlace_of_steps (upper : steps < 2 * leadingOne)
    (lower : binade = 0 ∨ leadingOne ≤ steps) :
    lastPlace (binade * leadingOne + steps) = (binade : ℤ) - 1074 := by
  unfold lastPlace leadingOne at *
  split <;> omega

/-- Multiples of the last place from zero up to twice the leading one are the amounts of successive
magnitudes. -/
theorem amountAt_of_steps (upper : steps ≤ 2 * leadingOne)
    (lower : binade = 0 ∨ leadingOne ≤ steps) :
    amountAt (binade * leadingOne + steps) = steps * 2 ^ ((binade : ℤ) - 1074) := by
  unfold amountAt
  rcases Nat.lt_or_ge steps (2 * leadingOne) with below | top
  · rw [lastPlace_of_steps below lower]
    congr 2
    unfold leadingOne at *
    split <;> omega
  · -- Twice the leading one is the leading one of the next binade.
    have next : binade * leadingOne + steps = (binade + 1) * leadingOne + leadingOne := by
      unfold leadingOne at *
      omega
    have digits : (if (binade + 1) * leadingOne + leadingOne < leadingOne then
          (binade + 1) * leadingOne + leadingOne
        else leadingOne + ((binade + 1) * leadingOne + leadingOne) % leadingOne) = leadingOne := by
      unfold leadingOne
      split <;> omega
    rw [next, digits, lastPlace_of_steps (by decide) (.inr le_rfl), le_antisymm upper top,
      show ((binade + 1 : ℕ) : ℤ) - 1074 = (binade : ℤ) - 1074 + 1 by push_cast; ring,
      two_zpow_succ]
    push_cast
    ring

/-- Every magnitude is a binade with steps of its last place. -/
theorem exists_steps (magnitude : ℕ) : ∃ binade steps : ℕ,
    magnitude = binade * leadingOne + steps ∧ steps < 2 * leadingOne ∧
      (binade = 0 ∨ leadingOne ≤ steps) := by
  by_cases denormal : magnitude < leadingOne
  · exact ⟨0, magnitude, by simp, by omega, .inl rfl⟩
  · refine ⟨magnitude / leadingOne - 1, leadingOne + magnitude % leadingOne, ?_, ?_,
      .inr (Nat.le_add_right _ _)⟩ <;> unfold leadingOne at * <;> omega

end Steps

/-- The next magnitude amounts to one more of the last place. -/
theorem amountAt_succ (magnitude : ℕ) :
    amountAt (magnitude + 1) = amountAt magnitude + 2 ^ lastPlace magnitude := by
  obtain ⟨binade, steps, rfl, upper, lower⟩ := exists_steps magnitude
  rw [lastPlace_of_steps upper lower, Nat.add_assoc, amountAt_of_steps (by omega) (by omega),
    amountAt_of_steps upper.le lower]
  push_cast
  ring

theorem amountAt_strictMono : StrictMono amountAt := by
  refine strictMono_nat_of_lt_succ fun magnitude => ?_
  rw [amountAt_succ]
  exact lt_add_of_pos_right _ (two_zpow_pos _)

/-- The midpoint between the amounts of a magnitude and the next one. -/
def midpoint (magnitude : ℕ) : ℚ :=
  amountAt magnitude + 2 ^ lastPlace magnitude / 2

theorem midpoint_eq (magnitude : ℕ) :
    midpoint magnitude = (amountAt magnitude + amountAt (magnitude + 1)) / 2 := by
  rw [midpoint, amountAt_succ]
  ring

theorem significand_mod_two (x : Binary64) : x.significand % 2 = x.magnitude.val % 2 := by
  unfold significand leadingOne
  split <;> omega

/-! ## The nearest number lies between two midpoints -/

/-- The amount lies between the midpoints around a magnitude; on a midpoint only if the magnitude is
even. -/
structure LiesAround (goal : ℚ) (magnitude : ℕ) : Prop where
  lower : ∀ less, less + 1 = magnitude →
    midpoint less < goal ∨ (midpoint less = goal ∧ magnitude % 2 = 0)
  upper : goal < midpoint magnitude ∨ (goal = midpoint magnitude ∧ magnitude % 2 = 0)

/-- Below the midpoint of two amounts the first is nearer. -/
theorem nearer_below {goal first second : ℚ} (less : first < second)
    (below : goal < (first + second) / 2) : |goal - first| < |goal - second| := by
  have far : |goal - second| = second - goal := by
    rw [abs_sub_comm]
    exact abs_of_pos (by linarith)
  rw [far, abs_sub_lt_iff]
  constructor <;> linarith

/-- Above the midpoint of two amounts the second is nearer. -/
theorem nearer_above {goal first second : ℚ} (less : first < second)
    (above : (first + second) / 2 < goal) : |goal - second| < |goal - first| := by
  have far : |goal - first| = goal - first := abs_of_pos (by linarith)
  rw [far, abs_sub_lt_iff]
  constructor <;> linarith

theorem equally_near {first second : ℚ} :
    |(first + second) / 2 - first| = |(first + second) / 2 - second| := by
  rw [show (first + second) / 2 - first = -((first + second) / 2 - second) by ring, abs_neg]

/-- The number with a magnitude is nearest to the amounts around this magnitude. -/
theorem LiesAround.isNearest {goal : ℚ} {magnitude : ℕ} (around : LiesAround goal magnitude)
    {x : Binary64} (stored : x.magnitude.val = min magnitude infinity) : x.IsNearest goal := by
  refine ⟨by simp [isNaN, stored], fun y number distinct => ?_⟩
  have bounded : y.magnitude.val ≤ infinity := by simpa [isNaN] using number
  have apart : y.magnitude.val ≠ x.magnitude.val := fun same => distinct (Fin.ext same)
  rw [amount_eq, amount_eq, significand_mod_two]
  generalize x.magnitude.val = own at *
  generalize y.magnitude.val = other at *
  rcases Nat.lt_or_gt_of_ne apart with less | greater
  · obtain ⟨less', rfl⟩ : ∃ less', magnitude = less' + 1 := ⟨magnitude - 1, by omega⟩
    have below : amountAt other ≤ amountAt less' := amountAt_strictMono.monotone (by omega)
    have above : amountAt own ≤ amountAt (less' + 1) := amountAt_strictMono.monotone (by omega)
    have order : amountAt other < amountAt own := amountAt_strictMono less
    have middle := midpoint_eq less'
    rcases around.lower less' rfl with inside | ⟨tie, even⟩
    · exact .inl (nearer_above order (by linarith))
    · by_cases adjacent : own = less' + 1 ∧ other = less'
      · obtain ⟨rfl, rfl⟩ := adjacent
        rw [← tie, middle]
        exact .inr ⟨equally_near.symm, even⟩
      · refine .inl (nearer_above order ?_)
        rcases Nat.lt_or_ge own (less' + 1) with strict | same
        · have := amountAt_strictMono strict
          linarith
        · have := amountAt_strictMono (show other < less' by omega)
          linarith
  · obtain rfl : own = magnitude := by omega
    have above : amountAt (own + 1) ≤ amountAt other := amountAt_strictMono.monotone greater
    have order : amountAt own < amountAt other := amountAt_strictMono greater
    have middle := midpoint_eq own
    rcases around.upper with inside | ⟨tie, even⟩
    · exact .inl (nearer_below order (by linarith))
    · by_cases adjacent : other = own + 1
      · subst adjacent
        rw [tie, middle]
        exact .inr ⟨equally_near, even⟩
      · have := amountAt_strictMono (show own + 1 < other by omega)
        exact .inl (nearer_below order (by linarith))

/-- Two numbers that are nearest to one amount have the same magnitude: between two even ones that
are equally near there is one that is nearer. -/
theorem IsNearest.magnitude_eq {goal : ℚ} {x y : Binary64} (nearest : x.IsNearest goal)
    (nearest' : y.IsNearest goal) : x.magnitude = y.magnitude := by
  by_contra distinct
  wlog less : x.magnitude.val < y.magnitude.val generalizing x y
  · have apart : x.magnitude.val ≠ y.magnitude.val := fun same => distinct (Fin.ext same)
    exact this nearest' nearest (Ne.symm distinct) (by omega)
  obtain ⟨near, even⟩ : |goal - x.amount| = |goal - y.amount| ∧ x.significand % 2 = 0 := by
    rcases nearest.nearest y nearest'.number (Ne.symm distinct) with nearer | tie
    · rcases nearest'.nearest x nearest.number distinct with nearer' | ⟨near, -⟩
      · exact absurd nearer (lt_asymm nearer')
      · exact absurd nearer (near ▸ lt_irrefl _)
    · exact tie
  have even' : y.significand % 2 = 0 := by
    rcases nearest'.nearest x nearest.number distinct with nearer | ⟨-, even'⟩
    · exact absurd nearer (near ▸ lt_irrefl _)
    · exact even'
  rw [significand_mod_two] at even even'
  have within : x.magnitude.val + 1 < y.magnitude.val := by omega
  have bounded : y.magnitude.val ≤ infinity := by simpa [isNaN] using nearest'.number
  let between : Binary64 := ⟨false, ⟨x.magnitude.val + 1, lt_trans within y.magnitude.isLt⟩⟩
  have number : between.isNaN = false := decide_eq_false (by simp only [between]; omega)
  have first : x.amount < between.amount := amountAt_strictMono (Nat.lt_succ_self _)
  have second : between.amount < y.amount := amountAt_strictMono within
  have middle : goal = (x.amount + y.amount) / 2 := by
    rcases abs_eq_abs.mp near with same | opposite <;> linarith
  have closer : |goal - between.amount| < |goal - x.amount| := by
    have far : |goal - x.amount| = goal - x.amount := abs_of_pos (by linarith)
    rw [far, abs_sub_lt_iff]
    constructor <;> linarith
  rcases nearest.nearest between number (Fin.ne_of_gt (Nat.lt_succ_self _)) with nearer | ⟨same, -⟩
  · exact lt_asymm nearer closer
  · exact closer.ne same.symm

/-! ## Rounding of ratios -/

/-- A quotient is rounded to an integer at most a half away, which is even if it is just a half. -/
theorem roundHalfEven_bounds (numerator : ℕ) {denominator : ℕ} (positive : 0 < denominator) :
    let rounded := roundHalfEven numerator denominator
    (2 * numerator < (2 * rounded + 1) * denominator ∨
        (2 * numerator = (2 * rounded + 1) * denominator ∧ rounded % 2 = 0)) ∧
      (2 * rounded * denominator < 2 * numerator + denominator ∨
        (2 * rounded * denominator = 2 * numerator + denominator ∧ rounded % 2 = 0)) := by
  have division := Nat.div_add_mod numerator denominator
  have rest := Nat.mod_lt numerator positive
  unfold roundHalfEven
  dsimp only
  generalize numerator / denominator = quotient at *
  generalize numerator % denominator = remainder at *
  have product : (2 * quotient + 1) * denominator = 2 * (denominator * quotient) + denominator := by
    ring
  have product' : 2 * quotient * denominator = 2 * (denominator * quotient) := by ring
  have next : (2 * (quotient + 1) + 1) * denominator =
      2 * (denominator * quotient) + 3 * denominator := by ring
  have next' : 2 * (quotient + 1) * denominator =
      2 * (denominator * quotient) + 2 * denominator := by ring
  split
  · rw [product, product']
    omega
  · rw [next, next']
    omega

/-- The exponent that is found is that of the largest power of two that a ratio reaches. -/
theorem leadingExponent_bounds {numerator denominator : ℕ} (positive : numerator ≠ 0)
    (positive' : denominator ≠ 0) :
    (2 : ℚ) ^ leadingExponent numerator denominator ≤ numerator / denominator ∧
      (numerator / denominator : ℚ) < 2 ^ (leadingExponent numerator denominator + 1) := by
  have above : (0 : ℚ) < denominator := by exact_mod_cast Nat.pos_of_ne_zero positive'
  have low : (2 : ℚ) ^ (numerator.log2 : ℤ) ≤ numerator := by
    exact_mod_cast Nat.log2_self_le positive
  have high : (numerator : ℚ) < 2 ^ ((numerator.log2 : ℤ) + 1) := by
    exact_mod_cast Nat.lt_log2_self (n := numerator)
  have low' : (2 : ℚ) ^ (denominator.log2 : ℤ) ≤ denominator := by
    exact_mod_cast Nat.log2_self_le positive'
  have high' : (denominator : ℚ) < 2 ^ ((denominator.log2 : ℤ) + 1) := by
    exact_mod_cast Nat.lt_log2_self (n := denominator)
  unfold leadingExponent
  dsimp only
  generalize guessed : (numerator.log2 : ℤ) - denominator.log2 = guess
  have reached : denominator * twoTo guess.toNat ≤ numerator * twoTo (-guess).toNat ↔
      (2 : ℚ) ^ guess ≤ numerator / denominator := by
    rw [two_zpow_eq, div_le_div_iff₀ (twoTo_pos _) above, mul_comm (twoTo guess.toNat : ℚ)]
    exact_mod_cast Iff.rfl
  split
  · rename_i holds
    refine ⟨reached.mp holds, ?_⟩
    rw [div_lt_iff₀ above]
    calc (numerator : ℚ) < 2 ^ ((numerator.log2 : ℤ) + 1) := high
      _ = 2 ^ (guess + 1) * 2 ^ (denominator.log2 : ℤ) := by
          rw [← zpow_add₀ (by norm_num), ← guessed]
          congr 1
          ring
      _ ≤ 2 ^ (guess + 1) * denominator :=
          mul_le_mul_of_nonneg_left low' (two_zpow_pos _).le
  · rename_i beyond
    refine ⟨?_, by simpa using not_le.mp (mt reached.mpr beyond)⟩
    rw [le_div_iff₀ above]
    calc (2 : ℚ) ^ (guess - 1) * denominator
        ≤ 2 ^ (guess - 1) * 2 ^ ((denominator.log2 : ℤ) + 1) :=
          mul_le_mul_of_nonneg_left high'.le (two_zpow_pos _).le
      _ = 2 ^ (numerator.log2 : ℤ) := by
          rw [← zpow_add₀ (by norm_num), ← guessed]
          congr 1
          ring
      _ ≤ numerator := low

/-- Steps of a last place that are nearest to an amount make up the magnitude around it, where the
amount does not fall below the binade. -/
theorem liesAround_of_steps {goal : ℚ} {binade steps : ℕ} (bounded : steps ≤ 2 * leadingOne)
    (reached : binade = 0 ∨ leadingOne * (2 : ℚ) ^ ((binade : ℤ) - 1074) ≤ goal)
    (lower : (2 * steps : ℚ) * 2 ^ ((binade : ℤ) - 1074) <
        2 * goal + 2 ^ ((binade : ℤ) - 1074) ∨
      ((2 * steps : ℚ) * 2 ^ ((binade : ℤ) - 1074) = 2 * goal + 2 ^ ((binade : ℤ) - 1074) ∧
        steps % 2 = 0))
    (upper : 2 * goal < (2 * steps + 1 : ℚ) * 2 ^ ((binade : ℤ) - 1074) ∨
      (2 * goal = (2 * steps + 1 : ℚ) * 2 ^ ((binade : ℤ) - 1074) ∧ steps % 2 = 0)) :
    LiesAround goal (binade * leadingOne + steps) := by
  generalize placed : (2 : ℚ) ^ ((binade : ℤ) - 1074) = place at *
  have positive : 0 < place := placed ▸ two_zpow_pos _
  have full : binade = 0 ∨ leadingOne ≤ steps := by
    refine reached.imp id fun reached => ?_
    have : (2 * leadingOne : ℚ) * place ≤ (2 * steps + 1) * place := by
      rcases upper with inside | ⟨tie, -⟩ <;> linarith
    have : 2 * leadingOne ≤ 2 * steps + 1 := by
      exact_mod_cast le_of_mul_le_mul_right this positive
    omega
  have amount : amountAt (binade * leadingOne + steps) = steps * place :=
    placed ▸ amountAt_of_steps bounded full
  have parity : (binade * leadingOne + steps) % 2 = steps % 2 := by
    unfold leadingOne
    omega
  refine ⟨fun less next => ?_, ?_⟩
  · have middle : midpoint less = steps * place - 2 ^ lastPlace less / 2 := by
      have step := amountAt_succ less
      rw [next, amount] at step
      rw [midpoint]
      linarith
    rw [middle, parity]
    by_cases edge : binade = 0 ∨ leadingOne < steps
    · have previous : less = binade * leadingOne + (steps - 1) := by
        unfold leadingOne at *
        omega
      have last : (2 : ℚ) ^ lastPlace less = place := by
        unfold leadingOne at edge next bounded
        rw [← placed, previous, lastPlace_of_steps (by unfold leadingOne; omega)
          (by unfold leadingOne; omega)]
      rw [last]
      refine lower.imp (fun inside => by linarith) fun ⟨tie, even⟩ => ⟨by linarith, even⟩
    · -- Below the first amount of a binade the last place counts less.
      left
      have bottom : steps = leadingOne := by omega
      have last : (0 : ℚ) < 2 ^ lastPlace less := two_zpow_pos _
      have reached := reached.resolve_left (by omega)
      rw [bottom]
      linarith
  · have last : place ≤ 2 ^ lastPlace (binade * leadingOne + steps) := by
      rw [← placed]
      refine zpow_le_zpow_right₀ (by norm_num) ?_
      rcases Nat.lt_or_ge steps (2 * leadingOne) with below | top
      · exact (lastPlace_of_steps below full).ge
      · rw [show binade * leadingOne + steps = (binade + 1) * leadingOne + leadingOne by
          unfold leadingOne at *; omega, lastPlace_of_steps (by decide) (.inr le_rfl)]
        push_cast
        linarith
    rw [midpoint, amount, parity]
    rcases upper with inside | ⟨tie, even⟩
    · exact .inl (by linarith)
    · rcases last.eq_or_lt with same | greater
      · exact .inr ⟨by linarith, even⟩
      · exact .inl (by linarith)

theorem magnitude_ofMagnitude {magnitude : ℕ} (bounded : magnitude ≤ infinity) (negative : Bool) :
    (ofMagnitude negative magnitude).magnitude.val = magnitude := by
  refine Nat.mod_eq_of_lt ?_
  unfold infinity at bounded
  omega

theorem midpoint_zero : midpoint 0 = 2 ^ (-1075 : ℤ) := by
  have amount : amountAt 0 = 0 := by
    simpa using (amountAt_of_steps (Nat.zero_le _) (.inl rfl) : amountAt (0 * leadingOne + 0) = _)
  have half : (2 : ℚ) ^ (-1074 : ℤ) = 2 * 2 ^ (-1075 : ℤ) := by
    rw [← two_zpow_succ]
    rfl
  rw [midpoint, amount, show lastPlace 0 = -1074 from rfl, half]
  ring

/-- What is below half of the smallest positive number is rounded to zero. -/
theorem liesAround_zero {goal : ℚ} (small : goal < 2 ^ (-1075 : ℤ)) : LiesAround goal 0 :=
  ⟨nofun, .inl (midpoint_zero ▸ small)⟩

section Proportion

variable {first second : ℕ} {amount amount' place unit : ℚ} (positive : 0 < place)
  (positive' : 0 < unit) (ratio : first * place = amount * unit)
  (ratio' : second * place = amount' * unit)
include positive positive' ratio ratio'

/-- Integers in proportion to two amounts are in the order of the amounts. -/
theorem lt_iff_of_proportional : first < second ↔ amount < amount' := by
  rw [← Nat.cast_lt (α := ℚ), ← mul_lt_mul_iff_of_pos_right positive, ratio, ratio',
    mul_lt_mul_iff_of_pos_right positive']

theorem eq_iff_of_proportional : first = second ↔ amount = amount' := by
  rw [← Nat.cast_inj (R := ℚ), ← mul_left_inj' positive.ne', ratio, ratio',
    mul_left_inj' positive'.ne']

end Proportion

/-- The quotient of an amount and the last place of its binade, rounded to an integer, gives the
magnitude around the amount. -/
theorem liesAround_of_quotient {goal : ℚ} {binade dividend divisor : ℕ} (positive : 0 < divisor)
    (ratio : goal * divisor = dividend * 2 ^ ((binade : ℤ) - 1074))
    (reached : binade = 0 ∨ leadingOne * (2 : ℚ) ^ ((binade : ℤ) - 1074) ≤ goal)
    (below : goal < 2 * leadingOne * (2 : ℚ) ^ ((binade : ℤ) - 1074)) :
    LiesAround goal (binade * leadingOne + roundHalfEven dividend divisor) := by
  obtain ⟨upper, lower⟩ := roundHalfEven_bounds dividend positive
  generalize roundHalfEven dividend divisor = steps at *
  have placed : (0 : ℚ) < 2 ^ ((binade : ℤ) - 1074) := two_zpow_pos _
  have divides : (0 : ℚ) < divisor := by exact_mod_cast positive
  generalize within : (2 : ℚ) ^ ((binade : ℤ) - 1074) = place at *
  -- The integers that rounding compares are the amounts in units of the last place.
  have limit : ((2 * leadingOne * divisor : ℕ) : ℚ) * place = 2 * leadingOne * place * divisor := by
    push_cast
    ring
  have own : ((2 * steps * divisor : ℕ) : ℚ) * place = 2 * steps * place * divisor := by
    push_cast
    ring
  have next : (((2 * steps + 1) * divisor : ℕ) : ℚ) * place =
      (2 * steps + 1) * place * divisor := by
    push_cast
    ring
  have twice : ((2 * dividend : ℕ) : ℚ) * place = 2 * goal * divisor := by
    push_cast
    linarith
  have raised : ((2 * dividend + divisor : ℕ) : ℚ) * place = (2 * goal + place) * divisor := by
    push_cast
    linarith
  have few : dividend < 2 * leadingOne * divisor :=
    (lt_iff_of_proportional placed divides ratio.symm limit).mpr below
  have bounded : steps ≤ 2 * leadingOne := by
    have parts : (2 * (2 * leadingOne) + 1) * divisor =
        2 * (2 * leadingOne * divisor) + divisor := by ring
    have rounded : 2 * steps * divisor < (2 * (2 * leadingOne) + 1) * divisor := by omega
    have := Nat.lt_of_mul_lt_mul_right rounded
    omega
  refine liesAround_of_steps bounded ?_ ?_ ?_ <;> rw [within]
  · exact reached
  · exact lower.imp (lt_iff_of_proportional placed divides own raised).mp
      (And.imp_left (eq_iff_of_proportional placed divides own raised).mp)
  · exact upper.imp (lt_iff_of_proportional placed divides twice next).mp
      (And.imp_left (eq_iff_of_proportional placed divides twice next).mp)

/-- What is computed for a ratio is the magnitude around it, cut at the infinity. -/
theorem nearestMagnitude_liesAround (numerator : ℕ) {denominator : ℕ} (positive : denominator ≠ 0) :
    ∃ magnitude, LiesAround (numerator / denominator) magnitude ∧
      nearestMagnitude numerator denominator = min magnitude infinity := by
  by_cases zero : numerator = 0
  · subst zero
    exact ⟨0, liesAround_zero (by simp), by simp [nearestMagnitude]⟩
  obtain ⟨low, high⟩ := leadingExponent_bounds zero positive
  unfold nearestMagnitude
  rw [if_neg zero]
  dsimp only
  generalize leadingExponent numerator denominator = leading at low high
  generalize chosen : (if leading - 52 < -1074 then -1074 else leading - 52) = unit
  obtain ⟨binade, rfl⟩ : ∃ binade : ℕ, unit = (binade : ℤ) - 1074 := by
    refine ⟨(unit + 1074).toNat, ?_⟩
    split at chosen <;> omega
  have above : (0 : ℚ) < denominator := by exact_mod_cast Nat.pos_of_ne_zero positive
  have scaled : 0 < denominator * twoTo ((binade : ℤ) - 1074).toNat :=
    Nat.mul_pos (Nat.pos_of_ne_zero positive) (Nat.two_pow_pos _)
  have ratio : (numerator / denominator : ℚ) *
      (denominator * twoTo ((binade : ℤ) - 1074).toNat : ℕ) =
        (numerator * twoTo (-((binade : ℤ) - 1074)).toNat : ℕ) * 2 ^ ((binade : ℤ) - 1074) := by
    have first := (twoTo_pos ((binade : ℤ) - 1074).toNat).ne'
    have second := (twoTo_pos (-((binade : ℤ) - 1074)).toNat).ne'
    rw [two_zpow_eq]
    push_cast
    field_simp
  have reached : binade = 0 ∨
      leadingOne * (2 : ℚ) ^ ((binade : ℤ) - 1074) ≤ numerator / denominator := by
    by_cases first : binade = 0
    · exact .inl first
    · rw [leadingOne_eq, ← zpow_add₀ (by norm_num)]
      have leads : 52 + ((binade : ℤ) - 1074) = leading := by
        split at chosen <;> omega
      exact .inr (leads ▸ low)
  have below : (numerator / denominator : ℚ) < 2 * leadingOne * 2 ^ ((binade : ℤ) - 1074) := by
    refine lt_of_lt_of_le high ?_
    rw [leadingOne_eq, ← two_zpow_succ, ← zpow_add₀ (by norm_num)]
    refine zpow_le_zpow_right₀ (by norm_num) ?_
    split at chosen <;> omega
  have rank : ((binade : ℤ) - 1074 + 1074).toNat = binade := by omega
  rw [rank]
  exact ⟨_, liesAround_of_quotient scaled ratio reached below, by split <;> omega⟩

/-- The infinities are nearest to what is beyond the finite numbers. -/
theorem isNearest_infinite (negative : Bool) {numerator denominator : ℕ}
    (positive : denominator ≠ 0) (beyond : 2 ^ (1024 : ℤ) ≤ (numerator / denominator : ℚ)) :
    (infinite negative).IsNearest (numerator / denominator) := by
  obtain ⟨magnitude, around, -⟩ := nearestMagnitude_liesAround numerator positive
  have reached : infinity ≤ magnitude := by
    by_contra below
    have limit : amountAt infinity = 2 ^ (1024 : ℤ) := by
      have last : infinity = 2046 * leadingOne + leadingOne := by decide
      rw [last, amountAt_of_steps (by decide) (by decide), leadingOne_eq, ← zpow_add₀ (by norm_num)]
      congr 1
    have : amountAt (magnitude + 1) ≤ amountAt infinity :=
      amountAt_strictMono.monotone (by omega)
    have : amountAt magnitude < amountAt (magnitude + 1) :=
      amountAt_strictMono (Nat.lt_succ_self _)
    have middle := midpoint_eq magnitude
    rcases around.upper with inside | ⟨tie, -⟩ <;> linarith
  refine around.isNearest ?_
  rw [infinite, magnitude_ofMagnitude le_rfl, Nat.min_eq_right reached]

/-- Rounding a ratio gives the number nearest to it. -/
theorem isNearest_nearest (negative : Bool) (numerator : ℕ) {denominator : ℕ}
    (positive : denominator ≠ 0) :
    (nearest negative numerator denominator).IsNearest (numerator / denominator) := by
  obtain ⟨magnitude, around, rounded⟩ := nearestMagnitude_liesAround numerator positive
  refine around.isNearest ?_
  rw [nearest, magnitude_ofMagnitude (rounded ▸ Nat.min_le_right _ _), rounded]

/-! ## Rounding of decimals -/

theorem two_zpow_three_mul (scale : ℤ) : (2 : ℚ) ^ (3 * scale) = 8 ^ scale := by
  rw [zpow_mul]
  norm_num

theorem ten_zpow_le {scale : ℤ} (fractional : scale ≤ 0) : (10 : ℚ) ^ scale ≤ 8 ^ scale := by
  have inverse : (8 : ℚ) ^ (-scale) ≤ 10 ^ (-scale) :=
    zpow_le_zpow_left₀ (by omega) (by norm_num) (by norm_num)
  simpa only [zpow_neg, inv_inv] using inv_anti₀ (zpow_pos (by norm_num) _) inverse

theorem le_decimal {digits : ℕ} {scale : ℤ} (positive : digits ≠ 0) (large : 400 ≤ scale) :
    (2 : ℚ) ^ (1024 : ℤ) ≤ digits * 10 ^ scale := by
  have one : (1 : ℚ) ≤ digits := by exact_mod_cast Nat.pos_of_ne_zero positive
  calc (2 : ℚ) ^ (1024 : ℤ) ≤ 2 ^ (3 * scale) := zpow_le_zpow_right₀ (by norm_num) (by omega)
    _ = 8 ^ scale := two_zpow_three_mul scale
    _ ≤ 10 ^ scale := zpow_le_zpow_left₀ (by omega) (by norm_num) (by norm_num)
    _ ≤ digits * 10 ^ scale := le_mul_of_one_le_left (zpow_pos (by norm_num) _).le one

theorem decimal_lt {digits : ℕ} {scale : ℤ} (fractional : scale ≤ 0)
    (small : digits.log2 + 1 + 3 * scale ≤ -1076) :
    (digits * 10 ^ scale : ℚ) < 2 ^ (-1075 : ℤ) := by
  have bounded : (digits : ℚ) < 2 ^ ((digits.log2 : ℤ) + 1) := by
    exact_mod_cast Nat.lt_log2_self (n := digits)
  calc (digits * 10 ^ scale : ℚ)
      < 2 ^ ((digits.log2 : ℤ) + 1) * 10 ^ scale :=
        mul_lt_mul_of_pos_right bounded (zpow_pos (by norm_num) _)
    _ ≤ 2 ^ ((digits.log2 : ℤ) + 1) * 8 ^ scale :=
        mul_le_mul_of_nonneg_left (ten_zpow_le fractional) (two_zpow_pos _).le
    _ = 2 ^ ((digits.log2 : ℤ) + 1 + 3 * scale) := by
        rw [← two_zpow_three_mul, ← zpow_add₀ (by norm_num)]
    _ ≤ 2 ^ (-1075 : ℤ) := zpow_le_zpow_right₀ (by norm_num) (by omega)

/-- Reading a decimal gives the number nearest to it, even where its power of ten is not computed. -/
theorem isNearest_ofDecimal (negative : Bool) (digits : ℕ) (scale : ℤ) :
    (ofDecimal negative digits scale).IsNearest (digits * 10 ^ scale) := by
  unfold ofDecimal
  split
  · rename_i zero
    rw [zero, Nat.cast_zero, zero_mul]
    exact (liesAround_zero (two_zpow_pos _)).isNearest
      (magnitude_ofMagnitude (Nat.zero_le _) negative)
  · rename_i positive
    split
    · rename_i whole
      have power : (10 : ℚ) ^ scale = (tenTo scale.toNat : ℕ) := by
        rw [ten_zpow_eq, show (-scale).toNat = 0 by omega]
        simp [tenTo]
      have ratio :
          (digits * 10 ^ scale : ℚ) = ((digits * tenTo scale.toNat : ℕ) : ℚ) / (1 : ℕ) := by
        rw [power]
        push_cast
        ring
      rw [ratio]
      split
      · rename_i large
        exact isNearest_infinite negative one_ne_zero (ratio ▸ le_decimal positive large)
      · exact isNearest_nearest negative _ one_ne_zero
    · rename_i fractional
      split
      · rename_i small
        exact (liesAround_zero (decimal_lt (by omega) small)).isNearest
          (magnitude_ofMagnitude (Nat.zero_le _) negative)
      · have ratio : (digits * 10 ^ scale : ℚ) = digits / (tenTo (-scale).toNat : ℕ) := by
          rw [ten_zpow_eq, show scale.toNat = 0 by omega]
          simp [tenTo, div_eq_mul_inv]
        rw [ratio]
        exact isNearest_nearest negative digits (Nat.pow_pos (by decide)).ne'

theorem negative_ofDecimal (negative : Bool) (digits : ℕ) (scale : ℤ) :
    (ofDecimal negative digits scale).negative = negative := by
  unfold ofDecimal
  split
  · rfl
  · split
    · split <;> rfl
    · split <;> rfl

/-- There is only one number of a sign that is nearest to an amount. -/
theorem IsNearest.unique {goal : ℚ} {x y : Binary64} (nearest : x.IsNearest goal)
    (nearest' : y.IsNearest goal) (same : x.negative = y.negative) : x = y := by
  have magnitude := nearest.magnitude_eq nearest'
  obtain ⟨negative, magnitude'⟩ := x
  cases same
  cases magnitude
  rfl

/-- The number made of a natural number is the positive one that is nearest to it. -/
theorem ofNat_eq_iff {n : ℕ} {x : Binary64} :
    ofNat n = x ↔ x.IsNearest n ∧ x.negative = false := by
  have nearest : (ofNat n).IsNearest n := by
    simpa [ofNat] using isNearest_nearest false n one_ne_zero
  constructor
  · rintro rfl
    exact ⟨nearest, rfl⟩
  · rintro ⟨nearest', positive⟩
    exact nearest.unique nearest' positive.symm

end Binary64

end SchemaValidation
