import Mathlib.Algebra.Order.Ring.Nat
import SchemaValidation.Proofs.ValueTree
import SchemaValidation.Value.Json

/-!
# Values that survive as data trees

A data tree has no form for callables, for numbers that are not finite and for
absent parts.  A value without such parts comes back from its data tree as an
equal value: a number without fraction is written as an integer only where the
number nearest to the integer is the one that was written.
-/

namespace SchemaValidation

/-! ## Exact integers -/

namespace Binary64

theorem twoTo_eq (n : Nat) : twoTo n = 2 ^ n := rfl

/-- The digits of a positive integer can be shifted to full precision. -/
theorem shifted_bounds {n : Nat} (positive : n ≠ 0) (small : n < 2 ^ 53) :
    2 ^ 52 ≤ n * 2 ^ (52 - n.log2) ∧ n * 2 ^ (52 - n.log2) < 2 ^ 53 := by
  have digits : n.log2 < 53 := (Nat.log2_lt positive).mpr small
  constructor
  · calc 2 ^ 52
        = 2 ^ n.log2 * 2 ^ (52 - n.log2) := by rw [← Nat.pow_add]; congr 1; omega
      _ ≤ n * 2 ^ (52 - n.log2) := Nat.mul_le_mul_right _ (Nat.log2_self_le positive)
  · calc n * 2 ^ (52 - n.log2)
        < 2 ^ (n.log2 + 1) * 2 ^ (52 - n.log2) :=
          Nat.mul_lt_mul_of_pos_right Nat.lt_log2_self (Nat.two_pow_pos _)
      _ = 2 ^ 53 := by rw [← Nat.pow_add]; congr 1; omega

/-- A positive integer of at most 53 binary digits is a significand once its digits are shifted to
full precision. -/
theorem nearestMagnitude_of_lt {n : Nat} (positive : n ≠ 0) (small : n < 2 ^ 53) :
    nearestMagnitude n 1 = (n.log2 + 1022) * leadingOne + n * 2 ^ (52 - n.log2) := by
  have digits : n.log2 < 53 := (Nat.log2_lt positive).mpr small
  have lower : 2 ^ n.log2 ≤ n := Nat.log2_self_le positive
  have leading : leadingExponent n 1 = n.log2 := by
    have one : Nat.log2 1 = 0 := by decide
    simp [leadingExponent, twoTo_eq, one, lower]
  have normal : ¬ (n.log2 : Int) - 52 < -1074 := by omega
  have shift : (-((n.log2 : Int) - 52)).toNat = 52 - n.log2 := by omega
  have unshifted : ((n.log2 : Int) - 52).toNat = 0 := by omega
  have rank : ((n.log2 : Int) - 52 + 1074).toNat = n.log2 + 1022 := by omega
  have exact (numerator : Nat) : roundHalfEven numerator 1 = numerator := by
    simp [roundHalfEven, Nat.mod_one]
  have bounded := (shifted_bounds positive small).2
  have finite : (n.log2 + 1022) * leadingOne + n * 2 ^ (52 - n.log2) < infinity := by
    unfold leadingOne infinity
    omega
  unfold nearestMagnitude
  simp only [if_neg positive, leading, if_neg normal, shift, unshifted, rank, twoTo_eq, pow_zero,
    Nat.mul_one, exact, if_pos finite]

/-- Where full precision reaches below one, the digits of a small integer are shifted so far that the
leading one of the significand is that of the integer. -/
theorem log2_of_shifted {n shift : Nat} (lower : 2 ^ 52 ≤ n * 2 ^ shift)
    (upper : n * 2 ^ shift < 2 ^ 53) : shift ≤ 52 ∧ n.log2 = 52 - shift := by
  have positive : n ≠ 0 := by
    rintro rfl
    simp at lower
  have short : shift ≤ 52 := by
    by_contra long
    have : 2 ^ 53 ≤ n * 2 ^ shift :=
      calc 2 ^ 53 ≤ 2 ^ shift := Nat.pow_le_pow_right (by decide) (by omega)
        _ ≤ n * 2 ^ shift := Nat.le_mul_of_pos_left _ (Nat.pos_of_ne_zero positive)
    omega
  refine ⟨short, (Nat.log2_eq_iff positive).mpr ⟨?_, ?_⟩⟩
  · refine Nat.le_of_mul_le_mul_right ?_ (Nat.two_pow_pos shift)
    rwa [← Nat.pow_add, Nat.sub_add_cancel short]
  · refine Nat.lt_of_mul_lt_mul_right (a := 2 ^ shift) ?_
    rwa [← Nat.pow_add, show 52 - shift + 1 + shift = 53 by omega]

/-- A number denotes an integer if the integer, scaled down by what the exponent lacks, is the
significand, scaled up by what the exponent has. -/
theorem integer?_eq_some {x : Binary64} {n : Int} (whole : x.integer? = some n) :
    n = (if x.negative then -(n.natAbs : Int) else n.natAbs) ∧
      x.significand * 2 ^ x.exponent.toNat = n.natAbs * 2 ^ (-x.exponent).toNat := by
  unfold integer? at whole
  split at whole
  · cases whole
  · dsimp only [twoTo_eq] at whole
    split at whole
    · rename_i divides
      have exact := Nat.div_mul_cancel (Nat.dvd_of_mod_eq_zero divides)
      generalize x.significand * 2 ^ x.exponent.toNat / 2 ^ (-x.exponent).toNat = quotient
        at whole exact
      cases whole
      cases x.negative <;> simp [exact]
    · cases whole

theorem magnitude_of_integer?_zero {x : Binary64} (whole : x.integer? = some 0) :
    x.magnitude.val = 0 := by
  obtain ⟨-, scaled⟩ := integer?_eq_some whole
  have insignificant : x.significand = 0 := by simpa using scaled
  unfold significand leadingOne at insignificant
  split at insignificant <;> omega

/-- The number nearest to an integer of at most 53 binary digits is the one that denotes it. -/
theorem nearestMagnitude_of_integer? {x : Binary64} {n : Int} (whole : x.integer? = some n)
    (nonzero : n ≠ 0) (small : n.natAbs < 2 ^ 53) :
    nearestMagnitude n.natAbs 1 = x.magnitude.val := by
  obtain ⟨-, scaled⟩ := integer?_eq_some whole
  have positive : n.natAbs ≠ 0 := Int.natAbs_ne_zero.mpr nonzero
  have leading : leadingOne = 2 ^ 52 := by decide
  unfold significand exponent at scaled
  split at scaled
  · -- Numbers below the first power of two of full precision are no integers.
    have large : 52 ≤ (-(-1074 : Int)).toNat := by decide
    generalize (-(-1074 : Int)).toNat = shift at scaled large
    have beyond : 2 ^ 52 ≤ n.natAbs * 2 ^ shift :=
      calc 2 ^ 52 ≤ 2 ^ shift := Nat.pow_le_pow_right (by decide) large
        _ ≤ n.natAbs * 2 ^ shift := Nat.le_mul_of_pos_left _ (Nat.pos_of_ne_zero positive)
    have same : x.magnitude.val = n.natAbs * 2 ^ shift := by simpa using scaled
    omega
  · rename_i high
    have split := Nat.div_add_mod x.magnitude.val leadingOne
    have rest : x.magnitude.val % leadingOne < leadingOne := Nat.mod_lt _ (by decide)
    generalize x.magnitude.val / leadingOne = rank at scaled split
    generalize x.magnitude.val % leadingOne = fraction at scaled split rest
    have up : ((rank : Int) - 1075).toNat = rank - 1075 := by omega
    have down : (-((rank : Int) - 1075)).toNat = 1075 - rank := by omega
    rw [up, down] at scaled
    have bounded : rank ≤ 1075 := by
      by_contra beyond
      have : 2 * leadingOne ≤ (leadingOne + fraction) * 2 ^ (rank - 1075) := by
        rw [Nat.mul_comm 2]
        exact Nat.mul_le_mul (Nat.le_add_right _ _) (Nat.le_self_pow (by omega) 2)
      rw [scaled, Nat.sub_eq_zero_of_le (by omega), pow_zero, Nat.mul_one] at this
      omega
    rw [Nat.sub_eq_zero_of_le bounded, pow_zero, Nat.mul_one] at scaled
    obtain ⟨short, digits⟩ : 1075 - rank ≤ 52 ∧ n.natAbs.log2 = 52 - (1075 - rank) :=
      log2_of_shifted (by omega) (by omega)
    rw [nearestMagnitude_of_lt positive small, digits,
      show 52 - (52 - (1075 - rank)) = 1075 - rank by omega, ← scaled, ← split, leading]
    omega

/-- A number that is written as an integer is read back as an equal number. The sign of a zero is
lost, which equality does not see. -/
theorem ofInt_equals {x : Binary64} {n : Int} (whole : x.integer? = some n)
    (small : n.natAbs < 2 ^ 53) : (ofInt n).equals x = true := by
  have magnitude : (ofInt n).magnitude.val = x.magnitude.val := by
    have stored : (ofInt n).magnitude.val = nearestMagnitude n.natAbs 1 % 2 ^ 63 := rfl
    rw [stored]
    by_cases zero : n = 0
    · subst zero
      exact (magnitude_of_integer?_zero whole).symm
    · rw [nearestMagnitude_of_integer? whole zero small]
      exact Nat.mod_eq_of_lt x.magnitude.isLt
  have place : (ofInt n).place = x.place := by
    obtain ⟨signed, -⟩ := integer?_eq_some whole
    have sign : (ofInt n).negative = decide (n < 0) := rfl
    unfold Binary64.place
    rw [sign, magnitude]
    by_cases zero : n = 0
    · subst zero
      simp [magnitude_of_integer?_zero whole]
    · cases negative : x.negative with
      | false =>
          have above : ¬ n < 0 := by
            simp only [negative, Bool.false_eq_true, if_false] at signed
            omega
          simp [above]
      | true =>
          have below : n < 0 := by
            simp only [negative, if_true] at signed
            omega
          simp [below]
  have number : x.isNaN = false := by
    unfold integer? isFinite at whole
    unfold isNaN
    split at whole
    · cases whole
    · rename_i finite
      simp at finite
      exact decide_eq_false (Nat.lt_asymm finite)
  have number' : (ofInt n).isNaN = false := by
    unfold isNaN at number ⊢
    rw [magnitude, number]
  simp [equals, same, number, number', place]

end Binary64

/-! ## Values -/

namespace Value

/-- At every depth the value has a form as a data tree of its own. -/
inductive IsRepresentable : Value → Prop where
  | null : IsRepresentable .null
  | boolean (holds : Bool) : IsRepresentable (.boolean holds)
  | number {x : Binary64} (finite : x.isFinite = true) : IsRepresentable (.number x)
  | string (text : String) : IsRepresentable (.string text)
  | array {items : List Value} (each : ∀ item ∈ items, IsRepresentable item) :
      IsRepresentable (.array items)
  | object {className : Option String} {members : List (String × Value)}
      (each : ∀ entry ∈ members, IsRepresentable entry.2) :
      IsRepresentable (.object className members)

theorem IsRepresentable.isUndefined_eq {value : Value} (representable : value.IsRepresentable) :
    value.isUndefined = false := by
  cases representable <;> rfl

theorem itemsOfJson_eq (items : List Json) : itemsOfJson items = items.map ofJson := by
  induction items with
  | nil => rfl
  | cons item rest ih => rw [itemsOfJson, ih, List.map_cons]

theorem itemsToJson_eq (items : List Value) : itemsToJson items = items.map toJson := by
  induction items with
  | nil => rfl
  | cons item rest ih => rw [itemsToJson, ih, List.map_cons]

theorem membersOfJson_eq (members : List (String × Json)) :
    membersOfJson members = KeyMap.mapItems ofJson members := by
  induction members with
  | nil => rfl
  | cons entry rest ih =>
      rw [membersOfJson, ih]
      rfl

/-- The members of the tree of an object are the trees of the members that are present. -/
theorem membersToJson_eq (members : List (String × Value)) :
    membersToJson members =
      KeyMap.mapItems toJson (members.filter fun entry => !entry.2.isUndefined) := by
  induction members with
  | nil => rfl
  | cons entry rest ih =>
      rw [membersToJson, List.filter_cons, ih]
      cases entry.2.isUndefined <;> rfl

/-- No member is left out where all are present. -/
theorem membersToJson_of_present {members : List (String × Value)}
    (present : ∀ entry ∈ members, entry.2.isUndefined = false) :
    membersToJson members = KeyMap.mapItems toJson members := by
  have all : (members.filter fun entry => !entry.2.isUndefined) = members :=
    List.filter_eq_self.mpr fun entry member => by simp [present entry member]
  rw [membersToJson_eq, all]

theorem equalItems_map {f : Value → Value} {items : List Value}
    (each : ∀ item ∈ items, (f item).equals item = true) :
    equalItems (items.map f) items = true := by
  induction items with
  | nil => rfl
  | cons item rest ih =>
      obtain ⟨first, others⟩ := List.forall_mem_cons.mp each
      rw [List.map_cons, equalItems, first, ih others]
      rfl

theorem equalMembers_mapItems {f : Value → Value} {members : List (String × Value)}
    (each : ∀ entry ∈ members, (f entry.2).equals entry.2 = true) :
    equalMembers (KeyMap.mapItems f members) members = true := by
  induction members with
  | nil => rfl
  | cons entry rest ih =>
      obtain ⟨first, others⟩ := List.forall_mem_cons.mp each
      have mapped : KeyMap.mapItems f (entry :: rest) =
          (entry.1, f entry.2) :: KeyMap.mapItems f rest := rfl
      rw [mapped, equalMembers, first, ih others, beq_self_eq_true]
      rfl

theorem ofJson_ofNumber_equals {x : Binary64} (finite : x.isFinite = true) :
    (ofJson (.ofNumber x)).equals (.number x) = true := by
  unfold Json.ofNumber
  split
  · rename_i n whole
    split
    · rename_i small
      exact Binary64.ofInt_equals whole small
    · exact equals_self (.number x)
  · rw [if_pos finite]
    exact equals_self (.number x)

/-- A value with a form as a data tree comes back from it. -/
theorem ofJson_toJson_equals {value : Value} (representable : value.IsRepresentable) :
    (ofJson value.toJson).equals value = true := by
  induction representable with
  | null => rfl
  | boolean holds => exact equals_self (.boolean holds)
  | number finite => exact ofJson_ofNumber_equals finite
  | string text => exact equals_self (.string text)
  | @array items _ ih =>
      have read : ofJson (toJson (.array items)) =
          .array (items.map fun item => ofJson item.toJson) := by
        rw [toJson, ofJson, itemsToJson_eq, itemsOfJson_eq, List.map_map]
        rfl
      rw [read, equals]
      exact equalItems_map ih
  | @object className members each ih =>
      have read : ofJson (toJson (.object className members)) =
          .object none (KeyMap.mapItems (fun item => ofJson item.toJson) members) := by
        rw [toJson, ofJson, membersToJson_of_present fun entry member =>
          (each entry member).isUndefined_eq, membersOfJson_eq]
        exact congrArg _ List.map_map
      rw [read, equals]
      exact equalMembers_mapItems ih

end Value

end SchemaValidation
