import SchemaValidation.Proofs.CanonicalForm
import SchemaValidation.Proofs.DataTrees

/-!
# Normal data trees

A data tree has two forms of a number, and conversion chooses between them by the
number alone: an integer where every integer is exact, a finite decimal elsewhere.
The trees in which all numbers are so written are those that come back from the
value that they are read as.  So converting a value, reading it back and converting
it again gives what converting it once gave, whatever was lost on the way.
-/

namespace SchemaValidation

/-! ## Exact integers -/

namespace Binary64

/-- A number made of a small integer other than zero has the digits of the integer, shifted to full
precision. -/
theorem nearest_of_lt {n : Nat} (positive : n ≠ 0) (small : n < 2 ^ 53) (negative : Bool) :
    (nearest negative n 1).isFinite = true ∧
      (nearest negative n 1).significand = n * 2 ^ (52 - n.log2) ∧
      (nearest negative n 1).exponent = (n.log2 : Int) - 52 := by
  have digits : n.log2 < 53 := (Nat.log2_lt positive).mpr small
  obtain ⟨lower, upper⟩ := shifted_bounds positive small
  have magnitude : (nearest negative n 1).magnitude.val =
      (n.log2 + 1022) * leadingOne + n * 2 ^ (52 - n.log2) := by
    have stored : (nearest negative n 1).magnitude.val = nearestMagnitude n 1 % 2 ^ 63 := rfl
    rw [stored, nearestMagnitude_of_lt positive small]
    unfold leadingOne
    omega
  unfold isFinite significand exponent
  rw [magnitude]
  unfold leadingOne infinity
  refine ⟨decide_eq_true (by omega), ?_, ?_⟩ <;> split <;> omega

/-- An integer that is exact is denoted by the number nearest to it. -/
theorem integer?_ofInt {n : Int} (exact : n.natAbs < 2 ^ 53) : (ofInt n).integer? = some n := by
  by_cases zero : n = 0
  · subst zero
    exact integer?_of_zero rfl
  · have positive : n.natAbs ≠ 0 := Int.natAbs_ne_zero.mpr zero
    have digits : n.natAbs.log2 < 53 := (Nat.log2_lt positive).mpr exact
    obtain ⟨finite, significand, exponent⟩ := nearest_of_lt positive exact (decide (n < 0))
    have up : ((n.natAbs.log2 : Int) - 52).toNat = 0 := by omega
    have down : (-((n.natAbs.log2 : Int) - 52)).toNat = 52 - n.natAbs.log2 := by omega
    have sign : (if n < 0 then -(n.natAbs : Int) else n.natAbs) = n := by
      split <;> omega
    have quotient : n.natAbs * 2 ^ (52 - n.natAbs.log2) / 2 ^ (52 - n.natAbs.log2) = n.natAbs :=
      Nat.mul_div_cancel _ (Nat.two_pow_pos _)
    have negative : (nearest (decide (n < 0)) n.natAbs 1).negative = decide (n < 0) := rfl
    unfold ofInt integer?
    rw [finite, significand, exponent, negative]
    dsimp only [twoTo_eq]
    rw [up, down, Nat.pow_zero, Nat.mul_one, Nat.mul_mod_left, quotient]
    simpa using sign

end Binary64

/-! ## Trees that come back -/

namespace Json

/-- Every number in a data tree has the form that conversion gives it: an integer is exact, and a
decimal is finite and no exact integer. -/
inductive IsNormal : Json → Prop where
  | null : IsNormal .null
  | boolean (holds : Bool) : IsNormal (.boolean holds)
  | integer {n : Int} (exact : n.natAbs < 2 ^ 53) : IsNormal (.integer n)
  | decimal {x : Binary64} (finite : x.isFinite = true)
      (inexact : ∀ n, x.integer? = some n → ¬ n.natAbs < 2 ^ 53) : IsNormal (.decimal x)
  | string (text : String) : IsNormal (.string text)
  | array {items : List Json} (each : ∀ item ∈ items, IsNormal item) : IsNormal (.array items)
  | object {members : List (String × Json)} (each : ∀ entry ∈ members, IsNormal entry.2) :
      IsNormal (.object members)

theorem isNormal_ofNumber (x : Binary64) : (ofNumber x).IsNormal := by
  unfold ofNumber
  split
  · rename_i n whole
    split
    · rename_i exact
      exact .integer exact
    · rename_i inexact
      refine .decimal ?_ fun m whole' => ?_
      · cases finite : x.isFinite with
        | true => rfl
        | false => simp [Binary64.integer?, finite] at whole
      · cases whole.symm.trans whole'
        exact inexact
  · rename_i fractional
    split
    · rename_i finite
      refine .decimal finite fun n whole => ?_
      cases fractional.symm.trans whole
    · exact .null

theorem ofNumber_ofInt {n : Int} (exact : n.natAbs < 2 ^ 53) :
    ofNumber (Binary64.ofInt n) = .integer n := by
  rw [ofNumber, Binary64.integer?_ofInt exact]
  exact if_pos exact

theorem ofNumber_of_inexact {x : Binary64} (finite : x.isFinite = true)
    (inexact : ∀ n, x.integer? = some n → ¬ n.natAbs < 2 ^ 53) : ofNumber x = .decimal x := by
  unfold ofNumber
  split
  · rename_i n whole
    exact if_neg (inexact n whole)
  · exact if_pos finite

end Json

namespace Value

/-- No value is read as an absent one. -/
theorem ofJson_isUndefined (tree : Json) : (ofJson tree).isUndefined = false := by
  cases tree <;> rfl

/-- Every value becomes a normal tree. -/
theorem isNormal_toJson (value : Value) : value.toJson.IsNormal := by
  induction value using nestedInduction with
  | leaf value plain =>
      cases value with
      | number x => exact Json.isNormal_ofNumber x
      | boolean holds => exact .boolean holds
      | string text => exact .string text
      | array items => cases plain
      | object className members => cases plain
      | _ => exact .null
  | array items ih =>
      rw [toJson, itemsToJson_eq]
      exact .array (List.forall_mem_map.mpr ih)
  | object className members ih =>
      rw [toJson, membersToJson_eq]
      refine .object (List.forall_mem_map.mpr fun entry member => ?_)
      exact ih entry (List.mem_filter.mp member).1

/-- A normal tree comes back from the value that it is read as. -/
theorem toJson_ofJson {tree : Json} (normal : tree.IsNormal) : (ofJson tree).toJson = tree := by
  induction normal with
  | integer exact => exact Json.ofNumber_ofInt exact
  | decimal finite inexact => exact Json.ofNumber_of_inexact finite inexact
  | @array items _ ih =>
      rw [ofJson, toJson, itemsOfJson_eq, itemsToJson_eq, List.map_map]
      exact congrArg _ ((List.map_congr_left ih).trans (List.map_id items))
  | @object members _ ih =>
      have present : ∀ entry ∈ KeyMap.mapItems ofJson members, entry.2.isUndefined = false :=
        List.forall_mem_map.mpr fun entry _ => ofJson_isUndefined entry.2
      have same : ∀ entry ∈ members, (entry.1, (ofJson entry.2).toJson) = entry :=
        fun entry member => Prod.ext rfl (ih entry member)
      rw [ofJson, toJson, membersOfJson_eq, membersToJson_of_present present]
      unfold KeyMap.mapItems
      rw [List.map_map]
      exact congrArg _ ((List.map_congr_left same).trans (List.map_id members))
  | _ => rfl

/-- The normal trees are those that come back from the value that they are read as. -/
theorem isNormal_iff {tree : Json} : tree.IsNormal ↔ (ofJson tree).toJson = tree :=
  ⟨toJson_ofJson, fun back => back ▸ isNormal_toJson _⟩

/-- The normal trees are those that values become. -/
theorem exists_toJson_iff {tree : Json} :
    (∃ value : Value, value.toJson = tree) ↔ tree.IsNormal :=
  ⟨fun ⟨value, becomes⟩ => becomes ▸ value.isNormal_toJson,
    fun normal => ⟨ofJson tree, toJson_ofJson normal⟩⟩

/--
A value that is converted to a data tree, read back and converted again gives the
tree that it gave at first.  A value that has no callable, no absent part and no
number that is not finite at any depth is read back as an equal value.
-/
theorem data_tree_normal_form (value : Value) :
    (ofJson value.toJson).toJson = value.toJson ∧
      (value.IsRepresentable → (ofJson value.toJson).equals value = true) :=
  ⟨toJson_ofJson value.isNormal_toJson, ofJson_toJson_equals⟩

/-- An object with a class comes back with a zero that had a sign, with the first integer that is
written as a decimal and with a number that has a fraction. -/
theorem data_tree_normal_form_numbers :
    let numbers : Value := .array [.number (.ofMagnitude true 0),
      .number (.ofMagnitude false 0x4340000000000000), .number (.ofMagnitude true 0x3FF8000000000000)]
    let value : Value := .object (some "Point") [("at", numbers), ("of", .null)]
    value.IsRepresentable ∧ (ofJson value.toJson).equals value = true ∧
      (ofJson value.toJson).toJson = value.toJson := by
  intro numbers value
  have finite : numbers.IsRepresentable := by
    refine .array ?_
    simp only [List.forall_mem_cons]
    exact ⟨.number (by decide), .number (by decide), .number (by decide), nofun⟩
  have representable : value.IsRepresentable :=
    .object (List.forall_mem_cons.mpr ⟨finite, List.forall_mem_singleton.mpr .null⟩)
  obtain ⟨again, back⟩ := data_tree_normal_form value
  exact ⟨representable, back representable, again⟩

/-- What has no form in a data tree is lost at once and not again. -/
example :
    toJson (.object none
        [("a", .undefined), ("b", .array [.undefined, .number (.infinite true)])]) =
      .object [("b", .array [.null, .null])] :=
  rfl

end Value

end SchemaValidation
