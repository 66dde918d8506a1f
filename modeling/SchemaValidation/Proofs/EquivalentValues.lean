import Mathlib.Data.List.Perm.Subperm
import SchemaValidation.Proofs.CanonicalForm

/-!
# Equality as an equivalence

Equality of values and equality that does not tell texts apart by case are
equivalence relations on all values, at every depth, with what is no number, both
zeros, callables and classes.  The members of objects are compared place by
place; in ascending order this is the one-sided comparison that looks every
member of the one up in the other, once both have the same size.
-/

namespace SchemaValidation

/-! ## Members in ascending order -/

namespace KeyMap

variable {α : Type} {first second : List (String × α)}

/-- A collection whose names are all names of another with no more members has the same names in the
same order: none can be missing, as each name stands there once. -/
theorem IsAscending.keys_eq_of_subset (ascending : IsAscending first)
    (ascending' : IsAscending second) (size : second.length ≤ first.length)
    (within : ∀ key ∈ keys first, key ∈ keys second) : keys first = keys second := by
  have counted : (keys second).length ≤ (keys first).length := by simpa [keys] using size
  have same : (keys first).Perm (keys second) :=
    (List.subperm_of_subset ascending.nodup_keys within).perm_of_length_le counted
  have sorted : (keys first).Pairwise (· < ·) := List.pairwise_map.mpr ascending
  have sorted' : (keys second).Pairwise (· < ·) := List.pairwise_map.mpr ascending'
  exact same.eq_of_pairwise (fun _ _ _ _ less greater => absurd greater (String.lt_asymm less))
    sorted sorted'

end KeyMap

namespace Value

/-! ## Symmetry -/

theorem equalItems_comm {items : List Value}
    (each : ∀ item ∈ items, ∀ other : Value, item.equals other = other.equals item)
    (others : List Value) : equalItems items others = equalItems others items := by
  induction items generalizing others with
  | nil => cases others <;> rfl
  | cons item rest ih =>
      obtain ⟨here, there⟩ := List.forall_mem_cons.mp each
      cases others with
      | nil => rfl
      | cons other others => rw [equalItems, equalItems, here other, ih there others]

theorem equalMembers_comm {members : List (String × Value)}
    (each : ∀ entry ∈ members, ∀ other : Value, entry.2.equals other = other.equals entry.2)
    (others : List (String × Value)) :
    equalMembers members others = equalMembers others members := by
  induction members generalizing others with
  | nil => cases others <;> rfl
  | cons entry rest ih =>
      obtain ⟨here, there⟩ := List.forall_mem_cons.mp each
      cases others with
      | nil => rfl
      | cons other others =>
          rw [equalMembers, equalMembers, here other.2, ih there others,
            Bool.beq_comm (a := entry.1)]

theorem equals_comm (value other : Value) : value.equals other = other.equals value := by
  induction value using nestedInduction generalizing other with
  | leaf value plain =>
      cases value with
      | array items => cases plain
      | object className members => cases plain
      | number x =>
          cases other with
          | number y =>
              change x.equals y = y.equals x
              rw [Bool.eq_iff_iff, Binary64.equals_iff, Binary64.equals_iff, eq_comm]
          | _ => rfl
      | _ => cases other <;> first | rfl | exact Bool.beq_comm
  | array items ih =>
      cases other with
      | array others => exact equalItems_comm ih others
      | _ => rfl
  | object className members ih =>
      cases other with
      | object className' others => exact equalMembers_comm ih others
      | _ => rfl

/-! ## Transitivity -/

theorem equalItems_trans {items others last : List Value}
    (each : ∀ item ∈ items, ∀ {other further : Value}, item.equals other = true →
      other.equals further = true → item.equals further = true)
    (equal : equalItems items others = true) (equal' : equalItems others last = true) :
    equalItems items last = true := by
  induction items generalizing others last with
  | nil =>
      cases others with
      | nil => exact equal'
      | cons other others => cases equal
  | cons item rest ih =>
      obtain ⟨here, there⟩ := List.forall_mem_cons.mp each
      cases others with
      | nil => cases equal
      | cons other others =>
          cases last with
          | nil => cases equal'
          | cons further last =>
              obtain ⟨head, tail⟩ := Bool.and_eq_true_iff.mp equal
              obtain ⟨head', tail'⟩ := Bool.and_eq_true_iff.mp equal'
              rw [equalItems, here head head', ih there tail tail']
              rfl

theorem equalMembers_trans {members others last : List (String × Value)}
    (each : ∀ entry ∈ members, ∀ {other further : Value}, entry.2.equals other = true →
      other.equals further = true → entry.2.equals further = true)
    (equal : equalMembers members others = true) (equal' : equalMembers others last = true) :
    equalMembers members last = true := by
  induction members generalizing others last with
  | nil =>
      cases others with
      | nil => exact equal'
      | cons other others => cases equal
  | cons entry rest ih =>
      obtain ⟨here, there⟩ := List.forall_mem_cons.mp each
      cases others with
      | nil => cases equal
      | cons other others =>
          cases last with
          | nil => cases equal'
          | cons further last =>
              obtain ⟨head, tail⟩ := Bool.and_eq_true_iff.mp equal
              obtain ⟨head', tail'⟩ := Bool.and_eq_true_iff.mp equal'
              obtain ⟨name, item⟩ := Bool.and_eq_true_iff.mp head
              obtain ⟨name', item'⟩ := Bool.and_eq_true_iff.mp head'
              rw [equalMembers, here item item', ih there tail tail', eq_of_beq name, name']
              rfl

theorem equals_trans {value other further : Value} (equal : value.equals other = true)
    (equal' : other.equals further = true) : value.equals further = true := by
  induction value using nestedInduction generalizing other further with
  | leaf value plain =>
      cases value with
      | array items => cases plain
      | object className members => cases plain
      | number x =>
          cases other with
          | number y =>
              cases further with
              | number z =>
                  exact Binary64.equals_iff.mpr
                    ((Binary64.equals_iff.mp equal).trans (Binary64.equals_iff.mp equal'))
              | _ => cases equal'
          | _ => cases equal
      | function f =>
          cases other with
          | function g =>
              cases further with
              | function h =>
                  exact beq_of_eq ((eq_of_beq equal).trans (eq_of_beq equal'))
              | _ => cases equal'
          | _ => cases equal
      | _ => cases other <;> first | exact equal' | cases equal | rwa [eq_of_beq equal]
  | array items ih =>
      cases other with
      | array others =>
          cases further with
          | array last => exact equalItems_trans ih equal equal'
          | _ => cases equal'
      | _ => cases equal
  | object className members ih =>
      cases other with
      | object className' others =>
          cases further with
          | object className'' last => exact equalMembers_trans ih equal equal'
          | _ => cases equal'
      | _ => cases equal

/-! ## Members looked up by name -/

section Members

variable {members others : List (String × Value)} (ascending : KeyMap.IsAscending members)
  (ascending' : KeyMap.IsAscending others)
include ascending ascending'

/-- Members that are equal place by place are found under their names on the other side. -/
theorem found_of_equalMembers (equal : equalMembers members others = true) :
    members.length = others.length ∧
      ∀ entry ∈ members, ∃ other, KeyMap.find? entry.1 others = some other ∧
        entry.2.equals other = true := by
  induction members generalizing others with
  | nil =>
      cases others with
      | nil => simp
      | cons other others => cases equal
  | cons entry rest ih =>
      cases others with
      | nil => cases equal
      | cons other others =>
          obtain ⟨head, tail⟩ := Bool.and_eq_true_iff.mp equal
          obtain ⟨name, item⟩ := Bool.and_eq_true_iff.mp head
          obtain ⟨size, each⟩ := ih (KeyMap.ascending_cons.mp ascending).2
            (KeyMap.ascending_cons.mp ascending').2 tail
          refine ⟨congrArg (· + 1) size, List.forall_mem_cons.mpr ⟨⟨other.2, ?_, item⟩, ?_⟩⟩
          · rw [eq_of_beq name]
            exact if_pos rfl
          · intro entry member
            obtain ⟨found, there, equals⟩ := each entry member
            exact ⟨found, ascending'.find?_of_mem
              (List.mem_cons_of_mem _ (KeyMap.mem_of_find? there)), equals⟩

/-- Where the names are the same, members that are found equal are equal place by place. -/
theorem equalMembers_of_found (names : KeyMap.keys members = KeyMap.keys others)
    (each : ∀ entry ∈ members, ∃ other, KeyMap.find? entry.1 others = some other ∧
      entry.2.equals other = true) : equalMembers members others = true := by
  induction members generalizing others with
  | nil =>
      cases others with
      | nil => rfl
      | cons other others => cases names
  | cons entry rest ih =>
      cases others with
      | nil => cases names
      | cons other others =>
          obtain ⟨name, names⟩ := List.cons.inj names
          obtain ⟨⟨found, there, item⟩, each⟩ := List.forall_mem_cons.mp each
          have here : other.2 = found := by
            rw [show entry.1 = other.1 from name] at there
            exact Option.some.inj ((if_pos rfl).symm.trans there)
          have tail : equalMembers rest others = true := by
            refine ih (KeyMap.ascending_cons.mp ascending).2
              (KeyMap.ascending_cons.mp ascending').2 names fun entry' member => ?_
            obtain ⟨found', there', item'⟩ := each entry' member
            -- The name of a later member is greater than that of the head.
            have later : other.1 ≠ entry'.1 :=
              name ▸ String.ne_of_lt ((KeyMap.ascending_cons.mp ascending).1 entry' member)
            exact ⟨found', (if_neg later).symm.trans there', item'⟩
          rw [equalMembers, tail, here, item, show entry.1 = other.1 from name, beq_self_eq_true]
          rfl

/-- Where both collections stand in ascending order, they are equal exactly if they have the same
size and every member of the first equals the one that the second has under its name. -/
theorem equalMembers_iff_found :
    equalMembers members others = true ↔ members.length = others.length ∧
      ∀ entry ∈ members, ∃ other, KeyMap.find? entry.1 others = some other ∧
        entry.2.equals other = true := by
  refine ⟨found_of_equalMembers ascending ascending', fun ⟨size, each⟩ => ?_⟩
  have names : KeyMap.keys members = KeyMap.keys others := by
    refine ascending.keys_eq_of_subset ascending' (Nat.le_of_eq size.symm) fun key named => ?_
    obtain ⟨entry, member, rfl⟩ := List.mem_map.mp named
    obtain ⟨other, found, -⟩ := each entry member
    rw [KeyMap.mem_keys_iff, found]
    rfl
  exact equalMembers_of_found ascending ascending' names each

end Members

/-! ## Equality that ignores case -/

/-- The value with its text in lower case, if it is a text. -/
def folded : Value → Value
  | string text => string (String.ofList (Text.lower text.toList))
  | value => value

/-- Equality that ignores case is equality in lower case. -/
theorem equalsIgnoringCase_eq (value other : Value) :
    value.equalsIgnoringCase other = value.folded.equals other.folded := by
  cases value with
  | string text =>
      cases other with
      | string text' =>
          rw [Bool.eq_iff_iff]
          simp [equalsIgnoringCase, folded, equals, String.ofList_inj]
      | _ => rfl
  | _ => cases other <;> rfl

theorem folded_equals {value other : Value} (equal : value.equals other = true) :
    value.folded.equals other.folded = true := by
  cases value with
  | string text =>
      cases other with
      | string text' => rw [eq_of_beq equal, equals_self]
      | _ => cases equal
  | _ => cases other <;> exact equal

/-! ## Names -/

/-- Equal values select the same member. -/
theorem keyText?_eq_of_equals {value other : Value} (equal : value.equals other = true) :
    value.keyText? = other.keyText? := by
  cases value with
  | number x =>
      cases other with
      | number y =>
          refine reading_eq keyText? keyText?_canonical ?_
          exact congrArg number (Binary64.equals_iff.mp equal)
      | _ => cases equal
  | boolean holds =>
      cases other with
      | boolean holds' => rw [eq_of_beq equal]
      | _ => cases equal
  | string text =>
      cases other with
      | string text' => rw [eq_of_beq equal]
      | _ => cases equal
  | _ => cases other <;> first | rfl | cases equal

/-! ## Equivalence -/

theorem equivalence_equals : Equivalence fun value other : Value => value.equals other = true where
  refl := equals_self
  symm equal := (equals_comm _ _).trans equal
  trans := equals_trans

/--
Equality of values and equality that ignores case are equivalence relations, the
first within the second, and equal values select the same member.  Whatever the
order of the two sides, records are equal exactly if they have the same size and
every member of the one equals the member of that name in the other; their
classes do not count.
-/
theorem equality_laws :
    (Equivalence fun value other : Value => value.equals other = true) ∧
      (Equivalence fun value other : Value => value.equalsIgnoringCase other = true) ∧
      (∀ value other : Value, value.equals other = true →
        value.equalsIgnoringCase other = true ∧ value.keyText? = other.keyText?) ∧
      ∀ record other : Record,
        KeyMap.IsAscending record.members → KeyMap.IsAscending other.members →
        (record.toValue.equals other.toValue = record.equals other) ∧
        (record.equals other = true ↔ record.members.length = other.members.length ∧
          ∀ entry ∈ record.members, ∃ item, other.find? entry.1 = some item ∧
            entry.2.equals item = true) := by
  refine ⟨equivalence_equals, ?_, fun value other equal => ⟨?_, keyText?_eq_of_equals equal⟩,
    fun record other ascending ascending' => ⟨rfl, equalMembers_iff_found ascending ascending'⟩⟩
  · simp only [equalsIgnoringCase_eq]
    exact equivalence_equals.comap folded
  · rw [equalsIgnoringCase_eq]
    exact folded_equals equal

/-- Two records with different classes whose members differ in the sign of a zero and in the bits of
what is no number. -/
theorem equality_laws_zeros :
    let record : Record := ⟨some "Point", [("x", number (.ofMagnitude true 0)),
      ("y", number (.ofMagnitude false 0x7FF8000000000000))]⟩
    let other : Record := ⟨none, [("x", number .zero),
      ("y", number (.ofMagnitude true 0x7FF0000000000001))]⟩
    (record.toValue.equals other.toValue = true ∧
      record.toValue.equalsIgnoringCase other.toValue = true) ∧
    (record.equals other = true ↔ record.members.length = other.members.length ∧
      ∀ entry ∈ record.members, ∃ item, other.find? entry.1 = some item ∧
        entry.2.equals item = true) := by
  intro record other
  obtain ⟨-, -, within, records⟩ := equality_laws
  have equal : record.toValue.equals other.toValue = true := by decide
  have ascending : KeyMap.IsAscending record.members :=
    KeyMap.ascending_pair (by decide) _ _
  have ascending' : KeyMap.IsAscending other.members :=
    KeyMap.ascending_pair (by decide) _ _
  exact ⟨⟨equal, (within _ _ equal).1⟩, (records record other ascending ascending').2⟩

end Value

end SchemaValidation
