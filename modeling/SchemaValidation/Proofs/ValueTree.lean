import SchemaValidation.Proofs.KeyOrder
import SchemaValidation.Value.Equality

/-!
# Values as trees

A value without parts is a leaf; lists and objects have values below them.  This
module has the induction over such trees, reads the conditions on whole trees off
their parts, and relates the shapes of values.
-/

namespace SchemaValidation.Value

/-- Whether a value is a list or an object. -/
def isContainer : Value → Bool
  | array _ => true
  | object _ _ => true
  | _ => false

/-- Induction over a value with one hypothesis for all items of a list and one for all members of an
object. -/
theorem nestedInduction {motive : Value → Prop}
    (leaf : ∀ value : Value, value.isContainer = false → motive value)
    (array : ∀ items : List Value, (∀ item ∈ items, motive item) → motive (.array items))
    (object : ∀ (className : Option String) (members : List (String × Value)),
      (∀ entry ∈ members, motive entry.2) → motive (.object className members))
    (value : Value) : motive value := by
  refine @Value.rec motive
    (fun items => ∀ item ∈ items, motive item)
    (fun members => ∀ entry ∈ members, motive entry.2)
    (fun entry => motive entry.2)
    (leaf _ rfl) (leaf _ rfl) (fun _ => leaf _ rfl) (fun _ => leaf _ rfl) (fun _ => leaf _ rfl)
    array object (fun _ => leaf _ rfl) (by simp) ?items (by simp) ?members
    (fun _ _ ih => ih) value
  case items =>
    intro first rest ihFirst ihRest item member
    rcases List.mem_cons.mp member with rfl | member
    · exact ihFirst
    · exact ihRest item member
  case members =>
    intro first rest ihFirst ihRest entry member
    rcases List.mem_cons.mp member with rfl | member
    · exact ihFirst
    · exact ihRest entry member

/-! ## Well-formed values -/

theorem hasWellFormedMembers_iff {members : List (String × Value)} :
    HasWellFormedMembers members ↔ ∀ entry ∈ members, entry.2.IsWellFormed := by
  induction members with
  | nil => simp [HasWellFormedMembers]
  | cons entry rest ih =>
      rw [List.forall_mem_cons, ← ih]
      exact Iff.rfl

theorem areWellFormed_iff {items : List Value} :
    AreWellFormed items ↔ ∀ item ∈ items, item.IsWellFormed := by
  induction items with
  | nil => simp [AreWellFormed]
  | cons item rest ih =>
      rw [List.forall_mem_cons, ← ih]
      exact Iff.rfl

namespace IsWellFormed

variable {className : Option String} {members : List (String × Value)}

theorem ascending (wellFormed : (object className members).IsWellFormed) :
    KeyMap.IsAscending members :=
  wellFormed.1

theorem find? (wellFormed : (object className members).IsWellFormed) {key : String}
    {item : Value} (found : KeyMap.find? key members = some item) : item.IsWellFormed :=
  hasWellFormedMembers_iff.mp wellFormed.2 (key, item) (KeyMap.mem_of_find? found)

theorem getD (wellFormed : (object className members).IsWellFormed) {key : String} :
    ((KeyMap.find? key members).getD .undefined).IsWellFormed := by
  cases found : KeyMap.find? key members with
  | none => trivial
  | some item => exact wellFormed.find? found

theorem item {items : List Value} (wellFormed : (array items).IsWellFormed) {item : Value}
    (member : item ∈ items) : item.IsWellFormed :=
  areWellFormed_iff.mp wellFormed item member

end IsWellFormed

/-- No list in a value is empty. -/
inductive HasFilledLists : Value → Prop where
  | leaf {value : Value} (plain : value.isContainer = false) : HasFilledLists value
  | array {items : List Value} (filled : items ≠ [])
      (each : ∀ item ∈ items, HasFilledLists item) : HasFilledLists (.array items)
  | object {className : Option String} {members : List (String × Value)}
      (each : ∀ entry ∈ members, HasFilledLists entry.2) :
      HasFilledLists (.object className members)

/-! ## Shapes -/

theorem exists_of_shape_object {value : Value} (shape : value.shape = .object) :
    ∃ className members, value = .object className members := by
  cases value with
  | object className members => exact ⟨className, members, rfl⟩
  | _ => cases shape

/-- Equal values have the same shape. -/
theorem shape_eq_of_equals {first second : Value} (equal : first.equals second = true) :
    first.shape = second.shape := by
  cases first <;> cases second <;> first | rfl | cases equal

theorem isContainer_eq_of_shape {first second : Value} (same : first.shape = second.shape) :
    first.isContainer = second.isContainer := by
  cases first <;> cases second <;> first | rfl | cases same

/-! ## Equality -/

theorem equalItems_self {items : List Value} (each : ∀ item ∈ items, item.equals item = true) :
    equalItems items items = true := by
  induction items with
  | nil => rfl
  | cons item rest ih =>
      obtain ⟨first, others⟩ := List.forall_mem_cons.mp each
      rw [equalItems, first, ih others]
      rfl

theorem equalMembers_self {members : List (String × Value)}
    (each : ∀ entry ∈ members, entry.2.equals entry.2 = true) :
    equalMembers members members = true := by
  induction members with
  | nil => rfl
  | cons entry rest ih =>
      obtain ⟨first, others⟩ := List.forall_mem_cons.mp each
      rw [equalMembers, first, ih others, beq_self_eq_true]
      rfl

/-- Every value equals itself, also something that is no number. -/
@[simp] theorem equals_self (value : Value) : value.equals value = true := by
  induction value using nestedInduction with
  | leaf value plain =>
      cases value with
      | number x =>
          unfold equals Binary64.equals Binary64.same
          cases x.isNaN <;> simp
      | array items => cases plain
      | object className members => cases plain
      | _ => simp [equals]
  | array items ih => exact equalItems_self ih
  | object className members ih => exact equalMembers_self ih

end SchemaValidation.Value
