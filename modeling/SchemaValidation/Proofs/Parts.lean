import SchemaValidation.Proofs.KeyOrder
import SchemaValidation.Proofs.Reception

/-!
# What is built of the parts of a value

The steps over the members of an object and the items of a list, with the
rulings on the parts given.  What such a step builds is described by what is
found under each name, since a later member may be stored over an earlier one.
-/

namespace SchemaValidation

variable (options : Options) (path : String)

/-- The members with one more under a name unless it is absent. -/
def KeyMap.storePresent (key : String) (item : Value) (members : List (String × Value)) :
    List (String × Value) :=
  if item.isUndefined then members else KeyMap.insert key item members

theorem KeyMap.find?_storePresent (key name : String) (item : Value)
    (members : List (String × Value)) :
    find? name (storePresent key item members) =
      if name = key then item.present?.or (find? name members) else find? name members := by
  unfold storePresent Value.present?
  by_cases absent : item.isUndefined = true
  · simp [absent]
  · simp [absent, find?_insert]

theorem KeyMap.IsAscending.storePresent {members : List (String × Value)}
    (ascending : IsAscending members) (key : String) (item : Value) :
    IsAscending (storePresent key item members) := by
  unfold KeyMap.storePresent
  split
  · exact ascending
  · exact ascending.insert

namespace Assembly

theorem store_members (assembly : Assembly) (key : String) (item : Value) :
    (assembly.store key item).members = KeyMap.storePresent key item assembly.members := by
  unfold store KeyMap.storePresent
  split <;> rfl

theorem store_errors (assembly : Assembly) (key : String) (item : Value) :
    (assembly.store key item).errors = assembly.errors := by
  unfold store
  split <;> rfl

variable (assembly : Assembly)

theorem settleDeclared_members (presence : Presence) (key : String) (outcome : Outcome)
    (trail : Trail) :
    (assembly.settleDeclared options presence key outcome trail).1.members =
      KeyMap.storePresent key outcome.value assembly.members := by
  unfold settleDeclared
  split <;> exact store_members _ key outcome.value

theorem settleDeclared_isEmpty (presence : Presence) (key : String) (outcome : Outcome)
    (trail : Trail) :
    (assembly.settleDeclared options presence key outcome trail).1.errors.isEmpty =
      (assembly.errors.isEmpty && (outcome.isOk ||
        (presence == .optional && options.warnOnInvalidOptionals))) := by
  unfold settleDeclared
  rw [Bool.and_assoc]
  cases accepted : outcome.isOk with
  | true =>
      have none : outcome.errors = [] := by simpa [Outcome.isOk] using accepted
      simp [store_errors, reject, none]
  | false =>
      have some : outcome.errors ≠ [] := by simpa [Outcome.isOk] using accepted
      cases presence == Presence.optional && options.warnOnInvalidOptionals
      · simp [store_errors, reject, some]
      · simp [store_errors]

theorem find?_settleUnknown (key name : String) (item : Value) (report : Report)
    (trail : Trail) :
    KeyMap.find? name (assembly.settleUnknown options key item report trail).1.members =
      if name = key then
        (if options.stripUnknown then none else some item).or
          (KeyMap.find? name assembly.members)
      else KeyMap.find? name assembly.members := by
  unfold settleUnknown reject
  cases options.stripUnknown <;> cases options.allowUnknown <;> simp [KeyMap.find?_insert]

theorem settleUnknown_isEmpty (key : String) (item : Value) (report : Report) (trail : Trail) :
    (assembly.settleUnknown options key item report trail).1.errors.isEmpty =
      (assembly.errors.isEmpty && options.allowUnknown) := by
  unfold settleUnknown reject
  cases options.stripUnknown <;> cases options.allowUnknown <;> simp

theorem settleUnknown_ascending {assembly : Assembly}
    (ascending : KeyMap.IsAscending assembly.members) (key : String) (item : Value)
    (report : Report) (trail : Trail) :
    KeyMap.IsAscending (assembly.settleUnknown options key item report trail).1.members := by
  unfold settleUnknown reject
  cases options.stripUnknown <;> cases options.allowUnknown <;>
    first | exact ascending | exact ascending.insert

/-- The member that is delivered for one that is not declared, from the ruling on it if its name
fits the pattern. -/
def otherResult (fits : String → Value → Option Ruling) (key : String) (item : Value) :
    Option Value :=
  match fits key item with
  | some ruling => ruling.value.present?
  | none => if options.stripUnknown then none else some item

/-- The object with one member that is not declared. -/
def settleOther (whole : Value)
    (walkFitting : String → Value → Trail → Option (Outcome × Trail)) (key : String)
    (item : Value) (trail : Trail) : Assembly × Trail :=
  match walkFitting key item trail with
  | some (outcome, trail) => (assembly.store key outcome.value, trail.warn outcome.errors)
  | none =>
      assembly.settleUnknown options key item
        { Report.of .unknownKey path whole with actual := .string key } trail

section Others

variable {whole : Value} {walkFitting : String → Value → Trail → Option (Outcome × Trail)}
  {fits : String → Value → Option Ruling}
  (follows : ∀ key item trail,
    (walkFitting key item trail).map (fun result => result.1.ruling) = fits key item)

theorem settleOthers_cons_of_missing {key : String} {members : List (String × Value)}
    (missing : KeyMap.find? key members = none) (keys : List String) (trail : Trail) :
    settleOthers options path whole walkFitting (key :: keys) members assembly trail =
      settleOthers options path whole walkFitting keys members assembly trail := by
  rw [settleOthers, missing]

theorem settleOthers_cons_of_found {key : String} {members : List (String × Value)}
    {item : Value} (found : KeyMap.find? key members = some item) (keys : List String)
    (trail : Trail) :
    settleOthers options path whole walkFitting (key :: keys) members assembly trail =
      settleOthers options path whole walkFitting keys (KeyMap.erase key members)
        (assembly.settleOther options path whole walkFitting key item trail).1
        (assembly.settleOther options path whole walkFitting key item trail).2 := by
  rw [settleOthers, found]
  rfl

theorem settleOther_ascending {assembly : Assembly}
    (ascending : KeyMap.IsAscending assembly.members) (key : String) (item : Value)
    (trail : Trail) :
    KeyMap.IsAscending
      (assembly.settleOther options path whole walkFitting key item trail).1.members := by
  unfold settleOther
  split
  · rw [store_members]
    exact ascending.storePresent key _
  · exact settleUnknown_ascending options ascending key item _ trail

theorem settleOthers_ascending {assembly : Assembly}
    (ascending : KeyMap.IsAscending assembly.members) (keys : List String)
    (members : List (String × Value)) (trail : Trail) :
    KeyMap.IsAscending
      (settleOthers options path whole walkFitting keys members assembly trail).1.members := by
  induction keys generalizing members assembly trail with
  | nil => exact ascending
  | cons key rest ih =>
      cases found : KeyMap.find? key members with
      | none =>
          rw [settleOthers_cons_of_missing options path assembly found]
          exact ih ascending members trail
      | some item =>
          rw [settleOthers_cons_of_found options path assembly found]
          exact ih (settleOther_ascending options path ascending key item trail) _ _

include follows

theorem find?_settleOther (key name : String) (item : Value) (trail : Trail) :
    KeyMap.find? name
        (assembly.settleOther options path whole walkFitting key item trail).1.members =
      if name = key then
        (otherResult options fits key item).or (KeyMap.find? name assembly.members)
      else KeyMap.find? name assembly.members := by
  unfold settleOther otherResult
  rw [← follows key item trail]
  cases walkFitting key item trail with
  | none => exact assembly.find?_settleUnknown options key name item _ trail
  | some result =>
      dsimp only [Option.map]
      rw [store_members]
      exact KeyMap.find?_storePresent key name _ assembly.members

theorem settleOther_isEmpty (key : String) (item : Value) (trail : Trail) :
    (assembly.settleOther options path whole walkFitting key item trail).1.errors.isEmpty =
      (assembly.errors.isEmpty && ((fits key item).isSome || options.allowUnknown)) := by
  unfold settleOther
  rw [← follows key item trail]
  cases walkFitting key item trail with
  | none => exact assembly.settleUnknown_isEmpty options key item _ trail
  | some result => simp [store_errors]

/-- Among the members that are not declared, those that are listed are delivered. -/
theorem find?_settleOthers (keys : List String) (members : List (String × Value))
    (trail : Trail) (name : String) :
    KeyMap.find? name
        (settleOthers options path whole walkFitting keys members assembly trail).1.members =
      if name ∈ keys then
        ((KeyMap.find? name members).bind (otherResult options fits name)).or
          (KeyMap.find? name assembly.members)
      else KeyMap.find? name assembly.members := by
  induction keys generalizing members assembly trail with
  | nil => simp [settleOthers]
  | cons key rest ih =>
      cases found : KeyMap.find? key members with
      | none =>
          rw [settleOthers_cons_of_missing options path assembly found, ih]
          by_cases same : name = key
          · subst same
            simp [found]
          · simp [same]
      | some item =>
          rw [settleOthers_cons_of_found options path assembly found, ih,
            find?_settleOther options path assembly follows, KeyMap.find?_erase]
          by_cases same : name = key
          · subst same
            simp [found]
          · simp [same]

/-- No report stands against the members that are not declared if all that are listed fit the
pattern, or if the options allow unknown members. -/
theorem settleOthers_isEmpty_iff (keys : List String) (members : List (String × Value))
    (trail : Trail) :
    (settleOthers options path whole walkFitting keys members assembly
        trail).1.errors.isEmpty = true ↔
      assembly.errors.isEmpty = true ∧ ∀ key ∈ keys, ∀ item,
        KeyMap.find? key members = some item →
          (fits key item).isSome = true ∨ options.allowUnknown = true := by
  induction keys generalizing members assembly trail with
  | nil => simp [settleOthers]
  | cons key rest ih =>
      cases found : KeyMap.find? key members with
      | none =>
          rw [settleOthers_cons_of_missing options path assembly found, ih]
          simp [found]
      | some item =>
          rw [settleOthers_cons_of_found options path assembly found, ih,
            settleOther_isEmpty options path assembly follows, Bool.and_eq_true,
            Bool.or_eq_true, and_assoc, KeyMap.forall_found_cons found]

end Others

end Assembly

theorem settleItems_picks
    {choose : Value → String → Trail → Except (List Report) Value × Trail}
    {pick : Value → Option Value}
    (picks : ∀ item path trail, (choose item path trail).1.toOption = pick item)
    (reported : ∀ item path trail reports, (choose item path trail).1 = .error reports →
      reports.isEmpty = false)
    (index : Nat) (items : List Value) (trail : Trail) :
    (settleItems path choose index items trail).1 = items.filterMap pick ∧
      (settleItems path choose index items trail).2.1.isEmpty =
        items.all fun item => (pick item).isSome := by
  induction items generalizing index trail with
  | nil => exact ⟨rfl, rfl⟩
  | cons item rest ih =>
      have picked := picks item ((Slot.index index).join path) trail
      have reports := reported item ((Slot.index index).join path) trail
      unfold settleItems
      rw [List.filterMap_cons, List.all_cons, ← picked]
      rcases run : choose item ((Slot.index index).join path) trail with ⟨errors | value, after⟩
      · refine ⟨(ih (index + 1) after).1, ?_⟩
        have some := reports errors (congrArg Prod.fst run)
        simp only [Except.toOption, Option.isSome_none, Bool.false_and]
        simpa using fun none => absurd none (by simpa using some)
      · exact ⟨congrArg (value :: ·) (ih (index + 1) after).1, (ih (index + 1) after).2⟩

end SchemaValidation
