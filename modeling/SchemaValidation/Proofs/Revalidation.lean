import SchemaValidation.Proofs.Ruling

/-!
# Validating again

What a walk has delivered is delivered unchanged by a second walk along the same
schema, if the schema neither transforms values nor turns them away by checks,
lists of invalid values, defaults or choices.  Members that were rejected are
delivered in part, or not at all, so the induction is about every value and not
only about those that are accepted.
-/

namespace SchemaValidation

/-- Among the names that a host lists for a record is the name of every member. -/
def Capabilities.ListsMembers (capabilities : Capabilities) : Prop :=
  ∀ record key, (record.find? key).isSome = true → key ∈ capabilities.ownKeys record

theorem Capabilities.native_listsMembers : Capabilities.native.ListsMembers :=
  fun _ _ => KeyMap.mem_keys_iff.mpr

/-- A node that transforms nothing and whose decisions a delivered value passes again. -/
structure Node.IsRepeatable (node : Node Schema) : Prop where
  untransformed : node.constraints.IsUntransformed
  checks : node.constraints.checks = []
  default : node.constraints.default = .undefined
  invalid : node.constraints.invalid = []
  alternatives : node.alternatives = []
  includes : node.includes.length ≤ 1

theorem Value.isUndefined_eq (value : Value) :
    value.isUndefined = decide (value.shape = .undefined) := by
  cases value <;> rfl

/-- A delivered value is delivered again, and is accepted if the first value was. -/
def RulesAgain (rule : Value → Ruling) (value : Value) : Prop :=
  (rule (rule value).value).value = (rule value).value ∧
    ((rule value).accepted = true → (rule (rule value).value).accepted = true)

namespace RulesAgain

variable {rule : Value → Ruling} {value : Value}

theorem of_delivered (same : (rule value).value = value) : RulesAgain rule value := by
  unfold RulesAgain
  rw [same]
  exact ⟨same, id⟩

theorem of_refused (refused : rule value = ⟨.undefined, false⟩)
    (absent : (rule .undefined).value = .undefined) : RulesAgain rule value := by
  unfold RulesAgain
  rw [refused]
  exact ⟨absent, nofun⟩

end RulesAgain

namespace Schema

variable {capabilities : Capabilities} {options : Options}

variable (capabilities options) in
/-- Whatever value a schema gets, it rules again on what it delivers. -/
def Repeats (schema : Schema) : Prop :=
  ∀ value, RulesAgain (schema.ruling capabilities options) value

/-! ## Lists -/

theorem firstResult_singleton (schema : Schema) (value : Value) :
    firstResult capabilities options [schema] value =
      if schema.accepts capabilities options value then
        some (schema.result capabilities options value)
      else none := by
  unfold firstResult
  rw [List.find?_singleton]
  split <;> rfl

/-- A selection that keeps every item of a list as it is keeps the list. -/
theorem filterMap_eq_self {select : Value → Option Value} {items : List Value}
    (kept : ∀ item ∈ items, select item = some item) : items.filterMap select = items := by
  induction items with
  | nil => rfl
  | cons item rest ih =>
      rw [List.filterMap_cons, kept item List.mem_cons_self]
      exact congrArg (item :: ·) (ih fun item member => kept item (List.mem_cons_of_mem _ member))

section Node

variable {node : Node Schema}
  (below : ∀ schema ∈ node.nested, schema.Repeats capabilities options)
include below

theorem itemResult_again (single : node.includes.length ≤ 1) {item delivered : Value}
    (chosen : itemResult capabilities options node item = some delivered) :
    itemResult capabilities options node delivered = some delivered := by
  have included (schema : Schema) (member : schema ∈ node.includes) :=
    below schema (Node.nested_of_include member)
  unfold itemResult at chosen ⊢
  generalize node.includes = includes at single included chosen ⊢
  cases includes with
  | nil =>
      simp only [List.isEmpty_nil, if_true] at chosen ⊢
      split at chosen
      · cases chosen
      · rename_i kept
        cases chosen
        exact if_neg kept
  | cons schema rest =>
      obtain rfl : rest = [] := by simpa using single
      obtain ⟨value, accepted⟩ := included schema List.mem_cons_self item
      simp only [List.isEmpty_cons, Bool.false_eq_true, if_false,
        firstResult_singleton] at chosen ⊢
      split at chosen
      · rename_i accepts
        cases chosen
        exact (if_pos (accepted accepts)).trans (congrArg some value)
      · cases chosen

theorem ruleArray_again (single : node.includes.length ≤ 1) (value : Value) :
    RulesAgain (fun value => ruleArray capabilities options node value.itemsOrEmpty) value := by
  have again : ∀ item ∈ value.itemsOrEmpty.filterMap (itemResult capabilities options node),
      itemResult capabilities options node item = some item := by
    intro item member
    obtain ⟨source, -, chosen⟩ := List.mem_filterMap.mp member
    exact itemResult_again below single chosen
  constructor
  · exact congrArg Value.array (filterMap_eq_self again)
  · intro _
    refine List.all_eq_true.mpr fun item member => ?_
    rw [again item member]
    rfl

/-! ## Objects -/

theorem otherResult_again {name : String} {item delivered : Value}
    (stems : Assembly.otherResult options (ruleFitting capabilities options node) name item =
      some delivered) :
    Assembly.otherResult options (ruleFitting capabilities options node) name delivered =
      some delivered := by
  unfold Assembly.otherResult at stems ⊢
  rcases ruleFitting_cases capabilities options node name with
    ⟨pattern, schema, same, -, fitting⟩ | ⟨-, unfit⟩
  · rw [fitting] at stems ⊢
    obtain rfl := Value.eq_of_present? stems
    dsimp only
    rw [(below schema (Node.nested_of_pattern same) item).1]
    exact stems
  · rw [unfit] at stems ⊢
    dsimp only at stems ⊢
    split at stems
    · cases stems
    · rename_i kept
      exact if_neg kept

section Delivered

variable {record delivered : Record}
  (finds : ∀ name, delivered.find? name = memberResult capabilities options node record name)
include finds

/-- The members of a delivered object are delivered unchanged. -/
theorem memberResult_again (lists : capabilities.ListsMembers) (name : String) :
    memberResult capabilities options node delivered name = delivered.find? name := by
  unfold memberResult
  cases declared : KeyMap.find? name node.keys with
  | some schema =>
      have again := (below schema (Node.nested_of_key (KeyMap.mem_of_find? declared))
        (record.get name)).1
      dsimp only
      rw [get_of_declared finds declared, finds, memberResult, declared]
      exact congrArg Value.present? again
  | none =>
      dsimp only
      cases here : delivered.find? name with
      | none => simp
      | some item =>
          obtain ⟨-, source, -, stems⟩ := source_of_undeclared finds declared here
          rw [if_pos (lists delivered name (by rw [here]; rfl)), Option.bind_some]
          exact otherResult_again below stems

/-- The members that are accepted at first are accepted when they have been delivered. -/
theorem ruleObject_accepted_again (ascending : KeyMap.IsAscending node.keys)
    (accepted : (ruleObject capabilities options node record).accepted = true) :
    (ruleObject capabilities options node delivered).accepted = true := by
  obtain ⟨declared, others⟩ := (ruleObject_accepted_iff record).mp accepted
  refine (ruleObject_accepted_iff delivered).mpr ⟨?_, ?_⟩
  · intro entry member
    rw [get_of_declared finds (ascending.find?_of_mem member)]
    exact (declared entry member).imp
      (below entry.2 (Node.nested_of_key member) (record.get entry.1)).2 id
  · intro name _ undeclared item found
    obtain ⟨listed, source, here, -⟩ := source_of_undeclared finds undeclared found
    have known := others name listed undeclared source here
    rw [ruleFitting_isSome] at known ⊢
    exact known

end Delivered

theorem ruleObject_again (lists : capabilities.ListsMembers)
    (ascending : KeyMap.IsAscending node.keys) (value : Value) :
    RulesAgain (fun value => ruleObject capabilities options node value.recordOrEmpty) value := by
  obtain ⟨first, delivered, -, sorted, finds⟩ :=
    ruleObject_value capabilities options ascending value.recordOrEmpty
  obtain ⟨second, delivered', className, sorted', finds'⟩ :=
    ruleObject_value capabilities options ascending first
  have members : second.members = first.members := sorted'.ext sorted fun name =>
    (finds' name).trans (memberResult_again below finds lists name)
  have same : second.toValue = first.toValue := by
    unfold Record.toValue
    rw [className, members]
  unfold RulesAgain
  rw [delivered]
  exact ⟨delivered'.trans same, ruleObject_accepted_again below finds ascending⟩

/-- The parts of a value are ruled on again once they have been delivered. -/
theorem ruleParts_again (lists : capabilities.ListsMembers)
    (ascending : KeyMap.IsAscending node.keys) (single : node.includes.length ≤ 1)
    (value : Value) : RulesAgain (ruleParts capabilities options node) value := by
  have object := ruleObject_again below lists ascending value
  have array := ruleArray_again below single value
  unfold RulesAgain ruleParts
  cases node.constraints.kind with
  | none => exact ⟨rfl, id⟩
  | some kind =>
      cases kind with
      | object => exact object
      | array => exact array
      | _ => exact ⟨rfl, id⟩

/-! ## Nodes -/

omit below in
variable (capabilities options) in
theorem ruleParts_shape (ascending : KeyMap.IsAscending node.keys) {value : Value}
    (called : node.constraints.callsFor value.shape = true) :
    (ruleParts capabilities options node value).value.shape = value.shape := by
  unfold ruleParts
  cases kind : node.constraints.kind with
  | none => rfl
  | some known =>
      have shape := Constraints.shape_of_callsFor called kind
      cases known with
      | object =>
          obtain ⟨members, delivered, -⟩ :=
            ruleObject_value capabilities options ascending value.recordOrEmpty
          dsimp only
          rw [delivered, shape]
          rfl
      | array => exact shape.symm
      | _ => rfl

end Node

section Repeatable

variable {node : Node Schema} (repeatable : node.IsRepeatable)
include repeatable

theorem refuse_of_repeatable (value : Value) :
    node.constraints.refuse options value = ⟨value, false⟩ := by
  simp [Constraints.refuse, Constraints.downgrades, repeatable.default, Value.isNullish]

theorem dismiss_of_repeatable (descent : Ruling) :
    node.constraints.dismiss options descent = descent := by
  rw [Constraints.dismiss_of_untransformed options repeatable.untransformed,
    refuse_of_repeatable repeatable]
  obtain ⟨value, accepted⟩ := descent
  cases accepted <;> rfl

theorem weigh_of_repeatable (value : Value) :
    node.constraints.weigh value =
      if value.isAmong node.constraints.insensitive
          (node.constraints.allowed ++ node.constraints.valid) then .accepted value
      else if node.constraints.valid.isEmpty then .entered value
      else .rejected := by
  unfold Constraints.weigh Value.isAmong
  rw [repeatable.checks, repeatable.invalid, List.any_append]
  cases node.constraints.allowed.any _ with
  | true => rfl
  | false =>
      cases node.constraints.valid with
      | nil => rfl
      | cons first rest => rfl

variable (capabilities options) in
theorem ruleNode_undefined_value :
    (ruleNode capabilities options node .undefined).value = .undefined := by
  rw [ruleNode_undefined]
  unfold Constraints.ruleAbsent
  rw [refuse_of_repeatable repeatable, repeatable.default]
  cases node.constraints.effectivePresence options <;> rfl

variable (capabilities) in
/-- A repeatable node looks for a present value in its lists, or leaves it to its parts. -/
theorem ruleNode_of_repeatable (strict : options.strict = true) {value : Value}
    (present : value.isUndefined = false)
    (admitted : node.constraints.effectivePresence options ≠ .forbidden) :
    ruleNode capabilities options node value =
      if node.constraints.callsFor value.shape then
        if value.isAmong node.constraints.insensitive
            (node.constraints.allowed ++ node.constraints.valid) then ⟨value, true⟩
        else if node.constraints.valid.isEmpty then ruleParts capabilities options node value
        else ⟨.undefined, false⟩
      else ⟨.undefined, false⟩ := by
  rw [ruleNode_of_plain present admitted (by rw [repeatable.alternatives]; rfl), rulePlain,
    Constraints.receive_of_untransformed options repeatable.untransformed strict,
    weigh_of_repeatable repeatable]
  simp only [refuse_of_repeatable repeatable, repeatable.default,
    dismiss_of_repeatable repeatable]
  cases node.constraints.callsFor value.shape with
  | false => rfl
  | true =>
      cases value.isAmong node.constraints.insensitive
          (node.constraints.allowed ++ node.constraints.valid) with
      | true => rfl
      | false => cases node.constraints.valid.isEmpty <;> rfl

section Again

variable (strict : options.strict = true) (lists : capabilities.ListsMembers)
  (ascending : KeyMap.IsAscending node.keys)
  (below : ∀ schema ∈ node.nested, schema.Repeats capabilities options) {value : Value}
include strict lists ascending below

/-- The delivered parts may be among the allowed values although the first value was not. -/
theorem ruleNode_again_of_parts (present : value.isUndefined = false)
    (admitted : node.constraints.effectivePresence options ≠ .forbidden)
    (called : node.constraints.callsFor value.shape = true)
    (unlisted : node.constraints.valid.isEmpty = true)
    (decided : ruleNode capabilities options node value =
      ruleParts capabilities options node value) :
    RulesAgain (ruleNode capabilities options node) value := by
  have parts := ruleParts_again below lists ascending repeatable.includes value
  have shape := ruleParts_shape capabilities options ascending called
  unfold RulesAgain at parts ⊢
  rw [decided]
  generalize (ruleParts capabilities options node value).value = delivered at parts shape ⊢
  have present' : delivered.isUndefined = false := by
    rw [← present, Value.isUndefined_eq, Value.isUndefined_eq, shape]
  rw [ruleNode_of_repeatable capabilities repeatable strict present' admitted, shape,
    if_pos called, if_pos unlisted]
  split
  · exact ⟨rfl, fun _ => rfl⟩
  · exact parts

/-- A node rules again on what it delivers if the schemas below it do. -/
theorem ruleNode_again (value : Value) :
    RulesAgain (ruleNode capabilities options node) value := by
  have absent := ruleNode_undefined_value capabilities options repeatable
  cases present : value.isUndefined with
  | true =>
      cases value with
      | undefined => exact .of_delivered absent
      | _ => cases present
  | false =>
      by_cases admitted : node.constraints.effectivePresence options = .forbidden
      · refine .of_refused ?_ absent
        rw [ruleNode_of_forbidden present admitted, refuse_of_repeatable repeatable]
      · have decided := ruleNode_of_repeatable capabilities repeatable strict present admitted
        split at decided
        · rename_i called
          split at decided
          · exact .of_delivered (congrArg Ruling.value decided)
          · split at decided
            · rename_i unlisted
              exact ruleNode_again_of_parts repeatable strict lists ascending below present
                admitted called unlisted decided
            · exact .of_refused decided absent
        · exact .of_refused decided absent

end Again

end Repeatable

/-! ## Schemas -/

/-- A schema of repeatable nodes rules again on what it delivers. -/
theorem repeats (strict : options.strict = true) (lists : capabilities.ListsMembers)
    {schema : Schema} (wellFormed : schema.IsWellFormed)
    (tree : schema.Everywhere Node.IsRepeatable) : schema.Repeats capabilities options := by
  induction wellFormed with
  | @node parts ascending nested ih =>
      have again : ∀ value, RulesAgain (ruleNode capabilities options parts) value :=
        ruleNode_again tree.root strict lists ascending
          fun schema member => ih schema member (tree.nested member)
      intro value
      unfold RulesAgain
      simp only [ruling_node]
      exact again value

/--
Accepted values are stable.  If a strict walk along a schema of repeatable nodes
ends without errors, a second walk along the same schema, of the value that the
first one delivered, ends without errors and delivers that very value, wherever
it starts and whatever its trail holds.
-/
theorem walk_stable (strict : options.strict = true) (lists : capabilities.ListsMembers)
    {schema : Schema} (wellFormed : schema.IsWellFormed)
    (tree : schema.Everywhere Node.IsRepeatable) {value : Value} {path : String} {trail : Trail}
    (accepted : (walk capabilities options schema value path trail).1.isOk = true)
    (path' : String) (trail' : Trail) :
    (walk capabilities options schema
        (walk capabilities options schema value path trail).1.value path' trail').1.isOk = true ∧
      (walk capabilities options schema
          (walk capabilities options schema value path trail).1.value path' trail').1.value =
        (walk capabilities options schema value path trail).1.value := by
  have again := repeats strict lists wellFormed tree value
  rw [schema.followsRuling.isOk] at accepted
  rw [schema.followsRuling.isOk, schema.followsRuling.value, schema.followsRuling.value]
  exact ⟨again.2 accepted, again.1⟩

/-- The first walk leaves out an unknown member of a declared one and an excluded item. -/
theorem walk_stable_partial :
    let options : Options := {}
    let leaf (kind : Kind) : Schema := .node { constraints := { kind := some kind } }
    let record : Schema := .node {
      constraints := { kind := some .object }
      keys := [("b", leaf .string)] }
    let list : Schema := .node {
      constraints := { kind := some .array }
      excludes := [leaf .boolean] }
    let pattern : Pattern := ⟨"^x", .sequence .start (.one { items := [.range 'x' 'x'] })⟩
    let schema : Schema := .node {
      constraints := { kind := some .object }
      keys := [("a", record)]
      pattern := some (pattern, list) }
    let value : Value := .object none [
      ("a", .object none [("b", .string "c"), ("d", .null)]),
      ("x", .array [.boolean true, .string "e"])]
    (walk .native options schema value "" {}).1.isOk = true ∧
      (walk .native options schema
          (walk .native options schema value "" {}).1.value "" {}).1.isOk = true ∧
        (walk .native options schema
            (walk .native options schema value "" {}).1.value "" {}).1.value =
          (walk .native options schema value "" {}).1.value := by
  intro options leaf record list pattern schema value
  have accepted : (walk .native options schema value "" {}).1.isOk = true := by decide
  have plain (kind : Kind) : Constraints.IsUntransformed { kind := some kind } :=
    ⟨rfl, rfl, rfl⟩
  have leaves (kind : Kind) : (leaf kind).Everywhere fun node =>
      KeyMap.IsAscending node.keys ∧ node.IsRepeatable :=
    .node ⟨.nil, plain kind, rfl, rfl, rfl, rfl, Nat.zero_le 1⟩ (by simp [Node.nested])
  have tree : schema.Everywhere fun node =>
      KeyMap.IsAscending node.keys ∧ node.IsRepeatable := by
    refine .node ⟨List.pairwise_singleton _ _, plain .object, rfl, rfl, rfl, rfl, Nat.zero_le 1⟩ ?_
    simp only [Node.nested, List.map_cons, List.map_nil, Option.map_some, Option.toList_some,
      List.append_nil, List.cons_append, List.nil_append, List.forall_mem_cons]
    refine ⟨.node ⟨List.pairwise_singleton _ _, plain .object, rfl, rfl, rfl, rfl, Nat.zero_le 1⟩ ?_,
      .node ⟨.nil, plain .array, rfl, rfl, rfl, rfl, Nat.zero_le 1⟩ ?_, List.forall_mem_nil _⟩
    · simpa [record, Node.nested] using leaves .string
    · simpa [list, Node.nested] using leaves .boolean
  have again := walk_stable rfl Capabilities.native_listsMembers
    (tree.imp fun _ both => both.1) (tree.imp fun _ both => both.2) accepted "" {}
  exact ⟨accepted, again⟩

end Schema

end SchemaValidation
