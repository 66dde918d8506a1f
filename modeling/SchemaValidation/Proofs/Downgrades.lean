import SchemaValidation.Proofs.MemberReports

/-!
# What is delivered for a failure

A failed node still delivers a value: nothing if its presence was at fault, its
default if the value itself was, and if only parts of an object or a list were,
the container that was rebuilt without them.  Where the failure of a member is no
more than a warning, that value is what the object has under the name.
-/

namespace SchemaValidation.Schema

variable (capabilities : Capabilities) (options : Options)

/-- The ways in which a node fails a value, with the value that it delivers for it. -/
inductive NodeFails (node : Node Schema) : Value → Value → Prop where
  | missing (required : node.constraints.effectivePresence options = .required) :
      NodeFails node .undefined .undefined
  | unwanted {value : Value} (present : value.isUndefined = false)
      (forbidden : node.constraints.effectivePresence options = .forbidden) :
      NodeFails node value .undefined
  | unmatched {value : Value} (present : value.isUndefined = false)
      (admitted : node.constraints.effectivePresence options ≠ .forbidden)
      (union : node.alternatives.isEmpty = false)
      (none : firstResult capabilities options node.alternatives value = none) :
      NodeFails node value node.constraints.default
  | turnedAway {value : Value} (present : value.isUndefined = false)
      (admitted : node.constraints.effectivePresence options ≠ .forbidden)
      (plain : node.alternatives.isEmpty = true)
      (received : node.constraints.receive options value = .rejected) :
      NodeFails node value node.constraints.default
  | broken {value entered : Value} (present : value.isUndefined = false)
      (admitted : node.constraints.effectivePresence options ≠ .forbidden)
      (plain : node.alternatives.isEmpty = true)
      (received : node.constraints.receive options value = .entered entered)
      (parts : (ruleParts capabilities options node entered).accepted = false) :
      NodeFails node value (ruleParts capabilities options node entered).value
  | unsanitized {value entered : Value} (present : value.isUndefined = false)
      (admitted : node.constraints.effectivePresence options ≠ .forbidden)
      (plain : node.alternatives.isEmpty = true)
      (received : node.constraints.receive options value = .entered entered)
      (parts : (ruleParts capabilities options node entered).accepted = true)
      (panicked : sanitized? node.constraints.sanitize
        (ruleParts capabilities options node entered).value = none) :
      NodeFails node value node.constraints.default

/-- What is rebuilt of the parts of a value at a node that rejects some of them: the object with what
the schemas of its members deliver, or the list of the items that are accepted. -/
inductive PartlyRebuilt (node : Node Schema) (entered : Value) : Value → Prop where
  | object (kind : node.constraints.kind = some .object)
      (broken : (ruleParts capabilities options node entered).accepted = false) {rebuilt : Record}
      (className : rebuilt.className = entered.recordOrEmpty.className)
      (finds : ∀ name, rebuilt.find? name =
        memberResult capabilities options node entered.recordOrEmpty name) :
      PartlyRebuilt node entered rebuilt.toValue
  | array (kind : node.constraints.kind = some .array)
      (broken : (ruleParts capabilities options node entered).accepted = false) :
      PartlyRebuilt node entered
        (.array (entered.itemsOrEmpty.filterMap (itemResult capabilities options node)))

/-- Reports on a member are no more than warnings: it is declared and may be invalid, or it is listed
and fits the pattern. -/
inductive WarnsAbout (node : Node Schema) (record : Record) (key : String) (schema : Schema) :
    Prop where
  | declared (declared : KeyMap.find? key node.keys = some schema)
      (lenient : schema.isLenient options = true) : WarnsAbout node record key schema
  | fitting {pattern : Pattern} {item : Value}
      (undeclared : KeyMap.find? key node.keys = none)
      (listed : key ∈ capabilities.ownKeys record) (found : record.find? key = some item)
      (described : node.pattern = some (pattern, schema))
      (fits : pattern.isMatch key = true) : WarnsAbout node record key schema

variable {capabilities options}

/-! ## Failures of a node -/

section Node

variable {node : Node Schema} {value failed : Value}

theorem NodeFails.ruleNode_eq (fails : NodeFails capabilities options node value failed) :
    ruleNode capabilities options node value = node.constraints.refuse options failed := by
  cases fails with
  | missing required => simp [ruleNode_undefined, Constraints.ruleAbsent, required]
  | unwanted present forbidden => exact ruleNode_of_forbidden present forbidden
  | unmatched present admitted union none =>
      rw [ruleNode_of_union present admitted union, ruleUnion, none]
  | turnedAway present admitted plain received =>
      rw [ruleNode_of_plain present admitted plain, rulePlain, received]
  | broken present admitted plain received parts =>
      rw [ruleNode_of_plain present admitted plain, rulePlain, received]
      simp [Constraints.dismiss, parts]
  | unsanitized present admitted plain received parts panicked =>
      rw [ruleNode_of_plain present admitted plain, rulePlain, received]
      simp [Constraints.dismiss, parts, panicked]

theorem nodeAccepts_or_nodeFails_of_plain (present : value.isUndefined = false)
    (admitted : node.constraints.effectivePresence options ≠ .forbidden)
    (plain : node.alternatives.isEmpty = true) :
    (∃ result, NodeAccepts capabilities options node value result) ∨
      ∃ failed, NodeFails capabilities options node value failed := by
  cases received : node.constraints.receive options value with
  | accepted result => exact .inl ⟨_, .settled present admitted plain received⟩
  | rejected => exact .inr ⟨_, .turnedAway present admitted plain received⟩
  | entered entered =>
      cases parts : (ruleParts capabilities options node entered).accepted with
      | false => exact .inr ⟨_, .broken present admitted plain received parts⟩
      | true =>
          cases sanitized : sanitized? node.constraints.sanitize
              (ruleParts capabilities options node entered).value with
          | none => exact .inr ⟨_, .unsanitized present admitted plain received parts sanitized⟩
          | some result =>
              exact .inl ⟨_, .entered present admitted plain received parts sanitized⟩

variable (capabilities options) in
/-- A node accepts a value or fails it. -/
theorem nodeAccepts_or_nodeFails (node : Node Schema) (value : Value) :
    (∃ result, NodeAccepts capabilities options node value result) ∨
      ∃ failed, NodeFails capabilities options node value failed := by
  cases present : value.isUndefined with
  | true =>
      cases value with
      | undefined =>
          cases presence : node.constraints.effectivePresence options with
          | optional => exact .inl ⟨_, .absent presence⟩
          | required => exact .inr ⟨_, .missing presence⟩
          | forbidden => exact .inl ⟨_, .unwanted presence⟩
      | _ => cases present
  | false =>
      by_cases admitted : node.constraints.effectivePresence options = .forbidden
      · exact .inr ⟨_, .unwanted present admitted⟩
      · cases alternatives : node.alternatives.isEmpty with
        | false =>
            cases first : firstResult capabilities options node.alternatives value with
            | none => exact .inr ⟨_, .unmatched present admitted alternatives first⟩
            | some result => exact .inl ⟨_, .chosen present admitted alternatives first⟩
        | true => exact nodeAccepts_or_nodeFails_of_plain present admitted alternatives

/-- Parts are only rejected at a node that calls for an object or a list. -/
theorem partlyRebuilt_of_broken (ascending : KeyMap.IsAscending node.keys) {entered : Value}
    (broken : (ruleParts capabilities options node entered).accepted = false) :
    PartlyRebuilt capabilities options node entered
      (ruleParts capabilities options node entered).value := by
  have whole := broken
  unfold ruleParts at broken ⊢
  cases kind : node.constraints.kind with
  | none =>
      rw [kind] at broken
      cases broken
  | some known =>
      cases known with
      | object =>
          obtain ⟨rebuilt, same, className, -, finds⟩ :=
            ruleObject_value capabilities options ascending entered.recordOrEmpty
          dsimp only
          rw [same]
          exact .object kind whole className finds
      | array => exact .array kind whole
      | _ =>
          rw [kind] at broken
          cases broken

/-- For a failure nothing is delivered, or the default, or what is rebuilt of the parts. -/
theorem NodeFails.delivered (ascending : KeyMap.IsAscending node.keys)
    (fails : NodeFails capabilities options node value failed) :
    failed = .undefined ∨ failed = node.constraints.default ∨
      ∃ entered, node.alternatives = [] ∧
        node.constraints.receive options value = .entered entered ∧
          PartlyRebuilt capabilities options node entered failed := by
  cases fails with
  | missing required => exact .inl rfl
  | unwanted present forbidden => exact .inl rfl
  | unmatched present admitted union none => exact .inr (.inl rfl)
  | turnedAway present admitted plain received => exact .inr (.inl rfl)
  | unsanitized present admitted plain received parts panicked => exact .inr (.inl rfl)
  | broken present admitted plain received parts =>
      exact .inr (.inr ⟨_, List.isEmpty_iff.mp plain, received,
        partlyRebuilt_of_broken ascending parts⟩)

end Node

/-! ## Failures of members -/

section Members

variable {node : Node Schema} {record : Record} {key : String} {schema : Schema}

/-- Under the name of a member that is only warned about stands what its schema delivers. -/
theorem memberResult_of_warnsAbout
    (warns : WarnsAbout capabilities options node record key schema) :
    memberResult capabilities options node record key =
      (schema.result capabilities options (record.get key)).present? := by
  cases warns with
  | declared declared lenient => rw [memberResult, declared]
  | @fitting pattern item undeclared listed found described fits =>
      have ruled : ruleFitting capabilities options node key item =
          some (schema.ruling capabilities options item) := by
        rw [ruleFitting, described]
        exact if_pos fits
      rw [memberResult, undeclared, Record.get, found]
      dsimp only
      rw [if_pos listed, Option.bind_some, Assembly.otherResult, ruled]
      rfl

theorem nested_of_warnsAbout (warns : WarnsAbout capabilities options node record key schema) :
    schema ∈ node.nested := by
  cases warns with
  | declared declared lenient => exact Node.nested_of_key (KeyMap.mem_of_find? declared)
  | fitting undeclared listed found described fits => exact Node.nested_of_pattern described

/-- All reports on a member that is only warned about are warnings. -/
theorem warnings_of_warnsAbout (warns : WarnsAbout capabilities options node record key schema)
    (path : String) (trail : Trail) :
    ∀ report ∈ schema.allReports capabilities options (record.get key) ((Slot.key key).join path),
      report ∈ (descendObject capabilities options node record path trail).2.warnings := by
  intro report made
  cases warns with
  | declared declared lenient =>
      apply descendObject_warnings_of_key (KeyMap.mem_of_find? declared)
      rw [memberWarnings, if_pos lenient]
      exact made
  | fitting undeclared listed found described fits =>
      rw [Record.get, found] at made
      exact descendObject_warnings_of_fitting described fits undeclared listed found made

/--
The reports on a member that fails the schema of a declared name, or of the
pattern, are warnings of the object if the options say so.  Then the object has
no such member, or the default of the schema; only if the value entered a node
that calls for an object or a list and rejects some of its parts, what is rebuilt
of them.
-/
theorem downgraded_member {parts : Node Schema} (wellFormed : (Schema.node node).IsWellFormed)
    (warns : WarnsAbout capabilities options node record key (.node parts))
    (fails : ∃ failed, NodeFails capabilities options parts (record.get key) failed)
    (path : String) (trail : Trail) :
    ∃ rebuilt : Record,
      (descendObject capabilities options node record path trail).1.value = rebuilt.toValue ∧
      (∀ report ∈ allReports capabilities options (.node parts) (record.get key)
          ((Slot.key key).join path),
        report ∈ (descendObject capabilities options node record path trail).2.warnings) ∧
      (rebuilt.find? key = none ∨ rebuilt.find? key = some parts.constraints.default ∨
        ∃ entered partly, parts.alternatives = [] ∧
          parts.constraints.receive options (record.get key) = .entered entered ∧
          PartlyRebuilt capabilities options parts entered partly ∧
            rebuilt.find? key = some partly) := by
  obtain ⟨failed, fails⟩ := fails
  obtain ⟨rebuilt, value, -, -, finds⟩ :=
    ruleObject_value capabilities options wellFormed.root record
  have here : rebuilt.find? key = failed.present? := by
    rw [finds, memberResult_of_warnsAbout warns, result, ruling_node, fails.ruleNode_eq]
    rfl
  have descent : (descendObject capabilities options node record path trail).1.ruling =
      ruleObject capabilities options node record :=
    descendObject_ruling (fun schema _ => schema.followsRuling) record path trail
  refine ⟨rebuilt, (congrArg Ruling.value descent).trans value,
    warnings_of_warnsAbout warns path trail, ?_⟩
  rw [here, Value.present?]
  cases absent : failed.isUndefined with
  | true => exact .inl rfl
  | false =>
      have nested := wellFormed.nested (nested_of_warnsAbout warns)
      rcases fails.delivered nested.root with none | default | ⟨entered, plain, received, partly⟩
      · rw [none] at absent
        cases absent
      · exact .inr (.inl (congrArg some default))
      · exact .inr (.inr ⟨entered, failed, plain, received, partly, rfl⟩)

end Members

/-- A member that fits a pattern and whose inner member has the wrong kind. -/
theorem downgraded_member_fitting :
    let number : Schema := .node { constraints := { kind := some .number } }
    let parts : Node Schema := {
      constraints := { kind := some .object, presence := some .required }
      keys := [("b", number)] }
    let pattern : Pattern := ⟨"^x", .sequence .start (.one { items := [.range 'x' 'x'] })⟩
    let node : Node Schema := {
      constraints := { kind := some .object }
      pattern := some (pattern, .node parts) }
    let options : Options := { warnOnInvalidOptionals := false }
    let item : Value := .object none [("b", .string "c")]
    let record : Record := ⟨none, [("x", item)]⟩
    WarnsAbout .native options node record "x" (.node parts) ∧
      NodeFails .native options parts item (.object none []) ∧
      ∃ rebuilt : Record,
        (descendObject .native options node record "" {}).1.value = rebuilt.toValue ∧
        (rebuilt.find? "x" = none ∨ rebuilt.find? "x" = some parts.constraints.default ∨
          ∃ entered partly, PartlyRebuilt .native options parts entered partly ∧
            rebuilt.find? "x" = some partly) := by
  intro number parts pattern node options item record
  have leaf : number.IsWellFormed := .node .nil (by simp [Node.nested])
  have inner : (Schema.node parts).IsWellFormed :=
    .node (List.pairwise_singleton _ _) (by simpa [IsWellFormed, parts, Node.nested] using leaf)
  have wellFormed : (Schema.node node).IsWellFormed :=
    .node .nil (by simpa [IsWellFormed, node, Node.nested] using inner)
  have warns : WarnsAbout .native options node record "x" (.node parts) :=
    .fitting rfl (by decide) rfl rfl (by decide)
  have fails : NodeFails .native options parts item
      (ruleParts .native options parts item).value :=
    .broken rfl (by decide) rfl rfl (by decide)
  obtain ⟨rebuilt, value, -, delivered⟩ := downgraded_member wellFormed warns ⟨_, fails⟩ "" {}
  refine ⟨warns, fails, rebuilt, value, ?_⟩
  rcases delivered with none | default | ⟨entered, partly, -, -, built, here⟩
  · exact .inl none
  · exact .inr (.inl default)
  · exact .inr (.inr ⟨entered, partly, built, here⟩)

/-- An object that is rebuilt without a required member is neither absent nor the default, and its
schema rejects it; still it is delivered with no more than a warning. -/
theorem partly_rebuilt_member_delivered :
    let number : Schema :=
      .node { constraints := { kind := some .number, presence := some .required } }
    let inner : Schema := .node {
      constraints := { kind := some .object }
      keys := [("b", number)] }
    let schema : Schema := .node {
      constraints := { kind := some .object }
      keys := [("a", inner)] }
    let item : Value := .object none [("b", .string "x")]
    let walked := walk .native {} schema (.object none [("a", item)]) "" {}
    inner.isLenient {} = true ∧
      (walk .native {} inner item "/a" {}).1.isOk = false ∧
      walked.1.isOk = true ∧ walked.2.warnings.length = 1 ∧
      walked.1.value = .object none [("a", .object none [])] ∧
      inner.root.constraints.default = .undefined ∧
      (walk .native {} inner (.object none []) "/a" {}).1.isOk = false := by
  intro number inner schema item walked
  exact ⟨by decide, by decide, by decide, by decide, rfl, rfl, by decide⟩

end SchemaValidation.Schema
