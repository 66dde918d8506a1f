import SchemaValidation.Proofs.Downgrades
import SchemaValidation.Proofs.Endings
import SchemaValidation.Proofs.ValueTree

/-!
# Required members of accepted objects

Whether a value is present is decided when it arrives, before it is converted to
the kind of its node.  Under options that are not strict a value may be converted
to nothing and still be accepted, with a warning.  In no other way does an
accepted object lose a member that must be present.
-/

namespace SchemaValidation

/-- A node without sanitizers. -/
structure Node.IsUnsanitized (node : Node Schema) : Prop where
  sanitizeBefore : node.constraints.sanitizeBefore = []
  sanitize : node.constraints.sanitize = []

namespace Constraints

variable {constraints : Constraints} {options : Options} {value : Value}

variable (constraints options value) in
/-- The value has another shape than the position calls for, and its conversion makes nothing of
it. -/
structure Loses : Prop where
  lenient : options.strict = false
  unconvertible : ∃ kind, constraints.kind = some kind ∧ value.shape ≠ kind.shape ∧
    (constraints.resolveAlias value).cast kind.shape = .undefined

theorem resolveAlias_present (present : value.isUndefined = false) :
    (constraints.resolveAlias value).isUndefined = false := by
  unfold resolveAlias
  split
  · rename_i target found
    split
    · exact present
    · rename_i known
      cases target with
      | undefined => exact absurd rfl known
      | _ => rfl
  · exact present

theorem fitKind_eq_undefined_iff (present : value.isUndefined = false) :
    constraints.fitKind options value.shape (constraints.resolveAlias value) =
      some .undefined ↔ constraints.Loses options value := by
  have known : constraints.resolveAlias value ≠ .undefined := by
    intro absent
    have named : (constraints.resolveAlias value).isUndefined = false :=
      resolveAlias_present present
    rw [absent] at named
    cases named
  unfold fitKind
  constructor
  · intro lost
    cases kind : constraints.kind with
    | none =>
        rw [kind] at lost
        exact absurd (Option.some.inj lost) known
    | some called =>
        rw [kind] at lost
        dsimp only at lost
        split at lost
        · exact absurd (Option.some.inj lost) known
        · rename_i other
          split at lost
          · cases lost
          · rename_i lenient
            exact ⟨by simpa using lenient, called, kind, other, Option.some.inj lost⟩
  · rintro ⟨lenient, called, kind, other, lost⟩
    rw [kind]
    dsimp only
    rw [if_neg other, if_neg (by simp [lenient]), lost]

theorem receive_of_unsanitized (unsanitized : constraints.sanitizeBefore = []) :
    constraints.receive options value =
      match constraints.fitKind options value.shape (constraints.resolveAlias value) with
      | none => .rejected
      | some settled => constraints.weigh settled := by
  rw [receive, unsanitized]
  rfl

/-- What is received as nothing was lost in its conversion. -/
theorem loses_of_received (unsanitized : constraints.sanitizeBefore = [])
    (present : value.isUndefined = false)
    (received : constraints.receive options value = .accepted .undefined ∨
      constraints.receive options value = .entered .undefined) :
    constraints.Loses options value := by
  rw [receive_of_unsanitized unsanitized] at received
  apply (fitKind_eq_undefined_iff present).mp
  cases fitted : constraints.fitKind options value.shape (constraints.resolveAlias value) with
  | none =>
      rw [fitted] at received
      rcases received with received | received
      · cases received
      · cases received
  | some settled =>
      rw [fitted] at received
      rcases received with received | received
      · rw [(weigh_accepted received).1]
      · rw [(weigh_entered received).1]

end Constraints

namespace Schema

open Trail

variable (capabilities : Capabilities) (options : Options)

/-- The ways in which a present value is accepted although its conversion makes nothing of it. -/
inductive LostInConversion : Schema → Value → Prop where
  | listed {node : Node Schema} {value : Value} (plain : node.alternatives = [])
      (loses : node.constraints.Loses options value)
      (received : node.constraints.receive options value = .accepted .undefined) :
      LostInConversion (.node node) value
  | entered {node : Node Schema} {value : Value} (plain : node.alternatives = [])
      (loses : node.constraints.Loses options value)
      (noObject : node.constraints.kind ≠ some .object)
      (noArray : node.constraints.kind ≠ some .array)
      (received : node.constraints.receive options value = .entered .undefined) :
      LostInConversion (.node node) value
  | chosen {node : Node Schema} {schema : Schema} {value : Value}
      (first : (node.alternatives.find? fun schema =>
        schema.accepts capabilities options value) = some schema)
      (lost : LostInConversion schema value) : LostInConversion (.node node) value

variable {capabilities options}

namespace LostInConversion

variable {node : Node Schema} {value : Value}

theorem lenient {schema : Schema} (lost : LostInConversion capabilities options schema value) :
    options.strict = false := by
  induction lost with
  | listed plain loses received => exact loses.lenient
  | entered plain loses noObject noArray received => exact loses.lenient
  | chosen first lost ih => exact ih

theorem of_union {schema : Schema}
    (lost : LostInConversion capabilities options (.node node) value)
    (first : (node.alternatives.find? fun schema =>
      schema.accepts capabilities options value) = some schema) :
    LostInConversion capabilities options schema value := by
  cases lost with
  | listed plain loses received =>
      rw [plain] at first
      cases first
  | entered plain loses noObject noArray received =>
      rw [plain] at first
      cases first
  | chosen here lost =>
      rw [here] at first
      cases first
      exact lost

theorem of_plain (lost : LostInConversion capabilities options (.node node) value)
    (plain : node.alternatives.isEmpty = true) {reception : Reception}
    (received : node.constraints.receive options value = reception) :
    reception = .accepted .undefined ∨ reception = .entered .undefined ∧
      ¬ (node.constraints.kind = some .object ∨ node.constraints.kind = some .array) := by
  subst received
  cases lost with
  | listed _ loses received => exact .inl received
  | entered _ loses noObject noArray received =>
      exact .inr ⟨received, not_or.mpr ⟨noObject, noArray⟩⟩
  | chosen first lost =>
      rw [List.isEmpty_iff.mp plain] at first
      cases first

end LostInConversion

/-! ## Which values are lost -/

section Node

variable {node : Node Schema} {value : Value}

variable (capabilities options node) in
/-- The parts of objects and lists are never nothing, and all else is kept as it is. -/
theorem ruleParts_cases (entered : Value) :
    (ruleParts capabilities options node entered).value ≠ .undefined ∧
        (node.constraints.kind = some .object ∨ node.constraints.kind = some .array) ∨
      ruleParts capabilities options node entered = ⟨entered, true⟩ ∧
        node.constraints.kind ≠ some .object ∧ node.constraints.kind ≠ some .array := by
  unfold ruleParts
  cases node.constraints.kind with
  | none => exact .inr ⟨rfl, nofun, nofun⟩
  | some kind =>
      cases kind with
      | object => exact .inl ⟨nofun, .inl rfl⟩
      | array => exact .inl ⟨nofun, .inr rfl⟩
      | _ => exact .inr ⟨rfl, nofun, nofun⟩

theorem admitted_of_accepted (present : value.isUndefined = false)
    (accepted : (Schema.node node).accepts capabilities options value = true) :
    node.constraints.effectivePresence options ≠ .forbidden := by
  intro forbidden
  rw [accepts, ruling_node, ruleNode_of_forbidden present forbidden] at accepted
  simp [Constraints.refuse, Constraints.downgrades, forbidden] at accepted

theorem walk_of_plain (present : value.isUndefined = false)
    (accepted : (Schema.node node).accepts capabilities options value = true)
    (plain : node.alternatives = []) (path : String) (trail : Trail) :
    walk capabilities options (.node node) value path trail =
      settlePlain capabilities options node value path trail :=
  walk_eq_settlePlain present (admitted_of_accepted present accepted) plain

/-- A node that accepts a present value delivers nothing exactly if it lost the value in its
conversion, or if its first accepting alternative did. -/
theorem result_undefined_iff_of_nodeAccepts (unsanitized : node.IsUnsanitized)
    (below : ∀ schema ∈ node.nested, schema.accepts capabilities options value = true →
      (schema.result capabilities options value = .undefined ↔
        LostInConversion capabilities options schema value))
    (present : value.isUndefined = false) {result : Value}
    (accepts : NodeAccepts capabilities options node value result) :
    result = .undefined ↔ LostInConversion capabilities options (.node node) value := by
  cases accepts with
  | absent optional => cases present
  | unwanted forbidden => cases present
  | chosen _ admitted union first =>
      obtain ⟨schema, found, rfl⟩ := Option.map_eq_some_iff.mp first
      have member := Node.nested_of_alternative (List.mem_of_find?_eq_some found)
      have taken := List.find?_some found
      rw [below schema member taken]
      exact ⟨.chosen found, fun lost => lost.of_union found⟩
  | settled _ admitted plain received =>
      constructor
      · rintro rfl
        exact .listed (List.isEmpty_iff.mp plain)
          (Constraints.loses_of_received unsanitized.sanitizeBefore present (.inl received))
          received
      · intro lost
        rcases lost.of_plain plain received with same | ⟨same, -⟩
        · cases same
          rfl
        · cases same
  | @entered _ entered _ _ admitted plain received parts sanitized =>
      rw [unsanitized.sanitize] at sanitized
      cases sanitized
      rcases ruleParts_cases capabilities options node entered with
        ⟨built, container⟩ | ⟨kept, noObject, noArray⟩
      · refine iff_of_false built fun lost => ?_
        rcases lost.of_plain plain received with same | ⟨-, leaf⟩
        · cases same
        · exact leaf container
      · rw [kept]
        constructor
        · rintro rfl
          exact .entered (List.isEmpty_iff.mp plain)
            (Constraints.loses_of_received unsanitized.sanitizeBefore present (.inr received))
            noObject noArray received
        · intro lost
          rcases lost.of_plain plain received with same | ⟨same, -⟩
          · cases same
          · cases same
            rfl

/-- A failure that is downgraded delivers something, and the value was not lost in a conversion. -/
theorem delivered_of_nodeFails (unsanitized : node.IsUnsanitized)
    (present : value.isUndefined = false) {failed : Value}
    (fails : NodeFails capabilities options node value failed)
    (downgrades : node.constraints.downgrades options = true) :
    failed ≠ .undefined ∧ ¬ LostInConversion capabilities options (.node node) value := by
  have known : node.constraints.default ≠ .undefined := by
    intro none
    rw [Constraints.downgrades, none] at downgrades
    cases downgrades
  cases fails with
  | missing required => cases present
  | unwanted _ forbidden =>
      rw [Constraints.downgrades, forbidden] at downgrades
      simp at downgrades
  | unmatched _ admitted union none =>
      refine ⟨known, fun lost => ?_⟩
      cases lost with
      | listed plain loses received =>
          rw [plain] at union
          cases union
      | entered plain loses noObject noArray received =>
          rw [plain] at union
          cases union
      | chosen first lost =>
          rw [firstResult, first] at none
          cases none
  | turnedAway _ admitted plain received =>
      refine ⟨known, fun lost => ?_⟩
      rcases lost.of_plain plain received with same | ⟨same, -⟩
      · cases same
      · cases same
  | @broken _ entered _ admitted plain received parts =>
      rcases ruleParts_cases capabilities options node entered with
        ⟨built, container⟩ | ⟨kept, -⟩
      · refine ⟨built, fun lost => ?_⟩
        rcases lost.of_plain plain received with same | ⟨-, leaf⟩
        · cases same
        · exact leaf container
      · rw [kept] at parts
        cases parts
  | unsanitized _ admitted plain received parts panicked =>
      rw [unsanitized.sanitize] at panicked
      cases panicked

end Node

/-- Along a schema without sanitizers, nothing is delivered for an accepted value exactly if it was
lost in a conversion. -/
theorem result_undefined_iff {schema : Schema} (tree : schema.Everywhere Node.IsUnsanitized)
    {value : Value} (present : value.isUndefined = false)
    (accepted : schema.accepts capabilities options value = true) :
    schema.result capabilities options value = .undefined ↔
      LostInConversion capabilities options schema value := by
  induction tree with
  | @node node unsanitized nested ih =>
      have ruled : (Schema.node node).ruling capabilities options value = _ :=
        ruling_node node value
      rcases nodeAccepts_or_nodeFails capabilities options node value with
        ⟨result, accepts⟩ | ⟨failed, fails⟩
      · rw [Schema.result, ruled, accepts.ruleNode_eq]
        exact result_undefined_iff_of_nodeAccepts unsanitized (fun schema member => ih schema member)
          present accepts
      · rw [Schema.accepts, ruled, fails.ruleNode_eq] at accepted
        rw [Schema.result, ruled, fails.ruleNode_eq]
        obtain ⟨some, kept⟩ := delivered_of_nodeFails unsanitized present fails accepted
        exact iff_of_false some kept

/-! ## Losses are warned about -/

/-- Among some reports is one on a path about another type. -/
def Mismatches (reports : List Report) (path : String) : Prop :=
  ∃ report ∈ reports, report.tag = Tag.mismatchingTypes.text ∧ report.sourcePath = path

section Warnings

variable {node : Node Schema} {value : Value} {path : String}

theorem arrive_mismatches {constraints : Constraints}
    (unsanitized : constraints.sanitizeBefore = []) (loses : constraints.Loses options value) :
    Mismatches (constraints.arrive options path value {}).2.warnings path := by
  obtain ⟨kind, called, other, -⟩ := loses.unconvertible
  let report : Report :=
    { Report.of .mismatchingTypes path (constraints.resolveAlias value) with
      expected := .string kind.shape.name, actual := .string value.shape.name }
  have settled : constraints.settleKind options value.shape path (constraints.resolveAlias value)
      {} = (.ok ((constraints.resolveAlias value).cast kind.shape), ({} : Trail).warn [report]) := by
    unfold Constraints.settleKind
    rw [called]
    dsimp only
    rw [if_neg other, if_neg (by simp [loses.lenient])]
  refine ⟨report, ?_, rfl, rfl⟩
  unfold Constraints.arrive
  rw [unsanitized, runSanitizers]
  dsimp only
  rw [settled]
  exact (constraints.judge_onlyAdds path _).kept (List.mem_singleton.mpr rfl)

theorem settlePlain_warnings_of_arrive {report : Report}
    (made : report ∈ (node.constraints.arrive options path value {}).2.warnings) :
    report ∈ (settlePlain capabilities options node value path {}).2.warnings := by
  unfold settlePlain
  rcases run : node.constraints.arrive options path value {} with
    ⟨accepted | rejection | entered, after⟩
  · rw [run] at made
    exact made
  · rw [run] at made
    exact (node.constraints.fail_onlyAdds options rejection).kept made
  · rw [run] at made
    have descent := (descend_adds capabilities options node path entered).kept made
    exact (node.constraints.leave_onlyAdds capabilities options path _).kept descent

theorem settlePlain_warnings_of_descend {entered : Value} {report : Report} {trail : Trail}
    (received : node.constraints.receive options value = .entered entered)
    (made : report ∈ (descend capabilities options node entered path {}).2.warnings) :
    report ∈ (settlePlain capabilities options node value path trail).2.warnings := by
  have reception := node.constraints.arrive_reception options path value trail
  rw [received] at reception
  unfold settlePlain
  rcases run : node.constraints.arrive options path value trail with
    ⟨accepted | rejection | other, after⟩
  · rw [run] at reception
    cases reception
  · rw [run] at reception
    cases reception
  · rw [run] at reception
    cases reception
    have descent := (descend_adds capabilities options node path entered).made after made
    exact (node.constraints.leave_onlyAdds capabilities options path _).kept descent

variable (path) in
theorem walk_mismatches_of_loses (unsanitized : node.IsUnsanitized)
    (plain : node.alternatives = []) (loses : node.constraints.Loses options value)
    (present : value.isUndefined = false)
    (accepted : (Schema.node node).accepts capabilities options value = true) :
    Mismatches (walk capabilities options (.node node) value path {}).2.warnings path := by
  obtain ⟨report, made, named⟩ := arrive_mismatches unsanitized.sanitizeBefore loses
  refine ⟨report, ?_, named⟩
  rw [walk_of_plain present accepted plain]
  exact settlePlain_warnings_of_arrive made

variable (path) in
/-- A value that is lost in a conversion is warned about. -/
theorem walk_mismatches {schema : Schema} (tree : schema.Everywhere Node.IsUnsanitized)
    (present : value.isUndefined = false)
    (accepted : schema.accepts capabilities options value = true)
    (lost : LostInConversion capabilities options schema value) :
    Mismatches (walk capabilities options schema value path {}).2.warnings path := by
  induction lost with
  | listed plain loses received =>
      exact walk_mismatches_of_loses path tree.root plain loses present accepted
  | entered plain loses noObject noArray received =>
      exact walk_mismatches_of_loses path tree.root plain loses present accepted
  | @chosen node schema _ first lost ih =>
      have taken := List.find?_some first
      have member := List.mem_of_find?_eq_some first
      rw [walk_eq_settleUnion present (admitted_of_accepted present accepted)
        (List.ne_nil_of_mem member), (settleUnion_of_chosen first path).warnings]
      exact ih (tree.nested (Node.nested_of_alternative member)) present taken

end Warnings

/-! ## Accepted objects -/

/-- A value that must be present and is accepted is present. -/
theorem present_of_required {schema : Schema} {value : Value}
    (required : schema.root.constraints.effectivePresence options = .required)
    (accepted : schema.accepts capabilities options value = true) : value.isUndefined = false := by
  obtain ⟨node⟩ := schema
  cases absent : value.isUndefined with
  | false => rfl
  | true =>
      cases value with
      | undefined =>
          have missing : node.constraints.effectivePresence options = .required := required
          rw [accepts, ruling_node, ruleNode_undefined, Constraints.ruleAbsent, missing] at accepted
          simp [Constraints.refuse, Constraints.downgrades, missing] at accepted
      | _ => cases absent

theorem isLenient_of_required {schema : Schema}
    (required : schema.root.constraints.effectivePresence options = .required) :
    schema.isLenient options = false := by
  rw [isLenient, required]
  rfl

section Objects

variable {node : Node Schema} (unsanitized : node.IsUnsanitized)
  (object : node.constraints.kind = some .object) (plain : node.alternatives = [])
  (undefaulted : node.constraints.default = .undefined)
  (unlisted : node.constraints.allowed = [] ∧ node.constraints.valid = [])
include unsanitized object plain undefaulted unlisted

/-- An object is accepted once its parts are, and what is delivered is made of them. -/
theorem entered_of_accepted {className : Option String} {members : List (String × Value)}
    (accepted : (Schema.node node).accepts capabilities options (.object className members) = true) :
    node.constraints.receive options (.object className members) =
        .entered (.object className members) ∧
      (ruleObject capabilities options node ⟨className, members⟩).accepted = true ∧
      (Schema.node node).result capabilities options (.object className members) =
        (ruleObject capabilities options node ⟨className, members⟩).value := by
  have fitted : node.constraints.receive options (.object className members) =
      node.constraints.weigh (.object className members) := by
    rw [Constraints.receive_of_unsanitized unsanitized.sanitizeBefore, Constraints.fitKind, object]
    rfl
  have parts : ruleParts capabilities options node (.object className members) =
      ruleObject capabilities options node ⟨className, members⟩ := by
    rw [ruleParts, object]
    rfl
  have fatal : node.constraints.downgrades options = false := by
    rw [Constraints.downgrades, undefaulted]
    rfl
  rw [Schema.accepts, ruling_node] at accepted
  have accepts := nodeAccepts_of_accepted fatal accepted
  rw [Schema.result, ruling_node]
  generalize (ruleNode capabilities options node (.object className members)).value = result
    at accepts
  cases accepts with
  | chosen present admitted union first =>
      rw [plain] at union
      cases union
  | settled present admitted plain received =>
      have among := (Constraints.weigh_accepted (fitted.symm.trans received)).2
      rw [unlisted.1, unlisted.2] at among
      cases among
  | entered present admitted plain received settled sanitized =>
      obtain ⟨rfl, -⟩ := Constraints.weigh_entered (fitted.symm.trans received)
      rw [unsanitized.sanitize] at sanitized
      cases sanitized
      rw [parts] at settled ⊢
      exact ⟨received, settled, rfl⟩

/-- The warnings about a declared member are among those of the object. -/
theorem walk_warnings_of_key {className : Option String} {members : List (String × Value)}
    {path : String} {trail : Trail}
    (accepted : (Schema.node node).accepts capabilities options (.object className members) = true)
    {key : String} {schema : Schema} (declared : (key, schema) ∈ node.keys)
    (warned : Mismatches (walk capabilities options schema (Record.get ⟨className, members⟩ key)
      ((Slot.key key).join path) {}).2.warnings ((Slot.key key).join path)) :
    Mismatches (walk capabilities options (.node node) (.object className members) path
      trail).2.warnings ((Slot.key key).join path) := by
  obtain ⟨received, -, -⟩ :=
    entered_of_accepted unsanitized object plain undefaulted unlisted accepted
  obtain ⟨report, made, named⟩ := warned
  have descended : report ∈
      (descend capabilities options node (.object className members) path {}).2.warnings := by
    rw [descend, object]
    exact descendObject_warnings_of_key declared (List.mem_append_left _ made)
  refine ⟨report, ?_, named⟩
  rw [walk_of_plain rfl accepted plain]
  exact settlePlain_warnings_of_descend received descended

omit unsanitized in
/--
Along a schema without sanitizers whose root calls for an object, has neither
alternatives nor a default and lists no values that it accepts as they are: what
is delivered for an accepted object has every declared member that must be
present, except for those that options which are not strict let be converted to
nothing, and these are warned about.
-/
theorem required_members (tree : (Schema.node node).Everywhere Node.IsUnsanitized)
    (wellFormed : (Schema.node node).IsWellFormed) {className : Option String}
    {members : List (String × Value)} {path : String} {trail : Trail}
    (accepted : (walk capabilities options (.node node) (.object className members) path
      trail).1.isOk = true) :
    ∃ delivered : Record,
      (walk capabilities options (.node node) (.object className members) path trail).1.value =
        delivered.toValue ∧
      ∀ key schema, KeyMap.find? key node.keys = some schema →
        schema.root.constraints.effectivePresence options = .required →
          (delivered.find? key).isSome = true ∨
            options.strict = false ∧
            LostInConversion capabilities options schema (Record.get ⟨className, members⟩ key) ∧
            Mismatches (walk capabilities options (.node node) (.object className members) path
              trail).2.warnings ((Slot.key key).join path) := by
  have follows : (Schema.node node).FollowsRuling capabilities options :=
    (Schema.node node).followsRuling
  rw [follows.isOk] at accepted
  obtain ⟨-, decided, built⟩ :=
    entered_of_accepted tree.root object plain undefaulted unlisted accepted
  obtain ⟨delivered, value, -, -, finds⟩ :=
    ruleObject_value capabilities options wellFormed.root ⟨className, members⟩
  refine ⟨delivered, ?_, ?_⟩
  · rw [follows.value, built, value]
  · intro key schema declared required
    have member := KeyMap.mem_of_find? declared
    have fits : schema.accepts capabilities options (Record.get ⟨className, members⟩ key) = true := by
      apply ((ruleObject_accepted_iff _).mp decided).1 (key, schema) member |>.resolve_right
      rw [isLenient_of_required required]
      exact Bool.false_ne_true
    have present := present_of_required required fits
    have below := tree.nested (Node.nested_of_key member)
    rw [finds, memberResult, declared]
    dsimp only
    cases delivers : schema.result capabilities options (Record.get ⟨className, members⟩ key) with
    | undefined =>
        have lost := (result_undefined_iff below present fits).mp delivers
        exact .inr ⟨lost.lenient, lost, walk_warnings_of_key tree.root object plain undefaulted
          unlisted accepted member (walk_mismatches _ below present fits lost)⟩
    | _ => exact .inl rfl

end Objects

/-- Of two values that are no texts, one is converted to a text and one is lost. -/
theorem required_members_converted :
    let options : Options := { strict := false }
    let text : Schema :=
      .node { constraints := { kind := some .string, presence := some .required } }
    let node : Node Schema := {
      constraints := { kind := some .object }
      keys := [("a", text), ("b", text)] }
    let value : Value := .object none [("a", .boolean true), ("b", .array [])]
    let walked := walk .native options (.node node) value "" {}
    walked.1.isOk = true ∧ walked.1.value = .object none [("a", .string "true")] ∧
      LostInConversion .native options text (.array []) ∧
        Mismatches walked.2.warnings ((Slot.key "b").join "") := by
  intro options text node value walked
  have accepted : walked.1.isOk = true := by decide
  have both : (Schema.node node).Everywhere fun node =>
      KeyMap.IsAscending node.keys ∧ node.IsUnsanitized := by
    have leaf : text.Everywhere fun node =>
        KeyMap.IsAscending node.keys ∧ node.IsUnsanitized :=
      .node ⟨.nil, rfl, rfl⟩ (by simp [Node.nested])
    have ordered : KeyMap.IsAscending node.keys := KeyMap.ascending_pair (by decide) text text
    exact .node ⟨ordered, rfl, rfl⟩ (by simpa [node, Node.nested] using leaf)
  obtain ⟨⟨className, delivered⟩, built, each⟩ := required_members rfl rfl rfl ⟨rfl, rfl⟩
    (both.imp fun _ both => both.2) (both.imp fun _ both => both.1) accepted
  have result : walked.1.value = .object none [("a", .string "true")] := rfl
  cases result.symm.trans built
  obtain ⟨-, lost, warned⟩ := (each "b" text rfl rfl).resolve_left (by decide)
  exact ⟨accepted, result, lost, warned⟩

/-- A text that is no number is lost although it must be present, and the object is accepted. -/
theorem required_member_lost :
    let options : Options := { strict := false }
    let number : Schema :=
      .node { constraints := { kind := some .number, presence := some .required } }
    let node : Node Schema := {
      constraints := { kind := some .object }
      keys := [("a", number)] }
    let walked := walk .native options (.node node) (.object none [("a", .string "x")]) "" {}
    (Schema.node node).Everywhere Node.IsUnsanitized ∧
      node.constraints.kind = some .object ∧ node.alternatives = [] ∧
      node.constraints.default = .undefined ∧
      (node.constraints.allowed = [] ∧ node.constraints.valid = []) ∧
      number.root.constraints.effectivePresence options = .required ∧
      walked.1.isOk = true ∧ walked.1.value = .object none [] := by
  intro options number node walked
  have leaf : number.Everywhere Node.IsUnsanitized := .node ⟨rfl, rfl⟩ (by simp [Node.nested])
  have tree : (Schema.node node).Everywhere Node.IsUnsanitized :=
    .node ⟨rfl, rfl⟩ (by simpa [node, Node.nested] using leaf)
  exact ⟨tree, rfl, rfl, rfl, ⟨rfl, rfl⟩, rfl, by decide, rfl⟩

end Schema

end SchemaValidation
