import SchemaValidation.Proofs.Quiet

/-!
# Accepted values conform

`Conforms` says which values a schema describes, without saying how a walk goes.
A walk that accepts delivers such a value, if nothing in the schema transforms
values and no failure of an optional position is downgraded.  One leniency
remains: a member that fits a pattern is delivered even if the schema of the
pattern rejects it.  Such members are left to a parameter; a walk without
warnings has none of them.
-/

namespace SchemaValidation.Schema

/-- A node is no union, lists no valid values, and calls for the shape of a value. -/
structure CallsFor (node : Node Schema) (value : Value) : Prop where
  alternatives : node.alternatives = []
  valid : node.constraints.valid = []
  shape : ∀ kind, node.constraints.kind = some kind → value.shape = kind.shape

theorem callsFor_of_kind {node : Node Schema} {value : Value} {kind : Kind}
    (plain : node.alternatives = [] ∧ node.constraints.valid = [])
    (known : node.constraints.kind = some kind) (shape : value.shape = kind.shape) :
    CallsFor node value := by
  refine ⟨plain.1, plain.2, ?_⟩
  intro other same
  rw [known] at same
  cases same
  exact shape

section Conforms

variable (capabilities : Capabilities) (options : Options) (tolerates : Schema → Value → Prop)

mutual

/-- The values that a schema describes. -/
inductive Conforms : Schema → Value → Prop where
  | absent {node : Node Schema}
      (dispensable : node.constraints.effectivePresence options ≠ .required) :
      Conforms (.node node) .undefined
  | default {node : Node Schema} (given : node.constraints.default ≠ .undefined) :
      Conforms (.node node) node.constraints.default
  | listed {node : Node Schema} {value : Value}
      (among : value.isAmong node.constraints.insensitive
        (node.constraints.allowed ++ node.constraints.valid) = true) :
      Conforms (.node node) value
  | alternative {node : Node Schema} {value : Value}
      (one : ConformsToOne node.alternatives value) : Conforms (.node node) value
  | simple {node : Node Schema} {value : Value} (called : CallsFor node value)
      (noObject : node.constraints.kind ≠ some .object)
      (noArray : node.constraints.kind ≠ some .array)
      (notInvalid : value.isAmong node.constraints.insensitive node.constraints.invalid = false)
      (checked : ∀ check ∈ node.constraints.checks, check.passes value = true) :
      Conforms (.node node) value
  | object {node : Node Schema} {className : Option String} {members : List (String × Value)}
      (called : CallsFor node (.object className members))
      (kind : node.constraints.kind = some .object)
      (declared : ∀ key schema, (key, schema) ∈ node.keys →
        Conforms schema ((KeyMap.find? key members).getD .undefined))
      (others : ∀ key item, KeyMap.find? key members = some item →
        KeyMap.find? key node.keys = none → ConformsUndeclared node.pattern key item) :
      Conforms (.node node) (.object className members)
  | array {node : Node Schema} {items : List Value} (called : CallsFor node (.array items))
      (kind : node.constraints.kind = some .array)
      (included : node.includes ≠ [] → ∀ item ∈ items, ConformsToOne node.includes item)
      (excluded : node.includes = [] → ∀ item ∈ items, ∀ schema ∈ node.excludes,
        schema.accepts capabilities options item = false) :
      Conforms (.node node) (.array items)

/-- The values that one schema of a list describes. -/
inductive ConformsToOne : List Schema → Value → Prop where
  | intro {schemas : List Schema} {schema : Schema} {value : Value}
      (member : schema ∈ schemas) (conforms : Conforms schema value) :
      ConformsToOne schemas value

/-- The members that an object may have besides the declared ones: their name fits the pattern, and
they conform to its schema or are tolerated; or unknown members are allowed and not stripped. -/
inductive ConformsUndeclared : Option (Pattern × Schema) → String → Value → Prop where
  | fitting {pattern : Pattern} {schema : Schema} {key : String} {item : Value}
      (fits : pattern.isMatch key = true) (conforms : Conforms schema item) :
      ConformsUndeclared (some (pattern, schema)) key item
  | tolerated {pattern : Pattern} {schema : Schema} {key : String} {item : Value}
      (fits : pattern.isMatch key = true) (tolerated : tolerates schema item) :
      ConformsUndeclared (some (pattern, schema)) key item
  | unknown {pattern : Option (Pattern × Schema)} {key : String} {item : Value}
      (unfit : ∀ entry ∈ pattern, entry.1.isMatch key = false)
      (allowed : options.allowUnknown = true) (kept : options.stripUnknown = false) :
      ConformsUndeclared pattern key item

end

end Conforms

variable {capabilities : Capabilities} {options : Options}

/-! ## Accepted values -/

section Accepted

variable {tolerates : Schema → Value → Prop}

variable (capabilities options tolerates) in
/-- Whatever a schema delivers for a value that it rejects is tolerated. -/
def ToleratesRejected : Prop :=
  ∀ schema item, schema.accepts capabilities options item = false →
    tolerates schema (schema.result capabilities options item)

variable (capabilities options tolerates) in
/-- Rejected members are tolerated, or a walk without warnings shows that there are none. -/
def Covered (schema : Schema) (value : Value) : Prop :=
  ToleratesRejected capabilities options tolerates ∨
    ∃ path, Quiet capabilities options schema value path

variable (capabilities options tolerates) in
/-- What a schema delivers for the values that it accepts conforms to it. -/
def DeliversConforming (schema : Schema) : Prop :=
  ∀ value, Covered capabilities options tolerates schema value →
    schema.accepts capabilities options value = true →
      Conforms capabilities options tolerates schema (schema.result capabilities options value)

theorem conformsToOne_of_firstResult {schemas : List Schema} {value result : Value}
    (below : ∀ schema ∈ schemas, DeliversConforming capabilities options tolerates schema)
    (covered : ∀ schema,
      (schemas.find? fun schema => schema.accepts capabilities options value) = some schema →
        Covered capabilities options tolerates schema value)
    (first : firstResult capabilities options schemas value = some result) :
    ConformsToOne capabilities options tolerates schemas result := by
  obtain ⟨schema, found, rfl⟩ := Option.map_eq_some_iff.mp first
  have member := List.mem_of_find?_eq_some found
  have accepted := List.find?_some found
  exact .intro member (below schema member value (covered schema found) accepted)

section Node

variable {node : Node Schema}
  (below : ∀ schema ∈ node.nested, DeliversConforming capabilities options tolerates schema)
  (fatal : options.warnOnInvalidOptionals = false)
  (ascending : KeyMap.IsAscending node.keys)

section Members

variable {record delivered : Record}
  (finds : ∀ name, delivered.find? name = memberResult capabilities options node record name)
  (accepted : (ruleObject capabilities options node record).accepted = true)
include below accepted finds

include fatal ascending in
/-- The members that are declared conform to their schemas. -/
theorem conforms_declared
    (covered : ∀ entry ∈ node.keys,
      Covered capabilities options tolerates entry.2 (record.get entry.1))
    (key : String) (schema : Schema) (declared : (key, schema) ∈ node.keys) :
    Conforms capabilities options tolerates schema (delivered.get key) := by
  have accepts : schema.accepts capabilities options (record.get key) = true := by
    rcases ((ruleObject_accepted_iff record).mp accepted).1 _ declared with accepts | lenient
    · exact accepts
    · simp [isLenient, fatal] at lenient
  rw [get_of_declared finds (ascending.find?_of_mem declared)]
  exact below schema (Node.nested_of_key declared) _ (covered (key, schema) declared) accepts

/-- The members that are not declared stem from members of the record, and are of one of three
kinds. -/
theorem conforms_undeclared
    (covered : ∀ pattern schema, node.pattern = some (pattern, schema) →
      ∀ key ∈ capabilities.ownKeys record, KeyMap.find? key node.keys = none →
        ∀ item, record.find? key = some item → pattern.isMatch key = true →
          tolerates schema (schema.result capabilities options item) ∨
            schema.accepts capabilities options item = true ∧
              Covered capabilities options tolerates schema item)
    (key : String) (item : Value) (found : delivered.find? key = some item)
    (undeclared : KeyMap.find? key node.keys = none) :
    ConformsUndeclared capabilities options tolerates node.pattern key item := by
  obtain ⟨listed, source, here, stems⟩ := source_of_undeclared finds undeclared found
  have known := ((ruleObject_accepted_iff record).mp accepted).2 key listed undeclared source here
  unfold Assembly.otherResult at stems
  rcases ruleFitting_cases capabilities options node key with
    ⟨pattern, schema, same, fits, fitting⟩ | ⟨unfit, unruled⟩
  · rw [fitting] at stems
    obtain rfl := Value.eq_of_present? stems
    rw [same]
    rcases covered pattern schema same key listed undeclared source here fits with
      tolerated | ⟨accepts, covered⟩
    · exact .tolerated fits tolerated
    · exact .fitting fits (below schema (Node.nested_of_pattern same) source covered accepts)
  · rw [unruled] at stems known
    have allowed := known.resolve_left (by simp)
    cases kept : options.stripUnknown with
    | true => simp [kept] at stems
    | false => exact .unknown unfit allowed kept

end Members

include below

include fatal ascending in
theorem conforms_object {record : Record}
    (called : node.alternatives = [] ∧ node.constraints.valid = [])
    (kind : node.constraints.kind = some .object)
    (covered : ToleratesRejected capabilities options tolerates ∨ ∃ path,
      (descendObject capabilities options node record path {}).2.warnings = [])
    (accepted : (ruleObject capabilities options node record).accepted = true) :
    Conforms capabilities options tolerates (.node node)
      (ruleObject capabilities options node record).value := by
  obtain ⟨delivered, value, -, -, finds⟩ :=
    ruleObject_value capabilities options ascending record
  rw [value]
  refine .object (callsFor_of_kind called kind rfl) kind
    (conforms_declared below fatal ascending finds accepted ?_)
    (conforms_undeclared below finds accepted ?_)
  · intro entry member
    rcases covered with tolerated | ⟨path, quiet⟩
    · exact .inl tolerated
    · exact .inr ⟨_, (quiet_descendObject quiet).1 entry member⟩
  · intro pattern schema same key listed undeclared item found fits
    rcases covered with tolerated | ⟨path, quiet⟩
    · cases accepts : schema.accepts capabilities options item with
      | false => exact .inl (tolerated schema item accepts)
      | true => exact .inr ⟨rfl, .inl tolerated⟩
    · obtain ⟨accepts, walked⟩ :=
        (quiet_descendObject quiet).2 pattern schema same key listed undeclared item found fits
      exact .inr ⟨accepts, .inr ⟨_, walked⟩⟩

theorem conforms_array {items : List Value}
    (called : node.alternatives = [] ∧ node.constraints.valid = [])
    (kind : node.constraints.kind = some .array)
    (covered : ToleratesRejected capabilities options tolerates ∨ ∃ path,
      (descendArray capabilities options node items path {}).2.warnings = []) :
    Conforms capabilities options tolerates (.node node)
      (ruleArray capabilities options node items).value := by
  refine .array (callsFor_of_kind called kind rfl) kind ?_ ?_
  · intro some item member
    obtain ⟨source, here, delivered⟩ := List.mem_filterMap.mp member
    have included : node.includes.isEmpty = false := by simpa using some
    rw [itemResult, if_neg (by simp [included])] at delivered
    refine conformsToOne_of_firstResult
      (fun schema member => below schema (Node.nested_of_include member)) ?_ delivered
    intro schema first
    rcases covered with tolerated | ⟨path, quiet⟩
    · exact .inl tolerated
    · exact .inr (quiet_descendArray included quiet source here schema first)
  · intro none item member schema excluded
    obtain ⟨source, here, delivered⟩ := List.mem_filterMap.mp member
    rw [itemResult, none, List.isEmpty_nil, if_pos rfl] at delivered
    split at delivered
    · cases delivered
    · rename_i unmatched
      cases delivered
      simpa using fun accepts => unmatched (List.any_eq_true.mpr ⟨schema, excluded, accepts⟩)

include fatal ascending in
/-- The parts of a value that has entered a node are delivered as a value that conforms. -/
theorem conforms_entered {value : Value}
    (called : node.alternatives = [] ∧ node.constraints.valid = [])
    (shape : node.constraints.callsFor value.shape = true)
    (notInvalid : value.isAmong node.constraints.insensitive node.constraints.invalid = false)
    (checked : ∀ check ∈ node.constraints.checks, check.passes value = true)
    (covered : ToleratesRejected capabilities options tolerates ∨ ∃ path,
      (descend capabilities options node value path {}).2.warnings = [])
    (accepted : (ruleParts capabilities options node value).accepted = true) :
    Conforms capabilities options tolerates (.node node)
      (ruleParts capabilities options node value).value := by
  have shaped {kind : Kind} (known : node.constraints.kind = some kind) :
      value.shape = kind.shape := Constraints.shape_of_callsFor shape known
  unfold descend at covered
  unfold ruleParts at accepted ⊢
  split at accepted
  · rename_i kind
    have object := shaped kind
    cases value with
    | object className members =>
        rw [kind] at covered
        exact conforms_object below fatal ascending called kind covered accepted
    | _ => cases object
  · rename_i kind
    have array := shaped kind
    cases value with
    | array items =>
        rw [kind] at covered
        exact conforms_array below called kind covered
    | _ => cases array
  · rename_i noObject noArray
    exact .simple ⟨called.1, called.2, fun kind => shaped⟩ noObject noArray notInvalid checked

section Untransformed

variable (untransformed : node.constraints.IsUntransformed) (strict : options.strict = true)
  {value : Value}
include untransformed strict

omit below in
theorem conforms_settled {settled : Value}
    (received : node.constraints.receive options value = .accepted settled) :
    Conforms capabilities options tolerates (.node node) settled := by
  rw [Constraints.receive_of_untransformed options untransformed strict] at received
  split at received
  · obtain ⟨rfl, among⟩ := Constraints.weigh_accepted received
    exact .listed among
  · cases received

include fatal ascending in
/-- In whatever way a node accepts a value, the value that it delivers conforms. -/
theorem conforms_of_nodeAccepts {delivered : Value}
    (covered : Covered capabilities options tolerates (.node node) value)
    (accepts : NodeAccepts capabilities options node value delivered) :
    Conforms capabilities options tolerates (.node node) delivered := by
  cases accepts with
  | absent optional =>
      by_cases given : node.constraints.default = .undefined
      · rw [given]
        exact .absent (by simp [optional])
      · exact .default given
  | unwanted forbidden => exact .absent (by simp [forbidden])
  | chosen present admitted union first =>
      refine .alternative (conformsToOne_of_firstResult
        (fun schema member => below schema (Node.nested_of_alternative member)) ?_ first)
      intro schema taken
      exact covered.imp id fun ⟨path, quiet⟩ =>
        ⟨path, quiet_chosen present admitted quiet union taken⟩
  | settled present admitted plain received =>
      exact conforms_settled untransformed strict received
  | @entered value entered delivered present admitted plain received parts sanitized =>
      have descent := covered.imp id fun ⟨path, quiet⟩ =>
        (⟨path, quiet_descend present admitted quiet plain received⟩ : ∃ path,
          (descend capabilities options node entered path {}).2.warnings = [])
      rw [Constraints.receive_of_untransformed options untransformed strict] at received
      rw [untransformed.sanitize] at sanitized
      cases sanitized
      split at received
      · rename_i shape
        obtain ⟨rfl, unlisted, notInvalid, checked⟩ := Constraints.weigh_entered received
        exact conforms_entered below fatal ascending ⟨List.isEmpty_iff.mp plain, unlisted⟩ shape
          notInvalid checked descent parts
      · cases received

end Untransformed

end Node

/-- A strict schema that transforms nothing delivers values that conform to it. -/
theorem deliversConforming (strict : options.strict = true)
    (fatal : options.warnOnInvalidOptionals = false) {schema : Schema}
    (wellFormed : schema.IsWellFormed)
    (untransformed : schema.Everywhere fun node => node.constraints.IsUntransformed) :
    DeliversConforming capabilities options tolerates schema := by
  induction wellFormed with
  | @node parts ascending nested ih =>
      intro value covered accepted
      have below : ∀ schema ∈ parts.nested,
          DeliversConforming capabilities options tolerates schema :=
        fun schema member => ih schema member (untransformed.nested member)
      have kept : parts.constraints.downgrades options = false := by
        simp [Constraints.downgrades, fatal]
      unfold accepts at accepted
      unfold result
      rw [ruling_node] at accepted ⊢
      exact conforms_of_nodeAccepts below fatal ascending untransformed.root strict covered
        (nodeAccepts_of_accepted kept accepted)

end Accepted

/--
Soundness of acceptance.  If a walk along a strict schema that transforms nothing
ends without errors, and failures of optional members are errors, then the value
that it delivers conforms to the schema.  Members that fit a pattern may be what
its schema delivers for a value that it rejects; if the walk adds no warnings,
they conform as well.
-/
theorem conforms_of_walk_isOk (strict : options.strict = true)
    (fatal : options.warnOnInvalidOptionals = false) {schema : Schema}
    (wellFormed : schema.IsWellFormed)
    (untransformed : schema.Everywhere fun node => node.constraints.IsUntransformed)
    {value : Value} {path : String} {trail : Trail}
    (accepted : (walk capabilities options schema value path trail).1.isOk = true) :
    Conforms capabilities options
      (fun schema item => ∃ source, schema.accepts capabilities options source = false ∧
        item = schema.result capabilities options source)
      schema (walk capabilities options schema value path trail).1.value ∧
    ((walk capabilities options schema value path trail).2.warnings = trail.warnings →
      Conforms capabilities options (fun _ _ => False) schema
        (walk capabilities options schema value path trail).1.value) := by
  rw [schema.followsRuling.isOk] at accepted
  rw [schema.followsRuling.value]
  refine ⟨deliversConforming strict fatal wellFormed untransformed value
    (.inl fun schema source rejected => ⟨source, rejected, rfl⟩) accepted, ?_⟩
  intro unwarned
  have quiet : Quiet capabilities options schema value path := by
    rw [(walk_onlyAdds capabilities options schema value path).warnings] at unwarned
    exact List.append_right_eq_self.mp unwarned
  exact deliversConforming strict fatal wellFormed untransformed value
    (.inr ⟨path, quiet⟩) accepted

/-- An object with a union under a declared name and a list under a name that fits the pattern. -/
theorem conforms_of_walk_isOk_object :
    let options : Options := { warnOnInvalidOptionals := false }
    let leaf (kind : Kind) : Schema := .node { constraints := { kind := some kind } }
    let union : Schema := .node { alternatives := [leaf .number, leaf .string] }
    let texts : Schema := .node {
      constraints := { kind := some .array }
      includes := [leaf .string] }
    let pattern : Pattern := ⟨"^x", .sequence .start (.one { items := [.range 'x' 'x'] })⟩
    let schema : Schema := .node {
      constraints := { kind := some .object }
      keys := [("a", union)]
      pattern := some (pattern, texts) }
    let value : Value := .object none [("a", .string "b"), ("x", .array [.string "c"])]
    (walk .native options schema value "" {}).1.isOk = true ∧
      Conforms .native options (fun _ _ => False) schema
        (walk .native options schema value "" {}).1.value := by
  intro options leaf union texts pattern schema value
  have accepted : (walk .native options schema value "" {}).1.isOk = true := by decide
  have unwarned : (walk .native options schema value "" {}).2.warnings = [] := by decide
  have leaves (kind : Kind) : (leaf kind).Everywhere fun node =>
      KeyMap.IsAscending node.keys ∧ node.constraints.IsUntransformed :=
    .node ⟨.nil, rfl, rfl, rfl⟩ (by simp [Node.nested])
  have tree : schema.Everywhere fun node =>
      KeyMap.IsAscending node.keys ∧ node.constraints.IsUntransformed := by
    refine .node ⟨List.pairwise_singleton _ _, rfl, rfl, rfl⟩ ?_
    simp only [Node.nested, List.map_cons, List.map_nil, Option.map_some, Option.toList_some,
      List.append_nil, List.cons_append, List.nil_append, List.forall_mem_cons]
    refine ⟨.node ⟨.nil, rfl, rfl, rfl⟩ ?_, .node ⟨.nil, rfl, rfl, rfl⟩ ?_, List.forall_mem_nil _⟩
    · simpa [union, Node.nested] using ⟨leaves .number, leaves .string⟩
    · simpa [texts, Node.nested] using leaves .string
  exact ⟨accepted, (conforms_of_walk_isOk rfl rfl (tree.imp fun _ both => both.1)
    (tree.imp fun _ both => both.2) accepted).2 unwarned⟩

end SchemaValidation.Schema
