import SchemaValidation.Proofs.Identities
import SchemaValidation.Proofs.ItemAccounts

/-!
# Unions as they are given

A union is given as a list of sources, by name, as a shorthand, or frozen.  A
union without other fields inside another one is invisible: its alternatives
could as well stand in its place.  And a union accepts what one of its members
accepts, if it has members.  Without them there is nothing that tells it from
the schema that accepts everything.
-/

namespace SchemaValidation

/-! ## Chains with alternatives -/

namespace Node

variable {α : Type}

theorem refine_withAlternatives (node : Node α) (step : Refinement α) :
    ∃ added : List α, ∀ given : List α, { node with alternatives := given }.refine step =
      { node.refine step with alternatives := given ++ added } := by
  cases step with
  | alternatives schemas => exact ⟨schemas, fun _ => rfl⟩
  | _ => exact ⟨[], fun given => by rw [List.append_nil]; rfl⟩

/-- Whatever alternatives a node has, more steps add the same ones behind them. -/
theorem foldl_refine_withAlternatives (node : Node α) (steps : List (Refinement α)) :
    ∃ added : List α, ∀ given : List α,
      steps.foldl refine { node with alternatives := given } =
        { steps.foldl refine node with alternatives := given ++ added } := by
  induction steps generalizing node with
  | nil => exact ⟨[], fun given => by rw [List.append_nil]; rfl⟩
  | cons step rest ih =>
      obtain ⟨now, stepped⟩ := node.refine_withAlternatives step
      obtain ⟨later, folded⟩ := ih (node.refine step)
      refine ⟨now ++ later, fun given => ?_⟩
      rw [List.foldl_cons, List.foldl_cons, stepped, folded, List.append_assoc]

/-- A step with alternatives adds them in its place and has no other part in a chain. -/
theorem ofRefinements_withAlternatives (first last : List (Refinement α)) :
    ∃ (node : Node α) (front back : List α), ∀ given : List α,
      ofRefinements (first ++ .alternatives given :: last) =
        { node with alternatives := front ++ given ++ back } := by
  obtain ⟨back, folded⟩ := (ofRefinements first).foldl_refine_withAlternatives last
  refine ⟨last.foldl refine (ofRefinements first), (ofRefinements first).alternatives, back,
    fun given => ?_⟩
  rw [← folded, ofRefinements, List.foldl_append]
  rfl

end Node

namespace Source

/-- Chains that differ in the alternatives of one step describe unions that differ there. -/
theorem schema_withAlternatives (first last : List (Refinement Source)) :
    ∃ (node : Node Schema) (front back : List Schema), ∀ (given : List Source) (source : Source),
      source.steps? = some (first ++ .alternatives given :: last) →
        source.schema =
          .node { node with alternatives := front ++ given.map schema ++ back } := by
  obtain ⟨node, front, back, described⟩ := Node.ofRefinements_withAlternatives first last
  refine ⟨{ node.map schema with constraints := node.constraints.anonymous },
    front.map schema, back.map schema, fun given source stands => ?_⟩
  rw [schema_of_steps stands, described given, ← List.map_append, ← List.map_append]
  rfl

/-- The ways in which the union of some sources is given without other fields. -/
inductive IsUnion (members : List Source) : Source → Prop where
  | named : IsUnion members (.union members)
  | listed : IsUnion members (.sequence members)
  | frozen (supply : Supply) : IsUnion members (.frozen ((union members).compile supply).1)

/-- The shorthand that a list of values is gives the union of the shorthands that its items are. -/
theorem isUnion_ofValue (items : List Value) : (ofValue (.array items)).IsUnion (ofItems items) :=
  .listed

/-- The union of some sources has what they describe as its alternatives, and no other field. -/
theorem IsUnion.schema_eq {members : List Source} {source : Source}
    (given : source.IsUnion members) :
    source.schema = .node { alternatives := members.map schema } := by
  have described {source : Source}
      (stands : source.steps? = some [.root none, .alternatives members]) :
      source.schema = .node { alternatives := members.map schema } :=
    schema_of_steps stands
  cases given with
  | named => exact described rfl
  | listed => exact described rfl
  | frozen supply => exact ((union members).compile_anonymous supply).trans (described rfl)

end Source

/-! ## Unions in unions -/

namespace Schema

variable (capabilities : Capabilities) {options : Options}
  (admitted : options.presence ≠ .forbidden)
include admitted

/-- Only a schema of an inner union is taken by way of it, and then its answer is the union's. -/
theorem unionAnswer_flattened (constraints : Constraints) (before : List Schema)
    {inner : List Schema} (filled : inner ≠ []) (after : List Schema) {value : Value}
    (present : value.isUndefined = false) (path : String) :
    EndsAlike
      (unionAnswer capabilities options constraints (chosen? capabilities options
        (before ++ .node { alternatives := inner } :: after) value path) value path)
      (unionAnswer capabilities options constraints (chosen? capabilities options
        (before ++ inner ++ after) value path) value path) := by
  let nested : Schema := .node { alternatives := inner }
  have taken := chosen?_bareUnion capabilities filled present admitted path
  have walked := walk_bareUnion capabilities filled present admitted path
  have split : before ++ nested :: after = before ++ ([nested] ++ after) := rfl
  rw [split, List.append_assoc, chosen?_append, chosen?_append, chosen?_append, chosen?_append,
    taken]
  cases chosen? capabilities options before value path with
  | some schema => exact .refl _
  | none =>
      cases first : chosen? capabilities options inner value path with
      | none => exact .refl _
      | some schema =>
          rw [first] at walked
          exact ⟨walked.1, walked.2⟩

/-- A union without other fields can be replaced by its alternatives wherever it is one itself. -/
theorem walk_flattened (node : Node Schema) (before : List Schema) {inner : List Schema}
    (filled : inner ≠ []) (after : List Schema) (value : Value) (path : String) (trail : Trail) :
    EndsAlike
      (walk capabilities options
        (.node { node with alternatives := before ++ .node { alternatives := inner } :: after })
        value path trail)
      (walk capabilities options
        (.node { node with alternatives := before ++ inner ++ after }) value path trail) := by
  let outer : Node Schema :=
    { node with alternatives := before ++ .node { alternatives := inner } :: after }
  let flat : Node Schema := { node with alternatives := before ++ inner ++ after }
  cases present : value.isUndefined with
  | true =>
      rw [walk_node, walk_node, if_pos present, if_pos present]
      exact .refl _
  | false =>
      by_cases forbidden : node.constraints.effectivePresence options = .forbidden
      · have outside : walk capabilities options (.node outer) value path trail = _ :=
          walk_of_forbidden present forbidden
        have inside : walk capabilities options (.node flat) value path trail = _ :=
          walk_of_forbidden present forbidden
        rw [outside, inside]
        exact .refl _
      · have outerUnion : outer.alternatives ≠ [] := by simp [outer]
        have flatUnion : flat.alternatives ≠ [] := by simp [flat, filled]
        obtain ⟨result, warnings⟩ :=
          walk_answer capabilities outerUnion present forbidden path trail
        obtain ⟨result', warnings'⟩ :=
          walk_answer capabilities flatUnion present forbidden path trail
        have answers := unionAnswer_flattened capabilities admitted node.constraints before filled
          after present path
        exact ⟨result.trans (answers.result.trans result'.symm),
          warnings.trans ((congrArg _ answers.warnings).trans warnings'.symm)⟩

end Schema

namespace Engine

variable (engine : Engine) {options : Options}

/-- Sources that describe schemas along which a value is walked alike are validated alike. -/
theorem validateWith_of_endsAlike {value : Value} {source other : Source}
    (alike : EndsAlike (source.schema.walk engine.capabilities options value "" {})
      (other.schema.walk engine.capabilities options value "" {})) (ledger ledger' : Ledger) :
    (engine.validateWith value source options ledger).1 =
      (engine.validateWith value other options ledger').1 := by
  rw [validateWith_schema, validateWith_schema, alike.result, alike.warnings]

/--
Nested unions are flat.  Where the presence by default forbids nothing, a union
of some schemas, without other fields, that is itself an alternative of a node
can be replaced by these schemas: every value is walked with the same outcome
and the same warnings.  So however the inner union is given, and whatever steps
there are before and behind it in the outer one, every engine validates every
value alike with the members of the inner union in its place.
-/
theorem nested_unions_are_flat (admitted : options.presence ≠ .forbidden) (value : Value) :
    (∀ (node : Node Schema) (before inner after : List Schema) (path : String) (trail : Trail),
      inner ≠ [] →
        EndsAlike
          (Schema.walk engine.capabilities options
            (.node { node with alternatives := before ++ .node { alternatives := inner } :: after })
            value path trail)
          (Schema.walk engine.capabilities options
            (.node { node with alternatives := before ++ inner ++ after }) value path trail)) ∧
    ∀ (first last : List (Refinement Source)) (before inner after : List Source)
      (nested outer flat : Source) (ledger ledger' : Ledger),
      inner ≠ [] → nested.IsUnion inner →
      outer.steps? = some (first ++ .alternatives (before ++ nested :: after) :: last) →
      flat.steps? = some (first ++ .alternatives (before ++ inner ++ after) :: last) →
        (engine.validateWith value outer options ledger).1 =
          (engine.validateWith value flat options ledger').1 := by
  constructor
  · intro node before inner after path trail filled
    exact Schema.walk_flattened engine.capabilities admitted node before filled after value path
      trail
  · intro first last before inner after nested outer flat ledger ledger' filled given outside inside
    obtain ⟨node, front, back, described⟩ := Source.schema_withAlternatives first last
    have filled' : inner.map Source.schema ≠ [] := by simpa using filled
    have alike := Schema.walk_flattened engine.capabilities admitted node
      (front ++ before.map Source.schema) filled' (after.map Source.schema ++ back) value "" {}
    apply engine.validateWith_of_endsAlike
    rw [described _ outer outside, described _ flat inside, List.map_append, List.map_cons,
      given.schema_eq, List.map_append, List.map_append]
    simpa only [List.append_assoc, List.cons_append] using alike

/-- The text is converted by the second member of the inner union, with a warning. -/
theorem nested_unions_are_flat_converted :
    let engine : Engine := (Engine.start .native {}).1
    let options : Options := { strict := false }
    let inner : List Source := [.literal (.string "x"), .chain [.root (some .number)]]
    let given (members : List Source) : Source :=
      .chain ([.root none] ++ .alternatives members :: [.default .null])
    let outer := given ([.literal .null] ++ .sequence inner :: [.chain [.root none]])
    let flat := given ([.literal .null] ++ inner ++ [.chain [.root none]])
    let validation := (engine.validateWith (.string "5") outer options {}).1
    options.presence ≠ .forbidden ∧ inner ≠ [] ∧ (Source.sequence inner).IsUnion inner ∧
      validation.errors = [] ∧
      validation.warnings = [
        { tag := "mismatching_types", sourcePath := "", sourceValue := .string "5",
          expected := .string "number", actual := .string "string" }] ∧
      validation = (engine.validateWith (.string "5") flat options {}).1 := by
  intro engine options inner given outer flat validation
  have admitted : options.presence ≠ .forbidden := by decide
  have filled : inner ≠ [] := List.cons_ne_nil _ _
  have sequence : (Source.sequence inner).IsUnion inner := .listed
  have alike := (engine.nested_unions_are_flat admitted (.string "5")).2 [.root none]
    [.default .null] [.literal .null] inner [.chain [.root none]] (.sequence inner) outer flat {} {}
    filled sequence rfl rfl
  exact ⟨admitted, filled, sequence, rfl, rfl, alike⟩

end Engine

/-! ## What a union accepts -/

namespace Schema

section Present

variable {capabilities : Capabilities} {options : Options} {value : Value}
  (present : value.isUndefined = false) (admitted : options.presence ≠ .forbidden)
include present admitted

/-- A union without other fields accepts what one of its alternatives accepts. -/
theorem isOk_bareUnion_iff {schemas : List Schema} (filled : schemas ≠ []) (path : String) :
    (walk capabilities options (.node { alternatives := schemas }) value path {}).1.isOk = true ↔
      ∃ schema ∈ schemas, (walk capabilities options schema value path {}).1.isOk = true := by
  have alone :
      (walk capabilities options (.node { alternatives := schemas }) value path {}).1.isOk =
      (chosen? capabilities options [.node { alternatives := schemas }] value path).isSome := by
    rw [chosen?, List.isSome_find?, List.any_cons, List.any_nil, Bool.or_false]
  rw [alone, chosen?_bareUnion capabilities filled present admitted path, Option.isSome_map,
    chosen?_isSome_iff]

/-- A schema without any field leaves a present value as it is. -/
theorem walk_unrestricted (path : String) (trail : Trail) :
    walk capabilities options (.node {}) value path trail = (⟨value, []⟩, trail) := by
  have plain : walk capabilities options (.node {}) value path trail = _ :=
    walk_eq_settlePlain present admitted rfl
  have unnamed : ({} : Constraints).resolveAlias value = value :=
    Constraints.resolveAlias_of_untransformed ⟨rfl, rfl, rfl⟩ value
  have entered : ({} : Constraints).arrive options path value trail = (.entered value, trail) := by
    unfold Constraints.arrive
    dsimp only [runSanitizers]
    rw [unnamed]
    rfl
  rw [plain, settlePlain, entered]
  rfl

end Present

end Schema

namespace Engine

theorem validateWith_isValid (engine : Engine) (value : Value) (source : Source) (options : Options)
    (ledger : Ledger) :
    (engine.validateWith value source options ledger).1.isValid =
      (source.schema.walk engine.capabilities options value "" {}).1.isOk := by
  rw [validateWith_schema]
  rfl

/--
A union accepts what one of its members accepts.  However the union of some
members is given, and whatever the engines were used for before, a present value
is valid against it exactly if it is valid against one of the members, provided
that there are members and that the presence by default forbids nothing.  The
union of no members restricts nothing: every present value is valid against it,
and is delivered as it is without any report.
-/
theorem union_valid_iff (engine : Engine) {options : Options}
    (admitted : options.presence ≠ .forbidden) {value : Value}
    (present : value.isUndefined = false) {members : List Source} {source : Source}
    (given : source.IsUnion members) (ledger ledger' : Ledger) :
    (members ≠ [] →
      ((engine.validateWith value source options ledger).1.isValid = true ↔
        ∃ member ∈ members, (engine.validateWith value member options ledger').1.isValid = true)) ∧
    (members = [] → (engine.validateWith value source options ledger).1 = ⟨value, [], []⟩) := by
  constructor
  · intro filled
    have filled' : members.map Source.schema ≠ [] := by simpa using filled
    simp only [validateWith_isValid]
    rw [given.schema_eq, Schema.isOk_bareUnion_iff present admitted filled' ""]
    simp only [List.mem_map, exists_exists_and_eq_and]
  · rintro rfl
    have unrestricted : source.schema = .node {} := given.schema_eq
    rw [validateWith_schema, unrestricted, Schema.walk_unrestricted present admitted]

/-- The truth value is valid against the second member; against the union of no members, which is
what an empty list is as a shorthand, it is valid too. -/
theorem union_valid_iff_boolean :
    let engine : Engine := (Engine.start .native {}).1
    let members : List Source := [.literal (.string "x"), .chain [.root (some .boolean)]]
    let value : Value := .boolean true
    let valid (source : Source) := (engine.validateWith value source {} {}).1.isValid
    ({} : Options).presence ≠ .forbidden ∧ value.isUndefined = false ∧ members ≠ [] ∧
      members.map valid = [false, true] ∧ valid (.union members) = true ∧
      (engine.validateWith value (.ofValue (.array [])) {} {}).1 = ⟨value, [], []⟩ := by
  intro engine members value valid
  have admitted : ({} : Options).presence ≠ .forbidden := by decide
  have present : value.isUndefined = false := rfl
  have filled : members ≠ [] := List.cons_ne_nil _ _
  have second : valid (.chain [.root (some .boolean)]) = true := rfl
  have united : valid (.union members) = true :=
    ((engine.union_valid_iff admitted present .named {} {}).1 filled).mpr
      ⟨_, List.mem_cons_of_mem _ List.mem_cons_self, second⟩
  have unrestricted := (engine.union_valid_iff admitted present
    (Source.isUnion_ofValue []) {} {}).2 rfl
  exact ⟨admitted, present, filled, rfl, united, unrestricted⟩

/-- The text is valid against the union of no members, in all the forms in which it is given, and
there is no member against which it could be valid. -/
theorem text_valid_without_members :
    let engine : Engine := (Engine.start .native {}).1
    let valid (source : Source) := (engine.validateWith (.string "a") source {} {}).1.isValid
    let members : List Source := []
    ({} : Options).presence ≠ .forbidden ∧ (Value.string "a").isUndefined = false ∧
      valid (.union members) = true ∧ valid (.sequence members) = true ∧
      valid (.ofValue (.array [])) = true ∧ ¬ ∃ member ∈ members, valid member = true := by
  intro engine valid members
  have admitted : ({} : Options).presence ≠ .forbidden := by decide
  refine ⟨admitted, rfl, rfl, rfl, rfl, ?_⟩
  rintro ⟨member, listed, -⟩
  exact List.not_mem_nil listed

end Engine

end SchemaValidation
