import SchemaValidation.Proofs.SourceTree
import SchemaValidation.Proofs.ValueTree

/-!
# Compiling again

Schemas are compared by their structure and checks by their identities.  A source
that is compiled again gives an equal schema if every check in it was there
before.  The shorthand of a pattern makes a check of its own, with an identity
from the supply, so a source is repeatable exactly if no such shorthand is left in
it after its chains are folded.
-/

namespace SchemaValidation

/-! ## Equality with itself -/

theorem relatedItems_self {α : Type} {related : α → α → Bool}
    (reflexive : ∀ item, related item item = true) (items : List α) :
    relatedItems related items items = true := by
  induction items with
  | nil => rfl
  | cons item rest ih =>
      rw [relatedItems, reflexive, ih]
      rfl

theorem Constraints.equals_self (constraints : Constraints) :
    constraints.equals constraints = true := by
  have lists (values : List Value) : Value.equalItems values values = true :=
    Value.equalItems_self fun value _ => value.equals_self
  have tables (table : Record) : table.equals table = true :=
    Value.equalMembers_self fun entry _ => entry.2.equals_self
  have checks (items : List Check) : relatedItems Check.same items items = true :=
    relatedItems_self (fun check => beq_self_eq_true check.identity) items
  have sanitizers (items : List Sanitizer) : relatedItems Sanitizer.same items items = true :=
    relatedItems_self (fun sanitizer => beq_self_eq_true sanitizer.identity) items
  simp [Constraints.equals, lists, tables, checks, sanitizers]

namespace Schema

theorem equals_node (first second : Node Schema) :
    (node first).equals (node second) =
      (first.constraints.equals second.constraints && equalKeys first.keys second.keys &&
        equalPatterns first.pattern second.pattern &&
        equalLists first.includes second.includes && equalLists first.excludes second.excludes &&
        equalLists first.alternatives second.alternatives) := by
  obtain ⟨constraints, keys, pattern, includes, excludes, alternatives⟩ := first
  rfl

theorem equalLists_self {schemas : List Schema}
    (each : ∀ schema ∈ schemas, schema.equals schema = true) :
    equalLists schemas schemas = true := by
  induction schemas with
  | nil => rfl
  | cons schema rest ih =>
      obtain ⟨first, others⟩ := List.forall_mem_cons.mp each
      rw [equalLists, first, ih others]
      rfl

theorem equalKeys_self {keys : List (String × Schema)}
    (each : ∀ entry ∈ keys, entry.2.equals entry.2 = true) : equalKeys keys keys = true := by
  induction keys with
  | nil => rfl
  | cons entry rest ih =>
      obtain ⟨first, others⟩ := List.forall_mem_cons.mp each
      rw [equalKeys, first, ih others, beq_self_eq_true]
      rfl

/-- Every schema equals itself. -/
@[simp] theorem equals_self (schema : Schema) : schema.equals schema = true := by
  induction schema using nestedInduction with
  | node parts below =>
      obtain ⟨keys, pattern, includes, excludes, alternatives⟩ := parts.forall_nested_iff.mp below
      have patterns : equalPatterns parts.pattern parts.pattern = true := by
        cases described : parts.pattern with
        | none => rfl
        | some entry =>
            rw [equalPatterns, pattern entry described, beq_self_eq_true]
            rfl
      rw [equals_node, parts.constraints.equals_self, equalKeys_self keys, patterns,
        equalLists_self includes, equalLists_self excludes, equalLists_self alternatives]
      rfl

end Schema

/-! ## Steps that draw on a supply -/

/-- A step takes identities from the supply, and taken again with later identities it gives the same
exactly if a condition holds. -/
structure RepeatsIf {α : Type} (holds : Prop) (same : α → α → Bool)
    (step : Supply → α × Supply) : Prop where
  grows : ∀ supply, supply.next ≤ (step supply).2.next
  same_iff : ∀ {supply later : Supply}, (step supply).2.next ≤ later.next →
    (same (step supply).1 (step later).1 = true ↔ holds)

namespace RepeatsIf

variable {α β : Type} {holds holds' : Prop} {same : α → α → Bool} {same' : β → β → Bool}
  {step : Supply → α × Supply} {step' : Supply → β × Supply}

theorem congr (repeats : RepeatsIf holds same step) (equivalent : holds ↔ holds') :
    RepeatsIf holds' same step :=
  ⟨repeats.grows, fun apart => (repeats.same_iff apart).trans equivalent⟩

/-- What takes nothing from the supply repeats if it is the same as itself. -/
theorem constant {result : α} (reflexive : same result result = true) :
    RepeatsIf True same fun supply => (result, supply) :=
  ⟨fun _ => Nat.le_refl _, fun _ => iff_true_intro reflexive⟩

/-- A result repeats if its image does. -/
theorem image (repeats : RepeatsIf holds same step) (f : α → β)
    (images : ∀ first second, same' (f first) (f second) = same first second) :
    RepeatsIf holds same' fun supply => (f (step supply).1, (step supply).2) := by
  refine ⟨repeats.grows, fun apart => ?_⟩
  rw [images]
  exact repeats.same_iff apart

/-- Two steps, one after the other, repeat if both do. -/
theorem both (repeats : RepeatsIf holds same step) (repeats' : RepeatsIf holds' same' step') :
    RepeatsIf (holds ∧ holds')
      (fun first second => same first.1 second.1 && same' first.2 second.2)
      fun supply =>
        (((step supply).1, (step' (step supply).2).1), (step' (step supply).2).2) := by
  constructor
  · intro supply
    exact Nat.le_trans (repeats.grows supply) (repeats'.grows (step supply).2)
  · intro supply later apart
    have first : (step supply).2.next ≤ later.next :=
      Nat.le_trans (repeats'.grows (step supply).2) apart
    have second : (step' (step supply).2).2.next ≤ (step later).2.next :=
      Nat.le_trans apart (repeats.grows later)
    rw [Bool.and_eq_true]
    exact and_congr (repeats.same_iff first) (repeats'.same_iff second)

/-- Freezing what was made takes one more identity. -/
theorem frozen (repeats : RepeatsIf holds same step) (f : α → Schema)
    (images : ∀ first second, (f first).equals (f second) = same first second) :
    RepeatsIf holds (fun first second : Frozen => first.schema.equals second.schema)
      fun supply => (step supply).2.freeze (f (step supply).1) := by
  constructor
  · intro supply
    exact Nat.le_succ_of_le (repeats.grows supply)
  · intro supply later apart
    refine (Eq.to_iff (congrArg (· = true) (images _ _))).trans ?_
    exact repeats.same_iff (Nat.le_of_succ_le apart)

end RepeatsIf

namespace Compilation

/-- A compilation that takes identities from the supply and, taken again with later ones, gives an
equal schema exactly if a condition holds. -/
abbrev Repeats (holds : Prop) (compile : Compilation) : Prop :=
  RepeatsIf holds (fun first second : Frozen => first.schema.equals second.schema) compile

variable {α : Type} {holds : α → Prop} {compile : α → Compilation}

theorem all_repeats {sources : List α}
    (each : ∀ source ∈ sources, Repeats (holds source) (compile source)) :
    RepeatsIf (∀ source ∈ sources, holds source) Schema.equalLists
      (all (sources.map compile)) := by
  induction sources with
  | nil => exact (RepeatsIf.constant rfl).congr (by simp)
  | cons source rest ih =>
      obtain ⟨first, others⟩ := List.forall_mem_cons.mp each
      have pair : RepeatsIf (holds source ∧ ∀ source ∈ rest, holds source) Schema.equalLists
          (all ((source :: rest).map compile)) :=
        (first.both (ih others)).image (fun made => made.1.schema :: made.2) fun _ _ => rfl
      exact pair.congr List.forall_mem_cons.symm

theorem entries_repeats {keys : List (String × α)}
    (each : ∀ entry ∈ keys, Repeats (holds entry.2) (compile entry.2)) :
    RepeatsIf (∀ entry ∈ keys, holds entry.2) Schema.equalKeys
      (entries (KeyMap.mapItems compile keys)) := by
  induction keys with
  | nil => exact (RepeatsIf.constant rfl).congr (by simp)
  | cons entry rest ih =>
      obtain ⟨first, others⟩ := List.forall_mem_cons.mp each
      have pair : RepeatsIf (holds entry.2 ∧ ∀ entry ∈ rest, holds entry.2) Schema.equalKeys
          (entries (KeyMap.mapItems compile (entry :: rest))) :=
        (first.both (ih others)).image (fun made => (entry.1, made.1.schema) :: made.2)
          fun _ _ => by rw [Schema.equalKeys, beq_self_eq_true, Bool.true_and]
      exact pair.congr (by rw [List.forall_mem_cons])

theorem optional_repeats {pattern : Option (Pattern × α)}
    (each : ∀ entry ∈ pattern, Repeats (holds entry.2) (compile entry.2)) :
    RepeatsIf (∀ entry ∈ pattern, holds entry.2) Schema.equalPatterns
      (optional (pattern.map fun entry => (entry.1, compile entry.2))) := by
  cases pattern with
  | none => exact (RepeatsIf.constant rfl).congr (by simp)
  | some entry =>
      have made : RepeatsIf (holds entry.2) Schema.equalPatterns
          (optional (some (entry.1, compile entry.2))) :=
        (each entry rfl).image (fun made => some (entry.1, made.schema))
          fun _ _ => by rw [Schema.equalPatterns, beq_self_eq_true, Bool.true_and]
      exact made.congr (by simp)

/-- A node repeats if everything nested in it does. -/
theorem ofNode_repeats {node : Node α}
    (each : ∀ source ∈ node.nested, Repeats (holds source) (compile source)) :
    Repeats (∀ source ∈ node.nested, holds source) (ofNode (node.map compile)) := by
  obtain ⟨keys, pattern, includes, excludes, alternatives⟩ := node.forall_nested_iff.mp each
  have parts := (entries_repeats keys).both ((optional_repeats pattern).both
    ((all_repeats includes).both ((all_repeats excludes).both (all_repeats alternatives))))
  have made := parts.frozen (fun made => Schema.node ⟨node.constraints, made.1, made.2.1,
    made.2.2.1, made.2.2.2.1, made.2.2.2.2⟩) fun first second => by
      rw [Schema.equals_node, node.constraints.equals_self]
      simp only [Bool.true_and, Bool.and_assoc]
  exact made.congr node.forall_nested_iff.symm

end Compilation

namespace Source

/-- No pattern stands in a place of a schema once the chains are folded. -/
inductive IsRepeatable : Source → Prop where
  | frozen (schema : Frozen) : IsRepeatable (.frozen schema)
  | chain {source : Source} {steps : List (Refinement Source)}
      (stands : source.steps? = some steps)
      (below : ∀ nested ∈ (Node.ofRefinements steps).nested, IsRepeatable nested) :
      IsRepeatable source

theorem isRepeatable_iff_of_steps {source : Source} {steps : List (Refinement Source)}
    (stands : source.steps? = some steps) :
    source.IsRepeatable ↔ ∀ nested ∈ (Node.ofRefinements steps).nested, nested.IsRepeatable := by
  constructor
  · intro repeatable
    cases repeatable with
    | frozen schema => cases stands
    | chain stands' below =>
        rw [stands] at stands'
        cases stands'
        exact below
  · exact .chain stands

theorem not_isRepeatable_pattern (given : Pattern) : ¬ (pattern given).IsRepeatable := by
  intro repeatable
  cases repeatable with
  | chain stands below => cases stands

/-- The check of a pattern has an identity that was not taken before. -/
theorem compile_pattern_repeats (given : Pattern) :
    Compilation.Repeats False (pattern given).compile := by
  constructor
  · intro supply
    exact Nat.le_add_right supply.next 2
  · intro supply later apart
    have fresh : (supply.next == later.next) = false :=
      beq_false_of_ne (Nat.ne_of_lt (Nat.lt_of_succ_le (Nat.le_of_succ_le apart)))
    have made (supply : Supply) : ((pattern given).compile supply).1.schema =
        .node { constraints := {
          kind := some .string, checks := [(Rule.matching given).check supply.next] } } := rfl
    rw [made, made, Schema.equals_node]
    simp [Constraints.equals, relatedItems, Check.same, Rule.check, fresh]

theorem compile_repeats (source : Source) :
    Compilation.Repeats source.IsRepeatable source.compile := by
  induction source using chainInduction with
  | frozen schema =>
      have constant : Compilation.Repeats True (Source.frozen schema).compile :=
        .constant schema.schema.equals_self
      exact constant.congr (iff_of_true trivial (.frozen schema))
  | pattern given =>
      exact (compile_pattern_repeats given).congr
        (iff_of_false id (not_isRepeatable_pattern given))
  | chain source steps stands ih =>
      rw [compile_of_steps stands]
      exact (Compilation.ofNode_repeats ih).congr (isRepeatable_iff_of_steps stands).symm

/--
A source that is compiled twice gives equal schemas exactly if no pattern stands
in a place of a schema once its chains are folded, however deep.  All other forms
are stable: chains with the checks and sanitizers that they carry, frozen schemas,
lists, collections and single values.
-/
theorem recompile_equals_iff (source : Source) {supply later : Supply}
    (apart : (source.compile supply).2.next ≤ later.next) :
    (source.compile supply).1.schema.equals (source.compile later).1.schema = true ↔
      source.IsRepeatable :=
  source.compile_repeats.same_iff apart

/-- A pattern that a later step replaces does no harm, nor does a check that the chain carries. -/
theorem recompile_equals_iff_replaced :
    let given := Rule.patternOf "^a$"
    let source : Source := .chain [
      .root (some .object),
      .keys [("a", .pattern given)],
      .keys [("a", .chain [.root (some .string), .satisfy ((Rule.matching given).check 7)])]]
    let first := source.compile {}
    let second := source.compile first.2
    source.IsRepeatable ∧ first.1.schema.equals second.1.schema = true := by
  intro given source first second
  have leaf : (Source.chain
      [.root (some .string), .satisfy ((Rule.matching given).check 7)]).IsRepeatable :=
    .chain rfl nofun
  have repeatable : source.IsRepeatable := by
    refine .chain rfl ?_
    simpa [Node.ofRefinements, Node.refine, Node.nested, KeyMap.overlay, KeyMap.insert] using leaf
  exact ⟨repeatable, (recompile_equals_iff source (Nat.le_refl first.2.next)).mpr repeatable⟩

/-- A pattern for the texts of a member makes two compilations of one chain differ. -/
theorem recompiled_pattern_differs :
    let source : Source := .chain [
      .root (some .object), .keys [("a", .pattern (Rule.patternOf "^a$"))]]
    let first := source.compile {}
    let second := source.compile first.2
    first.1.schema.equals second.1.schema = false :=
  rfl

end Source

end SchemaValidation
