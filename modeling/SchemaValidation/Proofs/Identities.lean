import SchemaValidation.Engine.Basic
import SchemaValidation.Proofs.CheckInfluence
import SchemaValidation.Proofs.SourceTree

/-!
# Validation and identities

Checks have identities so that schemas can be compared, but a walk never asks for
them.  All that a compilation takes from the supply are identities, and so a source
describes one schema, whatever the supply is.  What an engine answers to a validation
is read off this schema, and does not depend on what it was used for before.
-/

namespace SchemaValidation

open Trail

/-- The check with an identity that says nothing. -/
def Check.anonymous (check : Check) : Check :=
  { check with identity := 0 }

/-- The constraints with checks whose identities say nothing. -/
def Constraints.anonymous (constraints : Constraints) : Constraints :=
  { constraints with
    checks := constraints.checks.map Check.anonymous
    checksAfter := constraints.checksAfter.map Check.anonymous }

/-- The schema with checks whose identities say nothing. -/
def Schema.anonymous (schema : Schema) : Schema :=
  schema.mapConstraints Constraints.anonymous

/-! ## Walks -/

section Walks

variable {capabilities : Capabilities} {path : String} {value : Value}

theorem runChecks_anonymous (checks : List Check) (trail : Trail) :
    runChecks path value (checks.map Check.anonymous) trail = runChecks path value checks trail := by
  induction checks generalizing trail with
  | nil => rfl
  | cons check rest ih =>
      have judged : check.anonymous.judge = check.judge := rfl
      rw [List.map_cons]
      unfold runChecks
      simp only [judged, ih]
      rfl

theorem runChecksAfter_anonymous (checks : List Check) (trail : Trail) :
    runChecksAfter capabilities path value (checks.map Check.anonymous) trail =
      runChecksAfter capabilities path value checks trail := by
  induction checks generalizing trail with
  | nil => rfl
  | cons check rest ih =>
      have judged : check.anonymous.judge = check.judge := rfl
      rw [List.map_cons]
      unfold runChecksAfter
      simp only [judged, ih]
      rfl

end Walks

/-- A walk does not ask for the identities of checks. -/
theorem Schema.walk_anonymous (capabilities : Capabilities) (options : Options) (schema : Schema)
    (value : Value) (path : String) (trail : Trail) :
    walk capabilities options schema.anonymous value path trail =
      walk capabilities options schema value path trail := by
  have steps (constraints : Constraints) :
      constraints.StepsAgree capabilities options options (· = ·) constraints.anonymous :=
    Constraints.stepsAgree_of_checks comparison_eq
      (fun _ _ => by rw [runChecks_anonymous]; exact .refl comparison_eq _)
      (fun _ _ => (runChecksAfter_anonymous _ _).symm)
  have agrees := schema.walk_agrees comparison_eq (.refl options) steps value path (rfl : trail = trail)
  exact Prod.ext agrees.result.symm agrees.trail.symm

/-! ## Compilations -/

/-- The image of a node without identities, from the images of its parts. -/
theorem Schema.anonymous_node {node : Node Schema} {keys : List (String × Schema)}
    {pattern : Option (Pattern × Schema)} {includes excludes alternatives : List Schema}
    (ofKeys : KeyMap.mapItems anonymous node.keys = keys)
    (ofPattern : node.pattern.map (fun entry => (entry.1, entry.2.anonymous)) = pattern)
    (ofIncludes : node.includes.map anonymous = includes)
    (ofExcludes : node.excludes.map anonymous = excludes)
    (ofAlternatives : node.alternatives.map anonymous = alternatives) :
    (Schema.node node).anonymous =
      .node ⟨node.constraints.anonymous, keys, pattern, includes, excludes, alternatives⟩ := by
  subst ofKeys ofPattern ofIncludes ofExcludes ofAlternatives
  exact mapConstraints_node node

namespace Compilation

/-- The schema that a compilation makes, up to identities. -/
def schema (compile : Compilation) : Schema :=
  (compile {}).1.schema.anonymous

/-- Whatever it is supplied with, the compilation makes the same schema up to identities. -/
def IsSteady (compile : Compilation) : Prop :=
  ∀ supply supply', (compile supply).1.schema.anonymous = (compile supply').1.schema.anonymous

variable (supply : Supply)

theorem all_anonymous {compilations : List Compilation}
    (each : ∀ compile ∈ compilations, IsSteady compile) :
    (all compilations supply).1.map Schema.anonymous = compilations.map schema := by
  induction compilations generalizing supply with
  | nil => rfl
  | cons compile rest ih =>
      obtain ⟨first, others⟩ := List.forall_mem_cons.mp each
      have made : (all (compile :: rest) supply).1 =
          (compile supply).1.schema :: (all rest (compile supply).2).1 := rfl
      rw [made, List.map_cons, List.map_cons, ih _ others, first supply {}]
      rfl

theorem entries_anonymous {keys : List (String × Compilation)}
    (each : ∀ entry ∈ keys, IsSteady entry.2) :
    KeyMap.mapItems Schema.anonymous (entries keys supply).1 = KeyMap.mapItems schema keys := by
  induction keys generalizing supply with
  | nil => rfl
  | cons entry rest ih =>
      obtain ⟨first, others⟩ := List.forall_mem_cons.mp each
      have made : KeyMap.mapItems Schema.anonymous (entries (entry :: rest) supply).1 =
          (entry.1, (entry.2 supply).1.schema.anonymous) ::
            KeyMap.mapItems Schema.anonymous (entries rest (entry.2 supply).2).1 := rfl
      rw [made, ih _ others, first supply {}]
      rfl

theorem optional_anonymous {pattern : Option (Pattern × Compilation)}
    (each : ∀ entry ∈ pattern, IsSteady entry.2) :
    (optional pattern supply).1.map (fun entry => (entry.1, entry.2.anonymous)) =
      pattern.map fun entry => (entry.1, schema entry.2) := by
  cases pattern with
  | none => rfl
  | some entry => exact congrArg (fun made => some (entry.1, made)) (each entry rfl supply {})

/-- A node is made of what everything nested in it makes. -/
theorem ofNode_anonymous {node : Node Compilation}
    (each : ∀ compile ∈ node.nested, IsSteady compile) :
    (ofNode node supply).1.schema.anonymous =
      .node { node.map schema with constraints := node.constraints.anonymous } := by
  obtain ⟨keys, pattern, includes, excludes, alternatives⟩ := node.forall_nested_iff.mp each
  exact Schema.anonymous_node (entries_anonymous _ keys) (optional_anonymous _ pattern)
    (all_anonymous _ includes) (all_anonymous _ excludes) (all_anonymous _ alternatives)

end Compilation

theorem Source.nested_isSteady {node : Node Source}
    (each : ∀ source ∈ node.nested, source.compile.IsSteady) :
    ∀ making ∈ (node.map Source.compile).nested, Compilation.IsSteady making := by
  intro making member
  rw [Node.nested_map] at member
  obtain ⟨source, below, rfl⟩ := List.mem_map.mp member
  exact each source below

theorem Source.compile_isSteady (source : Source) : source.compile.IsSteady := by
  induction source using chainInduction with
  | frozen schema => exact fun _ _ => rfl
  | pattern given => exact fun _ _ => rfl
  | chain source steps stands ih =>
      rw [compile_of_steps stands]
      exact fun supply supply' => (Compilation.ofNode_anonymous supply (nested_isSteady ih)).trans
        (Compilation.ofNode_anonymous supply' (nested_isSteady ih)).symm

/-- The schema that a source describes, up to identities. -/
def Source.schema (source : Source) : Schema :=
  source.compile.schema

theorem Source.compile_anonymous (source : Source) (supply : Supply) :
    (source.compile supply).1.schema.anonymous = source.schema :=
  source.compile_isSteady supply {}

/-- A source that stands for a chain describes the node of this chain. -/
theorem Source.schema_of_steps {source : Source} {steps : List (Refinement Source)}
    (stands : source.steps? = some steps) :
    source.schema = .node { (Node.ofRefinements steps).map Source.schema with
      constraints := (Node.ofRefinements steps).constraints.anonymous } := by
  rw [Source.schema, compile_of_steps stands]
  refine (Compilation.ofNode_anonymous {}
    (nested_isSteady fun source _ => source.compile_isSteady)).trans ?_
  rw [Node.map_map]
  rfl

/-! ## Engines -/

namespace Engine

variable (engine : Engine) (ledger ledger' : Ledger)

theorem readOptions_eq_of_ledger (bag : Value) :
    (engine.readOptions bag ledger).1 = (engine.readOptions bag ledger').1 := by
  unfold readOptions
  split
  · dsimp only
    split
    · split <;> rfl
    · rfl
  · rfl

/-- A validation delivers what the walk along the described schema delivers. -/
theorem validateWith_schema (value : Value) (source : Source) (options : Options) :
    let walked := source.schema.walk engine.capabilities options value "" {}
    (engine.validateWith value source options ledger).1 =
      ⟨walked.1.value, walked.1.errors, walked.2.warnings⟩ := by
  have same := Schema.walk_anonymous engine.capabilities options
    (source.compile ledger.supply).1.schema value "" {}
  rw [Source.compile_anonymous] at same
  rw [same]
  rfl

theorem validateWith_eq_of_ledger (value : Value) (source : Source) (options : Options) :
    (engine.validateWith value source options ledger).1 =
      (engine.validateWith value source options ledger').1 :=
  (engine.validateWith_schema ledger value source options).trans
    (engine.validateWith_schema ledger' value source options).symm

/-- What a validation comes to does not depend on what the engine was used for before. -/
theorem validate_eq_of_ledger (value : Value) (source : Source) (bag : Value) :
    (engine.validate value source bag ledger).1 = (engine.validate value source bag ledger').1 := by
  have read := engine.readOptions_eq_of_ledger ledger ledger' bag
  unfold validate
  rcases run : engine.readOptions bag ledger with ⟨error | options, after⟩
  all_goals
    rcases run' : engine.readOptions bag ledger' with ⟨result, after'⟩
    rw [run, run'] at read
    cases read
  · rfl
  · exact congrArg Except.ok (engine.validateWith_eq_of_ledger after after' value source options)

end Engine

end SchemaValidation
