import Mathlib.Tactic.Tauto
import SchemaValidation.Proofs.KeyOrder
import SchemaValidation.Proofs.SchemaTree
import SchemaValidation.Schema.Compilation

/-!
# Sources as trees

A chain of refinements is folded to a node before the schemas nested in it are
compiled, so what is nested in a source is what is left after the fold.  Most
shorthands stand for a chain.  A frozen schema stands for itself, and the chain of
a pattern is made anew every time.
-/

namespace SchemaValidation

variable {α β : Type}

/-- A step with every nested schema replaced by its image. -/
def Refinement.map (f : α → β) : Refinement α → Refinement β
  | .root kind => .root kind
  | .presence demanded => .presence demanded
  | .default value => .default value
  | .allow values => .allow values
  | .valid values => .valid values
  | .invalid values => .invalid values
  | .aliases table => .aliases table
  | .checkAfter check => .checkAfter check
  | .satisfy check => .satisfy check
  | .sanitize sanitizer => .sanitize sanitizer
  | .sanitizeBefore sanitizer => .sanitizeBefore sanitizer
  | .keys entries => .keys (KeyMap.mapItems f entries)
  | .pattern given schema => .pattern given (f schema)
  | .includes schemas => .includes (schemas.map f)
  | .excludes schemas => .excludes (schemas.map f)
  | .alternatives schemas => .alternatives (schemas.map f)
  | .insensitive => .insensitive

/-- The schemas nested in a step. -/
def Refinement.nested : Refinement α → List α
  | .keys entries => entries.map Prod.snd
  | .pattern _ schema => [schema]
  | .includes schemas => schemas
  | .excludes schemas => schemas
  | .alternatives schemas => schemas
  | _ => []

/-! ## Folding a chain -/

namespace Node

theorem refine_map (f : α → β) (node : Node α) (step : Refinement α) :
    (node.refine step).map f = (node.map f).refine (step.map f) := by
  cases step with
  | keys entries =>
      unfold refine Refinement.map Node.map
      dsimp only
      rw [KeyMap.mapItems_overlay]
  | includes schemas | excludes schemas | alternatives schemas =>
      simp [refine, Refinement.map, Node.map]
  | _ => rfl

/-- A chain may be folded before or after its nested schemas are replaced. -/
theorem ofRefinements_map (f : α → β) (steps : List (Refinement α)) :
    ofRefinements (steps.map (Refinement.map f)) = (ofRefinements steps).map f := by
  have folded (node : Node α) : (steps.map (Refinement.map f)).foldl refine (node.map f) =
      (steps.foldl refine node).map f := by
    induction steps generalizing node with
    | nil => rfl
    | cons step rest ih =>
        rw [List.map_cons, List.foldl_cons, List.foldl_cons, ← ih, refine_map]
  exact folded {}

theorem nested_refine {node : Node α} {step : Refinement α} {item : α}
    (member : item ∈ (node.refine step).nested) : item ∈ node.nested ∨ item ∈ step.nested := by
  cases step with
  | keys entries =>
      rcases List.mem_append.mp member with declared | member
      · obtain ⟨entry, stored, rfl⟩ := List.mem_map.mp declared
        rcases KeyMap.mem_overlay stored with old | new
        · exact .inl (List.mem_append_left _ (List.mem_map_of_mem old))
        · exact .inr (List.mem_map_of_mem new)
      · exact .inl (List.mem_append_right _ member)
  | pattern given schema =>
      simp only [refine, Node.nested, Refinement.nested, List.mem_append, Option.map_some,
        Option.toList_some] at member ⊢
      tauto
  | includes schemas | excludes schemas | alternatives schemas =>
      simp only [refine, Node.nested, Refinement.nested, List.mem_append] at member ⊢
      tauto
  | _ => exact .inl member

theorem nested_foldl_refine {steps : List (Refinement α)} {node : Node α} {item : α}
    (member : item ∈ (steps.foldl refine node).nested) :
    item ∈ node.nested ∨ ∃ step ∈ steps, item ∈ step.nested := by
  induction steps generalizing node with
  | nil => exact .inl member
  | cons step rest ih =>
      rcases ih member with member | ⟨other, listed, member⟩
      · rcases nested_refine member with member | member
        · exact .inl member
        · exact .inr ⟨step, List.mem_cons_self, member⟩
      · exact .inr ⟨other, List.mem_cons_of_mem _ listed, member⟩

/-- What is nested in the node of a chain is nested in one of its steps. -/
theorem nested_ofRefinements {steps : List (Refinement α)} {item : α}
    (member : item ∈ (ofRefinements steps).nested) : ∃ step ∈ steps, item ∈ step.nested :=
  (nested_foldl_refine member).resolve_left nofun

end Node

namespace Source

/-! ## What a source stands for -/

/-- The chain that a source stands for, whenever it is compiled. -/
def steps? : Source → Option (List (Refinement Source))
  | chain steps => some steps
  | sequence members => some [.root none, .alternatives members]
  | mapping entries => some [.root (some .object), .keys entries]
  | literal value => some [.root none, .valid [value]]
  | frozen _ => none
  | pattern _ => none

theorem compileItems_eq_map (sources : List Source) :
    compileItems sources = sources.map compile := by
  induction sources with
  | nil => rfl
  | cons source rest ih => exact congrArg (source.compile :: ·) ih

theorem compileEntries_eq_mapItems (entries : List (String × Source)) :
    compileEntries entries = KeyMap.mapItems compile entries := by
  induction entries with
  | nil => rfl
  | cons entry rest ih => exact congrArg ((entry.1, entry.2.compile) :: ·) ih

theorem compileStep_eq_map (step : Refinement Source) : compileStep step = step.map compile := by
  cases step with
  | keys entries => exact congrArg Refinement.keys (compileEntries_eq_mapItems entries)
  | includes schemas => exact congrArg Refinement.includes (compileItems_eq_map schemas)
  | excludes schemas => exact congrArg Refinement.excludes (compileItems_eq_map schemas)
  | alternatives schemas => exact congrArg Refinement.alternatives (compileItems_eq_map schemas)
  | _ => rfl

theorem compileSteps_eq_map (steps : List (Refinement Source)) :
    compileSteps steps = steps.map (Refinement.map compile) := by
  induction steps with
  | nil => rfl
  | cons step rest ih => rw [compileSteps, compileStep_eq_map, ih, List.map_cons]

/-- A source that stands for a chain is compiled like the node of this chain. -/
theorem compile_of_steps {source : Source} {steps : List (Refinement Source)}
    (stands : source.steps? = some steps) :
    source.compile = .ofNode ((Node.ofRefinements steps).map compile) := by
  rw [← Node.ofRefinements_map, ← compileSteps_eq_map]
  cases source <;> cases stands <;> rfl

/-- Induction over a source with one hypothesis for what is left of a chain after the fold. -/
theorem chainInduction {motive : Source → Prop}
    (frozen : ∀ schema, motive (.frozen schema))
    (pattern : ∀ given, motive (.pattern given))
    (chain : ∀ source steps, source.steps? = some steps →
      (∀ nested ∈ (Node.ofRefinements steps).nested, motive nested) → motive source)
    (source : Source) : motive source := by
  have below (source : Source) (steps : List (Refinement Source))
      (stands : source.steps? = some steps)
      (each : ∀ step ∈ steps, ∀ nested ∈ step.nested, motive nested) : motive source :=
    chain source steps stands fun nested member =>
      let ⟨step, listed, inside⟩ := Node.nested_ofRefinements member
      each step listed nested inside
  refine @Source.rec motive
    (fun steps => ∀ step ∈ steps, ∀ nested ∈ step.nested, motive nested)
    (fun sources => ∀ nested ∈ sources, motive nested)
    (fun entries => ∀ entry ∈ entries, motive entry.2)
    (fun step => ∀ nested ∈ step.nested, motive nested)
    (fun entry => motive entry.2)
    frozen (fun steps ih => below _ steps rfl ih) pattern ?sequence ?mapping ?literal
    nofun (fun _ _ first rest => List.forall_mem_cons.mpr ⟨first, rest⟩)
    nofun (fun _ _ first rest => List.forall_mem_cons.mpr ⟨first, rest⟩)
    nofun (fun _ _ first rest => List.forall_mem_cons.mpr ⟨first, rest⟩)
    nofun nofun nofun nofun nofun nofun nofun nofun nofun nofun nofun
    (fun _ ih => List.forall_mem_map.mpr ih) (fun _ _ ih => List.forall_mem_singleton.mpr ih)
    (fun _ ih => ih) (fun _ ih => ih) (fun _ ih => ih) nofun (fun _ _ ih => ih) source
  case sequence =>
    intro members ih
    refine below _ _ rfl (List.forall_mem_cons.mpr ⟨nofun, List.forall_mem_singleton.mpr ?_⟩)
    exact ih
  case mapping =>
    intro entries ih
    refine below _ _ rfl (List.forall_mem_cons.mpr ⟨nofun, List.forall_mem_singleton.mpr ?_⟩)
    exact List.forall_mem_map.mpr ih
  case literal =>
    intro value
    exact below _ _ rfl (List.forall_mem_cons.mpr ⟨nofun, List.forall_mem_singleton.mpr nofun⟩)

end Source

end SchemaValidation
