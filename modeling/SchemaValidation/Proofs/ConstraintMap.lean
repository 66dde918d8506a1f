import SchemaValidation.Proofs.Agreement

/-!
# Schemas with other constraints

Two schemas of one form differ only in the constraints of their nodes.  If at
every position the two constraints take steps that agree, whatever value arrives
and whatever becomes of its parts, then the walks along the two schemas agree.
-/

namespace SchemaValidation

/-- Under the second options the second constraints take the steps that the first ones take under
the first options. -/
structure Constraints.StepsAgree (capabilities : Capabilities) (options options' : Options)
    (same : Trail → Trail → Prop) (given other : Constraints) : Prop where
  kind : other.kind = given.kind
  presence : other.effectivePresence options' = given.effectivePresence options
  default : other.default = given.default
  arrive : ∀ value path,
    Agrees same (given.arrive options path value {}) (other.arrive options' path value {})
  leave : ∀ descent path, Agrees same (given.leave capabilities options path descent {})
    (other.leave capabilities options' path descent {})

open Trail

variable {capabilities : Capabilities} {options options' : Options}
  {same : Trail → Trail → Prop} {trail trail' : Trail}

namespace Constraints.StepsAgree

variable {given other : Constraints}
  (steps : StepsAgree capabilities options options' same given other)
  (members : options.AgreeOnMembers options')
include steps members

theorem failAll_eq (value : Value) (errors : List Report) :
    other.failAll options' value errors = given.failAll options value errors := by
  unfold failAll downgrades
  rw [steps.default, steps.presence, members.warnOnInvalidOptionals]

theorem fail_eq (report : Report) : other.fail options' report = given.fail options report := by
  unfold fail
  rw [steps.default, steps.failAll_eq members]

theorem absent_eq (path : String) : other.absent options' path = given.absent options path := by
  funext trail
  unfold absent
  rw [steps.presence, steps.default]
  cases given.effectivePresence options with
  | required => exact congrFun (steps.failAll_eq members _ _) trail
  | optional | forbidden => rfl

end Constraints.StepsAgree

namespace Schema

/-! ## Replacing the constraints of all nodes -/

mutual

/-- The schema with the constraints of every node replaced by their image. -/
def mapConstraints (image : Constraints → Constraints) : Schema → Schema
  | .node ⟨constraints, keys, pattern, includes, excludes, alternatives⟩ =>
      .node ⟨image constraints, mapInEntries image keys, mapInPattern image pattern,
        mapInItems image includes, mapInItems image excludes, mapInItems image alternatives⟩
termination_by structural schema => schema

/-- The named schemas with the constraints of every node replaced. -/
def mapInEntries (image : Constraints → Constraints) : List (String × Schema) →
    List (String × Schema)
  | [] => []
  | (key, schema) :: rest => (key, mapConstraints image schema) :: mapInEntries image rest
termination_by structural keys => keys

/-- The schema for the names that fit a pattern with the constraints of every node replaced. -/
def mapInPattern (image : Constraints → Constraints) : Option (Pattern × Schema) →
    Option (Pattern × Schema)
  | none => none
  | some (pattern, schema) => some (pattern, mapConstraints image schema)
termination_by structural pattern => pattern

/-- The schemas with the constraints of every node replaced. -/
def mapInItems (image : Constraints → Constraints) : List Schema → List Schema
  | [] => []
  | schema :: rest => mapConstraints image schema :: mapInItems image rest
termination_by structural schemas => schemas

end

variable {image : Constraints → Constraints}

theorem mapInEntries_eq_mapItems (keys : List (String × Schema)) :
    mapInEntries image keys = KeyMap.mapItems (mapConstraints image) keys := by
  induction keys with
  | nil => rfl
  | cons entry rest ih => exact congrArg ((entry.1, entry.2.mapConstraints image) :: ·) ih

theorem mapInItems_eq_map (schemas : List Schema) :
    mapInItems image schemas = schemas.map (mapConstraints image) := by
  induction schemas with
  | nil => rfl
  | cons schema rest ih => exact congrArg (schema.mapConstraints image :: ·) ih

theorem mapConstraints_node (parts : Node Schema) :
    (node parts).mapConstraints image = .node { parts.map (mapConstraints image) with
      constraints := image parts.constraints } := by
  obtain ⟨constraints, keys, pattern, includes, excludes, alternatives⟩ := parts
  rw [mapConstraints, mapInEntries_eq_mapItems, mapInItems_eq_map, mapInItems_eq_map,
    mapInItems_eq_map]
  cases pattern <;> rfl

theorem mapConstraints_root (schema : Schema) :
    (schema.mapConstraints image).root.constraints = image schema.root.constraints := by
  obtain ⟨parts⟩ := schema
  rw [mapConstraints_node]
  rfl

/-- A condition that holds of every image holds at every node. -/
theorem everywhere_mapConstraints (holds : Constraints → Prop)
    (each : ∀ constraints, holds (image constraints)) (schema : Schema) :
    (schema.mapConstraints image).Everywhere fun node => holds node.constraints := by
  induction schema using nestedInduction with
  | node parts below =>
      rw [mapConstraints_node]
      refine .node (each parts.constraints) ?_
      intro schema member
      change schema ∈ (parts.map (mapConstraints image)).nested at member
      rw [Node.nested_map] at member
      obtain ⟨original, nested, rfl⟩ := List.mem_map.mp member
      exact below original nested

/-! ## Walks along both schemas -/

section Node

variable (comparison : Comparison same) (members : options.AgreeOnMembers options')
  (steps : ∀ constraints : Constraints,
    constraints.StepsAgree capabilities options options' same (image constraints))
  {node : Node Schema}
  (below : ∀ schema ∈ node.nested, ∀ value path,
    Agrees same (walk capabilities options schema value path {})
      (walk capabilities options' (schema.mapConstraints image) value path {}))
include comparison members steps below

theorem descend_agrees (entered : Value) (path : String) (before : same trail trail') :
    Agrees same (descend capabilities options node entered path trail)
      (descend capabilities options' { node.map (mapConstraints image) with
        constraints := image node.constraints } entered path trail') := by
  have presence : ∀ entry ∈ node.keys,
      (entry.2.mapConstraints image).root.constraints.effectivePresence options' =
        entry.2.root.constraints.effectivePresence options := by
    intro entry _
    rw [mapConstraints_root]
    exact (steps entry.2.root.constraints).presence
  unfold descend
  rw [(steps node.constraints).kind]
  split
  · exact descendObject_agrees comparison members presence
      (fun entry member => below entry.2 (Node.nested_of_key member) _ _)
      (fun _ _ _ _ _ _ schema described _ =>
        below schema (Node.nested_of_pattern described) _ _) before
  · exact descendArray_agrees comparison below before
  · exact ⟨rfl, before⟩

theorem settlePlain_agrees (value : Value) (path : String) (before : same trail trail') :
    Agrees same (settlePlain capabilities options node value path trail)
      (settlePlain capabilities options' { node.map (mapConstraints image) with
        constraints := image node.constraints } value path trail') := by
  have step := steps node.constraints
  obtain ⟨arrived, after⟩ := (step.arrive value path).on comparison
    (node.constraints.arrive_onlyAdds options path value)
    ((image node.constraints).arrive_onlyAdds options' path value) before
  unfold settlePlain
  dsimp only
  rcases run : node.constraints.arrive options path value trail with
    ⟨accepted | report | entered, left⟩
  all_goals
    rcases run' : (image node.constraints).arrive options' path value trail' with
      ⟨arrival, left'⟩
    rw [run, run'] at arrived after
    cases arrived
  · exact ⟨rfl, after⟩
  · dsimp only
    rw [step.fail_eq members]
    exact .of_onlyAdds comparison (node.constraints.fail_onlyAdds options report) after
  · have descended := descend_agrees comparison members steps below entered path after
    dsimp only
    rw [← descended.result]
    exact (step.leave _ path).on comparison
      (node.constraints.leave_onlyAdds capabilities options path _)
      ((image node.constraints).leave_onlyAdds capabilities options' path _) descended.trail

end Node

/-- If the steps at every position agree, the walks along the two schemas agree. -/
theorem walk_agrees (comparison : Comparison same) (members : options.AgreeOnMembers options')
    (steps : ∀ constraints : Constraints,
      constraints.StepsAgree capabilities options options' same (image constraints))
    (schema : Schema) (value : Value) (path : String) (before : same trail trail') :
    Agrees same (walk capabilities options schema value path trail)
      (walk capabilities options' (schema.mapConstraints image) value path trail') := by
  induction schema using nestedInduction generalizing value path trail trail' with
  | node parts below =>
      have step := steps parts.constraints
      have union : (parts.map (mapConstraints image)).alternatives.isEmpty =
          parts.alternatives.isEmpty := List.isEmpty_map
      rw [mapConstraints_node, walk_node, walk_node, step.presence, step.absent_eq members,
        step.failAll_eq members, union]
      split
      · exact .of_onlyAdds comparison (parts.constraints.absent_onlyAdds options path) before
      · split
        · exact .of_onlyAdds comparison (parts.constraints.failAll_onlyAdds options _ _) before
        · split
          · exact settleUnion_agrees comparison
              (fun schema member => below schema member value path (comparison.refl {}))
              (step.fail_eq members) before
          · exact settlePlain_agrees comparison members steps
              (fun schema member value path => below schema member value path (comparison.refl {}))
              value path before

end Schema

end SchemaValidation
