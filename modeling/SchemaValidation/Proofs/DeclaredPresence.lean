import SchemaValidation.Proofs.ConstraintMap

/-!
# Presences that schemas state

The options say whether a value must be present wherever a schema does not.  The
presence in force is asked for in two places, by the node itself and by the object
whose member it describes, and both ask the root of the same schema.  So it makes
no difference whether the options give a presence or every node that states none
is made to state it.
-/

namespace SchemaValidation

/-- The constraints with a presence unless they state one. -/
def Constraints.statingPresence (presence : Presence) (constraints : Constraints) : Constraints :=
  { constraints with presence := some (constraints.presence.getD presence) }

/-- The schema in which every node that states no presence is made to state the given one. -/
def Schema.statingPresence (schema : Schema) (presence : Presence) : Schema :=
  schema.mapConstraints (Constraints.statingPresence presence)

/-- A presence that is stated is in force whatever the options say, and no other step asks for it. -/
theorem Constraints.stepsAgree_statingPresence (capabilities : Capabilities) (options : Options)
    (other : Presence) (constraints : Constraints) :
    constraints.StepsAgree capabilities options { options with presence := other } (· = ·)
      (constraints.statingPresence options.presence) where
  kind := rfl
  presence := rfl
  default := rfl
  arrive _ _ := ⟨rfl, rfl⟩
  leave _ _ := ⟨rfl, rfl⟩

/--
A presence in the options is the same as that presence on every node.  A walk
under options with one presence comes to the same value, the same errors and the
same trail as the walk under options with any other presence along the schema in
which every node that states none states the first.
-/
theorem Schema.walk_statingPresence (capabilities : Capabilities) (options : Options)
    (other : Presence) (schema : Schema) (value : Value) (path : String) (trail : Trail) :
    walk capabilities { options with presence := other }
        (schema.statingPresence options.presence) value path trail =
      walk capabilities options schema value path trail := by
  have members : options.AgreeOnMembers { options with presence := other } :=
    ⟨rfl, rfl, rfl, rfl⟩
  have steps (constraints : Constraints) :=
    constraints.stepsAgree_statingPresence capabilities options other
  have agrees := schema.walk_agrees Trail.comparison_eq members steps value path
    (rfl : trail = trail)
  exact Prod.ext agrees.result.symm agrees.trail.symm

end SchemaValidation
