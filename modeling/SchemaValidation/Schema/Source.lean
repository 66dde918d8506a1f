import SchemaValidation.Schema.Refinement

/-!
# Sources of schemas

Wherever a schema is asked for, it can be given as a chain of refinements, as a
schema that is frozen already, or as a shorthand: a pattern for the texts that
it matches, a list for a union, a collection for an object with those members,
and a single value for itself.
-/

namespace SchemaValidation

/-- A schema in one of the forms in which it can be given. -/
inductive Source where
  | frozen (schema : Frozen)
  | chain (steps : List (Refinement Source))
  | pattern (pattern : Pattern)
  | sequence (members : List Source)
  | mapping (entries : List (String × Source))
  | literal (value : Value)

namespace Source

/-- Whether the schema is frozen already. -/
def isFrozen : Source → Bool
  | frozen _ => true
  | _ => false

/-- The chain with one more step. Sources of other forms have no chain. -/
def refine? (step : Refinement Source) : Source → Option Source
  | chain steps => some (chain (steps ++ [step]))
  | _ => none

mutual

/-- The shorthand that a value is. -/
def ofValue : Value → Source
  | .array items => sequence (ofItems items)
  | .object _ members => mapping (ofMembers members)
  | value => literal value

/-- The shorthands that items are. -/
def ofItems : List Value → List Source
  | [] => []
  | item :: rest => ofValue item :: ofItems rest

/-- The shorthands that members are. -/
def ofMembers : List (String × Value) → List (String × Source)
  | [] => []
  | (key, item) :: rest => (key, ofValue item) :: ofMembers rest

end

/-- The union of some schemas, tried in order. -/
def union (members : List Source) : Source :=
  chain [.root none, .alternatives members]

end Source

end SchemaValidation
