import SchemaValidation.Schema.Basic
import SchemaValidation.Value.Merge

/-!
# Refinements

A schema is described by a chain of refinements, the first of which names its
kind. Folding the chain gives a node: lists grow at their ends, members with
declared names and aliases are laid over the earlier ones, and everything else
takes what was said last.
-/

namespace SchemaValidation

/-- One step of the description of a schema, nested schemas being of type `α`. -/
inductive Refinement (α : Type) where
  | root (kind : Option Kind)
  | presence (presence : Presence)
  | default (value : Value)
  | allow (values : List Value)
  | valid (values : List Value)
  | invalid (values : List Value)
  | aliases (table : Record)
  | checkAfter (check : Check)
  | satisfy (check : Check)
  | sanitize (sanitizer : Sanitizer)
  | sanitizeBefore (sanitizer : Sanitizer)
  | keys (entries : List (String × α))
  | pattern (pattern : Pattern) (schema : α)
  | includes (schemas : List α)
  | excludes (schemas : List α)
  | alternatives (schemas : List α)
  | insensitive

/-- The name of a step. -/
def Refinement.name {α : Type} : Refinement α → String
  | root _ => "root"
  | presence _ => "presence"
  | default _ => "default"
  | allow _ => "allow"
  | valid _ => "valid"
  | invalid _ => "invalid"
  | aliases _ => "alias"
  | checkAfter _ => "checkAfter"
  | satisfy _ => "satisfy"
  | sanitize _ => "sanitize"
  | sanitizeBefore _ => "sanitizeBefore"
  | keys _ => "keys"
  | pattern _ _ => "pattern"
  | includes _ => "includes"
  | excludes _ => "excludes"
  | alternatives _ => "alternatives"
  | insensitive => "insensitive"

namespace Constraints

/-- The constraints after one more step. Steps on nested schemas leave them as they are. -/
def refine {α : Type} (constraints : Constraints) : Refinement α → Constraints
  | .root kind => { constraints with kind := kind }
  | .presence presence => { constraints with presence := some presence }
  | .default value => { constraints with default := value }
  | .allow values => { constraints with allowed := constraints.allowed ++ values }
  | .valid values => { constraints with valid := constraints.valid ++ values }
  | .invalid values => { constraints with invalid := constraints.invalid ++ values }
  | .aliases table => { constraints with aliases := constraints.aliases.merge table }
  | .checkAfter check => { constraints with checksAfter := constraints.checksAfter ++ [check] }
  | .satisfy check => { constraints with checks := constraints.checks ++ [check] }
  | .sanitize sanitizer => { constraints with sanitize := constraints.sanitize ++ [sanitizer] }
  | .sanitizeBefore sanitizer =>
      { constraints with sanitizeBefore := constraints.sanitizeBefore ++ [sanitizer] }
  | .insensitive => { constraints with insensitive := true }
  | .keys _ => constraints
  | .pattern _ _ => constraints
  | .includes _ => constraints
  | .excludes _ => constraints
  | .alternatives _ => constraints

end Constraints

namespace Node

/-- The node after one more step. -/
def refine {α : Type} (node : Node α) (step : Refinement α) : Node α :=
  match step with
  | .keys entries => { node with keys := KeyMap.overlay node.keys entries }
  | .pattern pattern schema => { node with pattern := some (pattern, schema) }
  | .includes schemas => { node with includes := node.includes ++ schemas }
  | .excludes schemas => { node with excludes := node.excludes ++ schemas }
  | .alternatives schemas => { node with alternatives := node.alternatives ++ schemas }
  | step => { node with constraints := node.constraints.refine step }

/-- The node that a chain of steps describes. -/
def ofRefinements {α : Type} (steps : List (Refinement α)) : Node α :=
  steps.foldl refine {}

end Node

end SchemaValidation
