import SchemaValidation.Rule
import SchemaValidation.Schema.Source

/-!
# Compilation

Compiling a source folds its chain, compiles every schema nested in it, and
freezes the result under a new identity. A schema that is frozen already is
returned as it is. A shorthand compiles like the chain it stands for; the chain
of a pattern contains a check that is made anew every time.
-/

namespace SchemaValidation

/-- What compilation draws on: the next unused identity, and how many schemas were frozen. -/
structure Supply where
  next : Nat := 0
  freezes : Nat := 0

namespace Supply

/-- The supply after its next identity was taken. -/
def advance (supply : Supply) : Supply :=
  { supply with next := supply.next + 1 }

/-- A schema frozen under the next identity. -/
def freeze (supply : Supply) (schema : Schema) : Frozen × Supply :=
  (⟨supply.next, schema⟩, ⟨supply.next + 1, supply.freezes + 1⟩)

end Supply

/-- A compilation that is yet to be supplied. -/
abbrev Compilation : Type := Supply → Frozen × Supply

namespace Compilation

/-- The schemas of some compilations, made one after the other. -/
def all : List Compilation → Supply → List Schema × Supply
  | [], supply => ([], supply)
  | compile :: rest, supply =>
      let (frozen, supply) := compile supply
      let (schemas, supply) := all rest supply
      (frozen.schema :: schemas, supply)

/-- The schemas of some named compilations, made one after the other. -/
def entries : List (String × Compilation) → Supply → List (String × Schema) × Supply
  | [], supply => ([], supply)
  | (key, compile) :: rest, supply =>
      let (frozen, supply) := compile supply
      let (schemas, supply) := entries rest supply
      ((key, frozen.schema) :: schemas, supply)

/-- The schema of a compilation that may be missing. -/
def optional : Option (Pattern × Compilation) → Supply → Option (Pattern × Schema) × Supply
  | none, supply => (none, supply)
  | some (pattern, compile), supply =>
      let (frozen, supply) := compile supply
      (some (pattern, frozen.schema), supply)

/-- The frozen schema of a node whose nested schemas are yet to be compiled. -/
def ofNode (node : Node Compilation) : Compilation := fun supply =>
  let (keys, supply) := entries node.keys supply
  let (pattern, supply) := optional node.pattern supply
  let (includes, supply) := all node.includes supply
  let (excludes, supply) := all node.excludes supply
  let (alternatives, supply) := all node.alternatives supply
  supply.freeze (.node ⟨node.constraints, keys, pattern, includes, excludes, alternatives⟩)

/-- The frozen schema of a chain whose nested schemas are yet to be compiled. -/
def ofRefinements (steps : List (Refinement Compilation)) : Compilation :=
  ofNode (Node.ofRefinements steps)

end Compilation

namespace Source

mutual

/-- The compilation of a source. -/
def compile : Source → Compilation
  | frozen schema => fun supply => (schema, supply)
  | chain steps => .ofRefinements (compileSteps steps)
  | .pattern given => fun supply =>
      Compilation.ofRefinements
        [.root (some .string), .satisfy ((Rule.matching given).check supply.next)] supply.advance
  | sequence members => .ofRefinements [.root none, .alternatives (compileItems members)]
  | mapping entries => .ofRefinements [.root (some .object), .keys (compileEntries entries)]
  | literal value => .ofRefinements [.root none, .valid [value]]
termination_by structural source => source

/-- The steps of a chain, with nested schemas replaced by their compilations. -/
def compileSteps : List (Refinement Source) → List (Refinement Compilation)
  | [] => []
  | step :: rest => compileStep step :: compileSteps rest
termination_by structural steps => steps

/-- A step with nested schemas replaced by their compilations. -/
def compileStep : Refinement Source → Refinement Compilation
  | .root kind => .root kind
  | .presence presence => .presence presence
  | .default value => .default value
  | .allow values => .allow values
  | .valid values => .valid values
  | .invalid values => .invalid values
  | .aliases table => .aliases table
  | .checkAfter check => .checkAfter check
  | .satisfy check => .satisfy check
  | .sanitize sanitizer => .sanitize sanitizer
  | .sanitizeBefore sanitizer => .sanitizeBefore sanitizer
  | .keys entries => .keys (compileEntries entries)
  | .pattern given schema => .pattern given (compile schema)
  | .includes schemas => .includes (compileItems schemas)
  | .excludes schemas => .excludes (compileItems schemas)
  | .alternatives schemas => .alternatives (compileItems schemas)
  | .insensitive => .insensitive
termination_by structural step => step

/-- The compilations of some sources. -/
def compileItems : List Source → List Compilation
  | [] => []
  | source :: rest => compile source :: compileItems rest
termination_by structural sources => sources

/-- The compilations of some named sources. -/
def compileEntries : List (String × Source) → List (String × Compilation)
  | [] => []
  | (key, source) :: rest => (key, compile source) :: compileEntries rest
termination_by structural entries => entries

end

end Source

end SchemaValidation
