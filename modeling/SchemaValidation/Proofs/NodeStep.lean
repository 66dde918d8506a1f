import SchemaValidation.Validation.Walk

/-!
# One node of a walk

A walk takes the same steps at every node.  They are named here one by one, and
`walk_node` says that a walk is made of them, so that a law of the walk follows
from one law of every step.
-/

namespace SchemaValidation.Schema

variable (capabilities : Capabilities) (options : Options)

/-- The outcome for a record at a node that calls for an object. -/
def descendObject (node : Node Schema) (record : Record) (path : String) (trail : Trail) :
    Outcome × Trail :=
  let ownKeys := capabilities.ownKeys record
  let hasUnknown := ownKeys.any fun key => !KeyMap.contains key node.keys
  let whole := if hasUnknown then record.toValue else .undefined
  let (assembly, trail) :=
    walkKeys capabilities options node.keys record.members path {} trail.countOwnKeys
  let others := record.members.filter fun entry => !KeyMap.contains entry.1 node.keys
  let (assembly, trail) :=
    Assembly.settleOthers options path whole (walkFitting capabilities options node.pattern path)
      ownKeys others assembly trail
  (⟨.object record.className assembly.members, assembly.errors⟩, trail)

/-- What becomes of an item at a node that calls for a list. -/
def chooseItem (node : Node Schema) (item : Value) (path : String) (trail : Trail) :
    Except (List Report) Value × Trail :=
  if node.includes.isEmpty then walkExcluded capabilities options node.excludes item path trail
  else walkFirst capabilities options node.includes item path [] trail

/-- The outcome for a list at a node that calls for one. -/
def descendArray (node : Node Schema) (items : List Value) (path : String) (trail : Trail) :
    Outcome × Trail :=
  if node.includes.isEmpty && node.excludes.isEmpty then (⟨.array items, []⟩, trail)
  else
    let (values, errors, trail) :=
      settleItems path (chooseItem capabilities options node) 0 items trail
    (⟨.array values, errors⟩, trail)

/-- The outcome for the parts of a value that has entered a node. -/
def descend (node : Node Schema) (entered : Value) (path : String) (trail : Trail) :
    Outcome × Trail :=
  match node.constraints.kind with
  | some .object => descendObject capabilities options node entered.recordOrEmpty path trail
  | some .array => descendArray capabilities options node entered.itemsOrEmpty path trail
  | _ => (⟨entered, []⟩, trail)

/-- The outcome for a value at a node that is a union. -/
def settleUnion (node : Node Schema) (value : Value) (path : String) (trail : Trail) :
    Outcome × Trail :=
  match walkFirst capabilities options node.alternatives value path [] trail with
  | (.ok chosen, trail) => (⟨chosen, []⟩, trail)
  | (.error _, trail) =>
      node.constraints.fail options (.of .noAlternativeMatched path value) trail

/-- The outcome for a value at a node that is no union. -/
def settlePlain (node : Node Schema) (value : Value) (path : String) (trail : Trail) :
    Outcome × Trail :=
  match node.constraints.arrive options path value trail with
  | (.accepted accepted, trail) => (⟨accepted, []⟩, trail)
  | (.rejected report, trail) => node.constraints.fail options report trail
  | (.entered entered, trail) =>
      let (descent, trail) := descend capabilities options node entered path trail
      node.constraints.leave capabilities options path descent trail

/-- A walk is made of the steps above. -/
theorem walk_node (node : Node Schema) (value : Value) (path : String) (trail : Trail) :
    walk capabilities options (.node node) value path trail =
      if value.isUndefined then node.constraints.absent options path trail
      else if node.constraints.effectivePresence options = .forbidden then
        node.constraints.failAll options .undefined [.of .forbiddenEncountered path value] trail
      else if !node.alternatives.isEmpty then
        settleUnion capabilities options node value path trail
      else settlePlain capabilities options node value path trail := by
  obtain ⟨constraints, keys, pattern, includes, excludes, alternatives⟩ := node
  rfl

section Present

variable {capabilities options} {node : Node Schema} {value : Value} {path : String}
  {trail : Trail} (present : value.isUndefined = false)
include present

theorem walk_of_forbidden
    (forbidden : node.constraints.effectivePresence options = .forbidden) :
    walk capabilities options (.node node) value path trail =
      node.constraints.failAll options .undefined [.of .forbiddenEncountered path value]
        trail := by
  rw [walk_node, if_neg (by simp [present]), if_pos forbidden]

variable (admitted : node.constraints.effectivePresence options ≠ .forbidden)
include admitted

theorem walk_eq_settleUnion (union : node.alternatives ≠ []) :
    walk capabilities options (.node node) value path trail =
      settleUnion capabilities options node value path trail := by
  rw [walk_node, if_neg (by simp [present]), if_neg admitted, if_pos (by simpa using union)]

theorem walk_eq_settlePlain (plain : node.alternatives = []) :
    walk capabilities options (.node node) value path trail =
      settlePlain capabilities options node value path trail := by
  rw [walk_node, if_neg (by simp [present]), if_neg admitted, if_neg (by simp [plain])]

end Present

end SchemaValidation.Schema
