import SchemaValidation.Check
import SchemaValidation.Pattern.Basic
import SchemaValidation.Value.Equality

/-!
# Schemas

A schema is a tree. A node carries the constraints on the value at its position
and the schemas for the parts of that value: members with a declared name,
other members whose name matches a pattern, items that a list must or must not
consist of, and the alternatives of a union. The type of a node leaves open what
stands for the nested schemas, so that it also describes schemas in the making.
-/

namespace SchemaValidation

/-- Whether a value must be present, may be, or must not be. -/
inductive Presence where
  | required
  | optional
  | forbidden
deriving DecidableEq

namespace Presence

/-- The name of a presence. -/
def name : Presence → String
  | required => "required"
  | optional => "optional"
  | forbidden => "forbidden"

/-- The presence with a name. -/
def ofName? (name : String) : Option Presence :=
  [required, optional, forbidden].find? fun presence => presence.name == name

/-- The message about a name that no presence has. -/
def unknownMessage (name : String) : String :=
  "unknown presence '" ++ name ++ "'"

end Presence

/-- The shapes that a schema can call for. -/
inductive Kind where
  | boolean
  | number
  | string
  | object
  | array
  | function
deriving DecidableEq

namespace Kind

/-- The shape of the values of a kind. -/
def shape : Kind → Shape
  | boolean => .boolean
  | number => .number
  | string => .string
  | object => .object
  | array => .array
  | function => .function

/-- The kind with a name. -/
def ofName? (name : String) : Option Kind :=
  [boolean, number, string, object, array, function].find? fun kind => kind.shape.name == name

end Kind

/-- The constraints of a node that do not involve nested schemas. A node without a kind accepts every
shape, one without a presence leaves it to the options, and an absent default is none. -/
structure Constraints where
  kind : Option Kind := none
  presence : Option Presence := none
  default : Value := .undefined
  allowed : List Value := []
  valid : List Value := []
  invalid : List Value := []
  checks : List Check := []
  checksAfter : List Check := []
  aliases : Record := {}
  sanitizeBefore : List Sanitizer := []
  sanitize : List Sanitizer := []
  insensitive : Bool := false

/-- A node of a schema, with nested schemas of type `α`. -/
structure Node (α : Type) where
  constraints : Constraints := {}
  keys : List (String × α) := []
  pattern : Option (Pattern × α) := none
  includes : List α := []
  excludes : List α := []
  alternatives : List α := []

/-- The node with every nested schema replaced by its image. -/
def Node.map {α β : Type} (f : α → β) (node : Node α) : Node β where
  constraints := node.constraints
  keys := KeyMap.mapItems f node.keys
  pattern := node.pattern.map fun entry => (entry.1, f entry.2)
  includes := node.includes.map f
  excludes := node.excludes.map f
  alternatives := node.alternatives.map f

/-- A schema. -/
inductive Schema where
  | node (parts : Node Schema)

/-- A schema that was frozen for shared use, with the identity it got then. -/
structure Frozen where
  identity : Nat
  schema : Schema

/-- Whether two lists have the same length and items that are related place by place. -/
def relatedItems {α : Type} (related : α → α → Bool) : List α → List α → Bool
  | [], [] => true
  | a :: as, b :: bs => related a b && relatedItems related as bs
  | _, _ => false

/-- Whether two nodes have equal constraints, with checks and sanitizers compared by identity. -/
def Constraints.equals (a b : Constraints) : Bool :=
  a.kind == b.kind && a.presence == b.presence && a.default.equals b.default &&
    Value.equalItems a.allowed b.allowed && Value.equalItems a.valid b.valid &&
    Value.equalItems a.invalid b.invalid && relatedItems Check.same a.checks b.checks &&
    relatedItems Check.same a.checksAfter b.checksAfter && a.aliases.equals b.aliases &&
    relatedItems Sanitizer.same a.sanitizeBefore b.sanitizeBefore &&
    relatedItems Sanitizer.same a.sanitize b.sanitize && a.insensitive == b.insensitive

namespace Schema

/-- The root node of a schema. -/
def root : Schema → Node Schema
  | node parts => parts

mutual

/-- Whether two schemas have the same structure, patterns being compared by their texts. -/
def equals : Schema → Schema → Bool
  | node ⟨constraints, keys, pattern, includes, excludes, alternatives⟩, node other =>
      constraints.equals other.constraints && equalKeys keys other.keys &&
        equalPatterns pattern other.pattern && equalLists includes other.includes &&
        equalLists excludes other.excludes && equalLists alternatives other.alternatives
termination_by structural schema => schema

/-- Whether two collections of schemas have the same names and equal schemas under each. -/
def equalKeys : List (String × Schema) → List (String × Schema) → Bool
  | [], [] => true
  | (k, a) :: as, (l, b) :: bs => k == l && equals a b && equalKeys as bs
  | _, _ => false
termination_by structural keys => keys

/-- Whether two patterns have one text and equal schemas. -/
def equalPatterns : Option (Pattern × Schema) → Option (Pattern × Schema) → Bool
  | none, none => true
  | some (p, a), some (q, b) => p.source == q.source && equals a b
  | _, _ => false
termination_by structural pattern => pattern

/-- Whether two lists of schemas are equal place by place. -/
def equalLists : List Schema → List Schema → Bool
  | [], [] => true
  | a :: as, b :: bs => equals a b && equalLists as bs
  | _, _ => false
termination_by structural schemas => schemas

end

end Schema

end SchemaValidation
