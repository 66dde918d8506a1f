import SchemaValidation.Binary64.Basic
import SchemaValidation.KeyMap

/-!
# Values

The values that schemas describe form a closed tree. `undefined` stands for the
absence of a value, `null` for a value that is present and empty. The members of
an object are kept as `KeyMap` keeps them; `IsWellFormed` says so for a whole
tree.
-/

namespace SchemaValidation

/-- A callable value. Its name is for reading only; its identity sets it apart. -/
structure Callable where
  name : String
  identity : Nat
deriving DecidableEq

/-- A value. -/
inductive Value where
  | undefined
  | null
  | boolean (holds : Bool)
  | number (x : Binary64)
  | string (text : String)
  | array (items : List Value)
  | object (className : Option String) (members : List (String × Value))
  | function (callable : Callable)
deriving Inhabited

/-- The shape of a value. -/
inductive Shape where
  | array
  | null
  | object
  | boolean
  | number
  | string
  | function
  | undefined
deriving DecidableEq

/-- All shapes. -/
def Shape.all : List Shape :=
  [array, null, object, boolean, number, string, function, undefined]

/-- The name of a shape. -/
def Shape.name : Shape → String
  | array => "array"
  | null => "null"
  | object => "object"
  | boolean => "boolean"
  | number => "number"
  | string => "string"
  | function => "function"
  | undefined => "undefined"

/-- The shape with a name. -/
def Shape.ofName? (name : String) : Option Shape :=
  Shape.all.find? fun shape => shape.name == name

/-- The members of an object, with the name of the class it is an instance of, if there is one. -/
structure Record where
  className : Option String := none
  members : List (String × Value) := []

namespace Record

/-- The object of a record. -/
def toValue (record : Record) : Value :=
  .object record.className record.members

/-- The member stored under a name. -/
def find? (record : Record) (key : String) : Option Value :=
  KeyMap.find? key record.members

/-- The member stored under a name, absence being `undefined`. -/
def get (record : Record) (key : String) : Value :=
  (record.find? key).getD .undefined

/-- The record with a member stored under a name. -/
def insert (record : Record) (key : String) (item : Value) : Record :=
  { record with members := KeyMap.insert key item record.members }

/-- The record without the member stored under a name. -/
def erase (record : Record) (key : String) : Record :=
  { record with members := KeyMap.erase key record.members }

/-- The names of the members, in ascending order. -/
def keys (record : Record) : List String :=
  KeyMap.keys record.members

/-- The record of some pairs, the last of several pairs with one name counting. -/
def ofList (pairs : List (String × Value)) : Record :=
  ⟨none, KeyMap.ofList pairs⟩

end Record

namespace Value

/-- The shape of a value. -/
def shape : Value → Shape
  | undefined => .undefined
  | null => .null
  | boolean _ => .boolean
  | number _ => .number
  | string _ => .string
  | array _ => .array
  | object _ _ => .object
  | function _ => .function

/-- Whether the value is absent. -/
def isUndefined : Value → Bool
  | undefined => true
  | _ => false

/-- Whether the value is absent or empty. -/
def isNullish : Value → Bool
  | undefined => true
  | null => true
  | _ => false

/-- The record of an object. -/
def record? : Value → Option Record
  | object className members => some ⟨className, members⟩
  | _ => none

/-- The member of an object; `undefined` for a missing member and for every other value. -/
def get (value : Value) (key : String) : Value :=
  match value with
  | object _ members => (KeyMap.find? key members).getD undefined
  | _ => undefined

mutual

/-- At every depth the members of objects stand in strictly ascending order of their names. -/
def IsWellFormed : Value → Prop
  | array items => AreWellFormed items
  | object _ members => KeyMap.IsAscending members ∧ HasWellFormedMembers members
  | _ => True

/-- All values of a list are well formed. -/
def AreWellFormed : List Value → Prop
  | [] => True
  | item :: rest => IsWellFormed item ∧ AreWellFormed rest

/-- All members are well formed. -/
def HasWellFormedMembers : List (String × Value) → Prop
  | [] => True
  | (_, item) :: rest => IsWellFormed item ∧ HasWellFormedMembers rest

end

end Value

end SchemaValidation
