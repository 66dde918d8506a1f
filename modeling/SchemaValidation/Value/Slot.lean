import SchemaValidation.Value.Basic

/-!
# Members and their places

A member of a collection is addressed by its index in a list or by its name in
an object. A path from the root of a value is written with a slash before every
address.
-/

namespace SchemaValidation

/-- The address of a member inside a collection. -/
inductive Slot where
  | index (n : Nat)
  | key (name : String)
deriving DecidableEq

namespace Slot

/-- The text of an address. -/
def text : Slot → String
  | index n => toString n
  | key name => name

/-- The path of the member at an address, from the path of the collection. -/
def join (slot : Slot) (path : String) : String :=
  path ++ "/" ++ slot.text

end Slot

namespace Value

/-- The items of a list with their addresses. -/
def numbered (start : Nat) : List Value → List (Slot × Value)
  | [] => []
  | item :: rest => (.index start, item) :: numbered (start + 1) rest

/-- The members of a collection with their addresses, in order. -/
def slots : Value → List (Slot × Value)
  | array items => numbered 0 items
  | object _ members => members.map fun entry => (.key entry.1, entry.2)
  | _ => []

/-- The member at an address; a missing one is `undefined`. -/
def member (value : Value) : Slot → Value
  | .index n =>
      match value with
      | array items => items.getD n undefined
      | _ => undefined
  | .key name => value.get name

end Value

end SchemaValidation
