import SchemaValidation.Binary64.Rounding
import SchemaValidation.Json.Basic
import SchemaValidation.Value.Basic

/-!
# Values as data trees

The conversion of values to data trees and back. A number without fraction
becomes an integer where every integer is exact; what has no form in a data tree
becomes `null`, and absent members of objects are left out.
-/

namespace SchemaValidation

namespace Json

/-- The data tree of a number. -/
def ofNumber (x : Binary64) : Json :=
  match x.integer? with
  | some n => if n.natAbs < 0x20000000000000 then integer n else decimal x
  | none => if x.isFinite then decimal x else null

end Json

namespace Value

mutual

/-- The data tree of a value. -/
def toJson : Value → Json
  | undefined => .null
  | null => .null
  | boolean holds => .boolean holds
  | number x => .ofNumber x
  | string text => .string text
  | array items => .array (itemsToJson items)
  | object _ members => .object (membersToJson members)
  | function _ => .null

/-- The data trees of items. -/
def itemsToJson : List Value → List Json
  | [] => []
  | item :: rest => toJson item :: itemsToJson rest

/-- The data trees of the members that are present. -/
def membersToJson : List (String × Value) → List (String × Json)
  | [] => []
  | (key, item) :: rest =>
      if item.isUndefined then membersToJson rest
      else (key, toJson item) :: membersToJson rest

end

mutual

/-- The value of a data tree. -/
def ofJson : Json → Value
  | .null => null
  | .boolean holds => boolean holds
  | .integer n => number (Binary64.ofInt n)
  | .decimal x => number x
  | .string text => string text
  | .array items => array (itemsOfJson items)
  | .object members => object none (membersOfJson members)

/-- The values of items. -/
def itemsOfJson : List Json → List Value
  | [] => []
  | item :: rest => ofJson item :: itemsOfJson rest

/-- The values of members. -/
def membersOfJson : List (String × Json) → List (String × Value)
  | [] => []
  | (key, item) :: rest => (key, ofJson item) :: membersOfJson rest

end

end Value

end SchemaValidation
