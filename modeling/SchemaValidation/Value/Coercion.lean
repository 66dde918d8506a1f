import SchemaValidation.Binary64.WrittenForm
import SchemaValidation.Numeral
import SchemaValidation.Value.Basic

/-!
# Readings of values

What a value reads as where another shape is asked for: its number, its length,
the name that it stands for, and its conversion to one of the shapes. A
conversion that cannot be made gives `undefined`.
-/

namespace SchemaValidation

/-- The word for a truth value. -/
def truthWord (holds : Bool) : String :=
  if holds then "true" else "false"

namespace Value

/-- The number that a value reads as. -/
def toNumber : Value → Option Binary64
  | number x => if x.isNaN then none else some x
  | string text => Numeral.read text
  | boolean holds => some (if holds then Binary64.one else Binary64.zero)
  | null => some Binary64.zero
  | _ => none

/-- Whether the value reads as a number. -/
def isNumeric (value : Value) : Bool :=
  value.toNumber.isSome

/-- Whether the value reads as a whole number. -/
def isInteger (value : Value) : Bool :=
  match value.toNumber with
  | some x => x.isIntegral
  | none => false

/-- The number of items, characters or members. -/
def length? : Value → Option Nat
  | array items => some items.length
  | string text => some text.length
  | object _ members => some members.length
  | _ => none

/-- Whether the value is absent, null or of length zero. -/
def isEmpty (value : Value) : Bool :=
  value.isNullish || value.length? == some 0

/-- The name of the member that a value selects. Containers and callables select none. -/
def keyText? : Value → Option String
  | undefined => some "undefined"
  | null => some "null"
  | boolean holds => some (truthWord holds)
  | number x => some x.keyText
  | string text => some text
  | _ => none

/-- The conversion of a value of another shape to a text. -/
def castToString : Value → Value
  | null => string "null"
  | boolean holds => string (truthWord holds)
  | number x => string x.keyText
  | _ => undefined

/-- The conversion of a value of another shape to a number. -/
def castToNumber (value : Value) : Value :=
  match value.toNumber with
  | some x => number x
  | none => undefined

/-- The conversion of a value of another shape to a truth value. Apart from the two words, a value
counts as true if it reads as a number other than zero. -/
def castToBoolean (value : Value) : Value :=
  match value with
  | string "true" => boolean true
  | string "false" => boolean false
  | _ =>
      match value.toNumber with
      | some x => boolean (!x.same Binary64.zero)
      | none => boolean false

/-- The conversion of a value to a shape. A value of that shape is kept. -/
def cast (value : Value) (target : Shape) : Value :=
  if value.shape = target then value
  else
    match target with
    | .string => castToString value
    | .number => castToNumber value
    | .boolean => castToBoolean value
    | _ => undefined

end Value

end SchemaValidation
