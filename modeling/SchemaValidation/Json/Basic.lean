import SchemaValidation.Binary64.WrittenForm
import SchemaValidation.KeyMap

/-!
# Data trees

The data trees of JSON and their compact text. The members of an object are kept
in ascending order of their names. A number is an integer, or a finite number
that is written by its shortest decimal.
-/

namespace SchemaValidation

/-- A data tree. -/
inductive Json where
  | null
  | boolean (holds : Bool)
  | integer (n : Int)
  | decimal (x : Binary64)
  | string (text : String)
  | array (items : List Json)
  | object (members : List (String × Json))
deriving Inhabited

namespace Json

/-- One character inside a quoted text. -/
def quoteCharacter (c : Char) : List Char :=
  if c = '"' then ['\\', '"']
  else if c = '\\' then ['\\', '\\']
  else if c.toNat = 8 then ['\\', 'b']
  else if c.toNat = 12 then ['\\', 'f']
  else if c = '\n' then ['\\', 'n']
  else if c = '\r' then ['\\', 'r']
  else if c = '\t' then ['\\', 't']
  else if c.toNat < 32 then
    let digits := Nat.toDigits 16 c.toNat
    ['\\', 'u'] ++ List.replicate (4 - digits.length) '0' ++ digits
  else [c]

/-- A text between quotes. -/
def quote (text : String) : String :=
  String.ofList (['"'] ++ text.toList.flatMap quoteCharacter ++ ['"'])

/-- The text of a finite number with a fraction or beyond the exact integers. -/
def decimalText (x : Binary64) : String :=
  if x.isFinite then WrittenForm.data.write x else "null"

mutual

/-- The compact text of a data tree. -/
def render : Json → String
  | null => "null"
  | boolean holds => if holds then "true" else "false"
  | integer n => toString n
  | decimal x => decimalText x
  | string text => quote text
  | array items => "[" ++ renderItems items ++ "]"
  | object members => "\x7b" ++ renderMembers members ++ "\x7d"

/-- The compact texts of items, with commas between. -/
def renderItems : List Json → String
  | [] => ""
  | [item] => render item
  | item :: rest => render item ++ "," ++ renderItems rest

/-- The compact texts of members, with commas between. -/
def renderMembers : List (String × Json) → String
  | [] => ""
  | [(key, item)] => quote key ++ ":" ++ render item
  | (key, item) :: rest => quote key ++ ":" ++ render item ++ "," ++ renderMembers rest

end

end Json

end SchemaValidation
