import SchemaValidation.Text.CaseMapping
import SchemaValidation.Value.Basic

/-!
# Equality of values

Two values are equal if they have the same shape and equal parts all the way
down. Something that is no number equals itself, the two zeros are equal,
callables are equal by identity, and the class of an object does not count.
-/

namespace SchemaValidation

/-- Whether two numbers are equal as values. -/
def Binary64.equals (x y : Binary64) : Bool :=
  x.same y || (x.isNaN && y.isNaN)

namespace Value

mutual

/-- Whether two values are equal. -/
def equals : Value → Value → Bool
  | undefined, undefined => true
  | null, null => true
  | boolean a, boolean b => a == b
  | number a, number b => a.equals b
  | string a, string b => a == b
  | array a, array b => equalItems a b
  | object _ a, object _ b => equalMembers a b
  | function a, function b => a.identity == b.identity
  | _, _ => false
termination_by structural value => value

/-- Whether two lists have the same length and equal items at every place. -/
def equalItems : List Value → List Value → Bool
  | [], [] => true
  | a :: as, b :: bs => equals a b && equalItems as bs
  | _, _ => false
termination_by structural items => items

/-- Whether two collections have the same names and equal members under each. As both list their
names in ascending order, members with one name stand at one place. -/
def equalMembers : List (String × Value) → List (String × Value) → Bool
  | [], [] => true
  | (k, a) :: as, (l, b) :: bs => k == l && equals a b && equalMembers as bs
  | _, _ => false
termination_by structural members => members

end

/-- Equality that does not tell texts apart by case. Texts inside other values are told apart. -/
def equalsIgnoringCase : Value → Value → Bool
  | string a, string b => Text.lower a.toList == Text.lower b.toList
  | a, b => equals a b

/-- Whether a value equals one of some candidates, by the equality that the flag selects. -/
def isAmong (value : Value) (insensitive : Bool) (candidates : List Value) : Bool :=
  candidates.any fun candidate =>
    if insensitive then equalsIgnoringCase candidate value else equals candidate value

end Value

/-- Whether two records have equal members. -/
def Record.equals (a b : Record) : Bool :=
  Value.equalMembers a.members b.members

end SchemaValidation
