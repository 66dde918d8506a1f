import SchemaValidation.Check
import SchemaValidation.Pattern.Reader
import SchemaValidation.Text.CaseMapping
import SchemaValidation.Value.Display

/-!
# Built-in rules

Predicates for common constraints. A value that a rule rejects fails with a
record of the rule, what it called for, and the value.
-/

namespace SchemaValidation

/-- A built-in rule. -/
inductive Rule where
  | notEmpty
  | minLength (bound : Nat)
  | maxLength (bound : Nat)
  | exactLength (exact : Nat)
  | min (bound : Binary64)
  | max (bound : Binary64)
  | greater (bound : Binary64)
  | lesser (bound : Binary64)
  | integer
  | matching (pattern : Pattern)
  | alphanum
  | digits
  | url
  | lowercase
  | uppercase
  | numeric
  | unique
  | instanceOf (className : String)

namespace Rule

/-- The pattern of a text that is known to be one. -/
def patternOf (source : String) : Pattern :=
  (Pattern.parse? source).getD ⟨source, .empty⟩

/-- Texts of letters and digits of the basic alphabet. -/
def alphanumPattern : Pattern := patternOf "^[0-9a-zA-Z]*$"

/-- Texts of the ten digits. -/
def digitsPattern : Pattern := patternOf "^[0-9]*$"

/-- Addresses of resources that are fetched from a host. -/
def urlPattern : Pattern :=
  patternOf "^https?://(\\w+:?\\w*@)?(\\S+)(:[0-9]+)?(/|/([\\w#!:.?+=&%@!\\-/]))?$"

/-- The name of a rule. -/
def label : Rule → String
  | notEmpty => "not_empty"
  | minLength _ => "min_length"
  | maxLength _ => "max_length"
  | exactLength _ => "length"
  | min _ => "min"
  | max _ => "max"
  | greater _ => "greater"
  | lesser _ => "lesser"
  | integer => "integer"
  | matching _ => "matches"
  | alphanum => "alphanum"
  | digits => "digits"
  | url => "url"
  | lowercase => "lowercase"
  | uppercase => "uppercase"
  | numeric => "numeric"
  | unique => "unique"
  | instanceOf _ => "instance_of"

/-- What a rule calls for; absent where its name says all. -/
def expected : Rule → Value
  | minLength bound => .number (Binary64.ofNat bound)
  | maxLength bound => .number (Binary64.ofNat bound)
  | exactLength exact => .number (Binary64.ofNat exact)
  | min bound => .number bound
  | max bound => .number bound
  | greater bound => .number bound
  | lesser bound => .number bound
  | matching pattern => .string pattern.source
  | alphanum => .string alphanumPattern.source
  | digits => .string digitsPattern.source
  | url => .string urlPattern.source
  | instanceOf className => .string className
  | _ => .undefined

/-- The text by which a number or a text takes part in the test for repeated items. -/
def distinctText? : Value → Option String
  | .number x => some ("n:" ++ x.keyText)
  | .string text => some ("s:" ++ text)
  | _ => none

/-- Whether each text, when its turn comes, is not among those that were seen before it. -/
def allUnseen (seen : List String) : List String → Bool
  | [] => true
  | text :: rest => !seen.contains text && allUnseen (seen.insert text) rest

/-- Whether a value has a length that satisfies a condition. -/
def lengthSatisfies (condition : Nat → Bool) (value : Value) : Bool :=
  match value.length? with
  | some n => condition n
  | none => false

/-- Whether a value reads as a number that satisfies a condition. -/
def numberSatisfies (condition : Binary64 → Bool) (value : Value) : Bool :=
  match value.toNumber with
  | some x => condition x
  | none => false

/-- Whether a value obeys a rule. -/
def holds (value : Value) : Rule → Bool
  | notEmpty => !value.isEmpty
  | minLength bound => lengthSatisfies (fun n => bound ≤ n) value
  | maxLength bound => lengthSatisfies (fun n => n ≤ bound) value
  | exactLength exact => lengthSatisfies (fun n => n == exact) value
  | min bound => numberSatisfies (fun x => bound.atMost x) value
  | max bound => numberSatisfies (fun x => x.atMost bound) value
  | greater bound => numberSatisfies (fun x => bound.less x) value
  | lesser bound => numberSatisfies (fun x => x.less bound) value
  | integer => value.isInteger
  | matching pattern => pattern.isMatch value.subjectText
  | alphanum => alphanumPattern.isMatch value.subjectText
  | digits => digitsPattern.isMatch value.subjectText
  | url => urlPattern.isMatch value.subjectText
  | lowercase => Text.lower value.subjectText.toList == value.subjectText.toList
  | uppercase => Text.upper value.subjectText.toList == value.subjectText.toList
  | numeric => value.isNumeric
  | unique =>
      match value with
      | .array items => allUnseen [] (items.filterMap distinctText?)
      | _ => false
  | instanceOf className =>
      match value with
      | .object (some name) _ => name == className
      | _ => false

/-- The record of a value that a rule rejects. -/
def failure (rule : Rule) (value : Value) : Record :=
  Record.ofList [("type", .string rule.label), ("expected", rule.expected), ("actual", value)]

/-- The verdict of a rule on a value. -/
def verdict (rule : Rule) (value : Value) : Verdict :=
  if rule.holds value then .pass else .fail (rule.failure value).toValue

/-- The check of a rule, under an identity of its own. -/
def check (rule : Rule) (identity : Nat) : Check :=
  ⟨rule.label, identity, fun value => .returned (rule.verdict value)⟩

end Rule

end SchemaValidation
