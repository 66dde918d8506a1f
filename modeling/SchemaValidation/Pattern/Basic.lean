import SchemaValidation.Text.CaseFolding
import SchemaValidation.Text.CharacterClass

/-!
# Patterns

A pattern is a regular expression over characters with two assertions, one for
the start and one for the end of a text. It matches a text if it describes some
segment of it. Matching keeps the expressions that may still follow; reading a
character replaces each of them by what remains of it after that character.
-/

namespace SchemaValidation

/-- An item of a character class. -/
inductive ClassItem where
  | range (first last : Char)
  | digit (negated : Bool)
  | word (negated : Bool)
  | blank (negated : Bool)
deriving DecidableEq

/-- Whether the item lists the character. -/
def ClassItem.contains (c : Char) : ClassItem → Bool
  | range first last => first ≤ c && c ≤ last
  | digit negated => Text.isDecimalDigit c != negated
  | word negated => Text.isWordCharacter c != negated
  | blank negated => Text.isBlank c != negated

/-- A character class. A class that ignores case lists a character with all its case variants. -/
structure CharacterClass where
  items : List ClassItem
  negated : Bool := false
  ignoringCase : Bool := false
deriving DecidableEq

namespace CharacterClass

/-- Whether one of the items lists the character. -/
def lists (cls : CharacterClass) (c : Char) : Bool :=
  cls.items.any (ClassItem.contains c)

/-- Whether the class contains the character. -/
def contains (cls : CharacterClass) (c : Char) : Bool :=
  (if cls.ignoringCase then
      (Text.caseVariants c.toNat).any fun code => cls.lists (Char.ofNat code)
    else cls.lists c) != cls.negated

end CharacterClass

/-- A regular expression with assertions. -/
inductive Expression where
  | empty
  | one (cls : CharacterClass)
  | start
  | finish
  | sequence (first second : Expression)
  | either (first second : Expression)
  | many (body : Expression)
deriving DecidableEq

namespace Expression

/-- The second expression behind the first, nothing being put in front of it. -/
def followedBy (first second : Expression) : Expression :=
  match first with
  | empty => second
  | first => sequence first second

/-- Whether the expression describes the empty segment at a position of a text. -/
def skips (atStart atEnd : Bool) : Expression → Bool
  | empty => true
  | one _ => false
  | start => atStart
  | finish => atEnd
  | sequence first second => skips atStart atEnd first && skips atStart atEnd second
  | either first second => skips atStart atEnd first || skips atStart atEnd second
  | many _ => true

/-- What may remain of the expression after a character at a position of a text. -/
def after (atStart : Bool) (c : Char) : Expression → List Expression
  | empty => []
  | one cls => if cls.contains c then [empty] else []
  | start => []
  | finish => []
  | sequence first second =>
      (after atStart c first).map (followedBy · second) ++
        if skips atStart false first then after atStart c second else []
  | either first second => after atStart c first ++ after atStart c second
  | many body => (after atStart c body).map (followedBy · (many body))

/-- Whether the expression describes a segment of the text that begins here or later, or one of the
`pending` expressions a segment that begins here. -/
def findsIn (body : Expression) (atStart : Bool) (pending : List Expression) : List Char → Bool
  | [] => (body :: pending).any (skips atStart true)
  | c :: rest =>
      (body :: pending).any (skips atStart false) ||
        findsIn body false ((body :: pending).flatMap (after atStart c)).eraseDups rest

end Expression

/-- A pattern: an expression with the text it was read from. -/
structure Pattern where
  source : String
  body : Expression

/-- Whether the pattern matches somewhere in the text. -/
def Pattern.isMatch (pattern : Pattern) (text : String) : Bool :=
  pattern.body.findsIn true [] text.toList

end SchemaValidation
