import SchemaValidation.Pattern.Basic

/-!
# Reading patterns

Patterns are read character by character. The reader keeps the groups that are
open, what has been read of the innermost one, and what it is in the middle of:
an escape, the head of a group, the bounds of a repetition, or a class.
-/

namespace SchemaValidation.Pattern

/-- What has been read of a group: the alternatives that are complete and the items of the current
one, the latest first. -/
structure Group where
  alternatives : List Expression := []
  items : List Expression := []

namespace Group

/-- The items one after the other. -/
def inSequence (items : List Expression) : Expression :=
  items.foldl (fun behind item => match behind with
    | .empty => item
    | behind => .sequence item behind) .empty

/-- The expression of the group. -/
def expression (group : Group) : Expression :=
  group.alternatives.foldl (fun later earlier => .either earlier later) (inSequence group.items)

/-- The group with one more item. -/
def push (group : Group) (item : Expression) : Group :=
  { group with items := item :: group.items }

/-- The group with the current alternative completed. -/
def nextAlternative (group : Group) : Group :=
  ⟨inSequence group.items :: group.alternatives, []⟩

end Group

/-- What has been read of a class: its items, a character that may begin a range, and whether a dash
behind that character was read. -/
structure OpenClass where
  negated : Bool := false
  items : List ClassItem := []
  first? : Option Char := none
  dash : Bool := false
  escaped : Bool := false
  fresh : Bool := true

namespace OpenClass

/-- The class with the character and the dash that were held back added as such. -/
def flush (cls : OpenClass) : OpenClass :=
  let held := match cls.first? with
    | none => []
    | some c => ClassItem.range c c :: if cls.dash then [.range '-' '-'] else []
  { cls with items := held ++ cls.items, first? := none, dash := false, fresh := false }

/-- The class with a named set added. -/
def addSet (cls : OpenClass) (item : ClassItem) : OpenClass :=
  { cls.flush with items := item :: cls.flush.items, escaped := false }

/-- The class with a character added, as the end of a range if one is open. -/
def addCharacter (cls : OpenClass) (c : Char) : OpenClass :=
  match cls.first?, cls.dash with
  | some first, true =>
      { cls with
        items := .range first c :: cls.items, first? := none, dash := false, escaped := false,
        fresh := false }
  | _, _ => { cls.flush with first? := some c, escaped := false }

end OpenClass

/-- What the reader is in the middle of. -/
inductive Reading where
  | item (repeated : Bool)
  | escape
  | groupHead
  | groupKind
  | bounds (text : List Char)
  | insideClass (cls : OpenClass)

/-- The state of the reader. -/
structure Reader where
  ignoringCase : Bool
  outer : List Group := []
  group : Group := {}
  reading : Reading := .item false

/-- The named set of an escape. -/
def namedSet : Char → Option ClassItem
  | 'd' => some (.digit false)
  | 'D' => some (.digit true)
  | 'w' => some (.word false)
  | 'W' => some (.word true)
  | 's' => some (.blank false)
  | 'S' => some (.blank true)
  | _ => none

/-- The character of an escape. -/
def escapedCharacter : Char → Char
  | 'n' => '\n'
  | 'r' => '\r'
  | 't' => '\t'
  | 'f' => '\x0c'
  | 'v' => '\x0b'
  | c => c

/-- An expression at least `least` and, unless the bound is open, at most `most` times. -/
def repetition (body : Expression) (least : Nat) (most : Option Nat) : Expression :=
  let optional := match most with
    | none => .many body
    | some most =>
        (List.replicate (most - least) body).foldl
          (fun rest body => .either (Expression.followedBy body rest) .empty) .empty
  (List.replicate least body).foldl
    (fun rest body => match rest with
      | .empty => body
      | rest => .sequence body rest) optional

/-- The bounds of a repetition: a number, a number and a comma, or two numbers. -/
def readBounds (text : List Char) : Option (Nat × Option Nat) :=
  let least := text.takeWhile Char.isDigit
  let number := fun (digits : List Char) =>
    digits.foldl (fun value c => value * 10 + (c.toNat - '0'.toNat)) 0
  if least.isEmpty then none
  else
    match text.dropWhile Char.isDigit with
    | [] => some (number least, some (number least))
    | [','] => some (number least, none)
    | ',' :: most => if most.all Char.isDigit then some (number least, some (number most)) else none
    | _ => none

namespace Reader

/-- The reader with an item added to the innermost group. -/
def push (reader : Reader) (item : Expression) : Reader :=
  { reader with group := reader.group.push item, reading := .item false }

/-- The reader with a class added to the innermost group. -/
def pushClass (reader : Reader) (items : List ClassItem) (negated : Bool) : Reader :=
  reader.push (.one ⟨items, negated, reader.ignoringCase⟩)

/-- The reader with the latest item replaced by a repetition of it. -/
def repeatLatest (reader : Reader) (least : Nat) (most : Option Nat) : Option Reader :=
  match reader.group.items with
  | [] => none
  | latest :: items =>
      some { reader with
        group := { reader.group with items := repetition latest least most :: items }
        reading := .item true }

/-- The reader with the innermost group closed. -/
def close (reader : Reader) : Option Reader :=
  match reader.outer with
  | [] => none
  | group :: outer =>
      some { reader with
        outer := outer, group := group.push reader.group.expression, reading := .item false }

/-- The reader after a character outside escapes, group heads, bounds and classes. -/
def readItem (reader : Reader) (repeated : Bool) (c : Char) : Option Reader :=
  match c with
  | '\\' => some { reader with reading := .escape }
  | '(' =>
      some { reader with outer := reader.group :: reader.outer, group := {}, reading := .groupHead }
  | ')' => reader.close
  | '[' => some { reader with reading := .insideClass {} }
  | '\x7b' => some { reader with reading := .bounds [] }
  | '|' => some { reader with group := reader.group.nextAlternative, reading := .item false }
  | '^' => some (reader.push .start)
  | '$' => some (reader.push .finish)
  | '.' => some (reader.push (.one ⟨[.range '\n' '\n'], true, false⟩))
  | '*' => reader.repeatLatest 0 none
  | '+' => reader.repeatLatest 1 none
  | '?' =>
      if repeated then some { reader with reading := .item false }
      else reader.repeatLatest 0 (some 1)
  | c => some (reader.pushClass [.range c c] false)

/-- The reader after a character inside a class. -/
def readInClass (reader : Reader) (cls : OpenClass) (c : Char) : Reader :=
  if cls.escaped then
    match namedSet c with
    | some item => { reader with reading := .insideClass (cls.addSet item) }
    | none => { reader with reading := .insideClass (cls.addCharacter (escapedCharacter c)) }
  else if c = '\\' then { reader with reading := .insideClass { cls with escaped := true } }
  else if c = '^' && cls.fresh && !cls.negated then
    { reader with reading := .insideClass { cls with negated := true } }
  else if c = ']' && !cls.fresh then reader.pushClass cls.flush.items cls.negated
  else if c = '-' && cls.first?.isSome && !cls.dash then
    { reader with reading := .insideClass { cls with dash := true } }
  else { reader with reading := .insideClass (cls.addCharacter c) }

/-- The reader after one more character. -/
def read (reader : Reader) (c : Char) : Option Reader :=
  match reader.reading with
  | .item repeated => reader.readItem repeated c
  | .escape =>
      match namedSet c with
      | some item => some (reader.pushClass [item] false)
      | none => some (reader.pushClass [.range (escapedCharacter c) (escapedCharacter c)] false)
  | .groupHead =>
      if c = '?' then some { reader with reading := .groupKind }
      else reader.readItem false c
  | .groupKind => if c = ':' then some { reader with reading := .item false } else none
  | .bounds text =>
      if c = '\x7d' then
        (readBounds text.reverse).bind fun bounds => reader.repeatLatest bounds.1 bounds.2
      else some { reader with reading := .bounds (c :: text) }
  | .insideClass cls => some (reader.readInClass cls c)

/-- The expression that was read, if nothing is left open. -/
def finish (reader : Reader) : Option Expression :=
  match reader.outer, reader.reading with
  | [], .item _ => some reader.group.expression
  | _, _ => none

end Reader

/-- The mode of a pattern and its remaining text. -/
def splitMode : List Char → Bool × List Char
  | '(' :: '?' :: 'i' :: ')' :: rest => (true, rest)
  | text => (false, text)

/-- The pattern that a text describes. -/
def parse? (source : String) : Option Pattern :=
  let (ignoringCase, text) := splitMode source.toList
  ((text.foldlM Reader.read { ignoringCase }).bind Reader.finish).map fun body => ⟨source, body⟩

end SchemaValidation.Pattern
