import SchemaValidation.Json.Basic
import SchemaValidation.Numeral

/-!
# Reading data trees

A text is cut into tokens, marks and atoms, by one pass over its characters. One
pass over the tokens then builds the tree; it keeps the lists and objects that
are open. Of several members with one name the last one counts.
-/

namespace SchemaValidation.Json

/-- A token: a mark between the parts of a tree, or a part that has none itself. -/
inductive Token where
  | mark (c : Char)
  | atom (json : Json)

/-- What the scanner is in the middle of: nothing, a word, a quoted text, an escape in it, or the code
of a character. A text may wait for the second half of a pair of codes. -/
inductive Scanning where
  | between
  | word (read : List Char)
  | text (high : Option Nat) (read : List Char)
  | escape (high : Option Nat) (read : List Char)
  | code (high : Option Nat) (read digits : List Char)

/-- Whether a character separates tokens. -/
def isSeparator (c : Char) : Bool :=
  c == ' ' || c == '\n' || c == '\r' || c == '\t'

/-- Whether a character is a mark. -/
def isMark (c : Char) : Bool :=
  c == '[' || c == ']' || c == '\x7b' || c == '\x7d' || c == ',' || c == ':'

/-- Whether a word has the digits that a number needs: some in front, no further one behind a leading
zero, and some behind a point. -/
def isNumberWord : List Char → Bool
  | '-' :: word => isUnsigned word
  | word => isUnsigned word
where
  isUnsigned (word : List Char) : Bool :=
    let whole := word.takeWhile Char.isDigit
    !whole.isEmpty && (whole.length == 1 || whole.head? != some '0') &&
      match word.dropWhile Char.isDigit with
      | '.' :: rest => !(rest.takeWhile Char.isDigit).isEmpty
      | _ => true

/-- The number that a word denotes. A word of digits denotes an integer, apart from negative zero. -/
def readNumber (word : List Char) : Option Json :=
  if !isNumberWord word then none
  else if word.all (fun c => c.isDigit || c == '-') && word != ['-', '0'] then
    let (negative, digits) := Numeral.splitSign word
    let n : Int := Numeral.valueIn 10 digits
    some (integer (if negative then -n else n))
  else (Numeral.readDecimal word).map decimal

/-- The part that a word denotes. -/
def readWord (word : List Char) : Option Json :=
  if word = "null".toList then some null
  else if word = "true".toList then some (boolean true)
  else if word = "false".toList then some (boolean false)
  else readNumber word

/-- The character of an escape that is not a code. -/
def unescape : Char → Option Char
  | 'n' => some '\n'
  | 'r' => some '\r'
  | 't' => some '\t'
  | 'b' => some '\x08'
  | 'f' => some '\x0c'
  | '"' => some '"'
  | '\\' => some '\\'
  | '/' => some '/'
  | _ => none

/-- The state of a quoted text after a code. Codes of the surrogate range come in pairs. -/
def readCode (high : Option Nat) (read : List Char) (code : Nat) : Option Scanning :=
  match high with
  | some first =>
      if 0xDC00 ≤ code && code ≤ 0xDFFF then
        let joined := 0x10000 + (first - 0xD800) * 1024 + (code - 0xDC00)
        some (.text none (Char.ofNat joined :: read))
      else none
  | none =>
      if 0xD800 ≤ code && code ≤ 0xDBFF then some (.text (some code) read)
      else if 0xDC00 ≤ code && code ≤ 0xDFFF then none
      else some (.text none (Char.ofNat code :: read))

/-- The state and the tokens, latest first, after one more character. -/
def scanCharacter (state : Scanning × List Token) (c : Char) : Option (Scanning × List Token) :=
  let start := fun (tokens : List Token) =>
    if isSeparator c then (Scanning.between, tokens)
    else if isMark c then (.between, .mark c :: tokens)
    else if c = '"' then (.text none [], tokens)
    else (.word [c], tokens)
  match state with
  | (.between, tokens) => some (start tokens)
  | (.word read, tokens) =>
      if isSeparator c || isMark c || c = '"' then
        (readWord read.reverse).map fun json => start (.atom json :: tokens)
      else some (.word (c :: read), tokens)
  | (.text high read, tokens) =>
      if c = '\\' then some (.escape high read, tokens)
      else if high.isSome || c.toNat < 32 then none
      else if c = '"' then
        some (.between, .atom (string (String.ofList read.reverse)) :: tokens)
      else some (.text none (c :: read), tokens)
  | (.escape high read, tokens) =>
      if c = 'u' then some (.code high read [], tokens)
      else if high.isSome then none
      else (unescape c).map fun c => (.text none (c :: read), tokens)
  | (.code high read digits, tokens) =>
      if 16 ≤ Numeral.digitValue c then none
      else if digits.length < 3 then some (.code high read (c :: digits), tokens)
      else
        (readCode high read (Numeral.valueIn 16 (c :: digits).reverse)).map fun text => (text, tokens)

/-- The tokens of a text. -/
def scan (text : List Char) : Option (List Token) :=
  match text.foldlM scanCharacter (.between, []) with
  | some (.between, tokens) => some tokens.reverse
  | some (.word read, tokens) =>
      (readWord read.reverse).map fun json => (.atom json :: tokens).reverse
  | _ => none

/-- A list or an object that is open, with the parts that are complete. -/
inductive Frame where
  | items (read : List Json)
  | members (read : List (String × Json)) (key : String)

/-- What may come next: a part or, in an empty list, its end; a name or, in an empty object, its end;
a colon; a comma or the end of what is open; nothing, the tree being complete. -/
inductive Expecting where
  | part (orEnd : Bool)
  | name (orEnd : Bool)
  | colon
  | comma
  | nothing (json : Json)

/-- The state of the builder. -/
structure Builder where
  frames : List Frame := []
  expecting : Expecting := .part false

namespace Builder

/-- The builder after a part is complete. -/
def complete (json : Json) : List Frame → Builder
  | [] => ⟨[], .nothing json⟩
  | .items read :: rest => ⟨.items (json :: read) :: rest, .comma⟩
  | .members read key :: rest => ⟨.members (KeyMap.insert key json read) "" :: rest, .comma⟩

/-- The builder after the end of what is open. -/
def close (c : Char) : List Frame → Option Builder
  | .items read :: rest => if c = ']' then some (complete (array read.reverse) rest) else none
  | .members read _ :: rest => if c = '\x7d' then some (complete (object read) rest) else none
  | [] => none

/-- The builder after one more token. -/
def step (builder : Builder) (token : Token) : Option Builder :=
  match builder.expecting, token with
  | .part _, .atom json => some (complete json builder.frames)
  | .part orEnd, .mark c =>
      if c = '[' then some ⟨.items [] :: builder.frames, .part true⟩
      else if c = '\x7b' then some ⟨.members [] "" :: builder.frames, .name true⟩
      else if orEnd then close c builder.frames
      else none
  | .name _, .atom (string key) =>
      match builder.frames with
      | .members read _ :: rest => some ⟨.members read key :: rest, .colon⟩
      | _ => none
  | .name true, .mark c => close c builder.frames
  | .colon, .mark ':' => some { builder with expecting := .part false }
  | .comma, .mark ',' =>
      match builder.frames with
      | .items _ :: _ => some { builder with expecting := .part false }
      | .members _ _ :: _ => some { builder with expecting := .name false }
      | [] => none
  | .comma, .mark c => close c builder.frames
  | _, _ => none

end Builder

/-- The data tree that a text describes. -/
def read (text : String) : Option Json :=
  (scan text.toList).bind fun tokens =>
    match tokens.foldlM Builder.step {} with
    | some ⟨_, .nothing json⟩ => some json
    | _ => none

end SchemaValidation.Json
