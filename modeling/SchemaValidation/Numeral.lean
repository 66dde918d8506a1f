import SchemaValidation.Binary64.Rounding
import SchemaValidation.Text.CharacterClass

/-!
# Numerals

The texts that read as numbers. Blanks around a numeral are ignored, and a text
of blanks only reads as zero. Otherwise a numeral is `Infinity` with an optional
sign, a whole number below 2^64 in base sixteen, eight or two behind its marker,
or a decimal numeral with optional sign, point and power of ten.
-/

namespace SchemaValidation.Numeral

/-- Whether a text begins with a minus sign, and what follows the sign, if there is one. -/
def splitSign : List Char → Bool × List Char
  | '-' :: rest => (true, rest)
  | '+' :: rest => (false, rest)
  | text => (false, text)

/-- The value of a digit in bases up to sixteen. -/
def digitValue (c : Char) : Nat :=
  if c.isDigit then c.toNat - '0'.toNat
  else if 'a' ≤ c && c ≤ 'z' then c.toNat - 'a'.toNat + 10
  else if 'A' ≤ c && c ≤ 'Z' then c.toNat - 'A'.toNat + 10
  else 36

/-- The number that digits denote in a base. -/
def valueIn (base : Nat) (digits : List Char) : Nat :=
  digits.foldl (fun value c => value * base + digitValue c) 0

/-- The digits behind a base marker, read in that base; a plus sign may precede them. -/
def readIn (base : Nat) (text : List Char) : Option Binary64 :=
  let digits := match text with
    | '+' :: rest => rest
    | _ => text
  if digits.isEmpty || digits.any (fun c => base ≤ digitValue c) then none
  else if valueIn base digits < 0x10000000000000000 then some (Binary64.ofNat (valueIn base digits))
  else none

/-- The base of a numeral with a base marker, and what follows the marker. -/
def splitBase : List Char → Option (Nat × List Char)
  | '0' :: 'x' :: rest => some (16, rest)
  | '0' :: 'X' :: rest => some (16, rest)
  | '0' :: 'o' :: rest => some (8, rest)
  | '0' :: 'O' :: rest => some (8, rest)
  | '0' :: 'b' :: rest => some (2, rest)
  | '0' :: 'B' :: rest => some (2, rest)
  | _ => none

/-- The power of ten behind the digits of a decimal numeral. -/
def readPower : List Char → Option Int
  | [] => some 0
  | mark :: rest =>
      let (negative, digits) := splitSign rest
      if (mark = 'e' || mark = 'E') && !digits.isEmpty && digits.all Char.isDigit then
        some (if negative then -(valueIn 10 digits : Int) else valueIn 10 digits)
      else none

/-- The decimal numeral that a text is. -/
def readDecimal (text : List Char) : Option Binary64 :=
  let (negative, unsigned) := splitSign text
  let whole := unsigned.takeWhile Char.isDigit
  let afterWhole := unsigned.dropWhile Char.isDigit
  let fraction := match afterWhole with
    | '.' :: rest => rest.takeWhile Char.isDigit
    | _ => []
  let afterFraction := match afterWhole with
    | '.' :: rest => rest.dropWhile Char.isDigit
    | _ => afterWhole
  if whole.isEmpty && fraction.isEmpty then none
  else
    (readPower afterFraction).map fun power =>
      Binary64.ofDecimal negative (valueIn 10 (whole ++ fraction)) (power - fraction.length)

/-- The number that a text without surrounding blanks denotes. -/
def readTrimmed (text : List Char) : Option Binary64 :=
  if text.isEmpty then some Binary64.zero
  else
    let (negative, unsigned) := splitSign text
    if unsigned = "Infinity".toList then some (Binary64.infinite negative)
    else
      match splitBase text with
      | some (base, digits) => readIn base digits
      | none => readDecimal text

/-- The number that a text denotes, if it denotes one. -/
def read (text : String) : Option Binary64 :=
  readTrimmed (Text.trim text.toList)

end SchemaValidation.Numeral
