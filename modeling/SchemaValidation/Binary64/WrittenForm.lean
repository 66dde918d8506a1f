import SchemaValidation.Binary64.Shortest

/-!
# Written forms of numbers

A finite number is written by its shortest decimal, either with all places in
front of and behind the point or as a leading digit with a power of ten. What
the forms differ in is one record; the names of the values that are no finite
numbers belong to the places where a form is used.
-/

namespace SchemaValidation

/-- The decisions of a written form: which leading powers of ten are written with all places, whether
whole numbers keep a zero behind the point, whether a positive power of ten has a sign, and which of
two equally short and near decimals is taken. -/
structure WrittenForm where
  positional : Int → Bool
  pointZero : Bool
  plusSign : Bool
  tie : TieRule

namespace WrittenForm

/-- Names of members write all places and no point in whole numbers. -/
def key : WrittenForm := ⟨fun _ => true, false, false, .upward⟩

/-- Data texts write all places from a hundred-thousandth up to sixteen whole places. -/
def data : WrittenForm := ⟨fun power => -5 ≤ power && power ≤ 15, true, true, .toEven⟩

/-- Diagnostic texts write all places from a ten-thousandth up to sixteen whole places. -/
def diagnostic : WrittenForm := ⟨fun power => -4 ≤ power && power ≤ 15, true, false, .upward⟩

/-- All places of the decimal with the given digits and scale. -/
def places (pointZero : Bool) (digits : List Char) (scale : Int) : List Char :=
  if 0 ≤ scale then
    digits ++ List.replicate scale.toNat '0' ++ (if pointZero then ['.', '0'] else [])
  else
    let behind := (-scale).toNat
    let padded := List.replicate (behind + 1 - digits.length) '0' ++ digits
    padded.take (padded.length - behind) ++ '.' :: padded.drop (padded.length - behind)

/-- The leading digit of a decimal with its power of ten. -/
def powerOfTen (plusSign : Bool) (digits : List Char) (power : Int) : List Char :=
  let mantissa := match digits with
    | [] => []
    | [digit] => [digit]
    | digit :: rest => digit :: '.' :: rest
  let sign := if power < 0 then ['-'] else if plusSign then ['+'] else []
  mantissa ++ 'e' :: sign ++ Nat.toDigits 10 power.natAbs

/-- The magnitude of a finite number in a written form. -/
def magnitude (form : WrittenForm) (x : Binary64) : List Char :=
  if x.isZero then places form.pointZero ['0'] 0
  else
    let decimal := x.shortest form.tie
    let digits := Nat.toDigits 10 decimal.digits
    let power := decimal.scale + digits.length - 1
    if form.positional power then places form.pointZero digits decimal.scale
    else powerOfTen form.plusSign digits power

/-- A finite number in a written form. -/
def write (form : WrittenForm) (x : Binary64) : String :=
  String.ofList ((if x.negative then ['-'] else []) ++ form.magnitude x)

end WrittenForm

namespace Binary64

/-- The text of a number used as the name of a member. Both zeros have the same text. -/
def keyText (x : Binary64) : String :=
  if x.isNaN then "NaN"
  else if x.isInfinite then (if x.negative then "-Infinity" else "Infinity")
  else if x.isZero then "0"
  else WrittenForm.key.write x

/-- The text of a number in a diagnostic form. -/
def diagnosticText (x : Binary64) : String :=
  if x.isNaN then "NaN"
  else if x.isInfinite then (if x.negative then "-inf" else "inf")
  else WrittenForm.diagnostic.write x

end Binary64

end SchemaValidation
