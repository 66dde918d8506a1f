import Mathlib.Data.List.Induction
import Mathlib.Data.Nat.Digits.Defs
import SchemaValidation.Numeral
import SchemaValidation.Proofs.NearestNumbers

/-!
# The grammar of numerals

The texts that read as numbers, described by their parts and with the numbers
that they denote: the nearest numbers to what their digits amount to.  Reading
accepts exactly these texts.  Behind a base marker the reader takes digits that
may follow a plus sign and that denote less than two to the power of 64.
-/

namespace SchemaValidation.Numeral

/-! ## Parts of numerals -/

/-- The natural number that digits denote in a base, the last digit counting ones. -/
def denoted (base : ℕ) (digits : List Char) : ℕ :=
  Nat.ofDigits base (digits.reverse.map digitValue)

/-- An optional sign, and whether it is a minus sign. -/
inductive IsSign : List Char → Bool → Prop where
  | none : IsSign [] false
  | plus : IsSign ['+'] false
  | minus : IsSign ['-'] true

/-- A base marker, in lower or upper case. -/
inductive IsMarker : List Char → ℕ → Prop where
  | sixteen {letter : Char} (named : letter = 'x' ∨ letter = 'X') : IsMarker ['0', letter] 16
  | eight {letter : Char} (named : letter = 'o' ∨ letter = 'O') : IsMarker ['0', letter] 8
  | two {letter : Char} (named : letter = 'b' ∨ letter = 'B') : IsMarker ['0', letter] 2

/-- Decimal digits. -/
def AreDecimal (digits : List Char) : Prop :=
  ∀ c ∈ digits, c.isDigit = true

/-- An optional point with the digits behind it. -/
inductive IsFraction : List Char → List Char → Prop where
  | none : IsFraction [] []
  | point {digits : List Char} (decimal : AreDecimal digits) : IsFraction ('.' :: digits) digits

/-- An optional power of ten. -/
inductive IsPower : List Char → ℤ → Prop where
  | none : IsPower [] 0
  | marked {mark : Char} {sign digits : List Char} {negative : Bool}
      (named : mark = 'e' ∨ mark = 'E') (signed : IsSign sign negative)
      (filled : digits ≠ []) (decimal : AreDecimal digits) :
      IsPower (mark :: (sign ++ digits))
        (if negative then -(denoted 10 digits : ℤ) else denoted 10 digits)

/-- A decimal numeral, with the number of its sign that is nearest to what its digits amount to. -/
inductive IsDecimal : List Char → Binary64 → Prop where
  | parts {sign whole point fraction power : List Char} {negative : Bool} {exponent : ℤ}
      {x : Binary64} (signed : IsSign sign negative) (decimal : AreDecimal whole)
      (pointed : IsFraction point fraction) (filled : whole ++ fraction ≠ [])
      (scaled : IsPower power exponent)
      (nearest : x.IsNearest (denoted 10 (whole ++ fraction) * 10 ^ (exponent - fraction.length)))
      (same : x.negative = negative) : IsDecimal (sign ++ (whole ++ (point ++ power))) x

/-- At least one digit of a base and nothing else, with the number that they denote. -/
def AreDigits (base : ℕ) (digits : List Char) (n : ℕ) : Prop :=
  digits ≠ [] ∧ (∀ c ∈ digits, digitValue c < base) ∧ n = denoted base digits

/-- Digits of a base, behind an optional plus sign, that denote a number below two to the power of
64. -/
def AreBoundedDigits (base : ℕ) (text : List Char) (n : ℕ) : Prop :=
  ∃ digits, (text = digits ∨ text = '+' :: digits) ∧ AreDigits base digits n ∧ n < 2 ^ 64

/-- The texts without blanks around them that denote a number.  What may follow a base marker, and
which number it denotes, is left open. -/
inductive Denotes (behindMarker : ℕ → List Char → ℕ → Prop) : List Char → Binary64 → Prop where
  | empty : Denotes behindMarker [] .zero
  | infinite {sign : List Char} {negative : Bool} (signed : IsSign sign negative) :
      Denotes behindMarker (sign ++ "Infinity".toList) (.infinite negative)
  | based {marker rest : List Char} {base n : ℕ} {x : Binary64} (marked : IsMarker marker base)
      (behind : behindMarker base rest n) (nearest : x.IsNearest n)
      (positive : x.negative = false) : Denotes behindMarker (marker ++ rest) x
  | decimal {text : List Char} {x : Binary64} (decimal : IsDecimal text x) :
      Denotes behindMarker text x

/-- A text denotes a number, blanks around it not counting. -/
def IsNumeral (behindMarker : ℕ → List Char → ℕ → Prop) (text : List Char) (x : Binary64) : Prop :=
  ∃ before core after, text = before ++ core ++ after ∧
    (∀ c ∈ before, Text.isBlank c = true) ∧ (∀ c ∈ after, Text.isBlank c = true) ∧
    Denotes behindMarker core x

/-! ## Digits and signs -/

theorem denoted_concat (base : ℕ) (digits : List Char) (c : Char) :
    denoted base (digits ++ [c]) = denoted base digits * base + digitValue c := by
  simp [denoted, Nat.ofDigits_cons, Nat.mul_comm, Nat.add_comm]

theorem valueIn_eq (base : ℕ) (digits : List Char) : valueIn base digits = denoted base digits := by
  induction digits using List.reverseRecOn with
  | nil => rfl
  | append_singleton digits c ih => rw [denoted_concat, ← ih, valueIn, List.foldl_concat, valueIn]

/-- The text does not begin with a sign. -/
def IsUnsigned (text : List Char) : Prop :=
  ∀ c, text.head? = some c → c ≠ '-' ∧ c ≠ '+'

theorem splitSign_of_unsigned {text : List Char} (unsigned : IsUnsigned text) :
    splitSign text = (false, text) := by
  unfold splitSign
  split
  · exact absurd rfl (unsigned '-' rfl).1
  · exact absurd rfl (unsigned '+' rfl).2
  · rfl

theorem splitSign_append {sign rest : List Char} {negative : Bool} (signed : IsSign sign negative)
    (unsigned : IsUnsigned rest) : splitSign (sign ++ rest) = (negative, rest) := by
  cases signed with
  | none => exact splitSign_of_unsigned unsigned
  | plus => rfl
  | minus => rfl

/-- A text is the sign that is split off and what follows it. -/
theorem splitSign_spec (text : List Char) :
    ∃ sign, IsSign sign (splitSign text).1 ∧ text = sign ++ (splitSign text).2 := by
  unfold splitSign
  split
  · exact ⟨['-'], .minus, rfl⟩
  · exact ⟨['+'], .plus, rfl⟩
  · exact ⟨[], .none, rfl⟩

theorem AreDecimal.isUnsigned {digits rest : List Char} (decimal : AreDecimal digits)
    (unsigned : IsUnsigned rest) : IsUnsigned (digits ++ rest) := by
  cases digits with
  | nil => exact unsigned
  | cons first digits =>
      intro c head
      have digit := decimal first List.mem_cons_self
      cases head
      constructor <;> rintro rfl <;> cases digit

/-- Characters of one kind are split off in front of what does not begin with one. -/
theorem split_append {selects : Char → Bool} {front rest : List Char}
    (inside : ∀ c ∈ front, selects c = true)
    (ended : ∀ c, rest.head? = some c → selects c = false) :
    (front ++ rest).takeWhile selects = front ∧ (front ++ rest).dropWhile selects = rest := by
  rw [List.takeWhile_append_of_pos inside, List.dropWhile_append_of_pos inside]
  cases rest with
  | nil => exact ⟨List.append_nil front, rfl⟩
  | cons first rest =>
      have other := ended first rfl
      simp [other]

/-! ## Decimal numerals -/

theorem readPower_eq_some_iff {text : List Char} {power : ℤ} :
    readPower text = some power ↔ IsPower text power := by
  constructor
  · intro read
    cases text with
    | nil =>
        cases read
        exact .none
    | cons mark rest =>
        obtain ⟨sign, signed, split⟩ := splitSign_spec rest
        rw [readPower] at read
        generalize splitSign rest = parts at *
        obtain ⟨negative, digits⟩ := parts
        dsimp only at read signed split
        split at read
        · rename_i accepted
          simp only [Bool.and_eq_true, Bool.or_eq_true, decide_eq_true_eq, Bool.not_eq_true',
            List.isEmpty_eq_false_iff, List.all_eq_true] at accepted
          obtain ⟨⟨named, filled⟩, decimal⟩ := accepted
          rw [valueIn_eq] at read
          cases read
          subst split
          exact .marked named signed filled decimal
        · cases read
  · intro grammar
    cases grammar with
    | none => rfl
    | @marked mark sign digits negative named signed filled decimal =>
        have unsigned : IsUnsigned digits := by
          have ended : IsUnsigned [] := fun _ none => nomatch none
          simpa using decimal.isUnsigned ended
        have all : digits.all Char.isDigit = true := List.all_eq_true.mpr decimal
        rw [readPower, splitSign_append signed unsigned]
        simp [named, filled, all, valueIn_eq]

/-- The digits behind a leading point. -/
def fractionDigits : List Char → List Char
  | '.' :: rest => rest.takeWhile Char.isDigit
  | _ => []

/-- What follows a leading point and the digits behind it. -/
def behindFraction : List Char → List Char
  | '.' :: rest => rest.dropWhile Char.isDigit
  | text => text

theorem fraction_of_pointless {text : List Char} (pointless : ∀ rest, text = '.' :: rest → False) :
    fractionDigits text = [] ∧ behindFraction text = text := by
  unfold fractionDigits behindFraction
  split
  · exact (pointless _ rfl).elim
  · exact ⟨rfl, rfl⟩

theorem readDecimal_eq (text : List Char) :
    readDecimal text =
      let (negative, unsigned) := splitSign text
      let whole := unsigned.takeWhile Char.isDigit
      let fraction := fractionDigits (unsigned.dropWhile Char.isDigit)
      if whole.isEmpty && fraction.isEmpty then none
      else (readPower (behindFraction (unsigned.dropWhile Char.isDigit))).map fun power =>
        Binary64.ofDecimal negative (valueIn 10 (whole ++ fraction)) (power - fraction.length) := by
  unfold readDecimal
  generalize splitSign text = parts
  obtain ⟨negative, unsigned⟩ := parts
  dsimp only
  generalize unsigned.dropWhile Char.isDigit = after
  split
  · rfl
  · rename_i pointless
    obtain ⟨digits, rest⟩ := fraction_of_pointless pointless
    rw [digits, rest]

theorem AreDecimal.takeWhile (text : List Char) : AreDecimal (text.takeWhile Char.isDigit) :=
  fun _ member => List.all_eq_true.mp List.all_takeWhile _ member

/-- A text is the point with its digits and what follows them. -/
theorem fraction_spec (text : List Char) : ∃ point, IsFraction point (fractionDigits text) ∧
    text = point ++ behindFraction text := by
  unfold fractionDigits behindFraction
  split
  · rename_i rest
    exact ⟨_, .point (.takeWhile rest), congrArg _ (List.takeWhile_append_dropWhile).symm⟩
  · exact ⟨[], .none, rfl⟩

/-- A power of ten does not begin with a digit or a point. -/
theorem IsPower.head {text : List Char} {power : ℤ} (scaled : IsPower text power) {c : Char}
    (head : text.head? = some c) : c.isDigit = false ∧ c ≠ '.' := by
  cases scaled with
  | none => cases head
  | marked named signed filled decimal =>
      cases head
      rcases named with rfl | rfl <;> decide

theorem IsPower.isUnsigned {text : List Char} {power : ℤ} (scaled : IsPower text power) :
    IsUnsigned text := by
  intro c head
  cases scaled with
  | none => cases head
  | marked named signed filled decimal =>
      cases head
      rcases named with rfl | rfl <;> decide

theorem isUnsigned_decimal {whole point fraction power : List Char} {exponent : ℤ}
    (decimal : AreDecimal whole) (pointed : IsFraction point fraction)
    (scaled : IsPower power exponent) : IsUnsigned (whole ++ (point ++ power)) := by
  refine decimal.isUnsigned fun c head => ?_
  cases pointed with
  | none => exact scaled.isUnsigned c head
  | point decimal =>
      cases head
      decide

/-- In front of a power of ten, the point and its digits are split off. -/
theorem IsFraction.split {point fraction rest : List Char} (pointed : IsFraction point fraction)
    (ended : ∀ c, rest.head? = some c → c.isDigit = false ∧ c ≠ '.') :
    fractionDigits (point ++ rest) = fraction ∧ behindFraction (point ++ rest) = rest := by
  cases pointed with
  | none =>
      cases rest with
      | nil => exact ⟨rfl, rfl⟩
      | cons first rest =>
          exact fraction_of_pointless fun _ same => (ended first rfl).2 (List.cons.inj same).1
  | point decimal => exact split_append decimal fun c head => (ended c head).1

theorem isDecimal_of_readDecimal {text : List Char} {x : Binary64}
    (read : readDecimal text = some x) : IsDecimal text x := by
  obtain ⟨sign, signed, split⟩ := splitSign_spec text
  rw [readDecimal_eq] at read
  generalize splitSign text = parts at *
  obtain ⟨negative, unsigned⟩ := parts
  dsimp only at read signed split
  obtain ⟨point, pointed, split'⟩ := fraction_spec (unsigned.dropWhile Char.isDigit)
  split at read
  · cases read
  · rename_i present
    obtain ⟨exponent, scaled, rfl⟩ := Option.map_eq_some_iff.mp read
    have filled : unsigned.takeWhile Char.isDigit ++
        fractionDigits (unsigned.dropWhile Char.isDigit) ≠ [] := by
      intro empty
      obtain ⟨first, second⟩ := List.append_eq_nil_iff.mp empty
      exact present (by rw [first, second]; rfl)
    have written : text = sign ++ (unsigned.takeWhile Char.isDigit ++
        (point ++ behindFraction (unsigned.dropWhile Char.isDigit))) := by
      rw [← split', List.takeWhile_append_dropWhile, split]
    rw [written]
    refine .parts signed (.takeWhile unsigned) pointed filled (readPower_eq_some_iff.mp scaled) ?_
      (Binary64.negative_ofDecimal negative _ _)
    rw [← valueIn_eq]
    exact Binary64.isNearest_ofDecimal negative _ _

theorem IsDecimal.readDecimal {text : List Char} {x : Binary64} (decimal : IsDecimal text x) :
    readDecimal text = some x := by
  obtain ⟨signed, decimal, pointed, filled, scaled, nearest, same⟩ := decimal
  rename_i sign whole point fraction power negative exponent
  have ended : ∀ c, (point ++ power).head? = some c → c.isDigit = false := by
    intro c head
    cases pointed with
    | none => exact (scaled.head head).1
    | point decimal =>
        cases head
        decide
  have unsigned := isUnsigned_decimal decimal pointed scaled
  obtain ⟨split, split'⟩ := split_append decimal ended
  obtain ⟨digits, after⟩ := pointed.split fun c => scaled.head
  have present : (whole.isEmpty && fraction.isEmpty) = false := by
    refine Bool.eq_false_iff.mpr fun empty => filled ?_
    obtain ⟨first, second⟩ := Bool.and_eq_true_iff.mp empty
    rw [List.isEmpty_iff.mp first, List.isEmpty_iff.mp second]
    rfl
  rw [readDecimal_eq, splitSign_append signed unsigned]
  dsimp only
  rw [split, split', digits, after, present, readPower_eq_some_iff.mpr scaled, valueIn_eq]
  exact congrArg some ((Binary64.isNearest_ofDecimal negative _ _).unique nearest
    ((Binary64.negative_ofDecimal negative _ _).trans same.symm))

theorem IsDecimal.ne_nil {text : List Char} {x : Binary64} (decimal : IsDecimal text x) :
    text ≠ [] := by
  obtain ⟨signed, decimal, pointed, filled, scaled, nearest, same⟩ := decimal
  intro empty
  simp only [List.append_eq_nil_iff] at empty
  obtain ⟨-, rfl, rfl, -⟩ := empty
  cases pointed
  exact filled rfl

/-- A character of a decimal numeral other than a digit. -/
def decimalMarks : List Char :=
  ['.', 'e', 'E', '+', '-']

/-- The characters of a decimal numeral. -/
theorem IsDecimal.mem {text : List Char} {x : Binary64} (decimal : IsDecimal text x) {c : Char}
    (member : c ∈ text) : c.isDigit = true ∨ c ∈ decimalMarks := by
  have ofSign {sign : List Char} {negative : Bool} (signed : IsSign sign negative)
      (member : c ∈ sign) : c ∈ decimalMarks := by
    cases signed with
    | none => cases member
    | plus => exact List.mem_singleton.mp member ▸ by decide
    | minus => exact List.mem_singleton.mp member ▸ by decide
  obtain ⟨signed, decimal, pointed, filled, scaled, nearest, same⟩ := decimal
  simp only [List.mem_append] at member
  rcases member with member | member | member | member
  · exact .inr (ofSign signed member)
  · exact .inl (decimal c member)
  · cases pointed with
    | none => cases member
    | point decimal =>
        rcases List.mem_cons.mp member with rfl | member
        · exact .inr (by decide)
        · exact .inl (decimal c member)
  · cases scaled with
    | none => cases member
    | marked named signed filled decimal =>
        rcases List.mem_cons.mp member with rfl | member
        · rcases named with rfl | rfl <;> exact .inr (by decide)
        · rcases List.mem_append.mp member with member | member
          · exact .inr (ofSign signed member)
          · exact .inl (decimal c member)

/-! ## Numerals with a base marker -/

theorem splitBase_eq_some_iff {text rest : List Char} {base : ℕ} :
    splitBase text = some (base, rest) ↔
      ∃ marker, IsMarker marker base ∧ text = marker ++ rest := by
  constructor
  · intro split
    unfold splitBase at split
    split at split <;> cases split
    · exact ⟨_, .sixteen (.inl rfl), rfl⟩
    · exact ⟨_, .sixteen (.inr rfl), rfl⟩
    · exact ⟨_, .eight (.inl rfl), rfl⟩
    · exact ⟨_, .eight (.inr rfl), rfl⟩
    · exact ⟨_, .two (.inl rfl), rfl⟩
    · exact ⟨_, .two (.inr rfl), rfl⟩
  · rintro ⟨marker, marked, rfl⟩
    cases marked with
    | sixteen named => rcases named with rfl | rfl <;> rfl
    | eight named => rcases named with rfl | rfl <;> rfl
    | two named => rcases named with rfl | rfl <;> rfl

/-- A base marker is a zero and a letter that no decimal numeral has. -/
theorem IsMarker.letter {marker : List Char} {base : ℕ} (marked : IsMarker marker base) :
    ∃ letter, marker = ['0', letter] ∧ letter.isDigit = false ∧ letter ∉ decimalMarks := by
  cases marked with
  | sixteen named => exact ⟨_, rfl, by rcases named with rfl | rfl <;> decide⟩
  | eight named => exact ⟨_, rfl, by rcases named with rfl | rfl <;> decide⟩
  | two named => exact ⟨_, rfl, by rcases named with rfl | rfl <;> decide⟩

theorem IsMarker.base_le {marker : List Char} {base : ℕ} (marked : IsMarker marker base) :
    base ≤ 16 := by
  cases marked <;> decide

/-- What is read behind a base marker once a plus sign is taken off. -/
def readDigits (base : ℕ) (digits : List Char) : Option Binary64 :=
  if digits.isEmpty || digits.any (fun c => base ≤ digitValue c) then none
  else if valueIn base digits < 0x10000000000000000 then some (Binary64.ofNat (valueIn base digits))
  else none

theorem readIn_plus (base : ℕ) (digits : List Char) :
    readIn base ('+' :: digits) = readDigits base digits := rfl

theorem readIn_of_unsigned (base : ℕ) {text : List Char} (unsigned : ∀ rest, text ≠ '+' :: rest) :
    readIn base text = readDigits base text := by
  unfold readIn
  split
  · exact absurd rfl (unsigned _)
  · rfl

theorem readDigits_eq_some_iff {base : ℕ} {digits : List Char} {x : Binary64} :
    readDigits base digits = some x ↔
      ∃ n, AreDigits base digits n ∧ n < 2 ^ 64 ∧ Binary64.ofNat n = x := by
  unfold readDigits AreDigits
  rw [valueIn_eq]
  by_cases accepted : digits ≠ [] ∧ ∀ c ∈ digits, digitValue c < base
  · have passed : (digits.isEmpty || digits.any fun c => base ≤ digitValue c) = false := by
      simpa using accepted
    rw [passed]
    simp +contextual [accepted.1, accepted.2]
  · have failed : (digits.isEmpty || digits.any fun c => base ≤ digitValue c) = true := by
      by_contra passed
      exact accepted (by simpa using passed)
    rw [failed]
    simp only [if_true, reduceCtorEq, false_iff]
    rintro ⟨n, ⟨filled, each, -⟩, -⟩
    exact accepted ⟨filled, each⟩

/-- What is read behind a base marker: digits of the base behind an optional plus sign, below two to
the power of 64. -/
theorem readIn_eq_some_iff {base : ℕ} (small : base ≤ 16) {text : List Char} {x : Binary64} :
    readIn base text = some x ↔
      ∃ n, AreBoundedDigits base text n ∧ x.IsNearest n ∧ x.negative = false := by
  simp only [← Binary64.ofNat_eq_iff]
  by_cases signed : ∃ rest, text = '+' :: rest
  · obtain ⟨rest, rfl⟩ := signed
    rw [readIn_plus, readDigits_eq_some_iff]
    constructor
    · rintro ⟨n, digits, bounded, rfl⟩
      exact ⟨n, ⟨rest, .inr rfl, digits, bounded⟩, rfl⟩
    · rintro ⟨n, ⟨digits, rfl | same, accepted, bounded⟩, rfl⟩
      · -- A plus sign is no digit of any base.
        have plus : digitValue '+' < base := accepted.2.1 '+' List.mem_cons_self
        have value : digitValue '+' = 36 := by decide
        omega
      · cases same
        exact ⟨n, accepted, bounded, rfl⟩
  · rw [readIn_of_unsigned base fun rest same => signed ⟨rest, same⟩, readDigits_eq_some_iff]
    constructor
    · rintro ⟨n, digits, bounded, rfl⟩
      exact ⟨n, ⟨text, .inl rfl, digits, bounded⟩, rfl⟩
    · rintro ⟨n, ⟨digits, rfl | same, accepted, bounded⟩, rfl⟩
      · exact ⟨n, accepted, bounded, rfl⟩
      · exact absurd ⟨digits, same⟩ signed

/-! ## Blanks -/

theorem isBlank_of_visible {c : Char} (lower : 33 ≤ c.toNat) (upper : c.toNat < 127) :
    Text.isBlank c = false := by
  simp [Text.isBlank, Text.inRanges, Text.blankRanges]
  omega

theorem isBlank_of_isDigit {c : Char} (digit : c.isDigit = true) : Text.isBlank c = false := by
  obtain ⟨lower, upper⟩ := Char.isDigit_iff_toNat.mp digit
  exact isBlank_of_visible (Nat.le_trans (by decide) lower) (Nat.lt_of_le_of_lt upper (by decide))

/-- Digits of all bases are digits or letters. -/
theorem isBlank_of_digitValue {c : Char} (digit : digitValue c < 36) : Text.isBlank c = false := by
  have within {first last : Char} (range : (first ≤ c && c ≤ last) = true)
      (lower : 33 ≤ first.toNat) (upper : last.toNat < 127) : Text.isBlank c = false := by
    simp only [Bool.and_eq_true, decide_eq_true_eq] at range
    exact isBlank_of_visible (Nat.le_trans lower (UInt32.le_iff_toNat_le.mp range.1))
      (Nat.lt_of_le_of_lt (UInt32.le_iff_toNat_le.mp range.2) upper)
  unfold digitValue at digit
  split at digit
  · rename_i decimal
    exact isBlank_of_isDigit decimal
  · split at digit
    · rename_i range
      exact within range (by decide) (by decide)
    · split at digit
      · rename_i range
        exact within range (by decide) (by decide)
      · omega

/-- Blanks around a text without blanks are trimmed off. -/
theorem trim_append {before core after : List Char} (blank : ∀ c ∈ before, Text.isBlank c = true)
    (blank' : ∀ c ∈ after, Text.isBlank c = true) (visible : ∀ c ∈ core, Text.isBlank c = false) :
    Text.trim (before ++ core ++ after) = core := by
  unfold Text.trim
  by_cases empty : core = []
  · subst empty
    have all : ∀ c ∈ before ++ [] ++ after, Text.isBlank c = true := by
      intro c member
      rcases List.mem_append.mp (List.append_nil before ▸ member) with member | member
      · exact blank c member
      · exact blank' c member
    have dropped := (split_append all (nofun : ∀ c, [].head? = some c → _)).2
    rw [List.append_nil] at dropped
    rw [dropped]
    rfl
  · have first : ∀ c, (core ++ after).head? = some c → Text.isBlank c = false := by
      intro c head
      rw [List.head?_append_of_ne_nil _ empty] at head
      exact visible c (List.mem_of_head? head)
    have last : ∀ c, core.reverse.head? = some c → Text.isBlank c = false := by
      intro c head
      exact visible c (List.mem_reverse.mp (List.mem_of_head? head))
    rw [List.append_assoc, (split_append blank first).2, List.reverse_append,
      (split_append (fun c member => blank' c (List.mem_reverse.mp member)) last).2,
      List.reverse_reverse]

/-- A text is what is left of it by trimming with blanks around it. -/
theorem trim_spec (text : List Char) : ∃ before after,
    text = before ++ Text.trim text ++ after ∧ (∀ c ∈ before, Text.isBlank c = true) ∧
      ∀ c ∈ after, Text.isBlank c = true := by
  refine ⟨text.takeWhile Text.isBlank,
    ((text.dropWhile Text.isBlank).reverse.takeWhile Text.isBlank).reverse, ?_, ?_, ?_⟩
  · rw [Text.trim, List.append_assoc, ← List.reverse_append, List.takeWhile_append_dropWhile,
      List.reverse_reverse, List.takeWhile_append_dropWhile]
  · exact fun c member => List.all_eq_true.mp List.all_takeWhile c member
  · exact fun c member => List.all_eq_true.mp List.all_takeWhile c (List.mem_reverse.mp member)

theorem isBlank_of_all {text : List Char} (visible : text.all (fun c => !Text.isBlank c) = true) :
    ∀ c ∈ text, Text.isBlank c = false := by
  simpa using visible

theorem IsSign.isBlank {sign : List Char} {negative : Bool} (signed : IsSign sign negative) :
    ∀ c ∈ sign, Text.isBlank c = false := by
  cases signed <;> exact isBlank_of_all (by decide)

theorem IsMarker.isBlank {marker : List Char} {base : ℕ} (marked : IsMarker marker base) :
    ∀ c ∈ marker, Text.isBlank c = false := by
  cases marked with
  | sixteen named => rcases named with rfl | rfl <;> exact isBlank_of_all (by decide)
  | eight named => rcases named with rfl | rfl <;> exact isBlank_of_all (by decide)
  | two named => rcases named with rfl | rfl <;> exact isBlank_of_all (by decide)

/-! ## Reading -/

theorem readTrimmed_based {marker rest : List Char} {base : ℕ} (marked : IsMarker marker base) :
    readTrimmed (marker ++ rest) = readIn base rest := by
  have found : splitBase (marker ++ rest) = some (base, rest) :=
    splitBase_eq_some_iff.mpr ⟨marker, marked, rfl⟩
  obtain ⟨letter, rfl, -⟩ := marked.letter
  have unsigned : IsUnsigned (['0', letter] ++ rest) := by
    intro c head
    cases head
    decide
  have unnamed : ['0', letter] ++ rest ≠ "Infinity".toList := by simp
  rw [readTrimmed, splitSign_of_unsigned unsigned]
  simp only [if_neg unnamed, found]
  rfl

/-- A text of the characters of decimal numerals is tried as a decimal numeral only. -/
theorem readTrimmed_eq_readDecimal {text : List Char} (present : text ≠ [])
    (characters : ∀ c ∈ text, c.isDigit = true ∨ c ∈ decimalMarks) :
    readTrimmed text = readDecimal text := by
  have absent {c : Char} (digit : c.isDigit = false) (mark : c ∉ decimalMarks) : c ∉ text := by
    intro member
    rcases characters c member with digit' | mark'
    · rw [digit] at digit'
      cases digit'
    · exact mark mark'
  obtain ⟨sign, signed, split⟩ := splitSign_spec text
  have unnamed : (splitSign text).2 ≠ "Infinity".toList := by
    intro named
    refine (absent (by decide) (by decide) : 'I' ∉ text) ?_
    rw [split, named]
    exact List.mem_append_right sign (by decide)
  have unmarked : splitBase text = none := by
    refine Option.eq_none_iff_forall_ne_some.mpr fun ⟨base, rest⟩ found => ?_
    obtain ⟨marker, marked, rfl⟩ := splitBase_eq_some_iff.mp found
    obtain ⟨letter, rfl, noDigit, noMark⟩ := marked.letter
    exact absent noDigit noMark (by simp)
  rw [readTrimmed, if_neg fun empty => present (List.isEmpty_iff.mp empty)]
  generalize splitSign text = parts at *
  obtain ⟨negative, unsigned⟩ := parts
  simp only [if_neg unnamed, unmarked]

/-- A text without blanks around it reads as a number just if it denotes it. -/
theorem readTrimmed_eq_some_iff {text : List Char} {x : Binary64} :
    readTrimmed text = some x ↔ Denotes AreBoundedDigits text x := by
  constructor
  · intro read
    unfold readTrimmed at read
    split at read
    · rename_i empty
      cases read
      rw [List.isEmpty_iff.mp empty]
      exact .empty
    · obtain ⟨sign, signed, split⟩ := splitSign_spec text
      generalize splitSign text = parts at *
      obtain ⟨negative, unsigned⟩ := parts
      dsimp only at read signed split
      split at read
      · rename_i named
        cases read
        rw [split, named]
        exact .infinite signed
      · split at read
        · rename_i base rest found
          obtain ⟨marker, marked, rfl⟩ := splitBase_eq_some_iff.mp found
          obtain ⟨n, digits, nearest, positive⟩ :=
            (readIn_eq_some_iff marked.base_le).mp read
          exact .based marked digits nearest positive
        · exact .decimal (isDecimal_of_readDecimal read)
  · intro denotes
    cases denotes with
    | empty => rfl
    | infinite signed => cases signed <;> rfl
    | based marked digits nearest positive =>
        rw [readTrimmed_based marked]
        exact (readIn_eq_some_iff marked.base_le).mpr ⟨_, digits, nearest, positive⟩
    | decimal decimal =>
        rw [readTrimmed_eq_readDecimal decimal.ne_nil fun c => decimal.mem]
        exact decimal.readDecimal

theorem AreDigits.isBlank {base : ℕ} (small : base ≤ 16) {digits : List Char} {n : ℕ}
    (accepted : AreDigits base digits n) : ∀ c ∈ digits, Text.isBlank c = false := fun c member =>
  isBlank_of_digitValue
    (Nat.lt_of_lt_of_le (accepted.2.1 c member) (Nat.le_trans small (by decide)))

theorem AreBoundedDigits.isBlank {base : ℕ} (small : base ≤ 16) {text : List Char} {n : ℕ}
    (accepted : AreBoundedDigits base text n) : ∀ c ∈ text, Text.isBlank c = false := by
  obtain ⟨digits, rfl | rfl, digitsOfBase, -⟩ := accepted
  · exact digitsOfBase.isBlank small
  · exact List.forall_mem_cons.mpr ⟨by decide, digitsOfBase.isBlank small⟩

/-- No text that denotes a number holds a blank, unless there may be one behind a base marker. -/
theorem Denotes.isBlank {behindMarker : ℕ → List Char → ℕ → Prop}
    (visible : ∀ {base : ℕ}, base ≤ 16 → ∀ {text : List Char} {n : ℕ}, behindMarker base text n →
      ∀ c ∈ text, Text.isBlank c = false)
    {text : List Char} {x : Binary64} (denotes : Denotes behindMarker text x) :
    ∀ c ∈ text, Text.isBlank c = false := by
  intro c member
  cases denotes with
  | empty => cases member
  | infinite signed =>
      rcases List.mem_append.mp member with member | member
      · exact signed.isBlank c member
      · exact isBlank_of_all (by decide) c member
  | based marked behind nearest positive =>
      rcases List.mem_append.mp member with member | member
      · exact marked.isBlank c member
      · exact visible marked.base_le behind c member
  | decimal decimal =>
      rcases decimal.mem member with digit | mark
      · exact isBlank_of_isDigit digit
      · exact isBlank_of_all (by decide) c mark

/-- A numeral reads as the number that it denotes. -/
theorem IsNumeral.read {text : String} {x : Binary64}
    (numeral : IsNumeral AreBoundedDigits text.toList x) : Numeral.read text = some x := by
  obtain ⟨before, core, after, split, blank, blank', denotes⟩ := numeral
  rw [Numeral.read, split, trim_append blank blank' (denotes.isBlank AreBoundedDigits.isBlank)]
  exact readTrimmed_eq_some_iff.mpr denotes

/-- The texts that read as numbers are the numerals, with digits of bounded value behind base
markers. -/
theorem read_eq_some_iff (text : String) (x : Binary64) :
    read text = some x ↔ IsNumeral AreBoundedDigits text.toList x := by
  refine ⟨fun found => ?_, IsNumeral.read⟩
  obtain ⟨before, after, split, blank, blank'⟩ := trim_spec text.toList
  exact ⟨before, _, after, split, blank, blank', readTrimmed_eq_some_iff.mp found⟩

/-- Behind a base marker, digits that denote two to the power of 64 are not read, while a plus sign
is. -/
theorem read_beside_digits :
    (read "0x10000000000000000" = none ∧
      IsNumeral AreDigits "0x10000000000000000".toList (Binary64.ofNat (2 ^ 64))) ∧
    (read "0x+1" = some (Binary64.ofNat 1) ∧ ∀ x, ¬ IsNumeral AreDigits "0x+1".toList x) := by
  refine ⟨⟨by decide +kernel, ?_⟩, by decide +kernel, ?_⟩
  · obtain ⟨nearest, positive⟩ := Binary64.ofNat_eq_iff.mp (rfl : Binary64.ofNat (2 ^ 64) = _)
    have each : "10000000000000000".toList.all (fun c => digitValue c < 16) = true := by decide
    have digits : AreDigits 16 "10000000000000000".toList (2 ^ 64) :=
      ⟨by decide, fun c member => of_decide_eq_true (List.all_eq_true.mp each c member),
        by decide +kernel⟩
    exact ⟨[], "0x10000000000000000".toList, [], rfl, nofun, nofun,
      .based (.sixteen (.inl rfl)) digits nearest positive⟩
  · rintro x ⟨before, core, after, split, blank, blank', denotes⟩
    have trimmed := trim_append blank blank' (denotes.isBlank AreDigits.isBlank)
    rw [← split] at trimmed
    have written : core = ['0', 'x', '+', '1'] := trimmed.symm.trans (by decide)
    cases denotes with
    | empty => cases written
    | infinite signed => cases signed <;> cases written
    | based marked digits nearest positive =>
        -- The marker of base sixteen leaves the plus sign to the digits.
        obtain ⟨letter, rfl, -⟩ := marked.letter
        cases written
        cases marked with
        | sixteen named => exact absurd (digits.2.1 '+' List.mem_cons_self) (by decide)
        | eight named => exact absurd named (by decide)
        | two named => exact absurd named (by decide)
    | decimal decimal =>
        have letter : 'x'.isDigit = true ∨ 'x' ∈ decimalMarks := decimal.mem (written ▸ by decide)
        exact absurd letter (by decide)

end SchemaValidation.Numeral
