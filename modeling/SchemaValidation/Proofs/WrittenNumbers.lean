import SchemaValidation.Binary64.WrittenForm
import SchemaValidation.Proofs.CanonicalForm
import SchemaValidation.Proofs.DecimalPoints
import SchemaValidation.Proofs.NumeralGrammar

/-!
# Numbers that are written and read

The text of a number used as a name writes all places of its shortest decimal.
It is a decimal numeral without a power of ten, and the number is the nearest one
to what the numeral amounts to.  So the text of a number reads as this number; the
sign of a zero alone is lost, and two numbers have one text exactly if they are
equal.
-/

namespace SchemaValidation

/-! ## Infinities -/

namespace Binary64

variable {x : Binary64}

theorem eq_infinite (unbounded : x.isInfinite = true) : x = infinite x.negative := by
  have magnitude : x.magnitude = (infinite x.negative).magnitude :=
    Fin.ext (eq_of_beq unbounded)
  cases x
  cases magnitude
  rfl

theorem isFinite_of_number (number : x.isNaN = false) (bounded : x.isInfinite = false) :
    x.isFinite = true := by
  have below : ¬ infinity < x.magnitude.val := of_decide_eq_false number
  have apart : x.magnitude.val ≠ infinity := ne_of_beq_false bounded
  exact decide_eq_true (by omega)

end Binary64

namespace Numeral

/-! ## Decimal digits -/

theorem AreDecimal.append {front rest : List Char} (decimal : AreDecimal front)
    (decimal' : AreDecimal rest) : AreDecimal (front ++ rest) :=
  List.forall_mem_append.mpr ⟨decimal, decimal'⟩

theorem areDecimal_zeros (n : ℕ) : AreDecimal (List.replicate n '0') := by
  intro c member
  rw [List.eq_of_mem_replicate member]
  rfl

theorem areDecimal_toDigits (n : ℕ) : AreDecimal (Nat.toDigits 10 n) := fun _ member =>
  Nat.isDigit_of_mem_toDigits (by decide) (by decide) member

theorem denoted_eq_ofDigitChars {digits : List Char} (decimal : AreDecimal digits) :
    denoted 10 digits = Nat.ofDigitChars 10 digits 0 := by
  rw [← valueIn_eq, valueIn, Nat.ofDigitChars]
  refine List.foldl_ext _ _ 0 fun value c member => ?_
  rw [digitValue, if_pos (decimal c member), Nat.mul_comm]

/-- Zeros behind the digits of a number scale it. -/
theorem denoted_toDigits_zeros (n zeros : ℕ) :
    denoted 10 (Nat.toDigits 10 n ++ List.replicate zeros '0') = n * 10 ^ zeros := by
  rw [denoted_eq_ofDigitChars ((areDecimal_toDigits n).append (areDecimal_zeros zeros)),
    Nat.ofDigitChars_append, Nat.ofDigitChars_toDigits (by decide) (by decide),
    Nat.ofDigitChars_replicate_zero, Nat.mul_comm]

/-- Zeros in front of the digits of a number do not count. -/
theorem denoted_zeros_toDigits (n zeros : ℕ) :
    denoted 10 (List.replicate zeros '0' ++ Nat.toDigits 10 n) = n := by
  rw [denoted_eq_ofDigitChars ((areDecimal_zeros zeros).append (areDecimal_toDigits n)),
    Nat.ofDigitChars_append, Nat.ofDigitChars_replicate_zero, Nat.mul_zero,
    Nat.ofDigitChars_toDigits (by decide) (by decide)]

/-! ## All places of a decimal -/

/-- All places of a decimal are a decimal numeral that amounts to it. -/
theorem places_spec (n : ℕ) (scale : ℤ) :
    ∃ whole point fraction,
      WrittenForm.places false (Nat.toDigits 10 n) scale = whole ++ point ∧ AreDecimal whole ∧
        IsFraction point fraction ∧ whole ++ fraction ≠ [] ∧
        (denoted 10 (whole ++ fraction) : ℚ) * 10 ^ (0 - (fraction.length : ℤ)) =
          n * 10 ^ scale := by
  have filled : Nat.toDigits 10 n ≠ [] := Nat.toDigits_ne_nil
  unfold WrittenForm.places
  by_cases integral : 0 ≤ scale
  · rw [if_pos integral]
    refine ⟨_, [], [], rfl, (areDecimal_toDigits n).append (areDecimal_zeros _), .none,
      by simp [filled], ?_⟩
    obtain ⟨zeros, rfl⟩ := Int.eq_ofNat_of_zero_le integral
    rw [List.append_nil, Int.toNat_natCast, denoted_toDigits_zeros]
    simp
  · rw [if_neg integral]
    obtain ⟨behind, rfl⟩ : ∃ behind : ℕ, scale = -behind := ⟨(-scale).toNat, by omega⟩
    rw [neg_neg, Int.toNat_natCast]
    set zeros := behind + 1 - (Nat.toDigits 10 n).length
    set padded := List.replicate zeros '0' ++ Nat.toDigits 10 n
    have decimal : AreDecimal padded := (areDecimal_zeros zeros).append (areDecimal_toDigits n)
    have long : behind < padded.length := by
      rw [List.length_append, List.length_replicate]
      omega
    have split : padded.take (padded.length - behind) ++ padded.drop (padded.length - behind) =
        padded := List.take_append_drop _ padded
    have width : (padded.drop (padded.length - behind)).length = behind := by
      rw [List.length_drop]
      omega
    refine ⟨_, _, _, rfl, fun c member => decimal c (List.mem_of_mem_take member),
      .point fun c member => decimal c (List.mem_of_mem_drop member), ?_, ?_⟩
    · rw [split]
      exact List.append_ne_nil_of_right_ne_nil _ filled
    · rw [split, width, denoted_zeros_toDigits, zero_sub]

/-! ## Texts of numbers -/

variable {x : Binary64}

theorem isSign_of_negative (negative : Bool) :
    IsSign (if negative then ['-'] else []) negative := by
  cases negative
  · exact .none
  · exact .minus

/-- The text of a finite number other than zero is a decimal numeral that denotes it. -/
theorem denotes_write (finite : x.isFinite = true) (nonzero : x.isZero = false) :
    Denotes AreBoundedDigits (WrittenForm.key.write x).toList x := by
  obtain ⟨whole, point, fraction, written, decimal, pointed, filled, amount⟩ :=
    places_spec (x.shortest .upward).digits (x.shortest .upward).scale
  have nearest := Binary64.isNearest_shortest .upward finite nonzero
  rw [← amount] at nearest
  have text : (WrittenForm.key.write x).toList =
      (if x.negative then ['-'] else []) ++ (whole ++ (point ++ [])) := by
    rw [List.append_nil, ← written, WrittenForm.write, WrittenForm.magnitude, nonzero]
    simp [WrittenForm.key]
  rw [text]
  exact .decimal
    (.parts (isSign_of_negative x.negative) decimal pointed filled .none nearest rfl)

/-- The text of a number reads as this number, both zeros as the positive one. -/
theorem read_keyText (number : x.isNaN = false) :
    read x.keyText = some (if x.isZero then .zero else x) := by
  cases infinite : x.isInfinite with
  | true =>
      rw [Binary64.eq_infinite infinite]
      cases x.negative <;> decide
  | false =>
      unfold Binary64.keyText
      rw [number, infinite]
      cases zero : x.isZero with
      | true => exact (by decide : read "0" = some .zero)
      | false =>
          exact IsNumeral.read ⟨[], _, [], (List.append_nil _).symm, nofun, nofun,
            denotes_write (Binary64.isFinite_of_number number infinite) zero⟩

/-- What the text of a number reads as is what equality sees of the number. -/
theorem read_keyText_eq (x : Binary64) :
    read x.keyText = if x.isNaN then none else some x.canonical := by
  cases unnumbered : x.isNaN with
  | true =>
      rw [Binary64.keyText, unnumbered]
      exact (by decide : read "NaN" = none)
  | false =>
      rw [read_keyText unnumbered, Binary64.canonical, unnumbered]
      rfl

end Numeral

/-- Two numbers have one text exactly if they are equal. -/
theorem Binary64.keyText_eq_iff {x y : Binary64} : x.keyText = y.keyText ↔ x.equals y = true := by
  rw [equals_iff]
  constructor
  · intro texts
    have reads := congrArg Numeral.read texts
    rw [Numeral.read_keyText_eq, Numeral.read_keyText_eq] at reads
    cases unnumbered : x.isNaN <;> cases unnumbered' : y.isNaN <;>
      rw [unnumbered, unnumbered'] at reads
    · exact Option.some.inj reads
    · cases reads
    · cases reads
    · rw [canonical, canonical, unnumbered, unnumbered']
      rfl
  · intro forms
    rw [← x.keyText_canonical, forms, y.keyText_canonical]

end SchemaValidation
