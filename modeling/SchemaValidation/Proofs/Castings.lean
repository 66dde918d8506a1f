import SchemaValidation.Proofs.CanonicalForm
import SchemaValidation.Proofs.Identities
import SchemaValidation.Proofs.NodeStep
import SchemaValidation.Proofs.Reception
import SchemaValidation.Proofs.WrittenNumbers

/-!
# Conversions between shapes

A conversion gives a value of the shape that is asked for or none, and a second
conversion to this shape changes nothing.  Numbers and truth values come back from
their texts.  What neither reads as a number nor is a word for a truth value counts
as false, so a schema of truth values that is not strict turns it into `false`.
-/

namespace SchemaValidation

namespace Value

/-! ## Shapes -/

theorem cast_of_shape {value : Value} {target : Shape} (same : value.shape = target) :
    value.cast target = value :=
  if_pos same

theorem castToString_shape (value : Value) :
    value.castToString.shape = .string ∨ value.castToString = undefined := by
  cases value <;> first | exact .inl rfl | exact .inr rfl

theorem castToNumber_shape (value : Value) :
    value.castToNumber.shape = .number ∨ value.castToNumber = undefined := by
  unfold castToNumber
  split
  · exact .inl rfl
  · exact .inr rfl

theorem castToBoolean_shape (value : Value) : value.castToBoolean.shape = .boolean := by
  unfold castToBoolean
  split
  · rfl
  · rfl
  · split <;> rfl

/-- A conversion gives a value of the shape that is asked for, or none. -/
theorem cast_shape (value : Value) (target : Shape) :
    (value.cast target).shape = target ∨ value.cast target = undefined := by
  by_cases same : value.shape = target
  · rw [cast_of_shape same]
    exact .inl same
  · unfold cast
    rw [if_neg same]
    cases target with
    | string => exact value.castToString_shape
    | number => exact value.castToNumber_shape
    | boolean => exact .inl value.castToBoolean_shape
    | _ => exact .inr rfl

/-- There is a conversion to a truth value for every value. -/
theorem cast_boolean_shape (value : Value) : (value.cast .boolean).shape = .boolean := by
  by_cases same : value.shape = .boolean
  · rw [cast_of_shape same]
    exact same
  · unfold cast
    rw [if_neg same]
    exact value.castToBoolean_shape

/-- A second conversion to the same shape changes nothing. -/
theorem cast_cast (value : Value) (target : Shape) :
    (value.cast target).cast target = value.cast target := by
  rcases value.cast_shape target with shaped | absent
  · exact cast_of_shape shaped
  · rw [absent]
    cases target with
    | boolean =>
        have shaped := value.cast_boolean_shape
        rw [absent] at shaped
        cases shaped
    | _ => rfl

/-! ## Texts and back -/

/-- A number comes back from its text, both zeros as the positive one. -/
theorem cast_text_number {x : Binary64} (number : x.isNaN = false) :
    ((Value.number x).cast .string).cast .number = Value.number x.canonical := by
  have read : (string x.keyText).toNumber = some x.canonical := by
    rw [toNumber, Numeral.read_keyText_eq, number]
    rfl
  calc ((Value.number x).cast .string).cast .number
    _ = (string x.keyText).castToNumber := rfl
    _ = Value.number x.canonical := by rw [castToNumber, read]

/--
Every number comes back from its text as an equal one, and every number but the
negative zero as itself; truth values come back from theirs.  A conversion gives a
value of the shape that is asked for, or none, and the same conversion of the
result changes nothing.
-/
theorem cast_through_text :
    (∀ x : Binary64, x.isNaN = false →
      (((Value.number x).cast .string).cast .number).equals (.number x) = true ∧
        (x.isZero = false → ((Value.number x).cast .string).cast .number = .number x)) ∧
      (∀ holds, ((boolean holds).cast .string).cast .boolean = boolean holds) ∧
      ∀ (value : Value) (target : Shape),
        ((value.cast target).shape = target ∨ value.cast target = undefined) ∧
          (value.cast target).cast target = value.cast target := by
  refine ⟨fun x number => ?_, ?_, fun value target =>
    ⟨value.cast_shape target, value.cast_cast target⟩⟩
  · rw [cast_text_number number]
    refine ⟨Binary64.equals_iff.mpr x.canonical_canonical, fun nonzero => ?_⟩
    rw [Binary64.canonical, number, nonzero]
    rfl
  · intro holds
    cases holds <;> rfl

/-- The least number above zero, the greatest finite number and an infinity come back from their
texts, and negative zero comes back as a zero. -/
theorem cast_through_text_extremes :
    let least : Binary64 := .ofMagnitude false 1
    let greatest : Binary64 := .ofMagnitude true 0x7FEFFFFFFFFFFFFF
    ((Value.number least).cast .string).cast .number = .number least ∧
      ((Value.number greatest).cast .string).cast .number = .number greatest ∧
      ((Value.number (.infinite true)).cast .string).cast .number = .number (.infinite true) ∧
      (((Value.number (.ofMagnitude true 0)).cast .string).cast .number).equals
        (.number (.ofMagnitude true 0)) = true := by
  intro least greatest
  obtain ⟨numbers, -⟩ := cast_through_text
  exact ⟨(numbers least (by decide)).2 (by decide), (numbers greatest (by decide)).2 (by decide),
    (numbers (.infinite true) (by decide)).2 (by decide), (numbers _ (by decide)).1⟩

/-! ## Values that cannot be read -/

/-- The value is a container or callable. -/
inductive IsComposite : Value → Prop where
  | array (items : List Value) : IsComposite (array items)
  | object (className : Option String) (members : List (String × Value)) :
      IsComposite (object className members)
  | function (callable : Callable) : IsComposite (function callable)

/-- The value is a container or callable, or a text that is neither a numeral nor a word for a truth
value. -/
inductive IsUnreadable : Value → Prop where
  | composite {value : Value} (composite : value.IsComposite) : IsUnreadable value
  | text {text : String} (noNumeral : Numeral.read text = none) (notTrue : text ≠ "true")
      (notFalse : text ≠ "false") : IsUnreadable (string text)

/-- Of the conversions of a container or callable to other shapes the one to a truth value alone
gives something. -/
theorem IsComposite.cast {value : Value} (composite : value.IsComposite) {target : Shape}
    (other : value.shape ≠ target) :
    value.cast target = if target = .boolean then boolean false else undefined := by
  cases composite <;> cases target <;> first | rfl | exact absurd rfl other

theorem IsUnreadable.shape {value : Value} (unreadable : value.IsUnreadable) :
    value.isUndefined = false ∧ value.shape ≠ .boolean := by
  cases unreadable with
  | composite composite => cases composite <;> exact ⟨rfl, nofun⟩
  | text noNumeral notTrue notFalse => exact ⟨rfl, nofun⟩

/-- A value that cannot be read counts as false. -/
theorem IsUnreadable.cast {value : Value} (unreadable : value.IsUnreadable) :
    value.cast .boolean = boolean false := by
  have other := unreadable.shape.2
  cases unreadable with
  | composite composite => exact composite.cast other
  | @text text noNumeral notTrue notFalse =>
      have truth : (string text).castToBoolean = boolean false := by
        unfold castToBoolean
        split
        · rename_i word
          exact absurd (string.inj word) notTrue
        · rename_i word
          exact absurd (string.inj word) notFalse
        · rw [toNumber, noNumeral]
      exact truth

theorem cast_number_of_noNumeral {text : String} (noNumeral : Numeral.read text = none) :
    (string text).cast .number = undefined := by
  have unread : (string text).castToNumber = undefined := by
    rw [castToNumber, toNumber, noNumeral]
  exact unread

end Value

/-- The source that calls for truth values and nothing else. -/
def Source.truth : Source :=
  .chain [.root (some .boolean)]

theorem Source.schema_truth :
    Source.truth.schema = .node { constraints := { kind := some .boolean } } := by
  rw [Source.schema_of_steps rfl]
  rfl

/-- The report on a value of another shape where a truth value is called for. -/
def Report.noTruth (path : String) (value : Value) : Report :=
  { Report.of .mismatchingTypes path value with
    expected := .string Shape.boolean.name, actual := .string value.shape.name }

/-- Unless the options are strict, a schema that calls for truth values converts a present value of
another shape and warns of this. -/
theorem Schema.walk_truth {capabilities : Capabilities} {options : Options} {value : Value}
    (lenient : options.strict = false) (admitted : options.presence ≠ .forbidden)
    (present : value.isUndefined = false) (other : value.shape ≠ .boolean) (path : String)
    (trail : Trail) :
    walk capabilities options (.node { constraints := { kind := some .boolean } }) value path
      trail = (⟨value.cast .boolean, []⟩, trail.warn [.noTruth path value]) := by
  have plain : walk capabilities options (.node { constraints := { kind := some .boolean } }) value
      path trail = _ := walk_eq_settlePlain present admitted rfl
  have named : Constraints.resolveAlias { kind := some .boolean } value = value :=
    Constraints.resolveAlias_of_untransformed ⟨rfl, rfl, rfl⟩ value
  have settled : Constraints.settleKind { kind := some .boolean } options value.shape path value
      trail = (.ok (value.cast .boolean), trail.warn [.noTruth path value]) := by
    have called : value.shape ≠ Kind.boolean.shape := other
    unfold Constraints.settleKind
    dsimp only
    rw [if_neg called, lenient]
    rfl
  have arrived : Constraints.arrive { kind := some .boolean } options path value trail =
      (.entered (value.cast .boolean), trail.warn [.noTruth path value]) := by
    unfold Constraints.arrive runSanitizers
    dsimp only
    rw [named, settled]
    rfl
  rw [plain, settlePlain, arrived]
  rfl

namespace Engine

/--
A container or callable converts to no other shape but to truth values, and a text
that is no numeral does not convert to a number.  Values that cannot be read all
convert to `false`; unless the options are strict, a schema that calls for truth
values delivers `false` for them, without an error and with a warning.
-/
theorem unreadable_values_convert (engine : Engine) :
    (∀ (value : Value) (target : Shape), value.IsComposite → value.shape ≠ target →
      value.cast target = if target = .boolean then .boolean false else .undefined) ∧
    (∀ text, Numeral.read text = none → (Value.string text).cast .number = .undefined) ∧
    ∀ value : Value, value.IsUnreadable → value.cast .boolean = .boolean false ∧
      ∀ (options : Options) (ledger : Ledger), options.strict = false →
        options.presence ≠ .forbidden →
        (engine.validateWith value .truth options ledger).1 =
          ⟨.boolean false, [], [.noTruth "" value]⟩ := by
  refine ⟨fun value target composite other => composite.cast other,
    fun text => Value.cast_number_of_noNumeral, fun value unreadable =>
      ⟨unreadable.cast, fun options ledger lenient admitted => ?_⟩⟩
  obtain ⟨present, other⟩ := unreadable.shape
  rw [validateWith_schema, Source.schema_truth,
    Schema.walk_truth lenient admitted present other, unreadable.cast]
  rfl

/-- A list and a word are converted to `false` where a truth value is called for, and neither has a
number. -/
theorem unreadable_values_convert_word :
    let engine : Engine := (Engine.start .native {}).1
    let options : Options := { strict := false }
    let list : Value := .array [.boolean true]
    let word : Value := .string "yes"
    let warning (value : Value) (shape : String) : Report :=
      { tag := "mismatching_types", sourcePath := "", sourceValue := value,
        expected := .string "boolean", actual := .string shape }
    (list.cast .boolean = .boolean false ∧ list.cast .number = .undefined ∧
      (engine.validateWith list .truth options {}).1 =
        ⟨.boolean false, [], [warning list "array"]⟩) ∧
    word.cast .boolean = .boolean false ∧ word.cast .number = .undefined ∧
    (engine.validateWith word .truth options {}).1 =
      ⟨.boolean false, [], [warning word "string"]⟩ := by
  intro engine options list word warning
  obtain ⟨composites, texts, values⟩ := engine.unreadable_values_convert
  have noNumeral : Numeral.read "yes" = none := by decide
  have composite : list.IsComposite := .array _
  obtain ⟨truth, delivered⟩ := values list (.composite composite)
  obtain ⟨truth', delivered'⟩ := values word (.text noNumeral (by decide) (by decide))
  exact ⟨⟨truth, composites list .number composite nofun, delivered options {} rfl (by decide)⟩,
    truth', texts "yes" noNumeral, delivered' options {} rfl (by decide)⟩

/-- The conversions of a list and of a word to truth values give something, and a schema of truth
values delivers it. -/
theorem unreadable_values_have_truth :
    let engine : Engine := (Engine.start .native {}).1
    let delivers (value : Value) : Value :=
      (engine.validateWith value .truth { strict := false } {}).1.value
    (Value.array [.boolean true]).cast .boolean = .boolean false ∧
      delivers (.array [.boolean true]) = .boolean false ∧
      Numeral.read "yes" = none ∧ (Value.string "yes").cast .boolean = .boolean false ∧
      delivers (.string "yes") = .boolean false ∧ Value.boolean false ≠ .undefined := by
  intro engine delivers
  have noNumeral : Numeral.read "yes" = none := by decide
  have counted : (Value.string "yes").cast .boolean = .boolean false :=
    Value.IsUnreadable.cast (.text noNumeral (by decide) (by decide))
  have other : (Value.string "yes").shape ≠ .boolean := nofun
  have walked : delivers (.string "yes") = (Value.string "yes").cast .boolean := by
    dsimp only [delivers]
    rw [validateWith_schema, Source.schema_truth, Schema.walk_truth rfl (by decide) rfl other]
  exact ⟨rfl, rfl, noNumeral, counted, walked.trans counted, nofun⟩

end Engine

end SchemaValidation
