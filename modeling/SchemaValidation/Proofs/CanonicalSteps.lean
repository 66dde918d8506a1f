import SchemaValidation.Proofs.Agreement
import SchemaValidation.Proofs.CanonicalForm

/-!
# Steps on values with one canonical form

Values with one canonical form are taken through the steps at one position, on
trails whose warnings have one canonical form.  What comes out has one canonical
form again, as long as the user code at the position is rules that do not ask for
the class of an object.
-/

namespace SchemaValidation

/-! ## Results with one canonical form -/

/-- The outcome with the canonical forms of its values. -/
def Outcome.canonical (outcome : Outcome) : Outcome :=
  ⟨outcome.value.canonical, outcome.errors.map Report.canonical⟩

theorem Outcome.isOk_eq_of_canonical_eq {outcome outcome' : Outcome}
    (same : outcome.canonical = outcome'.canonical) : outcome.isOk = outcome'.isOk := by
  have isOk_canonical (outcome : Outcome) : outcome.canonical.isOk = outcome.isOk :=
    List.isEmpty_map
  rw [← isOk_canonical, same, isOk_canonical]

theorem Outcome.canonical_of_value {value value' : Value}
    (form : value.canonical = value'.canonical) :
    (⟨value, []⟩ : Outcome).canonical = (⟨value', []⟩ : Outcome).canonical :=
  congrArg (fun value => (⟨value, []⟩ : Outcome)) form

/-- The arrival with the canonical forms of its values. -/
def Arrival.canonical : Arrival → Arrival
  | accepted value => accepted value.canonical
  | rejected report => rejected report.canonical
  | entered value => entered value.canonical

/-- The object in the making with the canonical forms of its values. -/
def Assembly.canonical (assembly : Assembly) : Assembly :=
  ⟨KeyMap.mapItems Value.canonical assembly.members, assembly.errors.map Report.canonical⟩

/-- A value in its canonical form, or what is in its place in a form of its own. -/
def canonicalResult {α : Type} (onError : α → α) : Except α Value → Except α Value
  | .ok value => .ok value.canonical
  | .error reported => .error (onError reported)

namespace Trail

/-- The warnings of two trails have one canonical form. -/
def SameForms (trail trail' : Trail) : Prop :=
  trail.warnings.map Report.canonical = trail'.warnings.map Report.canonical

theorem comparison_sameForms : Comparison SameForms where
  refl _ := rfl
  append same same' := by
    rw [SameForms, append_warnings, append_warnings, List.map_append, List.map_append, same, same']
  takeBack _ := rfl

theorem SameForms.warn {trail trail' : Trail} (before : SameForms trail trail')
    {reports reports' : List Report}
    (forms : reports.map Report.canonical = reports'.map Report.canonical) :
    SameForms (trail.warn reports) (trail'.warn reports') := by
  unfold SameForms Trail.warn
  rw [List.map_append, List.map_append, before, forms]

end Trail

open Trail

/-- Two steps come to results with one canonical form and leave warnings with one. -/
structure LooksAlike {α β : Type} (form : α → β) (one other : α × Trail) : Prop where
  result : form one.1 = form other.1
  trail : SameForms one.2 other.2

/-- Laid behind trails with one form, endings that look alike still do. -/
theorem LooksAlike.behind {α β : Type} {form : α → β} {one other : α × Trail}
    (alike : LooksAlike form one other) {trail trail' : Trail} (before : SameForms trail trail') :
    LooksAlike form (one.1, trail ++ one.2) (other.1, trail' ++ other.2) :=
  ⟨alike.result, comparison_sameForms.append before alike.trail⟩

/-- Results that look alike are both values or both in the place of one. -/
theorem LooksAlike.result_cases {α : Type} {onError : α → α} {one other : Except α Value × Trail}
    (alike : LooksAlike (canonicalResult onError) one other) :
    (∃ reported reported' left left', one = (.error reported, left) ∧
        other = (.error reported', left') ∧ onError reported = onError reported' ∧
          SameForms left left') ∨
      ∃ value value' left left', one = (.ok value, left) ∧ other = (.ok value', left') ∧
        value.canonical = value'.canonical ∧ SameForms left left' := by
  obtain ⟨reported | value, left⟩ := one <;> obtain ⟨reported' | value', left'⟩ := other
  · exact .inl ⟨_, _, _, _, rfl, rfl, Except.error.inj alike.result, alike.trail⟩
  · cases alike.result
  · cases alike.result
  · exact .inr ⟨_, _, _, _, rfl, rfl, Except.ok.inj alike.result, alike.trail⟩

variable {capabilities : Capabilities} {options : Options} (path : String)
  {value value' : Value} (form : value.canonical = value'.canonical)
  {trail trail' : Trail} (before : SameForms trail trail')

/-! ## The steps at one position -/

/-- The report on a value with one canonical form is one up to the form. -/
theorem Report.canonical_of (tag : Tag) (expected actual : Value)
    (form : value.canonical = value'.canonical) :
    { Report.of tag path value with expected, actual }.canonical =
      { Report.of tag path value' with expected, actual }.canonical := by
  unfold Report.canonical Report.of
  rw [form]

theorem Report.canonical_singleton {report report' : Report}
    (same : report.canonical = report'.canonical) :
    [report].map canonical = [report'].map canonical :=
  congrArg (fun report => [report]) same

/-- A check is a rule that does not ask for the class of an object. -/
def Check.IsClasslessRule (check : Check) : Prop :=
  ∃ (rule : Rule) (identity : Nat), check = rule.check identity ∧
    ∀ className, rule ≠ .instanceOf className

/-- All user code at a position is rules that are checked before the descent. -/
structure Constraints.HasOnlyRules (constraints : Constraints) : Prop where
  sanitizeBefore : constraints.sanitizeBefore = []
  sanitize : constraints.sanitize = []
  checksAfter : constraints.checksAfter = []
  checks : ∀ check ∈ constraints.checks, check.IsClasslessRule

section Position

include form before

/-- One rule rejects both values or none, with details that have one canonical form. -/
theorem runChecks_looksAlike {checks : List Check}
    (rules : ∀ check ∈ checks, check.IsClasslessRule) :
    LooksAlike (List.map Value.canonical) (runChecks path value checks trail)
      (runChecks path value' checks trail') := by
  induction checks with
  | nil => exact ⟨rfl, before⟩
  | cons check rest ih =>
      obtain ⟨⟨rule, identity, rfl, classless⟩, others⟩ := List.forall_mem_cons.mp rules
      have alike := ih others
      have judged (value : Value) :
          (rule.check identity).judge value = .returned (rule.verdict value) := rfl
      have holds : rule.holds value = rule.holds value' :=
        Value.reading_eq (fun value => rule.holds value) (rule.holds_canonical classless) form
      unfold runChecks
      rw [judged, judged, Rule.verdict, Rule.verdict, holds]
      cases rule.holds value' with
      | true => exact alike
      | false =>
          refine ⟨?_, alike.trail⟩
          change (rule.failure value).toValue.canonical :: List.map _ _ =
            (rule.failure value').toValue.canonical :: List.map _ _
          rw [rule.failure_canonical form, alike.result]

namespace Constraints

variable (constraints : Constraints)

theorem failAll_looksAlike (options : Options) {errors errors' : List Report}
    (forms : errors.map Report.canonical = errors'.map Report.canonical) :
    LooksAlike Outcome.canonical (constraints.failAll options value errors trail)
      (constraints.failAll options value' errors' trail') := by
  unfold failAll Outcome.canonical
  split
  · exact ⟨by rw [form], before.warn forms⟩
  · exact ⟨by rw [form, forms], before⟩

omit form in
theorem fail_looksAlike (options : Options) {report report' : Report}
    (same : report.canonical = report'.canonical) :
    LooksAlike Outcome.canonical (constraints.fail options report trail)
      (constraints.fail options report' trail') :=
  constraints.failAll_looksAlike rfl before options (Report.canonical_singleton same)

omit before in
theorem resolveAlias_canonical :
    (constraints.resolveAlias value).canonical = (constraints.resolveAlias value').canonical := by
  have named : value.keyText? = value'.keyText? :=
    Value.reading_eq Value.keyText? Value.keyText?_canonical form
  unfold resolveAlias
  rw [named]
  cases value'.keyText?.bind constraints.aliases.find? with
  | none => exact form
  | some target =>
      dsimp only
      split
      · exact form
      · rfl

theorem judge_looksAlike (rules : ∀ check ∈ constraints.checks, check.IsClasslessRule) :
    LooksAlike Arrival.canonical (constraints.judge path value trail)
      (constraints.judge path value' trail') := by
  have listed (candidates : List Value) : value.isAmong constraints.insensitive candidates =
      value'.isAmong constraints.insensitive candidates :=
    Value.reading_eq (fun value => value.isAmong constraints.insensitive candidates)
      (fun value => value.isAmong_canonical constraints.insensitive candidates) form
  have accepted : (Arrival.accepted value).canonical = (Arrival.accepted value').canonical :=
    congrArg Arrival.accepted form
  have invalid := Report.canonical_of path .invalidValue .undefined .undefined form
  have notValid :=
    Report.canonical_of path .notAValidValue (.array constraints.valid) .undefined form
  obtain ⟨details, after⟩ := runChecks_looksAlike path form before rules
  unfold judge
  simp only [listed]
  split
  · exact ⟨accepted, before⟩
  · split
    · exact ⟨congrArg Arrival.rejected invalid, before⟩
    · split
      · split
        · exact ⟨accepted, before⟩
        · exact ⟨congrArg Arrival.rejected notValid, before⟩
      · rcases run : runChecks path value constraints.checks trail with ⟨found, left⟩
        rcases run' : runChecks path value' constraints.checks trail' with ⟨found', left'⟩
        rw [run, run'] at details after
        cases found with
        | nil =>
            cases found' with
            | nil => exact ⟨congrArg Arrival.entered form, after⟩
            | cons detail rest => cases details
        | cons detail rest =>
            cases found' with
            | nil => cases details
            | cons detail' rest' =>
                refine ⟨congrArg Arrival.rejected ?_, after⟩
                unfold Report.canonical Report.of
                simp only [Value.canonical_array, form, details]

/-- The kind is judged by the shape on arrival, and asked for in one report. -/
theorem settleKind_looksAlike (options : Options) (arrived : Shape) :
    LooksAlike (canonicalResult Report.canonical)
      (constraints.settleKind options arrived path value trail)
      (constraints.settleKind options arrived path value' trail') := by
  unfold settleKind
  cases constraints.kind with
  | none => exact ⟨congrArg Except.ok form, before⟩
  | some kind =>
      have report := Report.canonical_of path .mismatchingTypes (.string kind.shape.name)
        (.string arrived.name) form
      have cast : (value.cast kind.shape).canonical = (value'.cast kind.shape).canonical :=
        Value.reading_eq (fun value => (value.cast kind.shape).canonical)
          (fun value => value.cast_canonical kind.shape) form
      dsimp only
      split
      · exact ⟨congrArg Except.ok form, before⟩
      · split
        · exact ⟨congrArg Except.error report, before⟩
        · exact ⟨congrArg Except.ok cast, before.warn (Report.canonical_singleton report)⟩

variable (only : constraints.HasOnlyRules)
include only

theorem arrive_looksAlike (options : Options) :
    LooksAlike Arrival.canonical (constraints.arrive options path value trail)
      (constraints.arrive options path value' trail') := by
  have shape : value.shape = value'.shape := Value.reading_eq Value.shape Value.shape_canonical form
  have alike := constraints.settleKind_looksAlike path (constraints.resolveAlias_canonical form)
    before options value'.shape
  unfold arrive
  rw [only.sanitizeBefore, shape]
  dsimp only [runSanitizers]
  obtain ⟨report, report', left, left', settled, settled', same, after⟩ |
      ⟨found, found', left, left', settled, settled', same, after⟩ := alike.result_cases
  all_goals rw [settled, settled']
  · exact ⟨congrArg Arrival.rejected same, after⟩
  · exact constraints.judge_looksAlike path same after only.checks

omit form in
theorem leave_looksAlike (options : Options) {descent descent' : Outcome}
    (same : descent.canonical = descent'.canonical) :
    LooksAlike Outcome.canonical (constraints.leave capabilities options path descent trail)
      (constraints.leave capabilities options path descent' trail') := by
  obtain ⟨value, errors⟩ := Outcome.mk.inj same
  unfold leave
  rw [only.sanitize, only.checksAfter, Outcome.isOk_eq_of_canonical_eq same]
  split
  · exact constraints.failAll_looksAlike value before options errors
  · exact ⟨Outcome.canonical_of_value value, before⟩

end Constraints

end Position

/-! ## The object in the making -/

/-- Members with one canonical form have it under every name. -/
theorem KeyMap.find?_forms {members members' : List (String × Value)}
    (forms : mapItems Value.canonical members = mapItems Value.canonical members') (key : String) :
    (find? key members).map Value.canonical = (find? key members').map Value.canonical := by
  rw [← find?_mapItems, forms, find?_mapItems]

theorem KeyMap.getD_forms {members members' : List (String × Value)}
    (forms : mapItems Value.canonical members = mapItems Value.canonical members') (key : String) :
    ((find? key members).getD .undefined).canonical =
      ((find? key members').getD .undefined).canonical := by
  have read (found : Option Value) : (found.getD .undefined).canonical =
      (found.map Value.canonical).getD .undefined := by
    cases found <;> rfl
  rw [read, read, find?_forms forms]

namespace Assembly

variable {assembly assembly' : Assembly} (built : assembly.canonical = assembly'.canonical)
include built

section Store

include form

theorem store_canonical (key : String) :
    (assembly.store key value).canonical = (assembly'.store key value').canonical := by
  obtain ⟨members, errors⟩ := Assembly.mk.inj built
  have absent : value.isUndefined = value'.isUndefined :=
    Value.reading_eq Value.isUndefined Value.isUndefined_canonical form
  unfold store
  rw [absent]
  split
  · exact built
  · unfold canonical
    rw [KeyMap.mapItems_insert, KeyMap.mapItems_insert, members, errors, form]

include before in
theorem settleUnknown_looksAlike (options : Options) (key : String) {report report' : Report}
    (same : report.canonical = report'.canonical) :
    LooksAlike Assembly.canonical (assembly.settleUnknown options key value report trail)
      (assembly'.settleUnknown options key value' report' trail') := by
  obtain ⟨members, errors⟩ := Assembly.mk.inj built
  have reports := Report.canonical_singleton same
  have rejected : (if options.allowUnknown then assembly else assembly.reject [report]).canonical =
      (if options.allowUnknown then assembly' else assembly'.reject [report']).canonical := by
    split
    · exact built
    · unfold reject canonical
      rw [List.map_append, List.map_append, errors, members, reports]
  refine ⟨?_, ?_⟩
  · unfold settleUnknown
    dsimp only
    split
    · exact rejected
    · obtain ⟨members, errors⟩ := Assembly.mk.inj rejected
      unfold canonical
      rw [KeyMap.mapItems_insert, KeyMap.mapItems_insert, form, members, errors]
  · unfold settleUnknown
    dsimp only
    split
    · exact before.warn reports
    · exact before

end Store

include before in
theorem settleDeclared_looksAlike (options : Options) (presence : Presence) (key : String)
    {outcome outcome' : Outcome} (same : outcome.canonical = outcome'.canonical) :
    LooksAlike Assembly.canonical (assembly.settleDeclared options presence key outcome trail)
      (assembly'.settleDeclared options presence key outcome' trail') := by
  obtain ⟨members, errors⟩ := Assembly.mk.inj built
  obtain ⟨value, reports⟩ := Outcome.mk.inj same
  unfold settleDeclared
  rw [Outcome.isOk_eq_of_canonical_eq same]
  split
  · exact ⟨store_canonical value built key, before.warn reports⟩
  · refine ⟨store_canonical value ?_ key, before⟩
    unfold reject canonical
    rw [List.map_append, List.map_append, errors, members, reports]

end Assembly

namespace Value

include form

theorem members_forms : KeyMap.mapItems canonical value.recordOrEmpty.members =
    KeyMap.mapItems canonical value'.recordOrEmpty.members := by
  refine reading_eq (fun value => KeyMap.mapItems canonical value.recordOrEmpty.members)
    (fun value => ?_) form
  cases value with
  | object className members =>
      have idempotent := (object className members).canonical_canonical
      rw [canonical_object, canonical_object] at idempotent
      rw [canonical_object]
      exact (Value.object.inj idempotent).2
  | _ => rfl

theorem items_forms : value.itemsOrEmpty.map canonical = value'.itemsOrEmpty.map canonical := by
  refine reading_eq (fun value => value.itemsOrEmpty.map canonical) (fun value => ?_) form
  cases value with
  | array items =>
      have idempotent := (array items).canonical_canonical
      rw [canonical_array, canonical_array] at idempotent
      rw [canonical_array]
      exact Value.array.inj idempotent
  | _ => rfl

end Value

end SchemaValidation
