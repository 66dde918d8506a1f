import SchemaValidation.Proofs.ConstraintMap
import SchemaValidation.Proofs.OwnReports

/-!
# What checks can influence

Checks are user code, and what they can bring about is bounded.  A panic is a
verdict of its own position: a check before the descent counts as failed, one
after the descent as passed, and nothing else of the answer can tell a panic from
that verdict.  Checks after the descent only warn: they change neither the value
nor an error anywhere, although they run in the middle of choices and of members.
So the tags that they supply never reach an error.
-/

namespace SchemaValidation

open Trail Reported

variable {capabilities : Capabilities} {options : Options} {same : Trail → Trail → Prop}
  {trail trail' : Trail}

/-! ## Other checks on a node -/

namespace Constraints

variable (comparison : Comparison same) {constraints : Constraints} {checks checksAfter : List Check}
include comparison

/-- Checks before the descent have a part in the judgement by their details alone. -/
theorem judge_agrees {path : String} {value : Value}
    (checked : Agrees same (runChecks path value constraints.checks {})
      (runChecks path value checks {})) (before : same trail trail') :
    Agrees same (constraints.judge path value trail)
      ({ constraints with checks, checksAfter }.judge path value trail') := by
  obtain ⟨details, after⟩ := checked.on comparison (runChecks_onlyAdds path value _)
    (runChecks_onlyAdds path value _) before
  unfold judge
  dsimp only
  split
  · exact ⟨rfl, before⟩
  · split
    · exact ⟨rfl, before⟩
    · split
      · split <;> exact ⟨rfl, before⟩
      · rcases run : runChecks path value constraints.checks trail with ⟨given, left⟩
        rcases run' : runChecks path value checks trail' with ⟨given', left'⟩
        rw [run, run'] at details after
        cases details
        cases given with
        | nil => exact ⟨rfl, after⟩
        | cons detail rest => exact ⟨rfl, after⟩

theorem arrive_agrees {path : String}
    (checked : ∀ value, Agrees same (runChecks path value constraints.checks {})
      (runChecks path value checks {})) (value : Value) :
    Agrees same (constraints.arrive options path value {})
      ({ constraints with checks, checksAfter }.arrive options path value {}) := by
  have settled_eq (clean : Value) (left : Trail) :
      { constraints with checks, checksAfter }.settleKind options value.shape path
          ({ constraints with checks, checksAfter }.resolveAlias clean) left =
        constraints.settleKind options value.shape path (constraints.resolveAlias clean) left :=
    rfl
  unfold arrive
  dsimp only
  rcases runSanitizers path constraints.sanitizeBefore value {} with ⟨report | clean, left⟩
  · exact .refl comparison _
  · dsimp only
    rw [settled_eq]
    rcases constraints.settleKind options value.shape path (constraints.resolveAlias clean) left
      with ⟨report | settled, behind⟩
    · exact .refl comparison _
    · exact judge_agrees comparison (checked settled) (comparison.refl behind)

/-- Checks after the descent have a part in the leaving of a node by what they leave on the trail
alone. -/
theorem leave_agrees {path : String}
    (checked : ∀ value, same (runChecksAfter capabilities path value constraints.checksAfter {})
      (runChecksAfter capabilities path value checksAfter {})) (descent : Outcome) :
    Agrees same (constraints.leave capabilities options path descent {})
      ({ constraints with checks, checksAfter }.leave capabilities options path descent {}) := by
  obtain ⟨sanitized, after⟩ := Agrees.of_onlyAdds comparison
    (runSanitizers_onlyAdds path constraints.sanitize descent.value) (checked descent.value)
  unfold leave
  dsimp only
  split
  · exact .refl comparison _
  · rcases run : runSanitizers path constraints.sanitize descent.value
      (runChecksAfter capabilities path descent.value constraints.checksAfter {}) with
      ⟨report | value, left⟩
    all_goals
      rcases run' : runSanitizers path constraints.sanitize descent.value
        (runChecksAfter capabilities path descent.value checksAfter {}) with ⟨result, left'⟩
      rw [run, run'] at sanitized after
      cases sanitized
    · exact .of_onlyAdds comparison (constraints.fail_onlyAdds options report) after
    · exact ⟨rfl, after⟩

/-- A node with other checks takes the same steps if the checks before the descent have the same
details and what the checks after it leave on the trail compares. -/
theorem stepsAgree_of_checks
    (before : ∀ path value, Agrees same (runChecks path value constraints.checks {})
      (runChecks path value checks {}))
    (after : ∀ path value,
      same (runChecksAfter capabilities path value constraints.checksAfter {})
        (runChecksAfter capabilities path value checksAfter {})) :
    constraints.StepsAgree capabilities options options same
      { constraints with checks, checksAfter } where
  kind := rfl
  presence := rfl
  default := rfl
  arrive value path := arrive_agrees comparison (before path) value
  leave descent path := leave_agrees comparison (after path) descent

end Constraints

/-! ## Panics -/

/-- What user code returns, or a replacement if it panics. -/
def Attempt.getD {α : Type} (replacement : α) : Attempt α → α
  | returned result => result
  | panicked _ => replacement

/-- The check with a verdict of its own where it panics. -/
def Check.onPanic (verdict : Verdict) (check : Check) : Check :=
  { check with judge := fun value => .returned ((check.judge value).getD verdict) }

theorem Check.onPanic_judge (verdict : Verdict) (check : Check) (value : Value) :
    (check.onPanic verdict).judge value = .returned ((check.judge value).getD verdict) :=
  rfl

/-- The constraints with checks that are false where they panic, those after the descent being true
there. -/
def Constraints.withoutPanics (constraints : Constraints) : Constraints :=
  { constraints with
    checks := constraints.checks.map (Check.onPanic (.ofBool false))
    checksAfter := constraints.checksAfter.map (Check.onPanic (.ofBool true)) }

/-- The schema with checks that do not panic. -/
def Schema.withoutPanics (schema : Schema) : Schema :=
  schema.mapConstraints Constraints.withoutPanics

section Panics

variable {path : String} {value : Value}

/-- A check that panics gives the detail of one that is false. -/
theorem runChecks_withoutPanics (checks : List Check) (before : SameWarnings trail trail') :
    Agrees SameWarnings (runChecks path value checks trail)
      (runChecks path value (checks.map (Check.onPanic (.ofBool false))) trail') := by
  induction checks generalizing trail trail' with
  | nil => exact ⟨rfl, before⟩
  | cons check rest ih =>
      rw [List.map_cons]
      unfold runChecks
      cases judged : check.judge value with
      | returned verdict =>
          obtain ⟨details, after⟩ := ih before
          rw [Check.onPanic_judge, judged]
          cases verdict with
          | pass => exact ⟨details, after⟩
          | fail detail => cases detail <;> exact ⟨congrArg (_ :: ·) details, after⟩
      | panicked reason =>
          have logged : SameWarnings (trail.log (.checkPanicked check.label path reason)) trail' :=
            before
          obtain ⟨details, after⟩ := ih logged
          rw [Check.onPanic_judge, judged]
          exact ⟨congrArg (_ :: ·) details, after⟩

/-- A check after the descent that panics leaves no warning, as one that is true. -/
theorem runChecksAfter_withoutPanics (checks : List Check) (before : SameWarnings trail trail') :
    SameWarnings (runChecksAfter capabilities path value checks trail)
      (runChecksAfter capabilities path value (checks.map (Check.onPanic (.ofBool true)))
        trail') := by
  induction checks generalizing trail trail' with
  | nil => exact before
  | cons check rest ih =>
      rw [List.map_cons]
      unfold runChecksAfter
      cases judged : check.judge value with
      | returned verdict =>
          rw [Check.onPanic_judge, judged]
          cases verdict with
          | pass => exact ih before
          | fail detail =>
              have warned := comparison_sameWarnings.append before (comparison_sameWarnings.refl
                (warnOf capabilities path value detail {}))
              rw [← warnOf_append, ← warnOf_append, append_empty, append_empty] at warned
              exact ih warned
      | panicked reason =>
          have logged : SameWarnings (trail.log (.checkPanicked check.label path reason)) trail' :=
            before
          rw [Check.onPanic_judge, judged]
          exact ih logged

end Panics

/--
A panic is a decision of its position alone.  For every schema, value and set of
options, the walk along the schema in which every check before the descent is
false where it panics, and every check after the descent is true there, comes to
the same value, the same errors and the same warnings.
-/
theorem Schema.walk_withoutPanics (capabilities : Capabilities) (options : Options)
    (schema : Schema) (value : Value) (path : String) (trail : Trail) :
    (walk capabilities options schema.withoutPanics value path trail).1 =
        (walk capabilities options schema value path trail).1 ∧
      (walk capabilities options schema.withoutPanics value path trail).2.warnings =
        (walk capabilities options schema value path trail).2.warnings := by
  have steps (constraints : Constraints) :
      constraints.StepsAgree capabilities options options SameWarnings
        constraints.withoutPanics :=
    Constraints.stepsAgree_of_checks comparison_sameWarnings
      (fun _ _ => runChecks_withoutPanics constraints.checks rfl)
      (fun _ _ => runChecksAfter_withoutPanics constraints.checksAfter rfl)
  have agrees := schema.walk_agrees comparison_sameWarnings (.refl options) steps value path
    (rfl : trail.warnings = trail.warnings)
  exact ⟨agrees.result.symm, agrees.trail.symm⟩

/-! ## Checks after the descent -/

/-- The constraints without checks after the descent. -/
def Constraints.withoutChecksAfter (constraints : Constraints) : Constraints :=
  { constraints with checksAfter := [] }

/-- The schema without checks after the descent. -/
def Schema.withoutChecksAfter (schema : Schema) : Schema :=
  schema.mapConstraints Constraints.withoutChecksAfter

variable (capabilities options) in
/-- Without the checks after the descent, a walk comes to the same outcome. -/
theorem Schema.walk_withoutChecksAfter (schema : Schema) (value : Value) (path : String)
    (trail trail' : Trail) :
    (walk capabilities options schema.withoutChecksAfter value path trail').1 =
      (walk capabilities options schema value path trail).1 := by
  have steps (constraints : Constraints) :
      constraints.StepsAgree capabilities options options (fun _ _ => True)
        constraints.withoutChecksAfter :=
    Constraints.stepsAgree_of_checks comparison_none (fun _ _ => .refl comparison_none _)
      (fun _ _ => trivial)
  exact (schema.walk_agrees comparison_none (.refl options) steps value path trivial).result.symm

/-- The tags, as they are written, of the reports that can stand against a value. -/
def Report.errorTags : List String :=
  ["required_missing", "forbidden_encountered", "no_alternative_matched", "mismatching_types",
    "invalid_value", "not_a_valid_value", "checks_failed", "unknown_key", "matched_excluded_type",
    "sanitize_failed"]

/-- A report with one of these tags. -/
def Report.HasErrorTag (report : Report) : Prop :=
  report.tag ∈ Report.errorTags

/-- The reports of validation itself have these tags. -/
theorem Report.hasErrorTag_own : Report.OnOwn Report.HasErrorTag := by
  intro tag other path value expected actual
  change tag.text ∈ Report.errorTags
  cases tag <;> first | exact absurd rfl other | decide

namespace Schema

variable (capabilities options) in
/-- All reports of the walks along a schema have error tags. -/
def HasErrorTags (schema : Schema) : Prop :=
  ∀ value path, Each Report.HasErrorTag
    (Outcome.reported (walk capabilities options schema value path {}))

/-- Along a schema without checks after the descent, only validation itself reports. -/
theorem hasErrorTags {schema : Schema}
    (tree : schema.Everywhere fun node => node.constraints.checksAfter = []) :
    schema.HasErrorTags capabilities options := by
  refine reportsEach Report.hasErrorTag_own (tree.imp fun node unchecked path value => ?_)
  rw [unchecked]
  nofun

end Schema

/--
Checks after the descent have no influence on what is decided.  Along two schemas
that are one and the same without these checks, and under the same options, every
value comes to the same value and the same errors, and the tag of every error is
one of those that validation itself gives, whatever tags the checks supply.
-/
theorem Schema.walk_of_same_withoutChecksAfter {schema other : Schema}
    (form : schema.withoutChecksAfter = other.withoutChecksAfter) (capabilities : Capabilities)
    (options : Options) (value : Value) (path : String) (trail trail' : Trail) :
    (walk capabilities options schema value path trail).1 =
        (walk capabilities options other value path trail').1 ∧
      ∀ report ∈ (walk capabilities options schema value path trail).1.errors,
        report.tag ∈ Report.errorTags := by
  -- Warnings are never errors again, but errors become warnings where a failure is downgraded.  So the
  -- tags are looked for in all reports, of the schema that has no reports of user code left.
  have erased := schema.walk_withoutChecksAfter capabilities options value path trail {}
  have erased' := other.walk_withoutChecksAfter capabilities options value path trail' {}
  have tree : schema.withoutChecksAfter.Everywhere fun node => node.constraints.checksAfter = [] :=
    everywhere_mapConstraints (fun constraints => constraints.checksAfter = []) (fun _ => rfl) schema
  constructor
  · rw [← erased, ← erased', form]
  · rw [← erased]
    exact (hasErrorTags tree value path).errors

/-- The members of two lists are checked in two ways, by a check that panics and by one that supplies
a tag.  The tag is the one warning there is, and the error is validation's own. -/
theorem Schema.walk_of_same_withoutChecksAfter_tagged :
    let number (checksAfter : List Check) : Schema :=
      .node { constraints := { kind := some .number, checksAfter } }
    let list (item : Schema) : Schema :=
      .node { constraints := { kind := some .array }, includes := [item] }
    let tree (item : Schema) : Schema :=
      .node { constraints := { kind := some .object }, keys := [("a", list item)] }
    let schema := tree (number [⟨"tags", 0, fun _ => .returned (.fail (.string "odd"))⟩])
    let other := tree (number [⟨"panics", 1, fun _ => .panicked "stop"⟩])
    let value : Value := .object none [("a", .array [.number .zero, .string "x"])]
    let options : Options := { warnOnInvalidOptionals := false }
    let tags := List.map Report.tag
    schema.withoutChecksAfter = other.withoutChecksAfter ∧
      tags (walk .native options schema value "" {}).2.warnings = ["odd"] ∧
      tags (walk .native options schema value "" {}).1.errors = ["mismatching_types"] ∧
      ((walk .native options schema value "" {}).1 = (walk .native options other value "" {}).1 ∧
        ∀ report ∈ (walk .native options schema value "" {}).1.errors,
          report.tag ∈ Report.errorTags) := by
  intro number list tree schema other value options tags
  have form : schema.withoutChecksAfter = other.withoutChecksAfter := rfl
  exact ⟨form, by decide, by decide,
    walk_of_same_withoutChecksAfter form .native options value "" {} {}⟩

end SchemaValidation
