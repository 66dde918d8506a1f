import SchemaValidation.Proofs.MemberAccounts
import SchemaValidation.Proofs.Silence

/-!
# Reports of validation itself

Apart from what the checks after the descent supply, every report of a walk is
made by validation itself: it has one of the tags of validation, a path, a value
and perhaps some details, and no further fields.  So a condition holds of all
reports of a walk if it holds of those and of the warnings of the checks after
the descent, and such a condition need not be followed through the walk again.
-/

namespace SchemaValidation

open Trail Reported

/-- A condition holds of every report that validation makes itself at a path.  A failed check is not
among them: before the descent its report is a detail, after it a warning that the check supplies. -/
def Report.OnOwnAt (path : String) (holds : Report → Prop) : Prop :=
  ∀ tag, tag ≠ Tag.checkFailed → ∀ value expected actual,
    holds { Report.of tag path value with expected, actual }

/-- A condition holds of every report that validation makes itself. -/
def Report.OnOwn (holds : Report → Prop) : Prop :=
  ∀ tag, tag ≠ Tag.checkFailed → ∀ path value expected actual,
    holds { Report.of tag path value with expected, actual }

theorem Report.OnOwn.onPath {holds : Report → Prop} (own : OnOwn holds) (path : String) :
    OnOwnAt path holds :=
  fun tag other => own tag other path

theorem Report.OnOwnAt.of {path : String} {holds : Report → Prop} (own : OnOwnAt path holds)
    {tag : Tag} (other : tag ≠ .checkFailed) (value : Value) : holds (.of tag path value) :=
  own tag other value .undefined .undefined

theorem Report.OnOwn.of {holds : Report → Prop} (own : OnOwn holds) {tag : Tag}
    (other : tag ≠ .checkFailed) (path : String) (value : Value) :
    holds (.of tag path value) :=
  (own.onPath path).of other value

variable {capabilities : Capabilities} {options : Options} {holds : Report → Prop}
  {path : String} {value : Value} {trail : Trail} {report : Report}

/-! ## The steps at one position -/

section Position

/-- Sanitizers fail with one kind of report. -/
theorem runSanitizers_error {sanitizers : List Sanitizer}
    (failed : (runSanitizers path sanitizers value trail).1 = .error report) :
    ∃ reached, report = .of .sanitizeFailed path reached := by
  induction sanitizers generalizing value with
  | nil => cases failed
  | cons sanitizer rest ih =>
      unfold runSanitizers at failed
      split at failed
      · exact ih failed
      · cases failed
        exact ⟨value, rfl⟩

/-- Leaving a node reports what is there, what its checks say of a value without errors, and perhaps
that a sanitizer fails on it. -/
theorem Constraints.leave_each (constraints : Constraints) {descent : Outcome}
    (supplied : descent.isOk = true → ∀ report ∈ (runChecksAfter capabilities path descent.value
      constraints.checksAfter {}).warnings, holds report)
    (failed : descent.isOk = true → ∀ report, (runSanitizers path constraints.sanitize
      descent.value {}).1 = .error report → holds report)
    (each : Each holds (descent.errors, trail)) :
    Each holds (Outcome.reported (constraints.leave capabilities options path descent trail)) := by
  have silent := runSanitizers_silent path constraints.sanitize descent.value
    (runChecksAfter capabilities path descent.value constraints.checksAfter trail)
  have alone := (runSanitizers_onlyAdds path constraints.sanitize descent.value).result
    (runChecksAfter capabilities path descent.value constraints.checksAfter trail)
  have added := runChecksAfter_append capabilities path descent.value constraints.checksAfter
    trail {}
  rw [append_empty] at added
  unfold leave
  split
  · exact (constraints.failAll_each _ _ _).mpr each
  · rename_i accepted
    have accepted : descent.isOk = true := by simpa using accepted
    rcases run : runSanitizers path constraints.sanitize descent.value
      (runChecksAfter capabilities path descent.value constraints.checksAfter trail) with
      ⟨report | value, left⟩
    all_goals
      rw [run, added] at silent
      rw [run] at alone
      have warned : ∀ report ∈ left.warnings, holds report := by
        rw [silent]
        exact List.forall_mem_append.mpr ⟨each.warnings, supplied accepted⟩
    · exact (constraints.fail_each _ _).mpr
        ⟨List.forall_mem_singleton.mpr (failed accepted report alone.symm), warned⟩
    · exact ⟨List.forall_mem_nil _, warned⟩

variable (own : Report.OnOwnAt path holds)
include own

theorem runSanitizers_own {sanitizers : List Sanitizer}
    (failed : (runSanitizers path sanitizers value trail).1 = .error report) : holds report := by
  obtain ⟨reached, rfl⟩ := runSanitizers_error failed
  exact own.of (by decide) reached

namespace Constraints

variable (constraints : Constraints)

theorem judge_own (rejected : (constraints.judge path value trail).1 = .rejected report) :
    holds report := by
  obtain ⟨tag, listed, expected, rfl⟩ := judge_rejected rejected
  have other : tag ≠ .checkFailed := by
    rintro rfl
    exact absurd listed (by decide)
  exact own tag other value expected .undefined

/-- The kind is asked for in one report, that turns the value away or warns of its conversion. -/
theorem settleKind_own (options : Options) (value : Value) (arrived : Shape)
    (before : ∀ report ∈ trail.warnings, holds report) :
    (∀ report, (constraints.settleKind options arrived path value trail).1 = .error report →
        holds report) ∧
      ∀ report ∈ (constraints.settleKind options arrived path value trail).2.warnings,
        holds report := by
  unfold settleKind
  split
  · exact ⟨nofun, before⟩
  · rename_i kind _
    have mismatch := own .mismatchingTypes (by decide) value (.string kind.shape.name)
      (.string arrived.name)
    split
    · exact ⟨nofun, before⟩
    · dsimp only
      split
      · refine ⟨?_, before⟩
        rintro _ ⟨⟩
        exact mismatch
      · exact ⟨nofun, List.forall_mem_append.mpr ⟨before, List.forall_mem_singleton.mpr mismatch⟩⟩

theorem arrive_own (options : Options) (value : Value) :
    (∀ report, (constraints.arrive options path value {}).1 = .rejected report → holds report) ∧
      ∀ report ∈ (constraints.arrive options path value {}).2.warnings, holds report := by
  have silent := runSanitizers_silent path constraints.sanitizeBefore value {}
  unfold arrive
  rcases run : runSanitizers path constraints.sanitizeBefore value {} with ⟨report | clean, left⟩
  all_goals
    rw [run] at silent
    have before : ∀ report ∈ left.warnings, holds report := by rw [silent]; nofun
  · refine ⟨?_, before⟩
    rintro _ ⟨⟩
    exact runSanitizers_own own (congrArg Prod.fst run)
  · obtain ⟨refused, warned⟩ := constraints.settleKind_own own options
      (constraints.resolveAlias clean) value.shape before
    rcases run' : constraints.settleKind options value.shape path (constraints.resolveAlias clean)
      left with ⟨report | settled, behind⟩
    all_goals
      rw [run'] at refused warned
      dsimp only
      rw [run']
    · refine ⟨?_, warned⟩
      rintro _ ⟨⟩
      exact refused report rfl
    · refine ⟨fun report => constraints.judge_own own, ?_⟩
      dsimp only
      rw [constraints.judge_silent path settled behind]
      exact warned

/-- Leaving a node reports what its checks supply and perhaps a sanitizer that fails. -/
theorem leave_own
    (supplied : ∀ value, ∀ report ∈
      (runChecksAfter capabilities path value constraints.checksAfter {}).warnings, holds report)
    {descent : Outcome} (each : Each holds (descent.errors, trail)) :
    Each holds (Outcome.reported (constraints.leave capabilities options path descent trail)) :=
  constraints.leave_each (fun _ => supplied descent.value) (fun _ _ => runSanitizers_own own) each

end Constraints

end Position

/-! ## Whole walks -/

namespace Schema

variable (capabilities options holds) in
/-- A condition holds of all reports of the walks along a schema. -/
def ReportsEach (schema : Schema) : Prop :=
  ∀ value path, Each holds (Outcome.reported (walk capabilities options schema value path {}))

variable (own : Report.OnOwn holds)

section Node

variable {node : Node Schema}
  (below : ∀ schema ∈ node.nested, schema.ReportsEach capabilities options holds)
include own below

theorem descend_own (before : Each holds ([], trail)) :
    Each holds (Outcome.reported (descend capabilities options node value path trail)) := by
  unfold descend
  split
  · rw [descendObject_each]
    refine ⟨before, fun entry member => below entry.2 (Node.nested_of_key member) _ _, ?_⟩
    intro key _ _ item _
    exact otherReported_each
      (fun schema fits => below schema (Node.nested_of_fitting fits) _ _)
      fun _ _ => own .unknownKey (by decide) path _ .undefined (.string key)
  · exact descendArray_each
      (fun _ item _ => ⟨fun schema member => below schema (Node.nested_of_include member) _ _,
        own.of (by decide) _ item⟩) before
  · exact before

theorem settlePlain_own
    (supplied : ∀ value, ∀ report ∈
      (runChecksAfter capabilities path value node.constraints.checksAfter {}).warnings,
        holds report) :
    Each holds (Outcome.reported (settlePlain capabilities options node value path {})) := by
  obtain ⟨refused, warned⟩ := node.constraints.arrive_own (own.onPath path) options value
  unfold settlePlain
  rcases run : node.constraints.arrive options path value {} with
    ⟨accepted | report | entered, after⟩
  all_goals rw [run] at refused warned
  · exact ⟨nofun, warned⟩
  · exact (node.constraints.fail_each report after).mpr
      ⟨List.forall_mem_singleton.mpr (refused report rfl), warned⟩
  · exact node.constraints.leave_own (own.onPath path) supplied
      (descend_own own below ⟨nofun, warned⟩)

end Node

include own in
/-- A condition on the reports of validation itself and on the warnings of the checks after the
descent holds of all reports of a walk. -/
theorem reportsEach {schema : Schema}
    (tree : schema.Everywhere fun node => ∀ path value, ∀ report ∈
      (runChecksAfter capabilities path value node.constraints.checksAfter {}).warnings,
        holds report) :
    schema.ReportsEach capabilities options holds := by
  induction tree with
  | @node parts supplied _ ih =>
      intro value path
      have alone {tag : Tag} (other : tag ≠ .checkFailed) (value : Value) :
          Each holds ([Report.of tag path value], {}) :=
        ⟨List.forall_mem_singleton.mpr (own.of other path value), nofun⟩
      rw [walk_node]
      split
      · unfold Constraints.absent
        split
        · exact each_empty
        · exact (parts.constraints.failAll_each _ _ _).mpr (alone (by decide) _)
        · exact each_empty
      · split
        · exact (parts.constraints.failAll_each _ _ _).mpr (alone (by decide) _)
        · split
          · exact settleUnion_each
              (fun schema member => ih schema (Node.nested_of_alternative member) value path)
              (own.of (by decide) path value)
          · exact settlePlain_own own ih (supplied path)

end Schema

end SchemaValidation
