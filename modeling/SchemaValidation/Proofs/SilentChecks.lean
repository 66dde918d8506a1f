import SchemaValidation.Proofs.Details
import SchemaValidation.Proofs.OwnReports

/-!
# Failed checks that stay silent

A check after the descent that fails warns of every leaf of its detail.  A detail
may have no leaf: it is a list that is empty or holds nothing but such lists.  So a
failed check is silent exactly if its detail is of this kind, and every other detail
is one warning or more among those of the position.
-/

namespace SchemaValidation

namespace Value

/-- The value is a list in which there is nothing but lists, to any depth. -/
inductive IsHollow : Value → Prop where
  | array {items : List Value} (each : ∀ item ∈ items, IsHollow item) : IsHollow (.array items)

theorem isHollow_array_iff {items : List Value} :
    (Value.array items).IsHollow ↔ ∀ item ∈ items, item.IsHollow :=
  ⟨fun (.array each) => each, .array⟩

/-- A value has no leaves exactly if it is hollow. -/
theorem leaves_eq_nil_iff (value : Value) : value.leaves = [] ↔ value.IsHollow := by
  induction value using detailInduction with
  | single value single =>
      rw [leaves_of_single single]
      refine ⟨nofun, fun hollow => ?_⟩
      cases hollow
      exact absurd rfl single
  | array items ih =>
      rw [leaves, itemLeaves_eq, List.flatMap_eq_nil_iff, isHollow_array_iff]
      exact forall₂_congr ih

end Value

variable (capabilities : Capabilities) (path : String) (value : Value)

/-! ## The warnings of one check -/

/-- The warnings that a check after the descent leaves at a position. -/
def Check.warnings (check : Check) : List Report :=
  (check.details value).map (Report.ofDetail capabilities path value)

/-- A failed check leaves as many warnings as its detail has leaves, and none exactly if the detail is
hollow. -/
theorem Check.warnings_of_failed {check : Check} {detail : Value}
    (failed : check.judge value = .returned (.fail detail)) :
    (check.warnings capabilities path value).length = detail.leaves.length ∧
      (check.warnings capabilities path value = [] ↔ detail.IsHollow) := by
  have said : check.details value = detail.leaves := by rw [Check.details, failed]
  rw [Check.warnings, said, List.length_map, List.map_eq_nil_iff, Value.leaves_eq_nil_iff]
  exact ⟨rfl, .rfl⟩

theorem runChecksAfter_eq_flatMap (checks : List Check) (trail : Trail) :
    (runChecksAfter capabilities path value checks trail).warnings =
      trail.warnings ++ checks.flatMap (Check.warnings capabilities path value) := by
  rw [runChecksAfter_warnings, List.map_flatMap]
  rfl

/-! ## The warnings of a position -/

/-- Behind the warnings of its checks a position leaves at most one, on a sanitizer that fails. -/
theorem Constraints.leave_warnings (constraints : Constraints) (options : Options)
    (trail : Trail) :
    ∃ later : List Report,
      (constraints.leave capabilities options path ⟨value, []⟩ trail).2.warnings =
        trail.warnings ++
          constraints.checksAfter.flatMap (Check.warnings capabilities path value) ++ later ∧
      (later = [] ∨ ∃ reached, later = [.of .sanitizeFailed path reached]) := by
  have checked := runChecksAfter_eq_flatMap capabilities path value constraints.checksAfter trail
  have silent := runSanitizers_silent path constraints.sanitize value
    (runChecksAfter capabilities path value constraints.checksAfter trail)
  have kept : ¬ (!(⟨value, []⟩ : Outcome).isOk) = true := by simp [Outcome.isOk]
  unfold leave
  rw [if_neg kept]
  rcases run : runSanitizers path constraints.sanitize value
    (runChecksAfter capabilities path value constraints.checksAfter trail) with
    ⟨report | clean, behind⟩
  all_goals
    rw [run, checked] at silent
    dsimp only at silent ⊢
    rw [← silent]
  · obtain ⟨reached, rfl⟩ := runSanitizers_error (congrArg Prod.fst run)
    unfold fail failAll
    split
    · exact ⟨_, rfl, .inr ⟨reached, rfl⟩⟩
    · exact ⟨[], (List.append_nil _).symm, .inl rfl⟩
  · exact ⟨[], (List.append_nil _).symm, .inl rfl⟩

namespace Schema

variable (options : Options) (node : Node Schema) (trail : Trail)

/-- A walk along a node comes to the checks after the descent: the node decides on the value by
itself, and its parts are delivered without a report against them. -/
structure ComesToChecks (delivered : Value) (behind : Trail) : Prop where
  present : value.isUndefined = false
  admitted : node.constraints.effectivePresence options ≠ .forbidden
  plain : node.alternatives = []
  descended : ∃ entered after,
    node.constraints.arrive options path value trail = (.entered entered, after) ∧
      descend capabilities options node entered path after = (⟨delivered, []⟩, behind)

variable {capabilities path value options node trail} {delivered : Value} {behind : Trail}

/--
A walk that comes to the checks after the descent leaves their warnings, check by
check and in order, behind those it had so far; only a sanitizer that fails can add
one more.  A check that returns anything but a pass has as many warnings among them
as its detail has leaves: at least one, unless the detail is a list of nothing but
lists.
-/
theorem failed_checks_warn
    (comes : ComesToChecks capabilities path value options node trail delivered behind) :
    (∃ later : List Report,
      (walk capabilities options (.node node) value path trail).2.warnings =
        behind.warnings ++
          node.constraints.checksAfter.flatMap (Check.warnings capabilities path delivered) ++
            later ∧
      (later = [] ∨ ∃ reached, later = [.of .sanitizeFailed path reached])) ∧
    ∀ check ∈ node.constraints.checksAfter, ∀ detail,
      check.judge delivered = .returned (.fail detail) →
        (check.warnings capabilities path delivered).length = detail.leaves.length ∧
          (check.warnings capabilities path delivered = [] ↔ detail.IsHollow) := by
  refine ⟨?_, fun check _ detail => Check.warnings_of_failed capabilities path delivered⟩
  obtain ⟨entered, after, arrived, descended⟩ := comes.descended
  have walked : walk capabilities options (.node node) value path trail =
      node.constraints.leave capabilities options path ⟨delivered, []⟩ behind := by
    rw [walk_eq_settlePlain comes.present comes.admitted comes.plain, settlePlain, arrived]
    dsimp only
    rw [descended]
  rw [walked]
  exact node.constraints.leave_warnings capabilities path delivered options behind

/-- Of three checks on a number that fail, the one whose detail holds nothing but lists adds no
warning to those of the others. -/
theorem failed_checks_warn_three :
    let saying (detail : Value) : Check := ⟨"check", 0, fun _ => .returned (.ofValue detail)⟩
    let tagged : Value := .array [.array [], .string "odd"]
    let hollow : Value := .array [.array [], .array [.array []]]
    let node : Node Schema :=
      { constraints := { checksAfter := [saying tagged, saying hollow, saying (.boolean false)] } }
    let one : Value := .number .one
    ComesToChecks .native "/a" one {} node {} one {} ∧
      ((saying tagged).warnings .native "/a" one).length = 1 ∧
      (saying hollow).warnings .native "/a" one = [] ∧
      (saying (.boolean false)).warnings .native "/a" one ≠ [] := by
  intro saying tagged hollow node one
  have comes : ComesToChecks .native "/a" one {} node {} one {} :=
    ⟨rfl, by decide, rfl, one, {}, rfl, rfl⟩
  obtain ⟨-, each⟩ := failed_checks_warn comes
  have empty : hollow.IsHollow := by
    simp [hollow, Value.isHollow_array_iff]
  exact ⟨comes, (each (saying tagged) (by simp [node]) tagged rfl).1,
    (each (saying hollow) (by simp [node]) hollow rfl).2.mpr empty,
    (each (saying (.boolean false)) (by simp [node]) (.boolean false) rfl).2.not.mpr nofun⟩

/-- A check that fails with an empty list leaves no trace. -/
theorem empty_detail_is_silent :
    let check : Check := ⟨"check", 0, fun _ => .returned (.ofValue (.array []))⟩
    let node : Node Schema := { constraints := { checksAfter := [check] } }
    let one : Value := .number .one
    ComesToChecks .native "" one {} node {} one {} ∧
      check.judge one = .returned (.fail (.array [])) ∧
      walk .native {} (.node node) one "" {} = (⟨one, []⟩, {}) :=
  ⟨⟨rfl, by decide, rfl, .number .one, {}, rfl, rfl⟩, rfl, rfl⟩

end Schema

end SchemaValidation
