import SchemaValidation.Proofs.ValueTree
import SchemaValidation.Validation.Position

/-!
# Details of failed checks

A check after the descent that fails may say why with a value of any form.  Lists
in it are read as several details, at every depth, so that a detail stands for
its leaves.  Each leaf is one warning, in the order in which the leaves stand.
-/

namespace SchemaValidation

namespace Value

mutual

/-- The parts of a value that are no lists, from left to right. -/
def leaves : Value → List Value
  | array items => itemLeaves items
  | value => [value]

/-- The leaves of all items of a list. -/
def itemLeaves : List Value → List Value
  | [] => []
  | item :: rest => leaves item ++ itemLeaves rest

end

theorem itemLeaves_eq (items : List Value) : itemLeaves items = items.flatMap leaves := by
  induction items with
  | nil => rfl
  | cons item rest ih => rw [itemLeaves, ih, List.flatMap_cons]

theorem leaves_of_single {value : Value} (single : value.shape ≠ .array) :
    value.leaves = [value] := by
  cases value with
  | array items => exact absurd rfl single
  | _ => rfl

/-- Induction over the lists in a value, with everything else for a leaf. -/
theorem detailInduction {motive : Value → Prop}
    (single : ∀ value : Value, value.shape ≠ .array → motive value)
    (array : ∀ items : List Value, (∀ item ∈ items, motive item) → motive (.array items))
    (value : Value) : motive value := by
  induction value using nestedInduction with
  | leaf value plain =>
      refine single value fun listed => ?_
      cases value with
      | array items => cases plain
      | _ => cases listed
  | array items ih => exact array items ih
  | object className members => exact single _ nofun

/-- A leaf is no list. -/
theorem shape_of_mem_leaves (value : Value) : ∀ leaf ∈ value.leaves, leaf.shape ≠ .array := by
  induction value using detailInduction with
  | single value single =>
      rw [leaves_of_single single]
      exact List.forall_mem_singleton.mpr single
  | array items ih =>
      rw [leaves, itemLeaves_eq, List.forall_mem_flatMap]
      exact ih

theorem IsWellFormed.leaf {value : Value} (wellFormed : value.IsWellFormed) :
    ∀ leaf ∈ value.leaves, leaf.IsWellFormed := by
  induction value using detailInduction with
  | single value single =>
      rw [leaves_of_single single]
      exact List.forall_mem_singleton.mpr wellFormed
  | array items ih =>
      rw [leaves, itemLeaves_eq, List.forall_mem_flatMap]
      exact fun item member => ih item member (wellFormed.item member)

end Value

variable (capabilities : Capabilities) (path : String) (value : Value)

/-- The warning that a detail without parts stands for: a text is its tag, and an object is laid over
the report on a failed check. -/
def Report.ofDetail : Value → Report
  | .string tag => { tag, sourcePath := path, sourceValue := value }
  | .object className members =>
      .ofRecord (capabilities.derive (checkFailure path value) ⟨className, members⟩)
  | _ => .of .checkFailed path value

/-- The trail with the warnings that some leaves stand for. Objects among them are laid over others,
and nothing else is left behind. -/
def Trail.warnOfLeaves (leaves : List Value) (trail : Trail) : Trail :=
  { trail with
    warnings := trail.warnings ++ leaves.map (Report.ofDetail capabilities path value)
    usage := { trail.usage with
      derive := trail.usage.derive + leaves.countP fun leaf => leaf.record?.isSome } }

mutual

/-- A detail leaves behind what its leaves stand for. -/
theorem warnOf_eq (detail : Value) (trail : Trail) :
    warnOf capabilities path value detail trail =
      trail.warnOfLeaves capabilities path value detail.leaves := by
  cases detail with
  | array details => exact warnOfAll_eq details trail
  | _ => rfl

theorem warnOfAll_eq (details : List Value) (trail : Trail) :
    warnOfAll capabilities path value details trail =
      trail.warnOfLeaves capabilities path value (Value.itemLeaves details) := by
  cases details with
  | nil => simp [warnOfAll, Value.itemLeaves, Trail.warnOfLeaves]
  | cons detail rest =>
      rw [warnOfAll, warnOfAll_eq rest, warnOf_eq detail, Value.itemLeaves]
      simp [Trail.warnOfLeaves, Nat.add_assoc]

end

theorem warnOf_warnings (detail : Value) (trail : Trail) :
    (warnOf capabilities path value detail trail).warnings =
      trail.warnings ++ detail.leaves.map (Report.ofDetail capabilities path value) := by
  rw [warnOf_eq, Trail.warnOfLeaves]

/-- The leaves of what a check says against a value. -/
def Check.details (check : Check) (value : Value) : List Value :=
  match check.judge value with
  | .returned (.fail detail) => detail.leaves
  | _ => []

/-- The checks after the descent leave one warning for every leaf of their details, and nothing else
among the warnings. -/
theorem runChecksAfter_warnings (checks : List Check) (trail : Trail) :
    (runChecksAfter capabilities path value checks trail).warnings =
      trail.warnings ++ (checks.flatMap fun check => check.details value).map
        (Report.ofDetail capabilities path value) := by
  induction checks generalizing trail with
  | nil => exact (List.append_nil trail.warnings).symm
  | cons check rest ih =>
      rw [runChecksAfter, List.flatMap_cons, List.map_append, ← List.append_assoc, Check.details]
      rcases check.judge value with (_ | detail) | reason
      · simpa using ih trail
      · rw [ih, warnOf_warnings]
      · simpa [Trail.log] using ih (trail.log _)

end SchemaValidation
