import SchemaValidation.Proofs.Ruling
import SchemaValidation.Rule

/-!
# Enforcement of refinements

The lists of values and the checks of a node are its refinements.  A node that is
no union turns away every value that they oppose.  A union decides before its
refinements are looked at: it accepts what one of its alternatives accepts, and
what they oppose is turned away only if no alternative does.
-/

namespace SchemaValidation

theorem Value.isAmong_append (value : Value) (insensitive : Bool) (first second : List Value) :
    value.isAmong insensitive (first ++ second) =
      (value.isAmong insensitive first || value.isAmong insensitive second) :=
  List.any_append

namespace Constraints

variable {constraints : Constraints} {value : Value}

/-- The refinements oppose a value: no list lets it pass, and it is listed as invalid, missing from
the valid values, or fails a check. -/
structure Opposes (constraints : Constraints) (value : Value) : Prop where
  notAllowed : value.isAmong constraints.insensitive constraints.allowed = false
  notValid : value.isAmong constraints.insensitive constraints.valid = false
  violated : value.isAmong constraints.insensitive constraints.invalid = true ∨
    constraints.valid ≠ [] ∨ ∃ check ∈ constraints.checks, check.passes value = false

theorem Opposes.weigh_eq (opposed : constraints.Opposes value) :
    constraints.weigh value = .rejected := by
  cases weighed : constraints.weigh value with
  | rejected => rfl
  | accepted result =>
      obtain ⟨-, listed⟩ := weigh_accepted weighed
      rw [Value.isAmong_append, opposed.notAllowed, opposed.notValid] at listed
      cases listed
  | entered result =>
      obtain ⟨-, unlisted, notInvalid, passed⟩ := weigh_entered weighed
      rcases opposed.violated with invalid | listed | ⟨check, member, fails⟩
      · cases notInvalid.symm.trans invalid
      · exact absurd unlisted listed
      · cases fails.symm.trans (passed check member)

/-- The kind of a strict position may turn the value away before its refinements do. -/
theorem Opposes.receive_eq {options : Options} (opposed : constraints.Opposes value)
    (untransformed : constraints.IsUntransformed) (strict : options.strict = true) :
    constraints.receive options value = .rejected := by
  rw [receive_of_untransformed options untransformed strict, opposed.weigh_eq, ite_self]

end Constraints

namespace Schema

variable {capabilities : Capabilities} {options : Options} {node : Node Schema} {value : Value}

/-- A node accepts a value that its refinements oppose only as a union. -/
theorem firstResult_of_opposed (opposed : node.constraints.Opposes value)
    (untransformed : node.constraints.IsUntransformed) (strict : options.strict = true)
    (present : value.isUndefined = false) {result : Value}
    (accepts : NodeAccepts capabilities options node value result) :
    node.constraints.effectivePresence options ≠ .forbidden ∧
      firstResult capabilities options node.alternatives value = some result := by
  have received := opposed.receive_eq untransformed strict
  cases accepts with
  | absent optional => cases present
  | unwanted forbidden => cases present
  | chosen _ admitted _ first => exact ⟨admitted, first⟩
  | settled _ _ _ accepted => cases received.symm.trans accepted
  | entered _ _ _ entered => cases received.symm.trans entered

/-- A strict walk at a node without sanitizers, aliases and default reports an error on every value
that the refinements of the node oppose, unless the node is a union whose alternatives decide: then
it delivers what the first accepting alternative delivers. -/
theorem refinements_enforced (opposed : node.constraints.Opposes value)
    (untransformed : node.constraints.IsUntransformed)
    (plain : node.constraints.default.isNullish = true) (strict : options.strict = true)
    (present : value.isUndefined = false) (path : String) (trail : Trail) :
    let outcome := (walk capabilities options (.node node) value path trail).1
    (outcome.errors = [] ↔ node.constraints.effectivePresence options ≠ .forbidden ∧
      ∃ member ∈ node.alternatives, member.accepts capabilities options value = true) ∧
    (outcome.errors = [] →
      firstResult capabilities options node.alternatives value = some outcome.value) := by
  intro outcome
  have fatal : node.constraints.downgrades options = false := by
    simp [Constraints.downgrades, plain]
  have ruled : outcome.ruling = ruleNode capabilities options node value :=
    walk_node_ruling (fun schema _ => schema.followsRuling) value path trail
  have value_eq : outcome.value = (ruleNode capabilities options node value).value :=
    congrArg Ruling.value ruled
  have accepted_iff : outcome.errors = [] ↔
      (ruleNode capabilities options node value).accepted = true := by
    rw [← ruled]
    exact List.isEmpty_iff.symm
  have decided (accepted : outcome.errors = []) :=
    firstResult_of_opposed opposed untransformed strict present
      (nodeAccepts_of_accepted fatal (accepted_iff.mp accepted))
  refine ⟨⟨fun accepted => ?_, ?_⟩, fun accepted => value_eq ▸ (decided accepted).2⟩
  · obtain ⟨admitted, first⟩ := decided accepted
    exact ⟨admitted, firstResult_isSome.mp (Option.isSome_of_eq_some first)⟩
  · rintro ⟨admitted, member, among, accepts⟩
    obtain ⟨result, first⟩ := Option.isSome_iff_exists.mp
      (firstResult_isSome.mpr ⟨member, among, accepts⟩)
    have union : node.alternatives.isEmpty = false := by
      rw [← Bool.not_eq_true, List.isEmpty_iff]
      exact List.ne_nil_of_mem among
    rw [accepted_iff, ruleNode_of_union present admitted union, ruleUnion, first]

/-- A value that is listed as invalid is turned away by a union that has no alternative for it, and
one that fails a check by a node that is no union. -/
theorem refinements_enforced_invalid_and_check :
    let number : Schema := .node { constraints := { kind := some .number } }
    let union : Node Schema := {
      constraints := { invalid := [.boolean true] }
      alternatives := [number] }
    let atLeastOne : Node Schema := {
      constraints := { kind := some .number, checks := [(Rule.min Binary64.one).check 0] } }
    (walk .native {} (.node union) (.boolean true) "/a" {}).1.errors ≠ [] ∧
      (walk .native {} (.node atLeastOne) (.number Binary64.zero) "/a" {}).1.errors ≠ [] := by
  intro number union atLeastOne
  have opposed : union.constraints.Opposes (.boolean true) := ⟨rfl, rfl, .inl rfl⟩
  have opposed' : atLeastOne.constraints.Opposes (.number Binary64.zero) :=
    ⟨rfl, rfl, .inr (.inr ⟨_, List.mem_singleton_self _, by decide⟩)⟩
  constructor
  · intro accepted
    obtain ⟨-, member, among, accepts⟩ :=
      (refinements_enforced opposed ⟨rfl, rfl, rfl⟩ rfl rfl rfl "/a" {}).1.mp accepted
    cases List.mem_singleton.mp among
    exact absurd accepts (by decide)
  · intro accepted
    obtain ⟨-, member, among, -⟩ :=
      (refinements_enforced opposed' ⟨rfl, rfl, rfl⟩ rfl rfl rfl "/a" {}).1.mp accepted
    cases among

/-- A union accepts a value that it lists as invalid if one of its alternatives accepts it. -/
theorem refinements_passed_over_by_union :
    let number : Schema := .node { constraints := { kind := some .number } }
    let union : Node Schema := {
      constraints := { invalid := [.number Binary64.one] }
      alternatives := [number] }
    let value := Value.number Binary64.one
    union.constraints.Opposes value ∧ union.constraints.IsUntransformed ∧
      union.constraints.default = .undefined ∧ ({} : Options).strict = true ∧
      value.isUndefined = false ∧ (walk .native {} (.node union) value "" {}).1.errors = [] :=
  ⟨⟨rfl, rfl, .inl (by decide)⟩, ⟨rfl, rfl, rfl⟩, rfl, rfl, rfl, by decide⟩

end Schema

end SchemaValidation
