import SchemaValidation.Proofs.Ruling

/-!
# Looser options

Options that allow unknown members, downgrade failures of optional members or
convert values of another kind accept whatever they accept without that.  The
two walks may part: under the looser options a choice can take an earlier schema
and a value can be converted.  The induction therefore only carries acceptance.
It fails for schemas that exclude items, since there acceptance is a reason to
reject, and for sanitizers at the end that panic on a converted value.
-/

namespace SchemaValidation

/-- The second options are at least as permissive as the first, and agree on the presence. -/
structure Options.LoosenedBy (tight loose : Options) : Prop where
  presence : tight.presence = loose.presence
  allowUnknown : tight.allowUnknown = true → loose.allowUnknown = true
  warnOnInvalidOptionals :
    tight.warnOnInvalidOptionals = true → loose.warnOnInvalidOptionals = true
  strict : loose.strict = true → tight.strict = true

/-- A sanitizer that does not panic. -/
def Sanitizer.IsTotal (sanitizer : Sanitizer) : Prop :=
  ∀ value, ∃ sanitized, sanitizer.transform value = .returned sanitized

/-- A node that excludes no items and whose sanitizers at the end do not panic. -/
structure Node.IsMonotone (node : Node Schema) : Prop where
  excludes : node.excludes = []
  sanitize : ∀ sanitizer ∈ node.constraints.sanitize, sanitizer.IsTotal

theorem sanitized?_isSome {sanitizers : List Sanitizer}
    (total : ∀ sanitizer ∈ sanitizers, sanitizer.IsTotal) (value : Value) :
    (sanitized? sanitizers value).isSome = true := by
  induction sanitizers generalizing value with
  | nil => rfl
  | cons sanitizer rest ih =>
      obtain ⟨sanitized, returned⟩ := total sanitizer List.mem_cons_self value
      unfold sanitized?
      rw [returned]
      exact ih (fun sanitizer member => total sanitizer (List.mem_cons_of_mem _ member)) sanitized

namespace Constraints

variable (constraints : Constraints) {tight loose : Options}

theorem effectivePresence_of_loosened (loosened : tight.LoosenedBy loose) :
    constraints.effectivePresence loose = constraints.effectivePresence tight := by
  unfold effectivePresence
  rw [loosened.presence]

variable {constraints}

theorem downgrades_of_loosened (loosened : tight.LoosenedBy loose)
    (downgrades : constraints.downgrades tight = true) : constraints.downgrades loose = true := by
  unfold Constraints.downgrades at downgrades ⊢
  rw [constraints.effectivePresence_of_loosened loosened]
  rw [Bool.and_eq_true] at downgrades ⊢
  exact ⟨downgrades.1, loosened.warnOnInvalidOptionals downgrades.2⟩

/-- A value that is of the right kind, or is made so, is made so under looser options too. -/
theorem fitKind_of_loosened (loosened : tight.LoosenedBy loose) {arrived : Shape}
    {value fitted : Value} (fits : constraints.fitKind tight arrived value = some fitted) :
    constraints.fitKind loose arrived value = some fitted := by
  unfold fitKind at fits ⊢
  cases kind : constraints.kind with
  | none => simpa [kind] using fits
  | some kind' =>
      simp only [kind] at fits ⊢
      split
      · rename_i same
        rwa [if_pos same] at fits
      · rename_i different
        rw [if_neg different] at fits
        by_cases strict : loose.strict = true
        · rw [if_pos (loosened.strict strict)] at fits
          cases fits
        · rw [if_neg strict]
          split at fits
          · cases fits
          · exact fits

/-- What is not rejected on arrival is received in the same way under looser options. -/
theorem receive_of_loosened (loosened : tight.LoosenedBy loose) {value : Value}
    (received : constraints.receive tight value ≠ .rejected) :
    constraints.receive loose value = constraints.receive tight value := by
  unfold receive at received ⊢
  cases clean : sanitized? constraints.sanitizeBefore value with
  | none => rfl
  | some sanitized =>
      simp only [clean] at received ⊢
      cases fits : constraints.fitKind tight value.shape (constraints.resolveAlias sanitized) with
      | none =>
          rw [fits] at received
          exact absurd rfl received
      | some fitted => rw [fitKind_of_loosened loosened fits]

/-- A node that downgrades its failures rejects nothing on the way out. -/
theorem dismiss_accepted_of_downgrades {options : Options}
    (downgrades : constraints.downgrades options = true) (descent : Ruling) :
    (constraints.dismiss options descent).accepted = true := by
  unfold dismiss refuse
  split
  · exact downgrades
  · split
    · rfl
    · exact downgrades

end Constraints

namespace Schema

variable {capabilities : Capabilities}

/-- A node that downgrades its failures accepts every value. -/
theorem ruleNode_accepted_of_downgrades {options : Options} {node : Node Schema}
    (downgrades : node.constraints.downgrades options = true) (value : Value) :
    (ruleNode capabilities options node value).accepted = true := by
  have optional : node.constraints.effectivePresence options = .optional := by
    simp only [Constraints.downgrades, Bool.and_eq_true, beq_iff_eq] at downgrades
    exact downgrades.1.2
  unfold ruleNode
  split
  · simp [Constraints.ruleAbsent, optional]
  · rw [if_neg (by simp [optional])]
    split
    · unfold ruleUnion
      split
      · rfl
      · exact downgrades
    · unfold rulePlain
      split
      · rfl
      · exact downgrades
      · exact Constraints.dismiss_accepted_of_downgrades downgrades _

variable {tight loose : Options}

theorem isLenient_of_loosened (loosened : tight.LoosenedBy loose) {schema : Schema}
    (lenient : schema.isLenient tight = true) : schema.isLenient loose = true := by
  unfold isLenient at lenient ⊢
  rw [schema.root.constraints.effectivePresence_of_loosened loosened]
  rw [Bool.and_eq_true] at lenient ⊢
  exact ⟨lenient.1, loosened.warnOnInvalidOptionals lenient.2⟩

section Node

variable {node : Node Schema} (loosened : tight.LoosenedBy loose)
  (below : ∀ schema ∈ node.nested, ∀ value,
    schema.accepts capabilities tight value = true →
      schema.accepts capabilities loose value = true)
include loosened below

theorem ruleObject_accepted_of_loosened {record : Record}
    (accepted : (ruleObject capabilities tight node record).accepted = true) :
    (ruleObject capabilities loose node record).accepted = true := by
  rw [ruleObject_accepted_iff] at accepted ⊢
  refine ⟨?_, ?_⟩
  · intro entry member
    exact (accepted.1 entry member).imp
      (below entry.2 (Node.nested_of_key member) _) (isLenient_of_loosened loosened)
  · intro name listed undeclared item found
    have settled := accepted.2 name listed undeclared item found
    rw [ruleFitting_isSome] at settled ⊢
    exact settled.imp id loosened.allowUnknown

omit loosened in
theorem ruleArray_accepted_of_loosened (excludes : node.excludes = []) {items : List Value}
    (accepted : (ruleArray capabilities tight node items).accepted = true) :
    (ruleArray capabilities loose node items).accepted = true := by
  simp only [ruleArray, List.all_eq_true] at accepted ⊢
  intro item member
  have chosen := accepted item member
  unfold itemResult at chosen ⊢
  split
  · simp [excludes]
  · rename_i included
    rw [if_neg included, firstResult_isSome] at chosen
    obtain ⟨schema, candidate, accepts⟩ := chosen
    exact firstResult_isSome.mpr
      ⟨schema, candidate, below schema (Node.nested_of_include candidate) item accepts⟩

theorem ruleParts_accepted_of_loosened (excludes : node.excludes = []) {entered : Value}
    (accepted : (ruleParts capabilities tight node entered).accepted = true) :
    (ruleParts capabilities loose node entered).accepted = true := by
  unfold ruleParts at accepted ⊢
  split
  · rename_i object
    rw [object] at accepted
    exact ruleObject_accepted_of_loosened loosened below accepted
  · rename_i array
    rw [array] at accepted
    exact ruleArray_accepted_of_loosened below excludes accepted
  · rfl

/-- If no failure is downgraded, the node accepts in the same way under looser options, although it
may deliver another value. -/
theorem nodeAccepts_of_loosened (monotone : node.IsMonotone) {value result : Value}
    (accepts : NodeAccepts capabilities tight node value result) :
    ∃ result, NodeAccepts capabilities loose node value result := by
  have presence := node.constraints.effectivePresence_of_loosened loosened
  cases accepts with
  | absent optional => exact ⟨_, .absent (presence.trans optional)⟩
  | unwanted forbidden => exact ⟨_, .unwanted (presence.trans forbidden)⟩
  | chosen present admitted union first =>
      obtain ⟨schema, candidate, accepts⟩ :=
        firstResult_isSome.mp (Option.isSome_of_eq_some first)
      have still := firstResult_isSome.mpr
        ⟨schema, candidate, below schema (Node.nested_of_alternative candidate) value accepts⟩
      obtain ⟨result, first⟩ := Option.isSome_iff_exists.mp still
      exact ⟨result, .chosen present (presence ▸ admitted) union first⟩
  | settled present admitted plain received =>
      have same := Constraints.receive_of_loosened loosened (by rw [received]; nofun)
      exact ⟨result, .settled present (presence ▸ admitted) plain (same.trans received)⟩
  | entered present admitted plain received parts sanitized =>
      have same := Constraints.receive_of_loosened loosened (by rw [received]; nofun)
      have still := ruleParts_accepted_of_loosened loosened below monotone.excludes parts
      obtain ⟨result, sanitized⟩ := Option.isSome_iff_exists.mp
        (sanitized?_isSome monotone.sanitize (ruleParts capabilities loose node _).value)
      exact ⟨result, .entered present (presence ▸ admitted) plain (same.trans received) still
        sanitized⟩

theorem ruleNode_accepted_of_loosened (monotone : node.IsMonotone) {value : Value}
    (accepted : (ruleNode capabilities tight node value).accepted = true) :
    (ruleNode capabilities loose node value).accepted = true := by
  cases lenient : node.constraints.downgrades loose with
  | true => exact ruleNode_accepted_of_downgrades lenient value
  | false =>
      have fatal : node.constraints.downgrades tight = false := by
        cases downgrades : node.constraints.downgrades tight with
        | false => rfl
        | true => exact (Constraints.downgrades_of_loosened loosened downgrades).symm.trans lenient
      obtain ⟨result, accepts⟩ := nodeAccepts_of_loosened loosened below monotone
        (nodeAccepts_of_accepted fatal accepted)
      rw [accepts.ruleNode_eq]

end Node

/-- What a schema accepts it accepts under looser options. -/
theorem accepts_of_loosened (loosened : tight.LoosenedBy loose) {schema : Schema}
    (tree : schema.Everywhere Node.IsMonotone) {value : Value}
    (accepted : schema.accepts capabilities tight value = true) :
    schema.accepts capabilities loose value = true := by
  induction tree generalizing value with
  | @node parts monotone nested ih =>
      unfold accepts at accepted ⊢
      rw [ruling_node] at accepted ⊢
      exact ruleNode_accepted_of_loosened loosened
        (fun schema member value accepted => ih schema member accepted) monotone accepted

/--
Acceptance is monotone in the options.  If a walk under some options ends
without errors, so does the walk under options that are at least as permissive,
whatever the trails hold, for every schema that nowhere excludes items and whose
sanitizers at the end do not panic.
-/
theorem walk_isOk_of_loosened (loosened : tight.LoosenedBy loose) {schema : Schema}
    (tree : schema.Everywhere Node.IsMonotone) {value : Value} {path : String} {trail : Trail}
    (accepted : (walk capabilities tight schema value path trail).1.isOk = true)
    (trail' : Trail) :
    (walk capabilities loose schema value path trail').1.isOk = true := by
  rw [schema.followsRuling.isOk] at accepted ⊢
  exact accepts_of_loosened loosened tree accepted

/-- Under the looser options the text is converted for the first alternative, which the tighter ones
pass over. -/
theorem walk_isOk_of_loosened_union :
    let tight : Options := { warnOnInvalidOptionals := false }
    let loose : Options := { strict := false, allowUnknown := true }
    let schema : Schema := .node {
      constraints := { kind := some .object }
      keys := [("a", .node { alternatives := [
        .node { constraints := { kind := some .number } },
        .node { constraints := { kind := some .string } }] })] }
    let value : Value := .object none [("a", .string "b")]
    (walk .native tight schema value "" {}).1.isOk = true ∧
      (walk .native loose schema value "" {}).1.isOk = true := by
  intro tight loose schema value
  have accepted : (walk .native tight schema value "" {}).1.isOk = true := by decide
  have loosened : tight.LoosenedBy loose := ⟨rfl, by decide, by decide, by decide⟩
  have leaf (kind : Kind) :
      Everywhere Node.IsMonotone (.node { constraints := { kind := some kind } }) :=
    .node ⟨rfl, by simp⟩ (by simp [Node.nested])
  have tree : schema.Everywhere Node.IsMonotone := by
    refine .node ⟨rfl, by simp⟩ ?_
    simp only [Node.nested, List.map_cons, List.map_nil, Option.map_none, Option.toList_none,
      List.append_nil, List.forall_mem_singleton]
    exact .node ⟨rfl, by simp⟩ (by simpa [Node.nested] using ⟨leaf .number, leaf .string⟩)
  exact ⟨accepted, walk_isOk_of_loosened loosened tree accepted {}⟩

end Schema

end SchemaValidation
