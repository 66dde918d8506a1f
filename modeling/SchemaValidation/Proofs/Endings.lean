import SchemaValidation.Proofs.Agreement
import SchemaValidation.Proofs.MemberReports

/-!
# Steps that end alike

What a validation answers is an outcome and its warnings; what it logged and used
up on the way is no part of the answer.  Two steps that differ in nothing else
end alike.  Since steps only add to their trails, it does not matter on which of
two trails with the same warnings a step is taken.
-/

namespace SchemaValidation

theorem Outcome.eq_of_isOk {outcome : Outcome} (accepted : outcome.isOk = true) :
    outcome = ⟨outcome.value, []⟩ := by
  obtain ⟨value, errors⟩ := outcome
  cases List.isEmpty_iff.mp accepted
  rfl

/-- Two steps end with the same result and the same warnings. -/
structure EndsAlike {α : Type} (one other : α × Trail) : Prop where
  result : one.1 = other.1
  warnings : one.2.warnings = other.2.warnings

namespace EndsAlike

open Trail

variable {α : Type} {one other third : α × Trail}

theorem refl (one : α × Trail) : EndsAlike one one :=
  ⟨rfl, rfl⟩

theorem symm (alike : EndsAlike one other) : EndsAlike other one :=
  ⟨alike.result.symm, alike.warnings.symm⟩

theorem trans (alike : EndsAlike one other) (alike' : EndsAlike other third) :
    EndsAlike one third :=
  ⟨alike.result.trans alike'.result, alike.warnings.trans alike'.warnings⟩

/-- To end alike is to agree if trails are compared in their warnings. -/
theorem agrees_iff : EndsAlike one other ↔ Agrees SameWarnings one other :=
  ⟨fun alike => ⟨alike.result, alike.warnings⟩, fun agrees => ⟨agrees.result, agrees.trail⟩⟩

/-- Laid behind two trails with the same warnings, alike endings stay alike. -/
theorem behind (alike : EndsAlike one other) {before before' : Trail}
    (same : before.warnings = before'.warnings) :
    EndsAlike (one.1, before ++ one.2) (other.1, before' ++ other.2) :=
  agrees_iff.mpr ((agrees_iff.mp alike).behind comparison_sameWarnings same)

/-- A step ends alike on two trails with the same warnings. -/
theorem of_onlyAdds {step : Trail → α × Trail} (adds : OnlyAdds step) {trail trail' : Trail}
    (same : trail.warnings = trail'.warnings) : EndsAlike (step trail) (step trail') :=
  agrees_iff.mpr (.of_onlyAdds comparison_sameWarnings adds same)

end EndsAlike

namespace Schema

variable {capabilities : Capabilities} {options : Options} {node : Node Schema} {value : Value}

/-! ## Unions -/

variable (capabilities options) in
/-- A choice gives the value of the first schema that accepts, with the warnings of its walk. -/
theorem walkFirst_answer (schemas : List Schema) (value : Value) (path : String) :
    let first := schemas.find? fun schema => schema.accepts capabilities options value
    let walked := walkFirst capabilities options schemas value path [] {}
    walked.1.toOption = first.map (fun schema => schema.result capabilities options value) ∧
      walked.2.warnings =
        match first with
        | some chosen => (walk capabilities options chosen value path {}).2.warnings
        | none => [] := by
  have left := walkFirst_warnings capabilities options schemas value path [] {}
  rw [find?_walk_isOk] at left
  exact ⟨walkFirst_toOption (fun schema _ => schema.followsRuling) value path [] {}, left⟩

/-- A union ends like its first alternative that accepts. -/
theorem settleUnion_of_chosen {schema : Schema}
    (first : (node.alternatives.find? fun schema =>
      schema.accepts capabilities options value) = some schema) (path : String) :
    EndsAlike (settleUnion capabilities options node value path {})
      (walk capabilities options schema value path {}) := by
  obtain ⟨chosen, left⟩ := walkFirst_answer capabilities options node.alternatives value path
  rw [first] at chosen left
  have taken := List.find?_some first
  have accepted := (schema.followsRuling.isOk value path {}).trans taken
  have delivered : (walk capabilities options schema value path {}).1 =
      ⟨schema.result capabilities options value, []⟩ :=
    schema.followsRuling.value value path {} ▸ Outcome.eq_of_isOk accepted
  unfold settleUnion
  rcases run : walkFirst capabilities options node.alternatives value path [] {} with
    ⟨errors | result, after⟩
  · rw [run] at chosen
    cases chosen
  · rw [run] at chosen left
    cases chosen
    exact ⟨delivered.symm, left⟩

/-- A union without an alternative that accepts ends like a failure of its node. -/
theorem settleUnion_of_unmatched
    (unmatched : (node.alternatives.find? fun schema =>
      schema.accepts capabilities options value) = none) (path : String) :
    EndsAlike (settleUnion capabilities options node value path {})
      (node.constraints.fail options (.of .noAlternativeMatched path value) {}) := by
  obtain ⟨chosen, left⟩ := walkFirst_answer capabilities options node.alternatives value path
  rw [unmatched] at chosen left
  unfold settleUnion
  rcases run : walkFirst capabilities options node.alternatives value path [] {} with
    ⟨errors | result, after⟩
  · rw [run] at left
    exact .of_onlyAdds (node.constraints.fail_onlyAdds options _) left
  · rw [run] at chosen
    cases chosen

end Schema

end SchemaValidation
