import SchemaValidation.Proofs.EachReport
import SchemaValidation.Proofs.Permissiveness

/-!
# Strict and lenient validation

Lenient options convert a value of another kind and warn about it.  A walk that
leaves no such warning has converted nothing on the way to its answer, and under
strict options it gives the same answer.  An alternative that was rejected leaves
no warning whatever it converted; strict options reject it all the more, since
acceptance is monotone in the options.
-/

namespace SchemaValidation

/-- The options with the given strictness. -/
def Options.withStrict (options : Options) (strict : Bool) : Options :=
  { options with strict }

/-- A node that says nothing about the items of lists and whose sanitizers at the end do not
panic. -/
structure Node.IsUnselective (node : Node Schema) : Prop where
  includes : node.includes = []
  excludes : node.excludes = []
  sanitize : ∀ sanitizer ∈ node.constraints.sanitize, sanitizer.IsTotal

/-- A report that is not about a value of another kind. -/
def Report.KeepsKind (report : Report) : Prop :=
  report.tag ≠ Tag.mismatchingTypes.text

open Trail Reported

variable {capabilities : Capabilities} {options : Options}

theorem Options.strict_loosenedBy (options : Options) :
    (options.withStrict true).LoosenedBy (options.withStrict false) :=
  ⟨rfl, id, id, nofun⟩

/-! ## The steps of a node -/

namespace Constraints

variable (constraints : Constraints)

/-- A conversion leaves a warning; without one, strict options settle the kind in the same way. -/
theorem settleKind_of_keepsKind {arrived : Shape} {path : String} {value : Value} {trail : Trail}
    (kept : ∀ report ∈
      (constraints.settleKind (options.withStrict false) arrived path value trail).2.warnings,
      report.KeepsKind) :
    constraints.settleKind (options.withStrict true) arrived path value trail =
      constraints.settleKind (options.withStrict false) arrived path value trail := by
  unfold settleKind at kept ⊢
  cases called : constraints.kind with
  | none => rfl
  | some kind =>
      rw [called] at kept
      dsimp only at kept ⊢
      by_cases same : arrived = kind.shape
      · rw [if_pos same, if_pos same]
      · rw [if_neg same] at kept
        exact absurd rfl (kept _ (List.mem_append_right _ (List.mem_singleton.mpr rfl)))

/-- If no conversion is warned about, a value arrives in the same way under strict options. -/
theorem arrive_of_keepsKind {path : String} {value : Value} {trail : Trail}
    (kept : ∀ report ∈
      (constraints.arrive (options.withStrict false) path value trail).2.warnings,
      report.KeepsKind) :
    constraints.arrive (options.withStrict true) path value trail =
      constraints.arrive (options.withStrict false) path value trail := by
  unfold arrive at kept ⊢
  rcases clean : runSanitizers path constraints.sanitizeBefore value trail with
    ⟨report | sanitized, after⟩
  · rfl
  · rw [clean] at kept
    dsimp only at kept ⊢
    rw [constraints.settleKind_of_keepsKind]
    intro report made
    rcases run : constraints.settleKind (options.withStrict false) value.shape path
      (constraints.resolveAlias sanitized) after with ⟨rejection | settled, behind⟩
    · rw [run] at kept made
      exact kept report made
    · rw [run] at kept made
      -- the lists of values and the checks take no warning back
      exact kept report ((constraints.judge_onlyAdds path settled).kept made)

end Constraints

namespace Schema

variable (capabilities options) in
/-- A walk that converts nothing under lenient options ends alike under strict ones. -/
def EndsAlikeWhenStrict (schema : Schema) : Prop :=
  ∀ value path,
    Each Report.KeepsKind (Outcome.reported
      (walk capabilities (options.withStrict false) schema value path {})) →
    EndsAlike (walk capabilities (options.withStrict true) schema value path {})
      (walk capabilities (options.withStrict false) schema value path {})

/-- A union takes the same alternative under strict options: those before it are rejected all the
more. -/
theorem find?_accepts_strict {schemas : List Schema} {value : Value}
    (tightened : ∀ schema ∈ schemas,
      schema.accepts capabilities (options.withStrict true) value = true →
        schema.accepts capabilities (options.withStrict false) value = true)
    (kept : ∀ schema, (schemas.find? fun schema =>
        schema.accepts capabilities (options.withStrict false) value) = some schema →
      schema.accepts capabilities (options.withStrict true) value = true) :
    (schemas.find? fun schema => schema.accepts capabilities (options.withStrict true) value) =
      schemas.find? fun schema => schema.accepts capabilities (options.withStrict false) value := by
  induction schemas with
  | nil => rfl
  | cons schema rest ih =>
      have first := tightened schema List.mem_cons_self
      rw [List.find?_cons, List.find?_cons]
      rw [List.find?_cons] at kept
      cases lenient : schema.accepts capabilities (options.withStrict false) value with
      | true => rw [kept schema (by rw [lenient])]
      | false =>
          rw [lenient] at first kept
          rw [Bool.eq_false_iff.mpr fun strict => Bool.false_ne_true (first strict)]
          exact ih (fun schema member => tightened schema (List.mem_cons_of_mem _ member)) kept

section Node

variable {node : Node Schema}
  (below : ∀ schema ∈ node.nested, schema.EndsAlikeWhenStrict capabilities options)
include below

theorem descendObject_endsAlike {record : Record} {path : String} {trail : Trail}
    (kept : Each Report.KeepsKind (Outcome.reported
      (descendObject capabilities (options.withStrict false) node record path trail))) :
    EndsAlike (descendObject capabilities (options.withStrict true) node record path trail)
      (descendObject capabilities (options.withStrict false) node record path trail) := by
  obtain ⟨-, declared, others⟩ := (descendObject_each node record path trail).mp kept
  have members : (options.withStrict true).AgreeOnMembers (options.withStrict false) :=
    ⟨rfl, rfl, rfl, rfl⟩
  have agrees : Agrees SameWarnings
      (descendObject capabilities (options.withStrict true) node record path trail)
      (descendObject capabilities (options.withStrict false) (node.map id) record path trail) := by
    refine descendObject_agrees comparison_sameWarnings members (fun _ _ => rfl) ?_ ?_ rfl
    · intro entry member
      exact EndsAlike.agrees_iff.mp
        (below entry.2 (Node.nested_of_key member) _ _ (declared entry member))
    · intro key listed undeclared item found given schema described fits
      have each := others key listed undeclared item found
      rw [described, otherReported_each_of_fitting fits] at each
      exact EndsAlike.agrees_iff.mp (below schema (Node.nested_of_pattern described) _ _ each)
  rw [Node.map_id] at agrees
  exact EndsAlike.agrees_iff.mpr agrees

theorem descend_endsAlike (unselective : node.IsUnselective) {entered : Value} {path : String}
    {trail : Trail}
    (kept : Each Report.KeepsKind (Outcome.reported
      (descend capabilities (options.withStrict false) node entered path trail))) :
    EndsAlike (descend capabilities (options.withStrict true) node entered path trail)
      (descend capabilities (options.withStrict false) node entered path trail) := by
  have plain (options : Options) (items : List Value) :
      descendArray capabilities options node items path trail = (⟨.array items, []⟩, trail) := by
    unfold descendArray
    rw [unselective.includes, unselective.excludes]
    rfl
  unfold descend at kept ⊢
  split at kept
  · exact descendObject_endsAlike below kept
  · rw [plain, plain]
    exact .refl _
  · exact .refl _

theorem settlePlain_endsAlike (unselective : node.IsUnselective) {value : Value} {path : String}
    (kept : Each Report.KeepsKind (Outcome.reported
      (settlePlain capabilities (options.withStrict false) node value path {}))) :
    EndsAlike (settlePlain capabilities (options.withStrict true) node value path {})
      (settlePlain capabilities (options.withStrict false) node value path {}) := by
  unfold settlePlain at kept ⊢
  rcases run : node.constraints.arrive (options.withStrict false) path value {} with
    ⟨accepted | report | entered, after⟩
  · rw [run] at kept
    rw [node.constraints.arrive_of_keepsKind (run ▸ kept.warnings), run]
    exact .refl _
  · rw [run] at kept
    have rejected := (node.constraints.fail_each report after).mp kept
    rw [node.constraints.arrive_of_keepsKind (run ▸ rejected.warnings), run]
    exact .refl _
  · rw [run] at kept
    have parts : Each Report.KeepsKind (Outcome.reported
        (descend capabilities (options.withStrict false) node entered path after)) :=
      node.constraints.each_of_leave kept
    have descended := descend_endsAlike below unselective parts
    unfold Outcome.reported at parts
    rw [(descend_adds capabilities (options.withStrict false) node path entered).added after]
      at parts
    have arrived := ((each_behind _ _ _).mp parts).1
    rw [node.constraints.arrive_of_keepsKind (run ▸ arrived.warnings), run]
    dsimp only
    rw [descended.result]
    exact .of_onlyAdds (node.constraints.leave_onlyAdds capabilities (options.withStrict true)
      path _) descended.warnings

theorem settleUnion_endsAlike {value : Value} {path : String}
    (tightened : ∀ schema ∈ node.nested,
      schema.accepts capabilities (options.withStrict true) value = true →
        schema.accepts capabilities (options.withStrict false) value = true)
    (kept : Each Report.KeepsKind (Outcome.reported
      (settleUnion capabilities (options.withStrict false) node value path {}))) :
    EndsAlike (settleUnion capabilities (options.withStrict true) node value path {})
      (settleUnion capabilities (options.withStrict false) node value path {}) := by
  -- the alternative that is taken reports what the union does
  have chosen (schema : Schema) (first : (node.alternatives.find? fun schema =>
      schema.accepts capabilities (options.withStrict false) value) = some schema) :
      EndsAlike (walk capabilities (options.withStrict true) schema value path {})
        (walk capabilities (options.withStrict false) schema value path {}) := by
    have member := Node.nested_of_alternative (List.mem_of_find?_eq_some first)
    exact below schema member value path (kept.of_endsAlike (settleUnion_of_chosen first path))
  have stays (schema : Schema) (first : (node.alternatives.find? fun schema =>
      schema.accepts capabilities (options.withStrict false) value) = some schema) :
      schema.accepts capabilities (options.withStrict true) value = true := by
    have taken := List.find?_some first
    rw [← schema.followsRuling.isOk value path {}] at taken ⊢
    rw [(chosen schema first).result, taken]
  have same := find?_accepts_strict
    (fun schema member => tightened schema (Node.nested_of_alternative member)) stays
  cases first : node.alternatives.find? fun schema =>
      schema.accepts capabilities (options.withStrict false) value with
  | some schema =>
      exact (settleUnion_of_chosen (same.trans first) path).trans
        ((chosen schema first).trans (settleUnion_of_chosen first path).symm)
  | none =>
      exact (settleUnion_of_unmatched (same.trans first) path).trans
        (settleUnion_of_unmatched first path).symm

end Node

/-- A walk that converts nothing ends alike under strict options. -/
theorem endsAlikeWhenStrict {schema : Schema} (tree : schema.Everywhere Node.IsUnselective) :
    schema.EndsAlikeWhenStrict capabilities options := by
  induction tree with
  | @node parts unselective nested ih =>
      intro value path
      have tightened : ∀ schema ∈ parts.nested,
          schema.accepts capabilities (options.withStrict true) value = true →
            schema.accepts capabilities (options.withStrict false) value = true :=
        fun schema member => accepts_of_loosened options.strict_loosenedBy
          ((nested schema member).imp fun _ unselective =>
            ⟨unselective.excludes, unselective.sanitize⟩)
      have presence : parts.constraints.effectivePresence (options.withStrict true) =
          parts.constraints.effectivePresence (options.withStrict false) := rfl
      rw [walk_node, walk_node, presence]
      split
      · exact fun _ => .refl _
      · split
        · exact fun _ => .refl _
        · split
          · exact settleUnion_endsAlike ih tightened
          · exact settlePlain_endsAlike ih unselective

/--
Where nothing is converted, strictness does not matter.  If the walk under
lenient options leaves no report about a value of another kind, neither as an
error nor as a warning, then the walk under options that differ only in being
strict gives the same value, the same errors and the same warnings, for every
schema that says nothing about the items of lists and whose sanitizers at the
end do not panic.
-/
theorem walk_strict_of_unconverted {schema : Schema} (tree : schema.Everywhere Node.IsUnselective)
    {value : Value} {path : String}
    (unconverted : ∀ report ∈
      (walk capabilities (options.withStrict false) schema value path {}).1.errors ++
        (walk capabilities (options.withStrict false) schema value path {}).2.warnings,
      report.tag ≠ Tag.mismatchingTypes.text) (trail : Trail) :
    (walk capabilities (options.withStrict true) schema value path trail).1 =
        (walk capabilities (options.withStrict false) schema value path trail).1 ∧
      (walk capabilities (options.withStrict true) schema value path trail).2.warnings =
        (walk capabilities (options.withStrict false) schema value path trail).2.warnings := by
  obtain ⟨errors, warnings⟩ := List.forall_mem_append.mp unconverted
  have alike := (endsAlikeWhenStrict tree value path ⟨errors, warnings⟩).behind
    (rfl : trail.warnings = trail.warnings)
  rw [walk_eq_append, walk_eq_append (options.withStrict false)]
  exact ⟨alike.result, alike.warnings⟩

/-- The text is converted for the first alternative, which rejects what becomes of it; strict options
reject the text itself. -/
theorem walk_strict_of_unconverted_union :
    let schema : Schema := .node {
      constraints := { kind := some .object }
      keys := [("a", .node { alternatives := [
        .node { constraints := { kind := some .number, invalid := [.undefined] } },
        .node { constraints := { kind := some .string } }] })] }
    let value : Value := .object none [("a", .string "x"), ("b", .null)]
    let lenient := walk .native (Options.withStrict {} false) schema value "" {}
    let strict := walk .native (Options.withStrict {} true) schema value "" {}
    (lenient.1.value = .object none [("a", .string "x")] ∧ lenient.1.errors.length = 1) ∧
      strict.1 = lenient.1 ∧ strict.2.warnings = lenient.2.warnings := by
  intro schema value lenient strict
  have leaf (constraints : Constraints) (unsanitized : constraints.sanitize = []) :
      Everywhere Node.IsUnselective (.node { constraints }) :=
    .node ⟨rfl, rfl, by simp [unsanitized]⟩ (by simp [Node.nested])
  have tree : schema.Everywhere Node.IsUnselective := by
    refine .node ⟨rfl, rfl, by simp⟩ ?_
    simp only [Node.nested, List.map_cons, List.map_nil, Option.map_none, Option.toList_none,
      List.append_nil, List.forall_mem_singleton]
    exact .node ⟨rfl, rfl, by simp⟩ (by simpa [Node.nested] using ⟨leaf _ rfl, leaf _ rfl⟩)
  have unconverted : ∀ report ∈ lenient.1.errors ++ lenient.2.warnings,
      report.tag ≠ Tag.mismatchingTypes.text := by
    decide
  exact ⟨⟨rfl, rfl⟩, walk_strict_of_unconverted tree unconverted {}⟩

end Schema

end SchemaValidation
