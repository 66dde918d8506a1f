import SchemaValidation.Proofs.Endings

/-!
# Choices between schemas

A choice takes the first schema of a list that accepts.  What it answers is the
answer of this schema alone: the schemas around it have no part in it, and those
that were tried before it leave no warning.  If none accepts, the reports of the
last one are at hand, and a union makes a single report of its own.
-/

namespace SchemaValidation.Schema

open Trail

variable (capabilities : Capabilities) (options : Options)

/-- The schema that a choice takes: the first one along which the walk of the value, taken alone,
reports no error. -/
def chosen? (schemas : List Schema) (value : Value) (path : String) : Option Schema :=
  schemas.find? fun schema => (walk capabilities options schema value path {}).1.isOk

/-- The place of the schema that a choice takes. -/
def chosenAt? (schemas : List Schema) (value : Value) (path : String) : Option Nat :=
  schemas.findIdx? fun schema => (walk capabilities options schema value path {}).1.isOk

variable {capabilities options} {schemas before inserted after : List Schema} {value : Value}
  {path : String}

theorem chosen?_eq_bind :
    chosen? capabilities options schemas value path =
      (chosenAt? capabilities options schemas value path).bind (schemas[·]?) :=
  List.find?_eq_bind_findIdx?_getElem?

theorem isOk_of_chosen {schema : Schema}
    (taken : chosen? capabilities options schemas value path = some schema) :
    (walk capabilities options schema value path {}).1.isOk = true :=
  List.find?_some (p := fun schema => (walk capabilities options schema value path {}).1.isOk) taken

theorem chosen?_eq_none_iff :
    chosen? capabilities options schemas value path = none ↔
      ∀ schema ∈ schemas, (walk capabilities options schema value path {}).1.isOk = false := by
  simp [chosen?]

theorem chosen?_isSome_iff :
    (chosen? capabilities options schemas value path).isSome = true ↔
      ∃ schema ∈ schemas, (walk capabilities options schema value path {}).1.isOk = true := by
  simp [chosen?]

theorem chosen?_cons (schema : Schema) (rest : List Schema) (value : Value) (path : String) :
    chosen? capabilities options (schema :: rest) value path =
      if (walk capabilities options schema value path {}).1.isOk then some schema
      else chosen? capabilities options rest value path := by
  unfold chosen?
  rw [List.find?_cons]
  cases (walk capabilities options schema value path {}).1.isOk <;> rfl

theorem chosen?_append (first second : List Schema) (value : Value) (path : String) :
    chosen? capabilities options (first ++ second) value path =
      (chosen? capabilities options first value path).or
        (chosen? capabilities options second value path) :=
  List.find?_append

/-- Schemas that reject, or that stand behind one that accepts, have no part in a choice. -/
theorem chosen?_insert
    (idle : (∀ schema ∈ inserted, (walk capabilities options schema value path {}).1.isOk = false) ∨
      ∃ schema ∈ before, (walk capabilities options schema value path {}).1.isOk = true) :
    chosen? capabilities options (before ++ inserted ++ after) value path =
      chosen? capabilities options (before ++ after) value path := by
  rw [chosen?_append, chosen?_append, chosen?_append]
  rcases idle with rejecting | accepting
  · rw [chosen?_eq_none_iff.mpr rejecting, Option.or_none]
  · obtain ⟨chosen, taken⟩ := Option.isSome_iff_exists.mp (chosen?_isSome_iff.mpr accepting)
    rw [taken]
    rfl

variable (capabilities options) in
/-- A choice gives the value of the schema that it takes.  Without one it gives the reports of the
last schema, and of an empty list those that were there. -/
theorem walkFirst_decision (schemas : List Schema) (value : Value) (path : String)
    (reports : List Report) (trail : Trail) :
    (walkFirst capabilities options schemas value path reports trail).1 =
      match chosen? capabilities options schemas value path with
      | some chosen => .ok (walk capabilities options chosen value path {}).1.value
      | none => .error ((schemas.getLast?.map fun schema =>
          (walk capabilities options schema value path {}).1.errors).getD reports) := by
  induction schemas generalizing reports trail with
  | nil => rfl
  | cons schema rest ih =>
      have alone := (walk_onlyAdds capabilities options schema value path).result trail
      unfold walkFirst
      dsimp only
      rw [alone, chosen?_cons, List.getLast?_cons]
      cases accepts : (walk capabilities options schema value path {}).1.isOk with
      | true => rfl
      | false =>
          simp only [Bool.false_eq_true, if_false]
          rw [ih]
          cases rest.getLast? <;> rfl

variable (capabilities options) in
/-- The search for an excluding schema finds the one that a choice would take. -/
theorem walkExcluded_decision (schemas : List Schema) (item : Value) (path : String)
    (trail : Trail) :
    (walkExcluded capabilities options schemas item path trail).1 =
      match chosen? capabilities options schemas item path with
      | some _ => .error [.of .matchedExcludedType path item]
      | none => .ok item := by
  induction schemas generalizing trail with
  | nil => rfl
  | cons schema rest ih =>
      have alone := (walk_onlyAdds capabilities options schema item path).result trail
      unfold walkExcluded
      dsimp only
      rw [alone, chosen?_cons]
      cases accepts : (walk capabilities options schema item path {}).1.isOk with
      | true => rfl
      | false =>
          simp only [Bool.false_eq_true, if_false]
          rw [ih]

/-! ## Unions -/

variable (capabilities options) in
/-- What a union answers: the walk of the schema that is taken, or a failure of its node. -/
def unionAnswer (constraints : Constraints) (taken : Option Schema) (value : Value)
    (path : String) : Outcome × Trail :=
  match taken with
  | some schema => walk capabilities options schema value path {}
  | none => constraints.fail options (.of .noAlternativeMatched path value) {}

variable (capabilities options) in
/-- A union ends like its answer. -/
theorem settleUnion_answer (node : Node Schema) (value : Value) (path : String) :
    EndsAlike (settleUnion capabilities options node value path {})
      (unionAnswer capabilities options node.constraints
        (chosen? capabilities options node.alternatives value path) value path) := by
  unfold chosen?
  rw [find?_walk_isOk]
  cases first : node.alternatives.find? fun schema =>
      schema.accepts capabilities options value with
  | none => exact settleUnion_of_unmatched first path
  | some schema => exact settleUnion_of_chosen first path

section Union

variable {node : Node Schema} (union : node.alternatives ≠ [])
  (present : value.isUndefined = false)
  (admitted : node.constraints.effectivePresence options ≠ .forbidden)
include union present admitted

variable (capabilities) in
/-- The walk along a union of a value that may be there is its answer behind the trail. -/
theorem walk_answer (path : String) (trail : Trail) :
    (walk capabilities options (.node node) value path trail).1 =
        (unionAnswer capabilities options node.constraints
          (chosen? capabilities options node.alternatives value path) value path).1 ∧
      (walk capabilities options (.node node) value path trail).2.warnings =
        trail.warnings ++ (unionAnswer capabilities options node.constraints
          (chosen? capabilities options node.alternatives value path) value path).2.warnings := by
  have settled : walk capabilities options (.node node) value path {} =
      settleUnion capabilities options node value path {} :=
    walk_eq_settleUnion present admitted union
  have alike := settleUnion_answer capabilities options node value path
  have adds := walk_onlyAdds capabilities options (.node node) value path
  rw [adds.result trail, adds.warnings trail, settled, alike.result, alike.warnings]
  exact ⟨rfl, rfl⟩

variable (capabilities) in
/--
A union is its first accepting alternative.  If an alternative accepts a present
value on its own, the union ends like the walk along the first such one, with
nothing of the other alternatives and of the other fields.  Otherwise it makes
one report on the whole value, and no alternative leaves a warning.  So
alternatives that reject, and those behind one that accepts, may come and go.
-/
theorem walk_union (path : String) (trail : Trail) :
    let walked := walk capabilities options (.node node) value path trail
    (∀ chosen, chosen? capabilities options node.alternatives value path = some chosen →
      walked.1 = (walk capabilities options chosen value path {}).1 ∧
        walked.2.warnings =
          trail.warnings ++ (walk capabilities options chosen value path {}).2.warnings) ∧
    ((∀ schema ∈ node.alternatives,
        (walk capabilities options schema value path {}).1.isOk = false) →
      let report : Report := .of .noAlternativeMatched path value
      walked.1.value = node.constraints.default ∧
        (walked.1.errors, walked.2.warnings) =
          if node.constraints.downgrades options then ([], trail.warnings ++ [report])
          else ([report], trail.warnings)) ∧
    ∀ before inserted after, node.alternatives = before ++ after →
      ((∀ schema ∈ inserted, (walk capabilities options schema value path {}).1.isOk = false) ∨
        ∃ schema ∈ before, (walk capabilities options schema value path {}).1.isOk = true) →
      EndsAlike
        (walk capabilities options
          (.node { node with alternatives := before ++ inserted ++ after }) value path trail)
        walked := by
  intro walked
  obtain ⟨result, warnings⟩ := walk_answer capabilities union present admitted path trail
  refine ⟨?_, ?_, ?_⟩
  · intro chosen first
    rw [first] at result warnings
    exact ⟨result, warnings⟩
  · intro rejecting report
    rw [chosen?_eq_none_iff.mpr rejecting] at result warnings
    change walked.1 = _ at result
    change walked.2.warnings = _ at warnings
    rw [result, warnings]
    unfold unionAnswer Constraints.fail Constraints.failAll
    cases node.constraints.downgrades options with
    | true => exact ⟨rfl, rfl⟩
    | false => exact ⟨rfl, congrArg _ (List.append_nil _)⟩
  · intro before inserted after split idle
    let larger : Node Schema := { node with alternatives := before ++ inserted ++ after }
    have filled : larger.alternatives ≠ [] := by
      intro none
      obtain ⟨front, back⟩ := List.append_eq_nil_iff.mp none
      exact union (by rw [split, (List.append_eq_nil_iff.mp front).1, back, List.append_nil])
    obtain ⟨result', warnings'⟩ := walk_answer capabilities filled present admitted path trail
    have same : chosen? capabilities options (before ++ inserted ++ after) value path =
        chosen? capabilities options node.alternatives value path := by
      rw [split]
      exact chosen?_insert idle
    rw [same] at result' warnings'
    exact ⟨result'.trans result.symm, warnings'.trans warnings.symm⟩

end Union

/-- The text is rejected by the first alternative; what the second makes of it, with a warning, is
taken although the third would accept it as it is, and the default of the union has no part in
it.  Without the third alternative strict options leave none that accepts, and the union makes its
own report. -/
theorem walk_union_second :
    let options : Options := { strict := false }
    let first : Schema := .node { constraints := { kind := some .string, valid := [.string "5"] } }
    let second : Schema := .node { constraints := { kind := some .number } }
    let node : Node Schema := {
      constraints := { kind := some .object, default := .null, invalid := [.string "4"] }
      alternatives := [first, second, .node {}] }
    let required : Node Schema := {
      constraints := { presence := some .required }
      alternatives := [first, second] }
    let earlier : Report := { tag := "check_failed", sourcePath := "", sourceValue := .null }
    let walked := walk .native options (.node node) (.string "4") "/a" { warnings := [earlier] }
    let rejected := walk .native {} (.node required) (.string "4") "/a" { warnings := [earlier] }
    node.alternatives ≠ [] ∧ (Value.string "4").isUndefined = false ∧
      node.constraints.effectivePresence options ≠ .forbidden ∧
      walked.1 = (walk .native options second (.string "4") "/a" {}).1 ∧
      walked.2.warnings = [earlier,
        { tag := "mismatching_types", sourcePath := "/a", sourceValue := .string "4",
          expected := .string "number", actual := .string "string" }] ∧
      rejected.1.errors =
        [{ tag := "no_alternative_matched", sourcePath := "/a", sourceValue := .string "4" }] ∧
      rejected.2.warnings = [earlier] := by
  intro options first second node required earlier walked rejected
  have union : node.alternatives ≠ [] := by simp [node]
  have admitted : node.constraints.effectivePresence options ≠ .forbidden := by decide
  have present : (Value.string "4").isUndefined = false := rfl
  obtain ⟨taken, -, -⟩ := walk_union .native union present admitted "/a" { warnings := [earlier] }
  obtain ⟨result, warnings⟩ := taken second rfl
  have union' : required.alternatives ≠ [] := by simp [required]
  have admitted' : required.constraints.effectivePresence {} ≠ .forbidden := by decide
  have rejecting : ∀ schema ∈ required.alternatives,
      (walk .native {} schema (.string "4") "/a" {}).1.isOk = false :=
    List.forall_mem_cons.mpr ⟨rfl, List.forall_mem_singleton.mpr rfl⟩
  obtain ⟨-, unmatched, -⟩ :=
    walk_union .native union' present admitted' "/a" { warnings := [earlier] }
  obtain ⟨-, reported⟩ := unmatched rejecting
  exact ⟨union, present, admitted, result, warnings, congrArg Prod.fst reported,
    congrArg Prod.snd reported⟩

end SchemaValidation.Schema
