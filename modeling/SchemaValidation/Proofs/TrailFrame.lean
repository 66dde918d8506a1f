import SchemaValidation.Proofs.NodeStep
import SchemaValidation.Proofs.SchemaTree

/-!
# What a walk adds to a trail

Trails can be laid one behind the other.  Every step of a walk only adds to the
trail that it is given: what is already there stays in front and has no
influence, although choices take warnings back.  So a choice that takes its
warnings back leaves exactly what was there before it.
-/

namespace SchemaValidation

namespace Trail

/-- One trail behind another. -/
instance : Append Trail where
  append before after := {
    warnings := before.warnings ++ after.warnings
    events := before.events ++ after.events
    usage := {
      ownKeys := before.usage.ownKeys + after.usage.ownKeys
      derive := before.usage.derive + after.usage.derive } }

variable (before trail : Trail)

@[simp] theorem append_warnings :
    (before ++ trail).warnings = before.warnings ++ trail.warnings := rfl

@[simp] theorem append_empty : trail ++ ({} : Trail) = trail := by
  change Trail.mk (trail.warnings ++ []) (trail.events ++ []) trail.usage = trail
  rw [List.append_nil, List.append_nil]

@[simp] theorem warn_append (reports : List Report) :
    (before ++ trail).warn reports = before ++ trail.warn reports := by
  change Trail.mk ((before.warnings ++ trail.warnings) ++ reports) _ _ =
    Trail.mk (before.warnings ++ (trail.warnings ++ reports)) _ _
  rw [List.append_assoc]
  rfl

@[simp] theorem log_append (event : Event) :
    (before ++ trail).log event = before ++ trail.log event := by
  change Trail.mk _ ((before.events ++ trail.events) ++ [event]) _ =
    Trail.mk _ (before.events ++ (trail.events ++ [event])) _
  rw [List.append_assoc]
  rfl

@[simp] theorem countOwnKeys_append :
    (before ++ trail).countOwnKeys = before ++ trail.countOwnKeys := rfl

@[simp] theorem countDerive_append :
    (before ++ trail).countDerive = before ++ trail.countDerive := rfl

/-- Warnings that are taken back to a place behind a trail do not touch that trail. -/
@[simp] theorem takeBack_append (after : Trail) :
    (before ++ after).takeBack (before ++ trail).mark = before ++ after.takeBack trail.mark := by
  change Trail.mk ((before.warnings ++ after.warnings).take
      (before.warnings ++ trail.warnings).length) _ _ =
    Trail.mk (before.warnings ++ after.warnings.take trail.warnings.length) _ _
  rw [List.length_append, List.take_length_add_append]
  rfl

/-- What was added to a trail leaves no warnings once they are taken back. -/
@[simp] theorem takeBack_mark_warnings :
    ((before ++ trail).takeBack before.mark).warnings = before.warnings :=
  List.take_left

/-- A step only adds to the trail that it is given. -/
def OnlyAdds {α : Type} (step : Trail → α × Trail) : Prop :=
  ∀ before trail, step (before ++ trail) = ((step trail).1, before ++ (step trail).2)

namespace OnlyAdds

variable {α : Type} {step : Trail → α × Trail}

/-- The result of a step does not depend on the trail. -/
theorem result (adds : OnlyAdds step) (trail : Trail) : (step trail).1 = (step {}).1 := by
  have whole := adds trail {}
  rw [append_empty] at whole
  rw [whole]

/-- A step leaves the trail that it was given, followed by what it leaves alone. -/
theorem added (adds : OnlyAdds step) (trail : Trail) :
    (step trail).2 = trail ++ (step {}).2 := by
  have whole := adds trail {}
  rw [append_empty] at whole
  rw [whole]

/-- A step is the step on the empty trail, behind the trail that it is given. -/
theorem eq_append (adds : OnlyAdds step) (trail : Trail) :
    step trail = ((step {}).1, trail ++ (step {}).2) :=
  Prod.ext (adds.result trail) (adds.added trail)

theorem warnings (adds : OnlyAdds step) (trail : Trail) :
    (step trail).2.warnings = trail.warnings ++ (step {}).2.warnings := by
  rw [adds.added trail, append_warnings]

end OnlyAdds

end Trail

open Trail

variable (capabilities : Capabilities) (options : Options) (path : String)

/-! ## The steps at one position -/

namespace Constraints

variable (constraints : Constraints)

theorem failAll_onlyAdds (value : Value) (errors : List Report) :
    OnlyAdds (constraints.failAll options value errors) := by
  intro before trail
  unfold failAll
  split
  · rw [warn_append]
  · rfl

theorem fail_onlyAdds (report : Report) : OnlyAdds (constraints.fail options report) :=
  constraints.failAll_onlyAdds options constraints.default [report]

theorem absent_onlyAdds : OnlyAdds (constraints.absent options path) := by
  intro before trail
  unfold absent
  cases constraints.effectivePresence options with
  | optional => rfl
  | required => exact constraints.failAll_onlyAdds options _ _ before trail
  | forbidden => rfl

end Constraints

theorem runSanitizers_onlyAdds (sanitizers : List Sanitizer) (value : Value) :
    OnlyAdds (runSanitizers path sanitizers value) := by
  intro before trail
  induction sanitizers generalizing value with
  | nil => rfl
  | cons sanitizer rest ih =>
      unfold runSanitizers
      cases sanitizer.transform value with
      | returned sanitized => exact ih sanitized
      | panicked reason => simp only [log_append]

theorem runChecks_onlyAdds (value : Value) (checks : List Check) :
    OnlyAdds (runChecks path value checks) := by
  intro before trail
  induction checks generalizing trail with
  | nil => rfl
  | cons check rest ih =>
      unfold runChecks
      split
      · exact ih trail
      · simp only [ih]
      · simp only [ih]
      · simp only [log_append, ih]

mutual

theorem warnOf_append (value detail : Value) (before trail : Trail) :
    warnOf capabilities path value detail (before ++ trail) =
      before ++ warnOf capabilities path value detail trail := by
  cases detail with
  | array details => exact warnOfAll_append value details before trail
  | _ => simp only [warnOf, countDerive_append, warn_append]

theorem warnOfAll_append (value : Value) (details : List Value) (before trail : Trail) :
    warnOfAll capabilities path value details (before ++ trail) =
      before ++ warnOfAll capabilities path value details trail := by
  cases details with
  | nil => rfl
  | cons detail rest =>
      rw [warnOfAll, warnOf_append value detail, warnOfAll_append value rest]
      rfl

end

theorem runChecksAfter_append (value : Value) (checks : List Check) (before trail : Trail) :
    runChecksAfter capabilities path value checks (before ++ trail) =
      before ++ runChecksAfter capabilities path value checks trail := by
  induction checks generalizing trail with
  | nil => rfl
  | cons check rest ih =>
      unfold runChecksAfter
      split
      · exact ih trail
      · rw [warnOf_append, ih]
      · rw [log_append, ih]

namespace Constraints

variable (constraints : Constraints)

theorem settleKind_onlyAdds (arrived : Shape) (value : Value) :
    OnlyAdds (constraints.settleKind options arrived path value) := by
  intro before trail
  unfold settleKind
  split
  · rfl
  · split
    · rfl
    · split
      · rfl
      · simp only [warn_append]

theorem judge_onlyAdds (value : Value) : OnlyAdds (constraints.judge path value) := by
  intro before trail
  unfold judge
  rw [runChecks_onlyAdds path value constraints.checks before trail]
  split
  · rfl
  · split
    · rfl
    · split
      · split <;> rfl
      · obtain ⟨details, after⟩ := runChecks path value constraints.checks trail
        cases details <;> rfl

theorem arrive_onlyAdds (value : Value) : OnlyAdds (constraints.arrive options path value) := by
  intro before trail
  unfold arrive
  rw [runSanitizers_onlyAdds path constraints.sanitizeBefore value before trail]
  obtain ⟨report | sanitized, after⟩ := runSanitizers path constraints.sanitizeBefore value trail
  · rfl
  · dsimp only
    rw [constraints.settleKind_onlyAdds options path value.shape _ before after]
    obtain ⟨report | settled, behind⟩ := constraints.settleKind options value.shape path
      (constraints.resolveAlias sanitized) after
    · rfl
    · exact constraints.judge_onlyAdds path settled before behind

theorem leave_onlyAdds (descent : Outcome) :
    OnlyAdds (constraints.leave capabilities options path descent) := by
  intro before trail
  unfold leave
  rw [runChecksAfter_append, runSanitizers_onlyAdds]
  split
  · exact constraints.failAll_onlyAdds options _ _ before trail
  · obtain ⟨report | value, after⟩ := runSanitizers path constraints.sanitize descent.value
      (runChecksAfter capabilities path descent.value constraints.checksAfter trail)
    · exact constraints.fail_onlyAdds options report before after
    · rfl

end Constraints

/-! ## The steps over the parts of a value -/

namespace Assembly

theorem settleDeclared_onlyAdds (assembly : Assembly) (presence : Presence) (key : String)
    (outcome : Outcome) : OnlyAdds (assembly.settleDeclared options presence key outcome) := by
  intro before trail
  unfold settleDeclared
  split
  · rw [warn_append]
  · rfl

theorem settleUnknown_onlyAdds (assembly : Assembly) (key : String) (item : Value)
    (report : Report) : OnlyAdds (assembly.settleUnknown options key item report) := by
  intro before trail
  unfold settleUnknown
  by_cases warned : (options.allowUnknown && options.warnUnknown) = true
  · simp only [if_pos warned, warn_append]
  · simp only [if_neg warned]

/-- The members that are not declared only add to the trail if every member that fits does. -/
theorem settleOthers_onlyAdds (whole : Value)
    {walkFitting : String → Value → Trail → Option (Outcome × Trail)}
    (adds : ∀ key item before trail, walkFitting key item (before ++ trail) =
      (walkFitting key item trail).map fun result => (result.1, before ++ result.2))
    (keys : List String) (members : List (String × Value)) (assembly : Assembly) :
    OnlyAdds (settleOthers options path whole walkFitting keys members assembly) := by
  intro before trail
  induction keys generalizing members assembly trail with
  | nil => rfl
  | cons key rest ih =>
      unfold settleOthers
      cases KeyMap.find? key members with
      | none => exact ih members assembly trail
      | some item =>
          dsimp only
          rw [adds]
          cases walkFitting key item trail with
          | none =>
              dsimp only [Option.map]
              rw [assembly.settleUnknown_onlyAdds options]
              exact ih _ _ _
          | some result =>
              dsimp only [Option.map]
              rw [warn_append]
              exact ih _ _ _

end Assembly

theorem settleItems_onlyAdds
    {choose : Value → String → Trail → Except (List Report) Value × Trail}
    (adds : ∀ item path, OnlyAdds (choose item path)) (index : Nat) (items : List Value)
    (before trail : Trail) :
    settleItems path choose index items (before ++ trail) =
      let (values, errors, after) := settleItems path choose index items trail
      (values, errors, before ++ after) := by
  induction items generalizing index trail with
  | nil => rfl
  | cons item rest ih =>
      unfold settleItems
      rw [adds item _ before trail]
      obtain ⟨reports | value, after⟩ := choose item ((Slot.index index).join path) trail
      · simp only [ih]
      · simp only [ih]

namespace Schema

theorem walkFirst_onlyAdds {schemas : List Schema} {value : Value} {path : String}
    (adds : ∀ schema ∈ schemas, OnlyAdds (walk capabilities options schema value path))
    (reports : List Report) :
    OnlyAdds (walkFirst capabilities options schemas value path reports) := by
  intro before trail
  induction schemas generalizing reports trail with
  | nil => rfl
  | cons schema rest ih =>
      unfold walkFirst
      rw [adds schema List.mem_cons_self before trail]
      obtain ⟨outcome, after⟩ := walk capabilities options schema value path trail
      dsimp only
      rw [takeBack_append]
      split
      · rfl
      · exact ih (fun schema member => adds schema (List.mem_cons_of_mem _ member)) _ _

theorem walkExcluded_onlyAdds {schemas : List Schema} {item : Value} {path : String}
    (adds : ∀ schema ∈ schemas, OnlyAdds (walk capabilities options schema item path)) :
    OnlyAdds (walkExcluded capabilities options schemas item path) := by
  intro before trail
  induction schemas generalizing trail with
  | nil => rfl
  | cons schema rest ih =>
      unfold walkExcluded
      rw [adds schema List.mem_cons_self before trail]
      obtain ⟨outcome, after⟩ := walk capabilities options schema item path trail
      dsimp only
      rw [takeBack_append]
      split
      · rfl
      · exact ih (fun schema member => adds schema (List.mem_cons_of_mem _ member)) _

theorem walkKeys_onlyAdds {keys : List (String × Schema)}
    (adds : ∀ entry ∈ keys, ∀ item path, OnlyAdds (walk capabilities options entry.2 item path))
    (members : List (String × Value)) (path : String) (assembly : Assembly) :
    OnlyAdds (walkKeys capabilities options keys members path assembly) := by
  intro before trail
  induction keys generalizing assembly trail with
  | nil => rfl
  | cons entry rest ih =>
      obtain ⟨key, schema⟩ := entry
      unfold walkKeys
      dsimp only
      rw [adds (key, schema) List.mem_cons_self _ _ before trail,
        assembly.settleDeclared_onlyAdds options]
      exact ih (fun entry member => adds entry (List.mem_cons_of_mem _ member)) _ _

theorem walkFitting_append {pattern : Option (Pattern × Schema)}
    (adds : ∀ entry ∈ pattern, ∀ item path,
      OnlyAdds (walk capabilities options entry.2 item path))
    (path key : String) (item : Value) (before trail : Trail) :
    walkFitting capabilities options pattern path key item (before ++ trail) =
      (walkFitting capabilities options pattern path key item trail).map
        fun result => (result.1, before ++ result.2) := by
  cases pattern with
  | none => rfl
  | some entry =>
      obtain ⟨pattern, schema⟩ := entry
      unfold walkFitting
      split
      · rw [adds (pattern, schema) rfl _ _ before trail]
        rfl
      · rfl

section Node

variable {node : Node Schema}
  (below : ∀ schema ∈ node.nested, ∀ value path,
    OnlyAdds (walk capabilities options schema value path))
include below

theorem descendObject_onlyAdds (record : Record) (path : String) :
    OnlyAdds (descendObject capabilities options node record path) := by
  intro before trail
  unfold descendObject
  dsimp only
  rw [countOwnKeys_append, walkKeys_onlyAdds capabilities options
    (fun entry member => below entry.2 (Node.nested_of_key member))]
  dsimp only
  rw [Assembly.settleOthers_onlyAdds options path _ (walkFitting_append capabilities options
    (fun entry same => below entry.2 (Node.nested_of_pattern same)) path)]

theorem chooseItem_onlyAdds (item : Value) (path : String) :
    OnlyAdds (chooseItem capabilities options node item path) := by
  intro before trail
  unfold chooseItem
  split
  · exact walkExcluded_onlyAdds capabilities options
      (fun schema member => below schema (Node.nested_of_exclude member) item path) before trail
  · exact walkFirst_onlyAdds capabilities options
      (fun schema member => below schema (Node.nested_of_include member) item path) [] before trail

theorem descendArray_onlyAdds (items : List Value) (path : String) :
    OnlyAdds (descendArray capabilities options node items path) := by
  intro before trail
  unfold descendArray
  split
  · rfl
  · rw [settleItems_onlyAdds path (chooseItem_onlyAdds capabilities options below)]

theorem descend_onlyAdds (entered : Value) (path : String) :
    OnlyAdds (descend capabilities options node entered path) := by
  intro before trail
  unfold descend
  split
  · exact descendObject_onlyAdds capabilities options below _ path before trail
  · exact descendArray_onlyAdds capabilities options below _ path before trail
  · rfl

theorem settleUnion_onlyAdds (value : Value) (path : String) :
    OnlyAdds (settleUnion capabilities options node value path) := by
  intro before trail
  unfold settleUnion
  rw [walkFirst_onlyAdds capabilities options
    (fun schema member => below schema (Node.nested_of_alternative member) value path)
    [] before trail]
  obtain ⟨reports | chosen, after⟩ :=
    walkFirst capabilities options node.alternatives value path [] trail
  · exact node.constraints.fail_onlyAdds options _ before after
  · rfl

theorem settlePlain_onlyAdds (value : Value) (path : String) :
    OnlyAdds (settlePlain capabilities options node value path) := by
  intro before trail
  unfold settlePlain
  rw [node.constraints.arrive_onlyAdds options path value before trail]
  obtain ⟨accepted | report | entered, after⟩ :=
    node.constraints.arrive options path value trail
  · rfl
  · exact node.constraints.fail_onlyAdds options report before after
  · dsimp only
    rw [descend_onlyAdds capabilities options below entered path before after]
    exact node.constraints.leave_onlyAdds capabilities options path _ before _

end Node

/-- A walk only adds to the trail. -/
theorem walk_onlyAdds (schema : Schema) (value : Value) (path : String) :
    OnlyAdds (walk capabilities options schema value path) := by
  induction schema using nestedInduction generalizing value path with
  | node parts below =>
      intro before trail
      simp only [walk_node]
      split
      · exact parts.constraints.absent_onlyAdds options path before trail
      · split
        · exact parts.constraints.failAll_onlyAdds options _ _ before trail
        · split
          · exact settleUnion_onlyAdds capabilities options below value path before trail
          · exact settlePlain_onlyAdds capabilities options below value path before trail

variable {capabilities} in
/-- A walk is the walk with an empty trail, behind the trail. -/
theorem walk_eq_append (schema : Schema) (value : Value) (path : String) (trail : Trail) :
    walk capabilities options schema value path trail =
      ((walk capabilities options schema value path {}).1,
        trail ++ (walk capabilities options schema value path {}).2) :=
  (walk_onlyAdds capabilities options schema value path).eq_append trail

theorem descend_adds (node : Node Schema) (path : String) (entered : Value) :
    OnlyAdds (descend capabilities options node entered path) :=
  descend_onlyAdds capabilities options
    (fun schema _ => walk_onlyAdds capabilities options schema) entered path

/-! ## Choices -/

/-- A choice leaves the warnings of the first schema that accepts, or none, behind those that were
there. -/
theorem walkFirst_warnings (schemas : List Schema) (value : Value) (path : String)
    (reports : List Report) (trail : Trail) :
    (walkFirst capabilities options schemas value path reports trail).2.warnings =
      trail.warnings ++
        match schemas.find? fun schema =>
            (walk capabilities options schema value path {}).1.isOk with
        | some chosen => (walk capabilities options chosen value path {}).2.warnings
        | none => [] := by
  induction schemas generalizing reports trail with
  | nil => exact (List.append_nil _).symm
  | cons schema rest ih =>
      have adds := walk_onlyAdds capabilities options schema value path
      unfold walkFirst
      dsimp only
      rw [adds.result trail, adds.added trail, List.find?_cons]
      cases accepts : (walk capabilities options schema value path {}).1.isOk with
      | true => rfl
      | false =>
          simp only [Bool.false_eq_true, if_false]
          rw [ih, takeBack_mark_warnings]

/-- The search for an excluding schema leaves the warnings that were there. -/
theorem walkExcluded_warnings (schemas : List Schema) (item : Value) (path : String)
    (trail : Trail) :
    (walkExcluded capabilities options schemas item path trail).2.warnings = trail.warnings := by
  induction schemas generalizing trail with
  | nil => rfl
  | cons schema rest ih =>
      have kept : ((walk capabilities options schema item path trail).2.takeBack
          trail.mark).warnings = trail.warnings := by
        rw [(walk_onlyAdds capabilities options schema item path).added trail,
          takeBack_mark_warnings]
      unfold walkExcluded
      dsimp only
      split
      · exact kept
      · rw [ih, kept]

/--
Warnings accumulate.  A walk gives the same value and the same errors whatever
the trail holds, and leaves the warnings that were there followed by its own.
Of the schemas of a choice only the accepted one leaves warnings, and the search
for an excluding schema leaves none.
-/
theorem warnings_accumulate (path : String) (trail : Trail) :
    (∀ schema value,
      (walk capabilities options schema value path trail).1 =
          (walk capabilities options schema value path {}).1 ∧
        (walk capabilities options schema value path trail).2.warnings =
          trail.warnings ++ (walk capabilities options schema value path {}).2.warnings) ∧
    (∀ schemas value reports,
      (walkFirst capabilities options schemas value path reports trail).2.warnings =
        trail.warnings ++
          match schemas.find? fun schema =>
              (walk capabilities options schema value path {}).1.isOk with
          | some chosen => (walk capabilities options chosen value path {}).2.warnings
          | none => []) ∧
    ∀ schemas item,
      (walkExcluded capabilities options schemas item path trail).2.warnings =
        trail.warnings := by
  refine ⟨?_, ?_, ?_⟩
  · intro schema value
    have adds := walk_onlyAdds capabilities options schema value path
    exact ⟨adds.result trail, adds.warnings trail⟩
  · intro schemas value reports
    exact walkFirst_warnings capabilities options schemas value path reports trail
  · intro schemas item
    exact walkExcluded_warnings capabilities options schemas item path trail

end Schema

end SchemaValidation
