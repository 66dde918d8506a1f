import SchemaValidation.Proofs.Channels
import SchemaValidation.Proofs.Endings

/-!
# Conditions on all reports

A condition holds of all reports of a step, errors and warnings, if it holds of
those that were there and of those that the step adds.  For the steps over the
parts of an object this is an equivalence, since nothing is dropped there.  The
choices drop what rejected schemas report, so there one direction is left.
-/

namespace SchemaValidation

open Trail

namespace Reported

/-- A condition holds of every report, whichever channel it is in. -/
structure Each (holds : Report → Prop) (reported : Reported) : Prop where
  errors : ∀ report ∈ reported.1, holds report
  warnings : ∀ report ∈ reported.2.warnings, holds report

variable {holds : Report → Prop}

@[simp] theorem each_empty : Each holds ([], {}) :=
  ⟨nofun, nofun⟩

theorem Each.imp {weaker : Report → Prop} {reported : Reported} (each : Each holds reported)
    (implied : ∀ report, holds report → weaker report) : Each weaker reported :=
  ⟨fun report made => implied report (each.errors report made),
    fun report made => implied report (each.warnings report made)⟩

theorem each_append (first second : Reported) :
    Each holds (append first second) ↔ Each holds first ∧ Each holds second := by
  constructor
  · rintro ⟨errors, warnings⟩
    obtain ⟨errors, errors'⟩ := List.forall_mem_append.mp errors
    obtain ⟨warnings, warnings'⟩ := List.forall_mem_append.mp warnings
    exact ⟨⟨errors, warnings⟩, errors', warnings'⟩
  · rintro ⟨⟨errors, warnings⟩, errors', warnings'⟩
    exact ⟨List.forall_mem_append.mpr ⟨errors, errors'⟩,
      List.forall_mem_append.mpr ⟨warnings, warnings'⟩⟩

theorem each_send (asWarnings : Bool) (reported : Reported) :
    Each holds (send asWarnings reported) ↔ Each holds reported := by
  cases asWarnings with
  | false => exact Iff.rfl
  | true =>
      constructor
      · rintro ⟨-, warnings⟩
        obtain ⟨warnings, errors⟩ := List.forall_mem_append.mp warnings
        exact ⟨errors, warnings⟩
      · rintro ⟨errors, warnings⟩
        exact ⟨nofun, List.forall_mem_append.mpr ⟨warnings, errors⟩⟩

/-- Reports are laid behind a trail with its reports. -/
theorem each_behind (errors : List Report) (before trail : Trail) :
    Each holds (errors, before ++ trail) ↔
      Each holds ([], before) ∧ Each holds (errors, trail) :=
  each_append ([], before) (errors, trail)

/-- What ends alike has the same reports. -/
theorem Each.of_endsAlike {one other : Outcome × Trail}
    (each : Each holds (Outcome.reported one)) (alike : EndsAlike one other) :
    Each holds (Outcome.reported other) := by
  unfold Outcome.reported at each ⊢
  constructor
  · rw [← alike.result]
    exact each.errors
  · rw [← alike.warnings]
    exact each.warnings

end Reported

open Reported

variable {holds : Report → Prop} {capabilities : Capabilities} {options : Options}

/-! ## The steps at one position -/

namespace Constraints

variable (constraints : Constraints)

theorem failAll_each (value : Value) (errors : List Report) (trail : Trail) :
    Each holds (Outcome.reported (constraints.failAll options value errors trail)) ↔
      Each holds (errors, trail) := by
  rw [failAll_eq_send]
  exact each_send _ (errors, trail)

theorem fail_each (report : Report) (trail : Trail) :
    Each holds (Outcome.reported (constraints.fail options report trail)) ↔
      Each holds ([report], trail) :=
  constraints.failAll_each _ [report] trail

/-- Leaving a node drops no report on the parts. -/
theorem each_of_leave {path : String} {descent : Outcome} {trail : Trail}
    (each : Each holds (Outcome.reported (constraints.leave capabilities options path descent
      trail))) : Each holds (descent.errors, trail) := by
  cases accepted : descent.isOk with
  | false =>
      unfold leave at each
      rw [accepted] at each
      exact (constraints.failAll_each _ _ _).mp each
  | true =>
      have warnings := each.warnings
      unfold Outcome.reported at warnings
      rw [(constraints.leave_onlyAdds capabilities options path descent).warnings] at warnings
      refine ⟨?_, (List.forall_mem_append.mp warnings).1⟩
      rw [List.isEmpty_iff.mp accepted]
      nofun

end Constraints

/-- A judgement rejects a value with one report on it, by a list of values or by the checks. -/
theorem Constraints.judge_rejected {constraints : Constraints} {path : String} {value : Value}
    {trail : Trail} {report : Report}
    (rejected : (constraints.judge path value trail).1 = .rejected report) :
    ∃ tag ∈ [Tag.invalidValue, .notAValidValue, .checksFailed],
      ∃ expected, report = { Report.of tag path value with expected } := by
  unfold judge at rejected
  split at rejected
  · cases rejected
  · split at rejected
    · cases rejected
      exact ⟨.invalidValue, by decide, .undefined, rfl⟩
    · split at rejected
      · split at rejected
        · cases rejected
        · cases rejected
          exact ⟨.notAValidValue, by decide, _, rfl⟩
      · split at rejected
        · cases rejected
        · cases rejected
          exact ⟨.checksFailed, by decide, _, rfl⟩

/-! ## The members of an object -/

namespace Assembly

/-- What becomes of an unknown member is reported behind what is already there. -/
theorem settleUnknown_append (assembly : Assembly) (key : String) (item : Value)
    (report : Report) (trail : Trail) :
    reported (assembly.settleUnknown options key item report trail) =
      append (assembly.errors, trail)
        (reported (({} : Assembly).settleUnknown options key item report {})) := by
  have warned := warn_append trail {} [report]
  rw [append_empty] at warned
  unfold settleUnknown
  cases options.stripUnknown <;> cases options.allowUnknown <;> cases options.warnUnknown <;>
    simp [reported, append, reject, warned]

end Assembly

namespace Schema

variable (capabilities options) in
/-- The reports on a member that is not declared. -/
def otherReported (pattern : Option (Pattern × Schema)) (path : String) (whole : Value)
    (key : String) (item : Value) : Reported :=
  Assembly.reported (({} : Assembly).settleOther options path whole
    (walkFitting capabilities options pattern path) key item {})

theorem settleOther_append (pattern : Option (Pattern × Schema)) (path : String) (whole : Value)
    (assembly : Assembly) (key : String) (item : Value) (trail : Trail) :
    Assembly.reported (assembly.settleOther options path whole
        (walkFitting capabilities options pattern path) key item trail) =
      append (assembly.errors, trail)
        (otherReported capabilities options pattern path whole key item) := by
  unfold otherReported Assembly.settleOther
  cases pattern with
  | none => exact assembly.settleUnknown_append key item _ trail
  | some entry =>
      obtain ⟨pattern, schema⟩ := entry
      unfold walkFitting
      cases pattern.isMatch key with
      | false => exact assembly.settleUnknown_append key item _ trail
      | true =>
          simp only [if_true]
          rw [walk_eq_append]
          simp [Assembly.reported, append, Assembly.store_errors]

/-- All reports on a member that fits the pattern are those of its walk. -/
theorem otherReported_each_of_fitting {pattern : Pattern} {schema : Schema} {path : String}
    {whole : Value} {key : String} {item : Value} (fits : pattern.isMatch key = true) :
    Each holds (otherReported capabilities options (some (pattern, schema)) path whole key item) ↔
      Each holds (Outcome.reported
        (walk capabilities options schema item ((Slot.key key).join path) {})) := by
  unfold otherReported Assembly.settleOther walkFitting
  simp only [fits, if_true, Assembly.reported, Assembly.store_errors]
  exact each_send true (Outcome.reported
    (walk capabilities options schema item ((Slot.key key).join path) {}))

theorem walkKeys_each (keys : List (String × Schema)) (members : List (String × Value))
    (path : String) (assembly : Assembly) (trail : Trail) :
    Each holds (Assembly.reported
        (walkKeys capabilities options keys members path assembly trail)) ↔
      Each holds (assembly.errors, trail) ∧
        ∀ entry ∈ keys, Each holds (Outcome.reported
          (walk capabilities options entry.2 ((KeyMap.find? entry.1 members).getD .undefined)
            ((Slot.key entry.1).join path) {})) := by
  induction keys generalizing assembly trail with
  | nil => simp [walkKeys, Assembly.reported]
  | cons entry rest ih =>
      obtain ⟨key, schema⟩ := entry
      unfold walkKeys
      dsimp only
      rw [walk_eq_append, ih, List.forall_mem_cons, ← and_assoc]
      refine and_congr_left fun _ => ?_
      have settled := assembly.settleDeclared_reported options
        (schema.root.constraints.effectivePresence options) key
        (walk capabilities options schema ((KeyMap.find? key members).getD .undefined)
          ((Slot.key key).join path) {}).1 trail
        (walk capabilities options schema ((KeyMap.find? key members).getD .undefined)
          ((Slot.key key).join path) {}).2
      refine (Eq.to_iff (congrArg (Each holds) settled)).trans ?_
      rw [each_append, each_send]
      rfl

theorem settleOthers_each (pattern : Option (Pattern × Schema)) (path : String) (whole : Value)
    (keys : List String) (members : List (String × Value)) (assembly : Assembly)
    (trail : Trail) :
    Each holds (Assembly.reported (Assembly.settleOthers options path whole
        (walkFitting capabilities options pattern path) keys members assembly trail)) ↔
      Each holds (assembly.errors, trail) ∧
        ∀ key ∈ keys, ∀ item, KeyMap.find? key members = some item →
          Each holds (otherReported capabilities options pattern path whole key item) := by
  induction keys generalizing members assembly trail with
  | nil => simp [Assembly.settleOthers, Assembly.reported]
  | cons key rest ih =>
      cases found : KeyMap.find? key members with
      | none =>
          rw [Assembly.settleOthers_cons_of_missing options path assembly found, ih]
          simp [found]
      | some item =>
          rw [Assembly.settleOthers_cons_of_found options path assembly found, ih]
          have settled : Each holds (Assembly.reported (assembly.settleOther options path whole
              (walkFitting capabilities options pattern path) key item trail)) ↔ _ :=
            (Eq.to_iff (congrArg (Each holds)
              (settleOther_append pattern path whole assembly key item trail))).trans
              (each_append _ _)
          refine (and_congr_left fun _ => settled).trans ?_
          rw [and_assoc, KeyMap.forall_found_cons found]

/-- The reports on an object are those on its declared members and on the others. -/
theorem descendObject_each (node : Node Schema) (record : Record) (path : String)
    (trail : Trail) :
    Each holds (Outcome.reported
        (descendObject capabilities options node record path trail)) ↔
      Each holds ([], trail) ∧
        (∀ entry ∈ node.keys, Each holds (Outcome.reported
          (walk capabilities options entry.2 (record.get entry.1)
            ((Slot.key entry.1).join path) {}))) ∧
        ∀ key ∈ capabilities.ownKeys record, KeyMap.find? key node.keys = none →
          ∀ item, record.find? key = some item →
            Each holds (otherReported capabilities options node.pattern path record.toValue key
              item) := by
  refine (settleOthers_each node.pattern path _ (capabilities.ownKeys record) _ _ _).trans ?_
  have declared : Each holds (Assembly.reported
      (walkKeys capabilities options node.keys record.members path {} trail.countOwnKeys)) ↔ _ :=
    walkKeys_each node.keys record.members path {} trail.countOwnKeys
  refine (and_congr_left fun _ => declared).trans ?_
  have counted : Each holds (({} : Assembly).errors, trail.countOwnKeys) ↔
      Each holds ([], trail) :=
    ⟨fun each => ⟨nofun, each.warnings⟩, fun each => ⟨nofun, each.warnings⟩⟩
  rw [and_assoc, counted]
  refine and_congr Iff.rfl (and_congr Iff.rfl ?_)
  refine forall_congr' fun key => forall_congr' fun listed => ?_
  rw [KeyMap.find?_filter fun name => !KeyMap.contains name node.keys]
  cases undeclared : KeyMap.find? key node.keys with
  | some schema => simp [KeyMap.contains, undeclared]
  | none =>
      have unknown : (capabilities.ownKeys record).any
          (fun key => !KeyMap.contains key node.keys) = true :=
        List.any_eq_true.mpr ⟨key, listed, by simp [KeyMap.contains, undeclared]⟩
      rw [if_pos unknown, KeyMap.contains_eq_false_iff.mpr undeclared]
      simp [Record.find?]

/-! ## Choices and the items of a list -/

/-- The reports of a choice: without an accepted schema, those against the value. -/
def choiceReported (choice : Except (List Report) Value × Trail) : Reported :=
  (match choice.1 with
    | .ok _ => []
    | .error reports => reports, choice.2)

/-- Warnings that are taken back leave those that were there. -/
theorem each_takeBack {errors errors' : List Report} {before after : Trail}
    (each : Each holds (errors, before)) (each' : ∀ report ∈ errors', holds report) :
    Each holds (errors', (before ++ after).takeBack before.mark) := by
  refine ⟨each', ?_⟩
  rw [takeBack_mark_warnings]
  exact each.warnings

theorem walkFirst_each {schemas : List Schema} {value : Value} {path : String}
    (each : ∀ schema ∈ schemas,
      Each holds (Outcome.reported (walk capabilities options schema value path {})))
    {reports : List Report} {trail : Trail} (before : Each holds (reports, trail)) :
    Each holds (choiceReported (walkFirst capabilities options schemas value path reports trail))
    := by
  induction schemas generalizing reports trail with
  | nil => exact before
  | cons schema rest ih =>
      have walked := each schema List.mem_cons_self
      unfold walkFirst
      dsimp only
      rw [walk_eq_append]
      split
      · exact (each_behind [] trail _).mpr
          ⟨⟨List.forall_mem_nil _, before.warnings⟩, List.forall_mem_nil _, walked.warnings⟩
      · exact ih (fun schema member => each schema (List.mem_cons_of_mem _ member))
          (each_takeBack before walked.errors)

theorem walkExcluded_each {schemas : List Schema} {item : Value} {path : String}
    (matched : holds (.of .matchedExcludedType path item)) {trail : Trail}
    (before : Each holds ([], trail)) :
    Each holds (choiceReported (walkExcluded capabilities options schemas item path trail)) := by
  induction schemas generalizing trail with
  | nil => exact before
  | cons schema rest ih =>
      unfold walkExcluded
      dsimp only
      rw [walk_eq_append]
      split
      · exact each_takeBack before (List.forall_mem_singleton.mpr matched)
      · exact ih (each_takeBack before (List.forall_mem_nil _))

theorem settleItems_each {path : String}
    {choose : Value → String → Trail → Except (List Report) Value × Trail} {items : List Value}
    (index : Nat)
    (each : ∀ place item, items[place]? = some item → ∀ trail, Each holds ([], trail) →
      Each holds (choiceReported (choose item ((Slot.index (index + place)).join path) trail)))
    {trail : Trail} (before : Each holds ([], trail)) :
    Each holds ((settleItems path choose index items trail).2.1,
      (settleItems path choose index items trail).2.2) := by
  induction items generalizing index trail with
  | nil => exact before
  | cons item rest ih =>
      have first := each 0 item rfl trail before
      have others (after : Trail) (kept : Each holds ([], after)) :=
        ih (index + 1) (fun place item found => by
          rw [Nat.add_assoc, Nat.add_comm 1 place]
          exact each (place + 1) item found) kept
      rw [Nat.add_zero] at first
      unfold settleItems
      rcases run : choose item ((Slot.index index).join path) trail with ⟨reports | value, after⟩
      · rw [run] at first
        have settled := others after ⟨List.forall_mem_nil _, first.warnings⟩
        exact ⟨List.forall_mem_append.mpr ⟨first.errors, settled.errors⟩, settled.warnings⟩
      · rw [run] at first
        exact others after first

section Node

variable {node : Node Schema}

theorem settleUnion_each {value : Value} {path : String}
    (each : ∀ schema ∈ node.alternatives,
      Each holds (Outcome.reported (walk capabilities options schema value path {})))
    (unmatched : holds (.of .noAlternativeMatched path value)) :
    Each holds (Outcome.reported (settleUnion capabilities options node value path {})) := by
  have chosen := walkFirst_each each each_empty
  unfold settleUnion
  rcases run : walkFirst capabilities options node.alternatives value path [] {} with
    ⟨errors | result, after⟩
  · rw [run] at chosen
    exact (node.constraints.fail_each _ _).mpr
      ⟨List.forall_mem_singleton.mpr unmatched, chosen.warnings⟩
  · rw [run] at chosen
    exact chosen

/-- What is reported on an item is reported on the list, behind the index. -/
theorem descendArray_each_alone {holds : Report → Prop} {items : List Value}
    (each : ∀ place item, items[place]? = some item → Each holds (choiceReported
      (chooseItem capabilities options node item ((Slot.index place).join path) {})))
    {trail : Trail} (before : Each holds ([], trail)) :
    Each holds (Outcome.reported (descendArray capabilities options node items path trail)) := by
  unfold descendArray
  split
  · exact before
  · refine settleItems_each 0 ?_ before
    intro place item found after kept
    have adds := chooseItem_onlyAdds capabilities options
      (fun schema (_ : schema ∈ node.nested) => walk_onlyAdds capabilities options schema)
      item ((Slot.index place).join path)
    rw [Nat.zero_add, adds.eq_append]
    exact (each_behind _ after _).mpr ⟨kept, each place item found⟩

theorem descendArray_each {items : List Value} {path : String}
    (each : ∀ place item, items[place]? = some item →
      (∀ schema ∈ node.includes, Each holds (Outcome.reported
        (walk capabilities options schema item ((Slot.index place).join path) {}))) ∧
      holds (.of .matchedExcludedType ((Slot.index place).join path) item))
    {trail : Trail} (before : Each holds ([], trail)) :
    Each holds (Outcome.reported
      (descendArray capabilities options node items path trail)) := by
  refine descendArray_each_alone ?_ before
  intro place item found
  obtain ⟨included, excluded⟩ := each place item found
  unfold chooseItem
  split
  · exact walkExcluded_each excluded each_empty
  · exact walkFirst_each included each_empty

end Node

end Schema

end SchemaValidation
