import SchemaValidation.Engine.Basic
import SchemaValidation.Proofs.MemberAccounts
import SchemaValidation.Proofs.Silence

/-!
# Where reports come from

A report names a path and the value there.  If nothing transforms the values on
the way, the two belong together: the path is that of a sequence of addresses,
and the value is what these addresses lead to in the value under validation.  A
report on an unknown member is about the whole record that has this member.
-/

namespace SchemaValidation

/-- The path of a sequence of addresses. -/
def Slot.pathOf (slots : List Slot) : String :=
  slots.foldl (fun path slot => slot.join path) ""

namespace Value

/-- What a sequence of addresses leads to from a value. -/
def follow (root : Value) (slots : List Slot) : Value :=
  slots.foldl member root

/-- Inside a root, some sequence of addresses with a path leads to a value. -/
def IsAt (root value : Value) (path : String) : Prop :=
  ∃ slots, Slot.pathOf slots = path ∧ root.follow slots = value

variable {root value : Value} {path : String}

theorem isAt_root (root : Value) : root.IsAt root "" :=
  ⟨[], rfl, rfl⟩

theorem IsAt.member (place : root.IsAt value path) (slot : Slot) :
    root.IsAt (value.member slot) (slot.join path) := by
  obtain ⟨slots, rfl, rfl⟩ := place
  refine ⟨slots ++ [slot], ?_, ?_⟩
  · unfold Slot.pathOf
    rw [List.foldl_append]
    rfl
  · unfold follow
    rw [List.foldl_append]
    rfl

/-- The members of a value are those of its record. -/
theorem get_recordOrEmpty (value : Value) (key : String) :
    value.recordOrEmpty.get key = value.get key := by
  cases value <;> rfl

/-- Only an object has members, and it is the object of its record. -/
theorem toValue_recordOrEmpty {key : String} {item : Value}
    (found : value.recordOrEmpty.find? key = some item) :
    value.recordOrEmpty.toValue = value := by
  cases value <;> first | rfl | cases found

theorem member_index_of_getElem? {place : Nat} {item : Value}
    (found : value.itemsOrEmpty[place]? = some item) : value.member (.index place) = item := by
  cases value with
  | array items =>
      change items.getD place .undefined = item
      rw [List.getD_eq_getElem?_getD]
      exact congrArg (Option.getD · .undefined) found
  | _ => cases found

end Value

/-- A report on what a path leads to; if the report is on an unknown member, it is on the whole record
and names one of its members. -/
structure Report.StemsFrom (root : Value) (report : Report) : Prop where
  place : root.IsAt report.sourceValue report.sourcePath
  unknown : report.tag = Tag.unknownKey.text →
    ∃ (record : Record) (key : String), report.sourceValue = record.toValue ∧
      report.actual = .string key ∧ key ∈ record.keys

/-- A report on one position that is not about unknown members. -/
structure Report.IsAbout (path : String) (value : Value) (report : Report) : Prop where
  sourcePath : report.sourcePath = path
  sourceValue : report.sourceValue = value
  tag : report.tag ≠ Tag.unknownKey.text

theorem Tag.text_ne_unknownKey {tag : Tag} (other : tag ≠ .unknownKey) :
    tag.text ≠ Tag.unknownKey.text := by
  cases tag <;> first | exact absurd rfl other | decide

/-- A report of validation itself is about its position unless it is on an unknown member. -/
theorem Report.isAbout_of {tag : Tag} (other : tag ≠ .unknownKey) (path : String) (value : Value) :
    (Report.of tag path value).IsAbout path value :=
  ⟨rfl, rfl, Tag.text_ne_unknownKey other⟩

/-- What was called for and what was found have no part in it. -/
theorem Report.IsAbout.detailed {path : String} {value : Value} {report : Report}
    (about : report.IsAbout path value) (expected actual : Value) :
    { report with expected, actual }.IsAbout path value :=
  ⟨about.sourcePath, about.sourceValue, about.tag⟩

theorem Report.IsAbout.stemsFrom {root value : Value} {path : String} {report : Report}
    (about : report.IsAbout path value) (place : root.IsAt value path) :
    report.StemsFrom root := by
  obtain ⟨rfl, rfl, tag⟩ := about
  exact ⟨place, fun unknown => absurd unknown tag⟩

/-- A node that takes values as they are and has no checks after the descent. -/
structure Node.IsVerbatim (node : Node Schema) : Prop where
  untransformed : node.constraints.IsUntransformed
  checksAfter : node.constraints.checksAfter = []

open Trail Reported

variable {capabilities : Capabilities} {options : Options} {root value : Value} {path : String}

/-! ## The steps at one position -/

namespace Constraints

variable {constraints : Constraints} {trail : Trail} {report : Report}

theorem judge_about (rejected : (constraints.judge path value trail).1 = .rejected report) :
    report.IsAbout path value := by
  obtain ⟨tag, listed, expected, rfl⟩ := judge_rejected rejected
  have other : tag ≠ .unknownKey := by
    rintro rfl
    exact absurd listed (by decide)
  exact (Report.isAbout_of other path value).detailed expected .undefined

variable (untransformed : constraints.IsUntransformed)
include untransformed

/-- What is turned away where nothing transforms values is reported as it came. -/
theorem arrive_about (strict : options.strict = true)
    (rejected : (constraints.arrive options path value trail).1 = .rejected report) :
    report.IsAbout path value := by
  unfold arrive settleKind at rejected
  rw [untransformed.sanitizeBefore, runSanitizers] at rejected
  dsimp only at rejected
  rw [resolveAlias_of_untransformed untransformed] at rejected
  cases called : constraints.kind with
  | none =>
      rw [called] at rejected
      exact judge_about rejected
  | some kind =>
      rw [called] at rejected
      dsimp only at rejected
      by_cases same : value.shape = kind.shape
      · rw [if_pos same] at rejected
        exact judge_about rejected
      · rw [if_neg same, if_pos strict] at rejected
        cases rejected
        exact (Report.isAbout_of (by decide) path value).detailed _ _

theorem entered_eq (strict : options.strict = true) {entered : Value}
    (received : (constraints.arrive options path value trail).1 = .entered entered) :
    entered = value := by
  have reception := constraints.arrive_reception options path value trail
  rw [received, receive_of_untransformed options untransformed strict] at reception
  split at reception
  · exact (weigh_entered reception.symm).1
  · cases reception

end Constraints

namespace Schema

variable (capabilities options root) in
/-- All reports of a walk that begins inside a root stem from there. -/
def ReportsInPlace (schema : Schema) : Prop :=
  ∀ value path, root.IsAt value path →
    Each (Report.StemsFrom root)
      (Outcome.reported (walk capabilities options schema value path {}))

section Node

variable {node : Node Schema}
  (below : ∀ schema ∈ node.nested, schema.ReportsInPlace capabilities options root)
  (place : root.IsAt value path)
include below place

theorem otherReported_inPlace {key : String} {item : Value}
    (found : value.recordOrEmpty.find? key = some item) :
    Each (Report.StemsFrom root) (otherReported capabilities options node.pattern path
      value.recordOrEmpty.toValue key item) := by
  have whole := Value.toValue_recordOrEmpty found
  have named : key ∈ value.recordOrEmpty.keys :=
    KeyMap.mem_keys_iff.mpr (Option.isSome_of_eq_some found)
  have unknown : Report.StemsFrom root { Report.of .unknownKey path value.recordOrEmpty.toValue with
      actual := .string key } :=
    ⟨whole.symm ▸ place, fun _ => ⟨value.recordOrEmpty, key, rfl, rfl, named⟩⟩
  refine otherReported_each ?_ fun _ _ => unknown
  intro schema fits
  have item_eq : value.member (.key key) = item := by
    change value.get key = item
    rw [← value.get_recordOrEmpty key, Record.get, found]
    rfl
  rw [← item_eq]
  exact below schema (Node.nested_of_fitting fits) _ _ (place.member (.key key))

theorem descend_inPlace {trail : Trail} (before : Each (Report.StemsFrom root) ([], trail)) :
    Each (Report.StemsFrom root)
      (Outcome.reported (descend capabilities options node value path trail)) := by
  unfold descend
  split
  · rw [descendObject_each]
    refine ⟨before, ?_, ?_⟩
    · intro entry member
      rw [value.get_recordOrEmpty]
      exact below entry.2 (Node.nested_of_key member) _ _ (place.member (.key entry.1))
    · intro key _ _ item found
      exact otherReported_inPlace below place found
  · refine descendArray_each ?_ before
    intro index item found
    have inside := place.member (.index index)
    rw [Value.member_index_of_getElem? found] at inside
    exact ⟨fun schema member => below schema (Node.nested_of_include member) _ _ inside,
      (Report.isAbout_of (by decide) _ item).stemsFrom inside⟩
  · exact before

theorem settlePlain_inPlace (verbatim : node.IsVerbatim) (strict : options.strict = true) :
    Each (Report.StemsFrom root)
      (Outcome.reported (settlePlain capabilities options node value path {})) := by
  have silent := node.constraints.arrive_silent path strict value {}
  have before : Each (Report.StemsFrom root)
      ([], (node.constraints.arrive options path value {}).2) :=
    ⟨nofun, by rw [silent]; nofun⟩
  unfold settlePlain
  rcases run : node.constraints.arrive options path value {} with
    ⟨accepted | report | entered, after⟩
  · rw [run] at before
    exact before
  · rw [run] at before
    have about := Constraints.arrive_about verbatim.untransformed strict (congrArg Prod.fst run)
    exact (node.constraints.fail_each report after).mpr
      ⟨List.forall_mem_singleton.mpr (about.stemsFrom place), before.warnings⟩
  · rw [run] at before
    obtain rfl := Constraints.entered_eq verbatim.untransformed strict (congrArg Prod.fst run)
    dsimp only
    rw [node.constraints.leave_eq_failAll verbatim.checksAfter verbatim.untransformed.sanitize,
      Constraints.failAll_each]
    exact descend_inPlace below place before

end Node

/-- Along a schema of verbatim nodes, all reports stem from the value under validation. -/
theorem reportsInPlace (strict : options.strict = true) {schema : Schema}
    (tree : schema.Everywhere Node.IsVerbatim) :
    schema.ReportsInPlace capabilities options root := by
  induction tree with
  | @node parts verbatim nested ih =>
      intro value path place
      have stems {tag : Tag} (other : tag ≠ .unknownKey) :
          (Report.of tag path value).StemsFrom root :=
        (Report.isAbout_of other path value).stemsFrom place
      rw [walk_node]
      split
      · rename_i absent
        have missing : value = .undefined := by cases value <;> first | rfl | cases absent
        unfold Constraints.absent
        split
        · exact each_empty
        · rw [Constraints.failAll_each, ← missing]
          exact ⟨List.forall_mem_singleton.mpr (stems (by decide)), nofun⟩
        · exact each_empty
      · split
        · rw [Constraints.failAll_each]
          exact ⟨List.forall_mem_singleton.mpr (stems (by decide)), nofun⟩
        · split
          · exact settleUnion_each
              (fun schema member => ih schema (Node.nested_of_alternative member) value path place)
              (stems (by decide))
          · exact settlePlain_inPlace ih place verbatim strict

end Schema

/--
Every report of a validation says where it stems from.  Under strict options and
along a schema without sanitizers, aliases and checks after the descent, the path
of every error and of every warning is that of a sequence of names and indices
that leads from the given value to the value in the report.  If the report is on
an unknown member, that value is the whole record, and the report names one of
its members.
-/
theorem Engine.validateWith_stemsFrom {options : Options} (strict : options.strict = true)
    {source : Source} {ledger : Ledger}
    (tree : (source.compile ledger.supply).1.schema.Everywhere Node.IsVerbatim)
    (engine : Engine) (value : Value) :
    ∀ report ∈ (engine.validateWith value source options ledger).1.errors ++
      (engine.validateWith value source options ledger).1.warnings, report.StemsFrom value := by
  have inPlace : (source.compile ledger.supply).1.schema.ReportsInPlace engine.capabilities
      options value := Schema.reportsInPlace strict tree
  have each := inPlace value "" value.isAt_root
  exact List.forall_mem_append.mpr ⟨each.errors, each.warnings⟩

/-- One error is on an item inside a member, the other on a member that is not declared. -/
theorem Engine.validateWith_stemsFrom_nested :
    let number : Schema := .node { constraints := { kind := some .number } }
    let list : Schema := .node { constraints := { kind := some .array }, includes := [number] }
    let schema : Schema := .node { constraints := { kind := some .object }, keys := [("a", list)] }
    let engine : Engine := ⟨.native, ⟨0, schema⟩⟩
    let options : Options := { warnOnInvalidOptionals := false }
    let value : Value := .object none [("a", .array [.number .zero, .string "x"]), ("b", .null)]
    let validation := (engine.validateWith value (.frozen ⟨1, schema⟩) options {}).1
    (validation.errors.map fun report => (report.tag, report.sourcePath)) =
        [("mismatching_types", "/a/1"), ("unknown_key", "")] ∧
      ∀ report ∈ validation.errors ++ validation.warnings, report.StemsFrom value := by
  intro number list schema engine options value validation
  have tree : schema.Everywhere Node.IsVerbatim := by
    have leaf : number.Everywhere Node.IsVerbatim :=
      .node ⟨⟨rfl, rfl, rfl⟩, rfl⟩ (by simp [Node.nested])
    have middle : list.Everywhere Node.IsVerbatim :=
      .node ⟨⟨rfl, rfl, rfl⟩, rfl⟩ (by simpa [Node.nested] using leaf)
    exact .node ⟨⟨rfl, rfl, rfl⟩, rfl⟩ (by simpa [Node.nested] using middle)
  exact ⟨by decide, @validateWith_stemsFrom options rfl (.frozen ⟨1, schema⟩) {} tree engine value⟩

end SchemaValidation
