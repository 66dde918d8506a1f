import SchemaValidation.Proofs.DataTrees
import SchemaValidation.Proofs.ReportRecords

/-!
# Reports as data trees

The data tree of a report leaves out its expected and its actual value where they
are absent, and reading a report takes a missing member for an absent value.  The
value at the position of the report is written in any case.  A data tree has no
form for absence, so an absent one is read back as null.  In everything else a
report comes back from its data tree as an equal report.
-/

namespace SchemaValidation

namespace Report

/-- The members that the data tree of a report has for its own fields. -/
def ownMembers (report : Report) : List (String × Json) :=
  [("type", .string report.tag)] ++ presentMember "expected" report.expected ++
    presentMember "actual" report.actual ++
    [("sourcePath", .string report.sourcePath), ("sourceValue", report.sourceValue.toJson)]

/-- What becomes of a value that is left out of a data tree where it is absent. -/
def readBack (value : Value) : Value :=
  if value.isUndefined then .undefined else .ofJson value.toJson

variable (report : Report)

theorem keys_ownMembers : KeyMap.keys report.ownMembers =
    standardFields.filter fun name =>
      (name != "expected" || !report.expected.isUndefined) &&
        (name != "actual" || !report.actual.isUndefined) := by
  unfold ownMembers presentMember
  cases report.expected.isUndefined <;> cases report.actual.isUndefined <;> rfl

theorem nodup_ownMembers : (KeyMap.keys report.ownMembers).Nodup := by
  rw [keys_ownMembers]
  exact List.Nodup.filter _ (by decide)

theorem standard_of_mem_ownMembers {entry : String × Json} (member : entry ∈ report.ownMembers) :
    entry.1 ∈ standardFields := by
  have listed : entry.1 ∈ KeyMap.keys report.ownMembers := List.mem_map_of_mem member
  rw [keys_ownMembers] at listed
  exact (List.mem_filter.mp listed).1

/-- The members that stand under the names of fields of their own. -/
theorem find?_ownMembers (name : String) : KeyMap.find? name report.ownMembers =
    if name = "type" then some (.string report.tag)
    else if name = "expected" then
      if report.expected.isUndefined then none else some report.expected.toJson
    else if name = "actual" then
      if report.actual.isUndefined then none else some report.actual.toJson
    else if name = "sourcePath" then some (.string report.sourcePath)
    else if name = "sourceValue" then some report.sourceValue.toJson
    else none := by
  unfold ownMembers presentMember
  cases report.expected.isUndefined <;> cases report.actual.isUndefined <;>
    simp [KeyMap.find?_cons] <;> grind

/-- The members of the data tree of a report, further fields over its own. -/
def members : List (String × Json) :=
  KeyMap.overlay (KeyMap.ofList report.ownMembers) (KeyMap.mapItems Value.toJson report.extra)

theorem toJson_eq : report.toJson = .object report.members := rfl

section Members

variable {report} (ascending : KeyMap.IsAscending report.extra)
include ascending

theorem find?_members (name : String) : KeyMap.find? name report.members =
    ((KeyMap.find? name report.extra).map Value.toJson).or
      (KeyMap.find? name report.ownMembers) := by
  rw [members, KeyMap.find?_overlay (ascending.mapItems _).nodup_keys, KeyMap.find?_mapItems,
    KeyMap.find?_ofList report.nodup_ownMembers]

variable (unambiguous : report.IsUnambiguous)
include unambiguous

theorem find?_members_of_standard {name : String} (standard : name ∈ standardFields) :
    KeyMap.find? name report.members = KeyMap.find? name report.ownMembers := by
  rw [find?_members ascending, unambiguous name standard]
  rfl

/-- The further fields are what is left of the members without those of its own. -/
theorem further_members :
    (report.members.filter fun entry => !standardFields.contains entry.1) =
      KeyMap.mapItems Value.toJson report.extra := by
  have sorted : KeyMap.IsAscending report.members :=
    KeyMap.IsAscending.overlay (KeyMap.IsAscending.overlay .nil _) _
  have selected : KeyMap.IsAscending
      (report.members.filter fun entry => !standardFields.contains entry.1) := sorted.filter _
  refine selected.ext (ascending.mapItems _) fun name => ?_
  rw [KeyMap.find?_filter fun name => !standardFields.contains name, find?_members ascending,
    KeyMap.find?_mapItems]
  by_cases standard : name ∈ standardFields
  · simp [standard, unambiguous name standard]
  · have missing : KeyMap.find? name report.ownMembers = none :=
      KeyMap.find?_eq_none_iff.mpr fun entry member same =>
        standard (same ▸ report.standard_of_mem_ownMembers member)
    simp [standard, missing]

/-- What is read from the data tree of a report, field by field. -/
theorem ofJson?_toJson_eq : ofJson? report.toJson = some {
    tag := report.tag
    expected := readBack report.expected
    actual := readBack report.actual
    sourcePath := report.sourcePath
    sourceValue := .ofJson report.sourceValue.toJson
    extra := KeyMap.mapItems (fun item => .ofJson item.toJson) report.extra } := by
  have own {name : String} (standard : name ∈ standardFields) :=
    (find?_members_of_standard ascending unambiguous standard).trans (report.find?_ownMembers name)
  have tag : KeyMap.find? "type" report.members = some (.string report.tag) := own (by decide)
  have path : KeyMap.find? "sourcePath" report.members = some (.string report.sourcePath) :=
    own (by decide)
  have expected : valueOfMember report.members "expected" = readBack report.expected := by
    unfold valueOfMember readBack
    rw [own (by decide)]
    cases report.expected.isUndefined <;> rfl
  have actual : valueOfMember report.members "actual" = readBack report.actual := by
    unfold valueOfMember readBack
    rw [own (by decide)]
    cases report.actual.isUndefined <;> rfl
  have sourceValue : valueOfMember report.members "sourceValue" =
      .ofJson report.sourceValue.toJson := by
    unfold valueOfMember
    rw [own (by decide)]
    rfl
  have further : KeyMap.mapItems Value.ofJson (KeyMap.mapItems Value.toJson report.extra) =
      KeyMap.mapItems (fun item => .ofJson item.toJson) report.extra := List.map_map
  rw [toJson_eq, ofJson?, tag, path]
  dsimp only
  rw [expected, actual, sourceValue, further_members ascending unambiguous, further]

end Members

/-! ## Reading a report back -/

theorem readBack_equals {value : Value}
    (representable : value.isUndefined = true ∨ value.IsRepresentable) :
    (readBack value).equals value = true := by
  unfold readBack
  rcases representable with absent | representable
  · rw [if_pos absent]
    cases value <;> first | rfl | cases absent
  · rw [representable.isUndefined_eq]
    exact Value.ofJson_toJson_equals representable

/-- The fields of a report have forms as data trees. Those that are single values may be absent as a
whole. -/
structure IsRepresentable (report : Report) : Prop where
  expected : report.expected.isUndefined = true ∨ report.expected.IsRepresentable
  actual : report.actual.isUndefined = true ∨ report.actual.IsRepresentable
  sourceValue : report.sourceValue.isUndefined = true ∨ report.sourceValue.IsRepresentable
  extra : ∀ entry ∈ report.extra, entry.2.IsRepresentable

/-- The report with null for an absent value at its position. -/
def withSourceRead (report : Report) : Report :=
  if report.sourceValue.isUndefined then { report with sourceValue := .null } else report

/-- A report comes back from its data tree with null for an absent value at its position, and so as
an equal report exactly if that value is present. -/
theorem ofJson?_toJson {report : Report} (ascending : KeyMap.IsAscending report.extra)
    (unambiguous : report.IsUnambiguous) (representable : report.IsRepresentable) :
    ∃ decoded, ofJson? report.toJson = some decoded ∧
      decoded.equals report.withSourceRead = true ∧
      (decoded.equals report = true ↔ report.sourceValue.isUndefined = false) := by
  refine ⟨_, ofJson?_toJson_eq ascending unambiguous, ?_⟩
  have further : Value.equalMembers
      (KeyMap.mapItems (fun item => .ofJson item.toJson) report.extra) report.extra = true :=
    Value.equalMembers_mapItems fun entry member =>
      Value.ofJson_toJson_equals (representable.extra entry member)
  unfold withSourceRead equals
  cases absent : report.sourceValue.isUndefined with
  | true =>
      have source : report.sourceValue = .undefined := by
        cases given : report.sourceValue <;> rw [given] at absent <;> first | rfl | cases absent
      simp [readBack_equals, representable.expected, representable.actual, further, source,
        Value.toJson, Value.ofJson, Value.equals]
  | false =>
      have source := Value.ofJson_toJson_equals
        (representable.sourceValue.resolve_left (by simp [absent]))
      simp [readBack_equals, representable.expected, representable.actual, further, source]

/-- An object with a class and a zero with a sign comes back as an equal one. -/
theorem ofJson?_toJson_present :
    let report : Report := {
      tag := "check_failed"
      actual := .string "x"
      sourcePath := "/a"
      sourceValue := .object (some "Point") [("x", .number (Binary64.ofMagnitude true 0))]
      extra := [("hint", .array [.null, .number Binary64.one])] }
    ∃ decoded, ofJson? report.toJson = some decoded ∧ decoded.equals report = true := by
  intro report
  have hint : (Value.array [.null, .number Binary64.one]).IsRepresentable :=
    .array (List.forall_mem_cons.mpr
      ⟨.null, List.forall_mem_singleton.mpr (.number (by decide))⟩)
  have representable : report.IsRepresentable :=
    ⟨.inl rfl, .inr (.string _), .inr (.object (List.forall_mem_singleton.mpr
      (.number (by decide)))), List.forall_mem_singleton.mpr hint⟩
  have ascending : KeyMap.IsAscending report.extra := List.pairwise_singleton _ _
  have unambiguous : report.IsUnambiguous := by
    simp [IsUnambiguous, standardFields, report, KeyMap.find?_cons]
  obtain ⟨decoded, read, -, same⟩ := ofJson?_toJson ascending unambiguous representable
  exact ⟨decoded, read, same.mpr rfl⟩

/-- A report on a missing value says after its way through a data tree that the value is null. -/
theorem ofJson?_toJson_of_missing :
    let report : Report :=
      { tag := "required_missing", sourcePath := "/a", sourceValue := .undefined }
    KeyMap.IsAscending report.extra ∧ report.IsUnambiguous ∧ report.IsRepresentable ∧
      ofJson? report.toJson = some { report with sourceValue := .null } ∧
      Report.equals { report with sourceValue := .null } report = false :=
  ⟨.nil, isUnambiguous_of_plain rfl, ⟨.inl rfl, .inl rfl, .inl rfl, nofun⟩, rfl, rfl⟩

end Report

end SchemaValidation
