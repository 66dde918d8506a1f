import SchemaValidation.Proofs.ReportRecords

/-!
# Reports on the leaves of a detail

Each leaf of the detail of a failed check becomes one report.  The report says what
the leaf supplies, a text being the tag and the members of an object being fields,
and whatever the leaf does not supply is as in the report on a failed check.  The tag
and the path of a report are texts, so a member of another shape is not taken for
them.
-/

namespace SchemaValidation

/-! ## Records laid over others -/

/-- Of two records that are laid over each other, the one on top is asked first. -/
theorem Capabilities.get_native_derive {overlay : Record}
    (ascending : KeyMap.IsAscending overlay.members) (parent : Record) (name : String) :
    (Capabilities.native.derive parent overlay).get name =
      (overlay.find? name).getD (parent.get name) := by
  unfold Record.get Record.find? Capabilities.native
  dsimp only
  rw [KeyMap.find?_overlay ascending.nodup_keys]
  cases KeyMap.find? name overlay.members <;> rfl

namespace Report

/-- The fields of a report that are texts, with the text that each has where no text is given. -/
def textFields : List (String × String) :=
  [("type", Tag.checkFailed.text), ("sourcePath", "")]

/-- What a field of a report takes from a member of a record. A field that is a text takes nothing
else. -/
def takenFor (name : String) (item : Value) : Value :=
  match KeyMap.find? name textFields, item with
  | some _, .string text => .string text
  | some fallback, _ => .string fallback
  | none, item => item

theorem takenFor_of_fits {name : String} {item : Value}
    (fits : name ∈ KeyMap.keys textFields → item.shape = .string) : takenFor name item = item := by
  unfold takenFor
  cases text : KeyMap.find? name textFields with
  | none => rfl
  | some fallback =>
      have shape := fits (KeyMap.mem_keys_iff.mpr (by simp [text]))
      cases item with
      | string text => rfl
      | _ => cases shape

theorem takenFor_of_misfit {name fallback : String} {item : Value}
    (text : KeyMap.find? name textFields = some fallback) (other : item.shape ≠ .string) :
    takenFor name item = .string fallback := by
  unfold takenFor
  rw [text]
  cases item with
  | string text => exact absurd rfl other
  | _ => rfl

/-- A field of a report that is a text is one. -/
theorem shape_field (report : Report) {name : String} (text : name ∈ KeyMap.keys textFields) :
    (report.field name).shape = .string := by
  have named : name = "type" ∨ name = "sourcePath" := by
    simpa [textFields, KeyMap.keys] using text
  rcases named with rfl | rfl <;> rfl

/-- The fields of the report that a record describes are taken from its members. -/
theorem field_ofRecord (record : Record) (name : String) :
    (ofRecord record).field name = takenFor name (record.get name) := by
  have taken (key fallback : String) (text : KeyMap.find? key textFields = some fallback) :
      Value.string (textField record key fallback) = takenFor key (record.get key) := by
    unfold takenFor
    rw [textField_eq, text]
    cases record.get key <;> rfl
  by_cases tag : name = "type"
  · subst tag
    exact taken "type" _ rfl
  by_cases path : name = "sourcePath"
  · subst path
    exact taken "sourcePath" _ rfl
  have untexted : name ∉ KeyMap.keys textFields := by
    simp [textFields, KeyMap.keys, tag, path]
  rw [takenFor_of_fits fun text => absurd text untexted]
  by_cases standard : name ∈ standardFields
  · have remaining : name = "expected" ∨ name = "actual" ∨ name = "sourceValue" := by
      simpa [standardFields, tag, path] using standard
    rcases remaining with rfl | rfl | rfl <;> rfl
  · have further : KeyMap.find? name (ofRecord record).extra = record.find? name := by
      rw [extra_ofRecord, KeyMap.find?_filter fun name => !standardFields.contains name]
      simp [standard, Record.find?]
    simp only [standardFields, List.mem_cons, List.not_mem_nil, not_or, or_false] at standard
    simp [field, standard, further, Record.get]

/-! ## The report on a leaf -/

/-- What a report says of a leaf of a detail, for a check on the value at a path. -/
inductive Conveys (path : String) (value : Value) : Value → Report → Prop where
  /-- A text is the tag. -/
  | text (tag : String) :
      Conveys path value (.string tag) { Report.of .checkFailed path value with tag := tag }
  /-- The members of an object are fields, apart from a tag and a path that are no texts. -/
  | object {className : Option String} {members : List (String × Value)} {report : Report}
      (supplied : ∀ name item, KeyMap.find? name members = some item →
        (name ∈ KeyMap.keys textFields → item.shape = .string) → report.field name = item)
      (misfit : ∀ name item fallback, KeyMap.find? name members = some item →
        KeyMap.find? name textFields = some fallback → item.shape ≠ .string →
          report.field name = .string fallback)
      (others : ∀ name, KeyMap.find? name members = none →
        report.field name = (Report.of .checkFailed path value).field name) :
      Conveys path value (.object className members) report
  /-- Any other leaf says no more than that the check failed. -/
  | other {leaf : Value} (plain : leaf.shape ∉ [Shape.string, .object, .array]) :
      Conveys path value leaf (.of .checkFailed path value)

end Report

variable (path : String) (value : Value)

/-- The report that is made of an object has its members for fields. -/
theorem Report.conveys_object {className : Option String} {members : List (String × Value)}
    (ascending : KeyMap.IsAscending members) :
    Report.Conveys path value (.object className members)
      (.ofDetail .native path value (.object className members)) := by
  set laid := Capabilities.native.derive (checkFailure path value) ⟨className, members⟩
  have base : (Report.of .checkFailed path value).IsUnambiguous := isUnambiguous_of_plain rfl
  have member (name : String) : laid.get name =
      (KeyMap.find? name members).getD ((Report.of .checkFailed path value).field name) := by
    rw [← base.get_toRecord]
    exact Capabilities.get_native_derive ascending (checkFailure path value) name
  have made : Report.ofDetail .native path value (.object className members) =
      Report.ofRecord laid := rfl
  rw [made]
  constructor
  case supplied =>
    intro name item found fits
    rw [field_ofRecord, member, found]
    exact takenFor_of_fits fits
  case misfit =>
    intro name item fallback found text other
    rw [field_ofRecord, member, found]
    exact takenFor_of_misfit text other
  case others =>
    intro name missing
    rw [field_ofRecord, member, missing]
    exact takenFor_of_fits (shape_field _)

theorem Report.conveys_ofDetail {leaf : Value} (wellFormed : leaf.IsWellFormed)
    (single : leaf.shape ≠ .array) :
    Report.Conveys path value leaf (.ofDetail .native path value leaf) := by
  cases leaf with
  | string tag => exact .text tag
  | object className members => exact Report.conveys_object path value wellFormed.ascending
  | array items => exact absurd rfl single
  | _ => exact .other (by simp [Value.shape])

/--
With native capabilities, the detail of a failed check becomes exactly one warning
for each of its leaves, lists being entered to any depth, in the order of the leaves
and behind the warnings that were there, and no event.  Each warning says what its
leaf supplies, and is in everything else the report on a failed check of the value at
the path.
-/
theorem warnOf_conveys_leaves {detail : Value} (wellFormed : detail.IsWellFormed) (trail : Trail) :
    ∃ reports,
      (warnOf .native path value detail trail).warnings = trail.warnings ++ reports ∧
        (warnOf .native path value detail trail).events = trail.events ∧
        List.Forall₂ (Report.Conveys path value) detail.leaves reports := by
  refine ⟨detail.leaves.map (Report.ofDetail .native path value), warnOf_warnings .., ?_, ?_⟩
  · rw [warnOf_eq]
    rfl
  · rw [List.forall₂_map_right_iff, List.forall₂_same]
    intro leaf member
    exact Report.conveys_ofDetail path value (wellFormed.leaf leaf member)
      (detail.shape_of_mem_leaves leaf member)

/-- Of a detail with an empty list, a tag, an object with a path that is no text and a truth value,
three leaves become warnings. -/
theorem warnOf_conveys_leaves_nested :
    let members : List (String × Value) :=
      [("hint", .array []), ("sourcePath", .null), ("type", .string "odd")]
    let detail : Value := .array
      [.string "late", .array [.array [], .array [.object none members]], .boolean false]
    detail.IsWellFormed ∧
      ∃ reports,
        (warnOf .native "/a" .null detail {}).warnings = reports ∧
          (warnOf .native "/a" .null detail {}).events = [] ∧
          List.Forall₂ (Report.Conveys "/a" .null)
            [.string "late", .object none members, .boolean false] reports := by
  intro members detail
  have ascending : KeyMap.IsAscending members := by
    unfold KeyMap.IsAscending
    decide
  have wellFormed : detail.IsWellFormed := by
    simp [detail, members, Value.IsWellFormed, Value.AreWellFormed, Value.HasWellFormedMembers,
      ascending]
  exact ⟨wellFormed, warnOf_conveys_leaves "/a" .null wellFormed {}⟩

end SchemaValidation
