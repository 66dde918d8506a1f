import SchemaValidation.Engine.Basic
import SchemaValidation.Proofs.Details
import SchemaValidation.Proofs.OwnReports

/-!
# Reports as records

A report shares one space of names with the further fields that user code gives
it.  Written as a record and read back it is the same report as long as no
further field has the name of one of its own.  Reading takes those names out, and
validation itself gives no further fields, so every report of a walk is of this
kind, whatever the checks after the descent supply.
-/

namespace SchemaValidation

/-! ## Members of records -/

namespace Record

variable (record : Record) (key name : String) (item : Value)

theorem get_insert : (record.insert key item).get name = if name = key then item else record.get name := by
  unfold get find? insert
  rw [KeyMap.find?_insert]
  split <;> rfl

end Record

namespace Report

/-- A member that is left out where it is absent is absent all the same. -/
theorem get_storePresent {record : Record} {key : String} (missing : record.get key = .undefined)
    (item : Value) (name : String) :
    (storePresent key item record).get name = if name = key then item else record.get name := by
  unfold storePresent
  split
  · rename_i absent
    have item_eq : item = .undefined := by cases item <;> first | rfl | cases absent
    by_cases same : name = key
    · rw [if_pos same, same, missing, item_eq]
    · rw [if_neg same]
  · exact record.get_insert key name item

/-- A text is read as a member that is a text. -/
theorem textField_eq (record : Record) (key fallback : String) :
    textField record key fallback =
      match record.get key with
      | .string text => text
      | _ => fallback := by
  unfold textField Record.get
  cases record.find? key with
  | none => rfl
  | some item => cases item <;> rfl

/-! ## Fields of their own -/

/-- No further field of a report has the name of one of its own. -/
def IsUnambiguous (report : Report) : Prop :=
  ∀ name ∈ standardFields, KeyMap.find? name report.extra = none

theorem isUnambiguous_of_plain {report : Report} (plain : report.extra = []) :
    report.IsUnambiguous := by
  intro name _
  rw [plain]
  rfl

/-- Reading a report takes the names of its own fields out of the further ones. -/
theorem extra_ofRecord (record : Record) :
    (ofRecord record).extra =
      record.members.filter fun entry => !standardFields.contains entry.1 := by
  change List.filter _ (List.filter _ (List.filter _ (List.filter _ (List.filter _ _)))) = _
  simp only [List.filter_filter]
  congr 1
  funext entry
  rw [Bool.eq_iff_iff]
  simp [standardFields]
  tauto

theorem isUnambiguous_ofRecord (record : Record) : (ofRecord record).IsUnambiguous := by
  intro name standard
  rw [extra_ofRecord, KeyMap.find?_filter fun name => !standardFields.contains name]
  simp [standard]

namespace IsUnambiguous

variable {report : Report} (unambiguous : report.IsUnambiguous)
include unambiguous

/-- The record of a report has its fields as members. -/
theorem get_toRecord (name : String) : report.toRecord.get name = report.field name := by
  have missing (name : String) (standard : name ∈ standardFields) :
      ({ members := report.extra } : Record).get name = .undefined := by
    unfold Record.get Record.find?
    rw [unambiguous name standard]
    rfl
  have expected := missing "expected" (by decide)
  have actual := missing "actual" (by decide)
  unfold toRecord field
  rw [get_storePresent, get_storePresent]
  · have further : ({ members := report.extra } : Record).get name =
        (KeyMap.find? name report.extra).getD .undefined := rfl
    simp only [Record.get_insert, further]
    -- The fields are looked up in another order than they were stored in.
    grind
  · simpa [Record.get_insert] using expected
  · rw [get_storePresent] <;> simpa [Record.get_insert]

/-- The further fields are what is left of the record without the standard ones. -/
theorem extra_toRecord :
    (report.toRecord.members.filter fun entry => !standardFields.contains entry.1) =
      report.extra := by
  have stored (key : String) (standard : key ∈ standardFields) (item : Value) (record : Record) :
      ((record.insert key item).members.filter fun entry => !standardFields.contains entry.1) =
        record.members.filter fun entry => !standardFields.contains entry.1 :=
    KeyMap.filter_insert (fun name => !standardFields.contains name) (by simp [standard]) item
      record.members
  have stored' (key : String) (standard : key ∈ standardFields) (item : Value) (record : Record) :
      ((storePresent key item record).members.filter
          fun entry => !standardFields.contains entry.1) =
        record.members.filter fun entry => !standardFields.contains entry.1 := by
    unfold storePresent
    split
    · rfl
    · exact stored key standard item record
  unfold toRecord
  rw [stored' _ (by decide), stored' _ (by decide), stored _ (by decide), stored _ (by decide),
    stored _ (by decide), List.filter_eq_self]
  intro entry member
  have apart := fun name standard => KeyMap.find?_eq_none_iff.mp (unambiguous name standard) entry member
  simpa using fun standard => apart entry.1 standard rfl

/-- A report can be read back from its record. -/
theorem ofRecord_toRecord : ofRecord report.toRecord = report := by
  have fields := unambiguous.get_toRecord
  have further := (extra_ofRecord report.toRecord).trans unambiguous.extra_toRecord
  have tag := textField_eq report.toRecord "type" Tag.checkFailed.text
  have path := textField_eq report.toRecord "sourcePath" ""
  rw [fields] at tag path
  calc ofRecord report.toRecord
      = ⟨textField report.toRecord "type" Tag.checkFailed.text, report.toRecord.get "expected",
          report.toRecord.get "actual", textField report.toRecord "sourcePath" "",
          report.toRecord.get "sourceValue", (ofRecord report.toRecord).extra⟩ := rfl
    _ = report := by
        rw [tag, path, fields, fields, fields, further]
        rfl

end IsUnambiguous

/-- Reading a record a second time gives the same report. -/
theorem ofRecord_toRecord_ofRecord (record : Record) :
    ofRecord (ofRecord record).toRecord = ofRecord record :=
  (isUnambiguous_ofRecord record).ofRecord_toRecord

end Report

/-! ## Reports of a walk -/

variable (capabilities : Capabilities)

/-- A detail may be a record with any names, and the host may lay it over the report on the failed
check as it likes. The report is read from what results. -/
theorem Report.isUnambiguous_ofDetail (path : String) (value detail : Value) :
    (Report.ofDetail capabilities path value detail).IsUnambiguous := by
  cases detail with
  | object className members => exact isUnambiguous_ofRecord _
  | _ => exact isUnambiguous_of_plain rfl

theorem runChecksAfter_isUnambiguous (path : String) (value : Value) (checks : List Check) :
    ∀ report ∈ (runChecksAfter capabilities path value checks {}).warnings,
      report.IsUnambiguous := by
  rw [runChecksAfter_warnings]
  intro report member
  obtain ⟨detail, -, rfl⟩ := List.mem_map.mp member
  exact Report.isUnambiguous_ofDetail capabilities path value detail

theorem Schema.reports_isUnambiguous (schema : Schema) (options : Options) :
    schema.ReportsEach capabilities options Report.IsUnambiguous :=
  reportsEach (fun _ _ _ _ _ _ => Report.isUnambiguous_of_plain rfl)
    (.of_forall (fun _ path value => runChecksAfter_isUnambiguous capabilities path value _) schema)

/-- No report of a validation has a further field with the name of one of its own, and each can be
read back from its record. Whatever report is read from a record can be read back in this way. -/
theorem Engine.validateWith_reports_recordable (engine : Engine) (value : Value) (source : Source)
    (options : Options) (ledger : Ledger) :
    (∀ report ∈ (engine.validateWith value source options ledger).1.errors ++
        (engine.validateWith value source options ledger).1.warnings,
      (∀ name ∈ Report.standardFields, KeyMap.find? name report.extra = none) ∧
        Report.ofRecord report.toRecord = report) ∧
    ∀ record, Report.ofRecord (Report.ofRecord record).toRecord = Report.ofRecord record := by
  have each := (ledger.compile source).1.schema.reports_isUnambiguous engine.capabilities options
    value ""
  refine ⟨?_, Report.ofRecord_toRecord_ofRecord⟩
  intro report member
  have unambiguous : report.IsUnambiguous := by
    rcases List.mem_append.mp member with rejects | warns
    · exact each.errors report rejects
    · exact each.warnings report warns
  exact ⟨unambiguous, unambiguous.ofRecord_toRecord⟩

end SchemaValidation
