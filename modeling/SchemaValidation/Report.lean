import SchemaValidation.Value.Display
import SchemaValidation.Value.Equality

/-!
# Reports

A report says what is wrong at one position of a value: a tag, the shape or the
values that were called for, what was found, the path of the position and the
value there. Reports made by user code may have further fields. A report can be
written as a record and read back from one.
-/

namespace SchemaValidation

/-- A report on one position of a value. -/
structure Report where
  tag : String
  expected : Value := .undefined
  actual : Value := .undefined
  sourcePath : String
  sourceValue : Value
  extra : List (String × Value) := []

/-- The tags of the reports that validation itself makes. -/
inductive Tag where
  | requiredMissing
  | forbiddenEncountered
  | noAlternativeMatched
  | mismatchingTypes
  | invalidValue
  | notAValidValue
  | checkFailed
  | checksFailed
  | unknownKey
  | matchedExcludedType
  | sanitizeFailed
deriving DecidableEq

/-- The written form of a tag. -/
def Tag.text : Tag → String
  | requiredMissing => "required_missing"
  | forbiddenEncountered => "forbidden_encountered"
  | noAlternativeMatched => "no_alternative_matched"
  | mismatchingTypes => "mismatching_types"
  | invalidValue => "invalid_value"
  | notAValidValue => "not_a_valid_value"
  | checkFailed => "check_failed"
  | checksFailed => "checks_failed"
  | unknownKey => "unknown_key"
  | matchedExcludedType => "matched_excluded_type"
  | sanitizeFailed => "sanitize_failed"

namespace Report

/-- A report with a tag and no detail. -/
def of (tag : Tag) (path : String) (value : Value) : Report :=
  { tag := tag.text, sourcePath := path, sourceValue := value }

/-- Whether two reports have the same texts and equal values in all fields. -/
def equals (a b : Report) : Bool :=
  a.tag == b.tag && a.expected.equals b.expected && a.actual.equals b.actual &&
    a.sourcePath == b.sourcePath && a.sourceValue.equals b.sourceValue &&
    Value.equalMembers a.extra b.extra

/-- The field of a report with a name. -/
def field (report : Report) (name : String) : Value :=
  if name = "type" then .string report.tag
  else if name = "expected" then report.expected
  else if name = "actual" then report.actual
  else if name = "sourcePath" then .string report.sourcePath
  else if name = "sourceValue" then report.sourceValue
  else (KeyMap.find? name report.extra).getD .undefined

/-- The record with a member stored under a name unless it is absent. -/
def storePresent (key : String) (item : Value) (record : Record) : Record :=
  if item.isUndefined then record else record.insert key item

/-- A report as a record. Its own fields are stored over further fields with the same names. -/
def toRecord (report : Report) : Record :=
  storePresent "actual" report.actual
    (storePresent "expected" report.expected
      (((({ members := report.extra } : Record).insert "type" (.string report.tag)).insert
        "sourcePath" (.string report.sourcePath)).insert "sourceValue" report.sourceValue))

/-- The text of a field of a record, or another text if the field is not a text. -/
def textField (record : Record) (key fallback : String) : String :=
  match record.find? key with
  | some (.string text) => text
  | _ => fallback

/-- The report that a record describes. Without a text for its tag it reports a failed check. -/
def ofRecord (record : Record) : Report where
  tag := textField record "type" Tag.checkFailed.text
  expected := record.get "expected"
  actual := record.get "actual"
  sourcePath := textField record "sourcePath" ""
  sourceValue := record.get "sourceValue"
  extra := ((((record.erase "type").erase "sourcePath").erase "expected").erase "actual").erase
    "sourceValue" |>.members

/-- The line of a report for readers. -/
def display (report : Report) : String :=
  "  " ++ (if report.sourcePath.isEmpty then "(root)" else report.sourcePath) ++ ": " ++ report.tag ++
    (if report.expected.isUndefined && report.actual.isUndefined then ""
      else " (expected " ++ report.expected.display ++ ", got " ++ report.actual.display ++ ")")

/-- A member of a data tree that is left out if its value is absent. -/
def presentMember (key : String) (item : Value) : List (String × Json) :=
  if item.isUndefined then [] else [(key, item.toJson)]

/-- A report as a data tree. Further fields stand beside its own, and over those with one name. -/
def toJson (report : Report) : Json :=
  .object (KeyMap.overlay
    (KeyMap.ofList ([("type", .string report.tag)] ++ presentMember "expected" report.expected ++
      presentMember "actual" report.actual ++
      [("sourcePath", .string report.sourcePath), ("sourceValue", report.sourceValue.toJson)]))
    (KeyMap.mapItems Value.toJson report.extra))

/-- The value of a member of a data tree; a missing one is absent. -/
def valueOfMember (members : List (String × Json)) (key : String) : Value :=
  match KeyMap.find? key members with
  | some item => Value.ofJson item
  | none => .undefined

/-- The names of the fields that every report may have. -/
def standardFields : List String :=
  ["type", "expected", "actual", "sourcePath", "sourceValue"]

/-- The report that a data tree describes: an object with texts for its tag and its path. -/
def ofJson? : Json → Option Report
  | .object members =>
      match KeyMap.find? "type" members, KeyMap.find? "sourcePath" members with
      | some (.string tag), some (.string path) =>
          some {
            tag := tag
            expected := valueOfMember members "expected"
            actual := valueOfMember members "actual"
            sourcePath := path
            sourceValue := valueOfMember members "sourceValue"
            extra := KeyMap.mapItems Value.ofJson
              (members.filter fun entry => !standardFields.contains entry.1) }
      | _, _ => none
  | _ => none

end Report

/-- The lines of some reports. -/
def displayReports (reports : List Report) : String :=
  "\n".intercalate (reports.map Report.display)

/-- Some reports as a data tree. -/
def reportsToJson (reports : List Report) : Json :=
  .array (reports.map Report.toJson)

end SchemaValidation
