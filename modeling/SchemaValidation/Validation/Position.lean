import SchemaValidation.Validation.Options
import SchemaValidation.Validation.Trail
import SchemaValidation.Value.Coercion
import SchemaValidation.Value.Slot

/-!
# One position of a validation

What the constraints of a node make of the value at its position, apart from
nested schemas: how a failure is recorded, which value the aliases and the kind
make of the one that arrived, whether a list of values settles it, and what the
checks and the sanitizers say. User code that panics is logged and counts as a
failure of the position alone.
-/

namespace SchemaValidation

/-- The value produced at a position, and the reports that reject it. -/
structure Outcome where
  value : Value
  errors : List Report := []

/-- Whether nothing rejects the value. -/
def Outcome.isOk (outcome : Outcome) : Bool :=
  outcome.errors.isEmpty

/-- What a position makes of a value before its parts are looked at: the value is accepted, it is
rejected, or its parts decide. -/
inductive Arrival where
  | accepted (value : Value)
  | rejected (report : Report)
  | entered (value : Value)

namespace Constraints

/-- The presence that holds at a node. -/
def effectivePresence (constraints : Constraints) (options : Options) : Presence :=
  constraints.presence.getD options.presence

/-- Whether failures at the node are warnings: its value is optional and has a default, and the
options ask for warnings. -/
def downgrades (constraints : Constraints) (options : Options) : Bool :=
  !constraints.default.isNullish && constraints.effectivePresence options == .optional &&
    options.warnOnInvalidOptionals

/-- The outcome of a failure at the node. -/
def failAll (constraints : Constraints) (options : Options) (value : Value) (errors : List Report)
    (trail : Trail) : Outcome × Trail :=
  if constraints.downgrades options then (⟨value, []⟩, trail.warn errors)
  else (⟨value, errors⟩, trail)

/-- The outcome of a failure at the node with one report, its default standing for the value. -/
def fail (constraints : Constraints) (options : Options) (report : Report) (trail : Trail) :
    Outcome × Trail :=
  constraints.failAll options constraints.default [report] trail

/-- The outcome at a node whose value is absent. -/
def absent (constraints : Constraints) (options : Options) (path : String) (trail : Trail) :
    Outcome × Trail :=
  match constraints.effectivePresence options with
  | .optional => (⟨constraints.default, []⟩, trail)
  | .required =>
      constraints.failAll options .undefined [.of .requiredMissing path .undefined] trail
  | .forbidden => (⟨.undefined, []⟩, trail)

end Constraints

/-- The value that sanitizers make of a value one after the other, or a report with the value that
reached the one that panicked. -/
def runSanitizers (path : String) : List Sanitizer → Value → Trail → Except Report Value × Trail
  | [], value, trail => (.ok value, trail)
  | sanitizer :: rest, value, trail =>
      match sanitizer.transform value with
      | .returned sanitized => runSanitizers path rest sanitized trail
      | .panicked reason =>
          (.error (.of .sanitizeFailed path value),
            trail.log (.sanitizerPanicked sanitizer.label path reason))

/-- The record of a check that failed without a record of its own. -/
def checkFailure (path : String) (value : Value) : Record :=
  (Report.of .checkFailed path value).toRecord

/-- The details of the checks that a value does not pass. -/
def runChecks (path : String) (value : Value) : List Check → Trail → List Value × Trail
  | [], trail => ([], trail)
  | check :: rest, trail =>
      match check.judge value with
      | .returned .pass => runChecks path value rest trail
      | .returned (.fail (.object className members)) =>
          let (details, trail) := runChecks path value rest trail
          (.object className members :: details, trail)
      | .returned (.fail _) =>
          let (details, trail) := runChecks path value rest trail
          ((checkFailure path value).toValue :: details, trail)
      | .panicked reason =>
          let (details, trail) :=
            runChecks path value rest (trail.log (.checkPanicked check.label path reason))
          ((checkFailure path value).toValue :: details, trail)

mutual

/-- The trail with the warnings that the detail of a failed check stands for. -/
def warnOf (capabilities : Capabilities) (path : String) (value : Value) : Value → Trail → Trail
  | .array details, trail => warnOfAll capabilities path value details trail
  | .string tag, trail => trail.warn [{ tag, sourcePath := path, sourceValue := value }]
  | .object className members, trail =>
      trail.countDerive.warn
        [.ofRecord (capabilities.derive (checkFailure path value) ⟨className, members⟩)]
  | _, trail => trail.warn [.of .checkFailed path value]

/-- The trail with the warnings that several details stand for. -/
def warnOfAll (capabilities : Capabilities) (path : String) (value : Value) :
    List Value → Trail → Trail
  | [], trail => trail
  | detail :: rest, trail =>
      warnOfAll capabilities path value rest (warnOf capabilities path value detail trail)

end

/-- The trail with the warnings of the checks that follow on the parts of a value. -/
def runChecksAfter (capabilities : Capabilities) (path : String) (value : Value) :
    List Check → Trail → Trail
  | [], trail => trail
  | check :: rest, trail =>
      match check.judge value with
      | .returned .pass => runChecksAfter capabilities path value rest trail
      | .returned (.fail detail) =>
          runChecksAfter capabilities path value rest (warnOf capabilities path value detail trail)
      | .panicked reason =>
          runChecksAfter capabilities path value rest
            (trail.log (.checkPanicked check.label path reason))

namespace Constraints

/-- The value for which the aliases let a value stand. A name without a target, or with an empty one,
stands for itself. -/
def resolveAlias (constraints : Constraints) (value : Value) : Value :=
  match value.keyText?.bind constraints.aliases.find? with
  | some target => if target.isNullish then value else target
  | none => value

/-- The value as one of the kind of the node. The shape that counts is the one on arrival. -/
def settleKind (constraints : Constraints) (options : Options) (arrived : Shape) (path : String)
    (value : Value) (trail : Trail) : Except Report Value × Trail :=
  match constraints.kind with
  | none => (.ok value, trail)
  | some kind =>
      if arrived = kind.shape then (.ok value, trail)
      else
        let report : Report :=
          { Report.of .mismatchingTypes path value with
            expected := .string kind.shape.name, actual := .string arrived.name }
        if options.strict then (.error report, trail)
        else (.ok (value.cast kind.shape), trail.warn [report])

/-- What the lists of values and the checks of the node make of a value. -/
def judge (constraints : Constraints) (path : String) (value : Value) (trail : Trail) :
    Arrival × Trail :=
  if value.isAmong constraints.insensitive constraints.allowed then (.accepted value, trail)
  else if value.isAmong constraints.insensitive constraints.invalid then
    (.rejected (.of .invalidValue path value), trail)
  else if !constraints.valid.isEmpty then
    if value.isAmong constraints.insensitive constraints.valid then (.accepted value, trail)
    else
      (.rejected { Report.of .notAValidValue path value with expected := .array constraints.valid },
        trail)
  else
    match runChecks path value constraints.checks trail with
    | ([], trail) => (.entered value, trail)
    | (details, trail) =>
        (.rejected { Report.of .checksFailed path value with expected := .array details }, trail)

/-- What the node makes of a present value before its parts are looked at. -/
def arrive (constraints : Constraints) (options : Options) (path : String) (value : Value)
    (trail : Trail) : Arrival × Trail :=
  match runSanitizers path constraints.sanitizeBefore value trail with
  | (.error report, trail) => (.rejected report, trail)
  | (.ok sanitized, trail) =>
      match constraints.settleKind options value.shape path (constraints.resolveAlias sanitized)
          trail with
      | (.error report, trail) => (.rejected report, trail)
      | (.ok settled, trail) => constraints.judge path settled trail

/-- The outcome at the node once the parts of the value were looked at. -/
def leave (constraints : Constraints) (capabilities : Capabilities) (options : Options)
    (path : String) (descent : Outcome) (trail : Trail) : Outcome × Trail :=
  if !descent.isOk then constraints.failAll options descent.value descent.errors trail
  else
    match runSanitizers path constraints.sanitize descent.value
        (runChecksAfter capabilities path descent.value constraints.checksAfter trail) with
    | (.ok value, trail) => (⟨value, []⟩, trail)
    | (.error report, trail) => constraints.fail options report trail

end Constraints

end SchemaValidation
