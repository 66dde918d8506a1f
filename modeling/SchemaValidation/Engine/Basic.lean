import SchemaValidation.Schema.Compilation
import SchemaValidation.Validation.Walk

/-!
# Engines

An engine compiles schemas and validates values against them by means of the
capabilities of its host. Options can be given as a bag of named entries, which
the engine checks against a schema of its own before it trusts it. What an
engine has logged and used up is kept in a ledger.
-/

namespace SchemaValidation

/-- What the users of an engine have used up and what was logged. -/
structure Ledger where
  supply : Supply := {}
  events : List Event := []
  usage : Usage := {}

namespace Ledger

/-- The ledger with a further event. -/
def log (ledger : Ledger) (event : Event) : Ledger :=
  { ledger with events := ledger.events ++ [event] }

/-- The ledger with what a walk has logged and used. -/
def absorb (ledger : Ledger) (trail : Trail) : Ledger :=
  { ledger with
    events := ledger.events ++ trail.events
    usage := {
      ownKeys := ledger.usage.ownKeys + trail.usage.ownKeys
      derive := ledger.usage.derive + trail.usage.derive } }

/-- A compilation that draws on the ledger. -/
def compile (ledger : Ledger) (source : Source) : Frozen × Ledger :=
  let (frozen, supply) := source.compile ledger.supply
  (frozen, { ledger with supply })

/-- The ledger after a compilation by other means than an engine, whose freezes do not count. -/
def compileOutside (ledger : Ledger) (source : Source) : Frozen × Ledger :=
  let (frozen, supply) := source.compile ledger.supply
  (frozen, { ledger with supply := { supply with freezes := ledger.supply.freezes } })

end Ledger

/-- The outcome of a validation: the value that was accepted, or the best one that was reached, with
the reports against it and the warnings. -/
structure Validation where
  value : Value
  errors : List Report
  warnings : List Report

namespace Validation

/-- Whether no report stands against the value. -/
def isValid (validation : Validation) : Bool :=
  validation.errors.isEmpty

/-- The records of some reports, or null if there are none. -/
def reportsValue (reports : List Report) : Value :=
  if reports.isEmpty then .null
  else .array (reports.map fun report => report.toRecord.toValue)

/-- The arguments with which a callable receives the outcome. -/
def arguments (validation : Validation) : List Value :=
  [reportsValue validation.errors, validation.value, reportsValue validation.warnings]

/-- The outcome as a record. -/
def toRecord (validation : Validation) : Record :=
  Record.ofList [
    ("errors", reportsValue validation.errors),
    ("value", validation.value),
    ("warnings", reportsValue validation.warnings)]

/-- The outcome as a data tree. -/
def toJson (validation : Validation) : Json :=
  .object (KeyMap.ofList [
    ("value", validation.value.toJson),
    ("errors", reportsToJson validation.errors),
    ("warnings", reportsToJson validation.warnings)])

end Validation

/-- Why a bag of options is refused: its schema rejects it, or its entries cannot be read. -/
inductive BagError where
  | rejected (violations : List Report)
  | unreadable

/-- The message about a refused bag. -/
def BagError.message : BagError → String
  | rejected violations => "invalid validation options:\n" ++ displayReports violations
  | unreadable => "serialization error"

/-- An engine: the capabilities of its host, and the schema of option bags. -/
structure Engine where
  capabilities : Capabilities
  bagSchema : Frozen

namespace Engine

/-- The schema of bags of options: an object whose entries have the right kind, with the defaults
for those that are missing. -/
def bagSource : Source :=
  let defaults : Options := {}
  let flag := fun (key : String) (default : Bool) =>
    Refinement.keys [(key, Source.chain [.root (some .boolean), .default (.boolean default)])]
  .chain [
    .root (some .object),
    flag "allowUnknown" defaults.allowUnknown,
    flag "stripUnknown" defaults.stripUnknown,
    flag "warnUnknown" defaults.warnUnknown,
    flag "strict" defaults.strict,
    flag "warnOnInvalidOptionals" defaults.warnOnInvalidOptionals,
    .keys [("presence", .chain [
      .root none,
      .valid ([Presence.optional, .required, .forbidden].map fun presence => .string presence.name),
      .default (.string defaults.presence.name)])]]

/-- A new engine. -/
def start (capabilities : Capabilities) (ledger : Ledger) : Engine × Ledger :=
  let (bagSchema, ledger) := ledger.compile bagSource
  (⟨capabilities, bagSchema⟩, ledger)

/-- The options that a bag gives. Everything but an object with members gives the defaults. -/
def readOptions (engine : Engine) (bag : Value) (ledger : Ledger) :
    Except BagError Options × Ledger :=
  match bag with
  | .object className (entry :: entries) =>
      let (outcome, trail) :=
        engine.bagSchema.schema.walk engine.capabilities Options.forBags
          (.object className (entry :: entries)) "" {}
      let ledger := ledger.absorb trail
      if outcome.isOk then
        match Options.ofJson? outcome.value.toJson with
        | some options => (.ok options, ledger)
        | none => (.error .unreadable, ledger)
      else (.error (.rejected outcome.errors), ledger.log (.optionsRejected outcome.errors.length))
  | _ => (.ok {}, ledger)

/-- The validation of a value against a schema under given options. -/
def validateWith (engine : Engine) (value : Value) (source : Source) (options : Options)
    (ledger : Ledger) : Validation × Ledger :=
  let (frozen, ledger) := ledger.compile source
  let (outcome, trail) := frozen.schema.walk engine.capabilities options value "" {}
  let ledger := (ledger.log (.validationStarted options.strict)).absorb trail
  (⟨outcome.value, outcome.errors, trail.warnings⟩,
    ledger.log (.validationFinished outcome.errors.length trail.warnings.length))

/-- The validation of a value against a schema under the options of a bag. -/
def validate (engine : Engine) (value : Value) (source : Source) (bag : Value) (ledger : Ledger) :
    Except BagError Validation × Ledger :=
  match engine.readOptions bag ledger with
  | (.error error, ledger) => (.error error, ledger)
  | (.ok options, ledger) =>
      let (validation, ledger) := engine.validateWith value source options ledger
      (.ok validation, ledger)

end Engine

end SchemaValidation
