import SchemaValidation.Schema.Basic
import SchemaValidation.Value.Json

/-!
# Options of a validation

How a validation treats members that a schema does not declare, values of
another kind, failures of optional members, and nodes that do not say whether
their value must be present.
-/

namespace SchemaValidation

/-- The options of a validation. -/
structure Options where
  allowUnknown : Bool := false
  stripUnknown : Bool := true
  warnUnknown : Bool := true
  strict : Bool := true
  warnOnInvalidOptionals : Bool := true
  presence : Presence := .optional
deriving DecidableEq

namespace Options

/-- The options under which a bag of options is itself validated: a malformed entry is an error. -/
def forBags : Options :=
  { warnOnInvalidOptionals := false }

/-- The options as a record of named entries. -/
def toRecord (options : Options) : Record :=
  Record.ofList [
    ("allowUnknown", .boolean options.allowUnknown),
    ("stripUnknown", .boolean options.stripUnknown),
    ("warnUnknown", .boolean options.warnUnknown),
    ("strict", .boolean options.strict),
    ("warnOnInvalidOptionals", .boolean options.warnOnInvalidOptionals),
    ("presence", .string options.presence.name)]

/-- A truth value from a data tree; a missing one is the fallback. -/
def readFlag (fallback : Bool) : Option Json → Option Bool
  | none => some fallback
  | some (.boolean holds) => some holds
  | some _ => none

/-- A presence from a data tree, by its name alone or as an object whose one member has that name and
is null; a missing one is the fallback. -/
def readPresence (fallback : Presence) : Option Json → Option Presence
  | none => some fallback
  | some (.string name) => Presence.ofName? name
  | some (.object [(name, .null)]) => Presence.ofName? name
  | some _ => none

/-- The options whose entries a function selects, with the defaults for those that are missing. -/
def ofEntries (entry : String → Option Json) : Option Options :=
  let defaults : Options := {}
  do
    let allowUnknown ← readFlag defaults.allowUnknown (entry "allowUnknown")
    let stripUnknown ← readFlag defaults.stripUnknown (entry "stripUnknown")
    let warnUnknown ← readFlag defaults.warnUnknown (entry "warnUnknown")
    let strict ← readFlag defaults.strict (entry "strict")
    let warnOnInvalidOptionals ←
      readFlag defaults.warnOnInvalidOptionals (entry "warnOnInvalidOptionals")
    let presence ← readPresence defaults.presence (entry "presence")
    pure { allowUnknown, stripUnknown, warnUnknown, strict, warnOnInvalidOptionals, presence }

/-- The names of the entries in the order in which a list gives them. -/
def entryNames : List String :=
  ["allowUnknown", "stripUnknown", "warnUnknown", "strict", "warnOnInvalidOptionals", "presence"]

/-- The options that a data tree describes, by name in an object or by place in a list that is not
too long. Other names in an object are ignored. -/
def ofJson? : Json → Option Options
  | .object members => ofEntries fun name => KeyMap.find? name members
  | .array items =>
      if items.length ≤ entryNames.length then
        ofEntries fun name => items[entryNames.idxOf name]?
      else none
  | _ => none

end Options

end SchemaValidation
