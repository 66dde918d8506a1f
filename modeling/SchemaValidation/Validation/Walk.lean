import SchemaValidation.Validation.Position

/-!
# Walking a value along a schema

A walk takes a value down a schema. At every position the order is fixed:
presence, alternatives of which the first that accepts decides, what the
constraints make of the value, the parts of objects and lists, and what follows
on the parts. A schema that is tried in a choice and rejects leaves no warning.
-/

namespace SchemaValidation

/-- What has been built of an object: its members, and the reports against them. -/
structure Assembly where
  members : List (String × Value) := []
  errors : List Report := []

namespace Assembly

/-- The object with a member stored under a name unless it is absent. -/
def store (assembly : Assembly) (key : String) (item : Value) : Assembly :=
  if item.isUndefined then assembly
  else { assembly with members := KeyMap.insert key item assembly.members }

/-- The object with further reports against it. -/
def reject (assembly : Assembly) (errors : List Report) : Assembly :=
  { assembly with errors := assembly.errors ++ errors }

/-- The object with the outcome of a declared member. The reports on a member that may be absent are
warnings if the options ask for them. -/
def settleDeclared (assembly : Assembly) (options : Options) (presence : Presence) (key : String)
    (outcome : Outcome) (trail : Trail) : Assembly × Trail :=
  if !outcome.isOk && presence == .optional && options.warnOnInvalidOptionals then
    (assembly.store key outcome.value, trail.warn outcome.errors)
  else ((assembly.reject outcome.errors).store key outcome.value, trail)

/-- The object with a member that no schema describes. -/
def settleUnknown (assembly : Assembly) (options : Options) (key : String) (item : Value)
    (report : Report) (trail : Trail) : Assembly × Trail :=
  let rejected := if options.allowUnknown then assembly else assembly.reject [report]
  let trail :=
    if options.allowUnknown && options.warnUnknown then trail.warn [report] else trail
  (if options.stripUnknown then rejected
    else { rejected with members := KeyMap.insert key item rejected.members }, trail)

/-- The object with the members that are not declared, in the order of `keys`. A member whose name
fits the pattern takes the outcome of `walkFitting`, its reports being warnings; any other is
unknown. -/
def settleOthers (options : Options) (path : String) (whole : Value)
    (walkFitting : String → Value → Trail → Option (Outcome × Trail)) :
    List String → List (String × Value) → Assembly → Trail → Assembly × Trail
  | [], _, assembly, trail => (assembly, trail)
  | key :: keys, members, assembly, trail =>
      match KeyMap.find? key members with
      | none => settleOthers options path whole walkFitting keys members assembly trail
      | some item =>
          let (assembly, trail) := match walkFitting key item trail with
            | some (outcome, trail) =>
                (assembly.store key outcome.value, trail.warn outcome.errors)
            | none =>
                assembly.settleUnknown options key item
                  { Report.of .unknownKey path whole with actual := .string key } trail
          settleOthers options path whole walkFitting keys (KeyMap.erase key members) assembly trail

end Assembly

/-- The items that a choice accepts, and the reports on the others. -/
def settleItems (path : String) (choose : Value → String → Trail → Except (List Report) Value × Trail) :
    Nat → List Value → Trail → List Value × List Report × Trail
  | _, [], trail => ([], [], trail)
  | index, item :: rest, trail =>
      match choose item ((Slot.index index).join path) trail with
      | (.ok value, trail) =>
          let (values, errors, trail) := settleItems path choose (index + 1) rest trail
          (value :: values, errors, trail)
      | (.error reports, trail) =>
          let (values, errors, trail) := settleItems path choose (index + 1) rest trail
          (values, reports ++ errors, trail)

/-- The record of a value; what is no object counts as one without members. -/
def Value.recordOrEmpty (value : Value) : Record :=
  value.record?.getD {}

/-- The items of a value; what is no list counts as one without items. -/
def Value.itemsOrEmpty : Value → List Value
  | .array items => items
  | _ => []

namespace Schema

variable (capabilities : Capabilities) (options : Options)

mutual

/-- The outcome of a value at a path, and the trail of the walk. -/
def walk : Schema → Value → String → Trail → Outcome × Trail
  | .node ⟨constraints, keys, pattern, includes, excludes, alternatives⟩, value, path, trail =>
      if value.isUndefined then constraints.absent options path trail
      else if constraints.effectivePresence options = .forbidden then
        constraints.failAll options .undefined [.of .forbiddenEncountered path value] trail
      else if !alternatives.isEmpty then
        match walkFirst alternatives value path [] trail with
        | (.ok chosen, trail) => (⟨chosen, []⟩, trail)
        | (.error _, trail) =>
            constraints.fail options (.of .noAlternativeMatched path value) trail
      else
        match constraints.arrive options path value trail with
        | (.accepted accepted, trail) => (⟨accepted, []⟩, trail)
        | (.rejected report, trail) => constraints.fail options report trail
        | (.entered entered, trail) =>
            let (descent, trail) := match constraints.kind with
              | some .object =>
                  let record := entered.recordOrEmpty
                  let ownKeys := capabilities.ownKeys record
                  let hasUnknown := ownKeys.any fun key => !KeyMap.contains key keys
                  let whole := if hasUnknown then record.toValue else .undefined
                  let (assembly, trail) :=
                    walkKeys keys record.members path {} trail.countOwnKeys
                  let others := record.members.filter fun entry => !KeyMap.contains entry.1 keys
                  let (assembly, trail) :=
                    Assembly.settleOthers options path whole (walkFitting pattern path)
                      ownKeys others assembly trail
                  ((⟨.object record.className assembly.members, assembly.errors⟩ : Outcome), trail)
              | some .array =>
                  let items := entered.itemsOrEmpty
                  if includes.isEmpty && excludes.isEmpty then (⟨.array items, []⟩, trail)
                  else
                    let (values, errors, trail) :=
                      settleItems path
                        (fun item path trail =>
                          if includes.isEmpty then walkExcluded excludes item path trail
                          else walkFirst includes item path [] trail) 0 items trail
                    (⟨.array values, errors⟩, trail)
              | _ => (⟨entered, []⟩, trail)
            constraints.leave capabilities options path descent trail
termination_by structural schema => schema

/-- The value that the first accepting schema of a list makes of a value, or the reports of the last
one. Schemas that reject leave no warning. -/
def walkFirst : List Schema → Value → String → List Report → Trail →
    Except (List Report) Value × Trail
  | [], _, _, reports, trail => (.error reports, trail)
  | schema :: rest, value, path, _, trail =>
      let (outcome, after) := walk schema value path trail
      if outcome.isOk then (.ok outcome.value, after)
      else walkFirst rest value path outcome.errors (after.takeBack trail.mark)
termination_by structural schemas => schemas

/-- The item itself, or the report that a schema of a list accepts it. No schema leaves a warning. -/
def walkExcluded : List Schema → Value → String → Trail → Except (List Report) Value × Trail
  | [], item, _, trail => (.ok item, trail)
  | schema :: rest, item, path, trail =>
      let (outcome, after) := walk schema item path trail
      if outcome.isOk then
        (.error [.of .matchedExcludedType path item], after.takeBack trail.mark)
      else walkExcluded rest item path (after.takeBack trail.mark)
termination_by structural schemas => schemas

/-- The outcomes of the declared members, in the order of their names. -/
def walkKeys : List (String × Schema) → List (String × Value) → String → Assembly → Trail →
    Assembly × Trail
  | [], _, _, assembly, trail => (assembly, trail)
  | (key, schema) :: rest, members, path, assembly, trail =>
      let item := (KeyMap.find? key members).getD .undefined
      let (outcome, trail) := walk schema item ((Slot.key key).join path) trail
      let (assembly, trail) :=
        assembly.settleDeclared options (schema.root.constraints.effectivePresence options) key
          outcome trail
      walkKeys rest members path assembly trail
termination_by structural keys => keys

/-- The outcome of a member that is not declared, if its name fits the pattern. -/
def walkFitting : Option (Pattern × Schema) → String → String → Value → Trail →
    Option (Outcome × Trail)
  | none, _, _, _, _ => none
  | some (pattern, schema), path, key, item, trail =>
      if pattern.isMatch key then some (walk schema item ((Slot.key key).join path) trail)
      else none
termination_by structural pattern => pattern

end

end Schema

end SchemaValidation
