import SchemaValidation.Engine.Order
import SchemaValidation.Proofs.Channels
import SchemaValidation.Proofs.MemberAccounts
import SchemaValidation.Proofs.ValueTree

/-!
# Bags of options

A bag of options is validated like any other object and then read back from the
tree that was built of it.  Both together do what one expects of a reader: a bag
is refused exactly if it has a member that is no option or has a value that the
option cannot have, every such member is reported once, and from any other bag
each option takes the value that is given for it, or its default.
-/

namespace SchemaValidation

/-- The names of the members of a record are listed in the order in which they stand there. -/
def Capabilities.ListsInOrder (capabilities : Capabilities) : Prop :=
  ∀ record, capabilities.ownKeys record = record.keys

namespace Options

/-- The names of the options in ascending order. -/
def sortedNames : List String :=
  ["allowUnknown", "presence", "strict", "stripUnknown", "warnOnInvalidOptionals", "warnUnknown"]

theorem sortedNames_ascending : sortedNames.Pairwise (· < ·) := by
  decide

/-- The value of an entry that is not given. -/
def defaultEntry (name : String) : Value :=
  ({} : Options).toRecord.get name

/-- The value of an entry for which a bag gives a value. -/
def givenEntry (name : String) (item : Value) : Value :=
  item.present?.getD (defaultEntry name)

/-- The names by which a bag gives the presence. -/
def presenceNames : List String :=
  ["optional", "required", "forbidden"]

/-- Whether an entry can have a value: the presence is given by its name, all other entries are true
or false, and each may be absent. -/
def fitsEntry (name : String) : Value → Bool
  | .undefined => true
  | .boolean _ => name != "presence"
  | .string text => name == "presence" && presenceNames.contains text
  | _ => false

/-- The report on an entry with a value that it cannot have. -/
def entryFault (name : String) (item : Value) : Report :=
  if name = "presence" then
    { tag := "not_a_valid_value", sourcePath := "/presence", sourceValue := item,
      expected := .array (presenceNames.map .string) }
  else
    { tag := "mismatching_types", sourcePath := "/" ++ name, sourceValue := item,
      expected := .string "boolean", actual := .string item.shape.name }

/-- The truth value that an entry gives, or else its default. -/
def givenFlag (default : Bool) : Value → Bool
  | .boolean holds => holds
  | _ => default

/-- The presence that an entry gives by its name, or else the default. -/
def givenPresence : Value → Presence
  | .string "optional" => .optional
  | .string "required" => .required
  | .string "forbidden" => .forbidden
  | _ => .optional

end Options

namespace Record

/-- Every member of a bag is an option with a value that it can have. -/
def GivesOptions (bag : Record) : Prop :=
  ∀ entry ∈ bag.members,
    entry.1 ∈ Options.sortedNames ∧ Options.fitsEntry entry.1 entry.2 = true

/-- Every option has a value in the bag that it can have, or none. -/
def HasFittingEntries (bag : Record) : Prop :=
  ∀ name ∈ Options.sortedNames, Options.fitsEntry name (bag.get name) = true

/-- The options that a bag gives, each with the value that stands under its name, or else its default. -/
def givenOptions (bag : Record) : Options where
  allowUnknown := Options.givenFlag false (bag.get "allowUnknown")
  stripUnknown := Options.givenFlag true (bag.get "stripUnknown")
  warnUnknown := Options.givenFlag true (bag.get "warnUnknown")
  strict := Options.givenFlag true (bag.get "strict")
  warnOnInvalidOptionals := Options.givenFlag true (bag.get "warnOnInvalidOptionals")
  presence := Options.givenPresence (bag.get "presence")

/-- The report on a member of a bag that is no option. -/
def unknownEntry (bag : Record) (name : String) : Report :=
  { tag := "unknown_key", sourcePath := "", sourceValue := bag.toValue, actual := .string name }

/-- The reports on a bag: one for each option with a value that it cannot have, then one for each
member that is no option. -/
def optionFaults (bag : Record) : List Report :=
  (bag.members.filter fun entry =>
      Options.sortedNames.contains entry.1 && !Options.fitsEntry entry.1 entry.2).map
    (fun entry => Options.entryFault entry.1 entry.2) ++
  (bag.members.filter fun entry => !Options.sortedNames.contains entry.1).map
    fun entry => bag.unknownEntry entry.1

end Record

namespace Engine

/-! ## The schema of bags -/

/-- The schema of an entry. -/
def entrySchema (name : String) : Schema :=
  .node { constraints :=
    if name = "presence" then
      { valid := Options.presenceNames.map .string, default := Options.defaultEntry name }
    else { kind := some .boolean, default := Options.defaultEntry name } }

/-- The root of the schema of bags. -/
def bagNode : Node Schema where
  constraints := { kind := some .object }
  keys := Options.sortedNames.map fun name => (name, entrySchema name)

theorem start_bagSchema (capabilities : Capabilities) (ledger : Ledger) :
    (start capabilities ledger).1.bagSchema.schema = .node bagNode := by
  rfl

variable {capabilities : Capabilities}

theorem isAmong_presenceNames (text : String) :
    (Value.string text).isAmong false (Options.presenceNames.map .string) =
      Options.presenceNames.contains text := by
  simp [Value.isAmong, Options.presenceNames, Value.equals, beq_eq_decide, eq_comm]

/-- In a bag, a failure is an error. -/
theorem fail_forBags (constraints : Constraints) (report : Report) (trail : Trail) :
    constraints.fail Options.forBags report trail = (⟨constraints.default, [report]⟩, trail) := by
  have fatal : constraints.downgrades Options.forBags = false := Bool.and_false _
  rw [Constraints.fail, Constraints.failAll, fatal]
  rfl

theorem walk_presence (text path : String) :
    (Schema.walk capabilities Options.forBags (entrySchema "presence") (.string text) path {}).1 =
      if Options.presenceNames.contains text then ⟨.string text, []⟩
      else ⟨Options.defaultEntry "presence", [{ Report.of .notAValidValue path (.string text) with
        expected := .array (Options.presenceNames.map .string) }]⟩ := by
  have arrived : (entrySchema "presence").root.constraints.arrive Options.forBags path
      (.string text) {} =
      if (Value.string text).isAmong false (Options.presenceNames.map .string) then
        (.accepted (.string text), {})
      else
        (.rejected { Report.of .notAValidValue path (.string text) with
          expected := .array (Options.presenceNames.map .string) }, {}) := rfl
  have walked : Schema.walk capabilities Options.forBags (entrySchema "presence") (.string text)
      path {} = Schema.settlePlain capabilities Options.forBags (entrySchema "presence").root
        (.string text) path {} := rfl
  rw [walked, Schema.settlePlain, arrived, isAmong_presenceNames]
  cases Options.presenceNames.contains text <;> rfl

/-- At a node that calls for a kind and has a default, a value of another shape is replaced by the
default and reported. -/
theorem walk_of_other {node : Node Schema} {kind : Kind} {default item : Value}
    (described : node.constraints = { kind := some kind, default }) (plain : node.alternatives = [])
    (present : item.isUndefined = false) (other : item.shape ≠ kind.shape) (path : String) :
    (Schema.walk capabilities Options.forBags (.node node) item path {}).1 =
      ⟨default, [{ Report.of .mismatchingTypes path item with
        expected := .string kind.shape.name, actual := .string item.shape.name }]⟩ := by
  have known : Constraints.resolveAlias { kind := some kind, default } item = item :=
    Constraints.resolveAlias_of_untransformed ⟨rfl, rfl, rfl⟩ item
  have arrived : Constraints.arrive { kind := some kind, default } Options.forBags path item
      {} = (.rejected { Report.of .mismatchingTypes path item with
        expected := .string kind.shape.name, actual := .string item.shape.name }, {}) := by
    unfold Constraints.arrive Constraints.settleKind runSanitizers
    dsimp only
    rw [known, if_neg other]
    rfl
  have optional : node.constraints.effectivePresence Options.forBags = .optional := by
    rw [described]
    rfl
  rw [Schema.walk_eq_settlePlain present (by simp [optional]) plain, Schema.settlePlain, described,
    arrived]
  dsimp only
  rw [fail_forBags]

theorem walk_flag_of_other {default item : Value} (present : item.isUndefined = false)
    (other : item.shape ≠ Kind.boolean.shape) (path : String) :
    (Schema.walk capabilities Options.forBags
        (.node { constraints := { kind := some .boolean, default } }) item path {}).1 =
      ⟨default, [{ Report.of .mismatchingTypes path item with
        expected := .string Shape.boolean.name, actual := .string item.shape.name }]⟩ :=
  walk_of_other rfl rfl present other path

/-- An entry with a value that it can have takes this value or else its default; any other value is
reported. -/
theorem walk_entry (name : String) (item : Value) :
    (Schema.walk capabilities Options.forBags (entrySchema name) item
        ((Slot.key name).join "") {}).1 =
      if Options.fitsEntry name item then
        ⟨Options.givenEntry name item, []⟩
      else ⟨Options.defaultEntry name, [Options.entryFault name item]⟩ := by
  by_cases presence : name = "presence"
  · subst presence
    cases item with
    | string text => exact walk_presence text _
    | _ => rfl
  · have flag : entrySchema name =
        .node { constraints := { kind := some .boolean, default := Options.defaultEntry name } } := by
      rw [entrySchema, if_neg presence]
    have given : (name != "presence") = true := bne_iff_ne.mpr presence
    have unnamed : (name == "presence") = false := beq_false_of_ne presence
    have path : (Slot.key name).join "" = "/" ++ name := by
      rw [Slot.join, String.empty_append]
      rfl
    rw [flag, Options.entryFault, if_neg presence, path]
    cases item with
    | undefined => rfl
    | boolean holds =>
        rw [Options.fitsEntry, given]
        rfl
    | string text =>
        rw [Options.fitsEntry, unnamed]
        exact walk_flag_of_other rfl (by intro same; cases same) _
    | _ => exact walk_flag_of_other rfl (by intro same; cases same) _

/-! ## The reports on a bag -/

variable {bag : Record}

theorem find?_bagNode (name : String) :
    KeyMap.find? name bagNode.keys =
      if Options.sortedNames.contains name then some (entrySchema name) else none :=
  KeyMap.find?_map entrySchema Options.sortedNames

theorem contains_bagNode (name : String) :
    KeyMap.contains name bagNode.keys = Options.sortedNames.contains name := by
  rw [KeyMap.contains, find?_bagNode]
  cases Options.sortedNames.contains name <;> rfl

theorem memberErrors_entry (name : String) (item : Value) :
    (entrySchema name).memberErrors capabilities Options.forBags item
        ((Slot.key name).join "") =
      if Options.fitsEntry name item then [] else [Options.entryFault name item] := by
  have fatal : (entrySchema name).isLenient Options.forBags = false := Bool.and_false _
  rw [Schema.memberErrors, fatal, walk_entry]
  cases Options.fitsEntry name item <;> rfl

/-- Names that are looked up one by one find the faults of the members under these names. -/
theorem flatMap_entryFault (names : List String) :
    (names.flatMap fun name =>
        if Options.fitsEntry name (bag.get name) then [] else [Options.entryFault name (bag.get name)]) =
      ((KeyMap.select names bag.members).filter fun entry =>
          !Options.fitsEntry entry.1 entry.2).map
        fun entry => Options.entryFault entry.1 entry.2 := by
  induction names with
  | nil => rfl
  | cons name rest ih =>
      unfold KeyMap.select at ih ⊢
      rw [List.flatMap_cons, ih, List.filterMap_cons]
      cases found : KeyMap.find? name bag.members with
      | none =>
          have absent : bag.get name = .undefined := by simp [Record.get, Record.find?, found]
          rw [absent]
          rfl
      | some item =>
          have given : bag.get name = item := by simp [Record.get, Record.find?, found]
          rw [given, Option.map_some]
          dsimp only
          cases fits : Options.fitsEntry name item with
          | true => rw [List.filter_cons_of_neg (by simp [fits])]; rfl
          | false => rw [List.filter_cons_of_pos (by simp [fits]), List.map_cons]; rfl

/-- The errors on a bag are its faults. -/
theorem descendObject_bag_errors (lists : capabilities.ListsInOrder)
    (ascending : KeyMap.IsAscending bag.members) :
    (Schema.descendObject capabilities Options.forBags bagNode bag "" {}).1.errors =
      bag.optionFaults := by
  have looked : (bagNode.keys.flatMap fun entry =>
      entry.2.memberErrors capabilities Options.forBags (bag.get entry.1)
        ((Slot.key entry.1).join "")) =
      Options.sortedNames.flatMap fun name =>
        if Options.fitsEntry name (bag.get name) then []
        else [Options.entryFault name (bag.get name)] := by
    rw [bagNode, List.flatMap_map]
    refine congrArg (List.flatMap · Options.sortedNames) (funext fun name => ?_)
    exact memberErrors_entry name (bag.get name)
  have declared : ((bag.members.filter fun entry => Options.sortedNames.contains entry.1).filter
        fun entry => !Options.fitsEntry entry.1 entry.2) =
      bag.members.filter fun entry =>
        Options.sortedNames.contains entry.1 && !Options.fitsEntry entry.1 entry.2 := by
    rw [List.filter_filter]
    exact List.filter_congr fun entry _ => Bool.and_comm ..
  rw [Schema.descendObject_errors rfl rfl (lists bag) ascending, looked, flatMap_entryFault,
    ascending.select_eq_filter Options.sortedNames_ascending, declared]
  simp only [contains_bagNode]
  rfl

/-- No fault is found exactly if the bag gives options. -/
theorem optionFaults_eq_nil_iff : bag.optionFaults = [] ↔ bag.GivesOptions := by
  unfold Record.optionFaults Record.GivesOptions
  rw [List.append_eq_nil_iff, List.map_eq_nil_iff, List.map_eq_nil_iff, List.filter_eq_nil_iff,
    List.filter_eq_nil_iff]
  constructor
  · rintro ⟨fits, known⟩ entry member
    have named : entry.1 ∈ Options.sortedNames := by simpa using known entry member
    exact ⟨named, by simpa [named] using fits entry member⟩
  · intro gives
    constructor
    · intro entry member
      simp [(gives entry member).2]
    · intro entry member
      simp [(gives entry member).1]

/-! ## The tree that is built of a bag -/

theorem walk_bag (bag : Record) :
    Schema.walk capabilities Options.forBags (.node bagNode) bag.toValue "" {} =
      Schema.descendObject capabilities Options.forBags bagNode bag "" {} := by
  have arrived : bagNode.constraints.arrive Options.forBags "" bag.toValue {} =
      (.entered bag.toValue, {}) := rfl
  have descended : Schema.descend capabilities Options.forBags bagNode bag.toValue "" {} =
      Schema.descendObject capabilities Options.forBags bagNode bag "" {} := rfl
  have fatal : bagNode.constraints.downgrades Options.forBags = false := rfl
  rw [Schema.walk_node, if_neg nofun, if_neg nofun, if_neg nofun, Schema.settlePlain, arrived]
  dsimp only
  rw [descended, bagNode.constraints.leave_eq_failAll rfl rfl, Constraints.failAll, fatal,
    if_neg Bool.false_ne_true]

theorem result_entry {name : String} {item : Value}
    (fits : Options.fitsEntry name item = true) :
    (entrySchema name).result capabilities Options.forBags item = Options.givenEntry name item := by
  have follows : (entrySchema name).FollowsRuling capabilities Options.forBags :=
    (entrySchema name).followsRuling
  rw [← follows.value item ((Slot.key name).join "") {}, walk_entry, if_pos fits]

theorem fitsEntry_get (gives : bag.GivesOptions) (name : String) :
    Options.fitsEntry name (bag.get name) = true := by
  unfold Record.get Record.find?
  cases found : KeyMap.find? name bag.members with
  | none => rfl
  | some item => exact (gives (name, item) (KeyMap.mem_of_find? found)).2

variable (capabilities) in
/-- The tree that is built of a bag whose entries have the right values has every entry. -/
theorem walk_bag_value (fits : bag.HasFittingEntries) :
    ∃ delivered : Record,
      (Schema.walk capabilities Options.forBags (.node bagNode) bag.toValue "" {}).1.value =
        delivered.toValue ∧ KeyMap.IsAscending delivered.members ∧
          ∀ name ∈ Options.sortedNames,
            delivered.find? name = (Options.givenEntry name (bag.get name)).present? := by
  have ascending : KeyMap.IsAscending bagNode.keys :=
    List.pairwise_map.mpr Options.sortedNames_ascending
  obtain ⟨delivered, value, -, sorted, finds⟩ :=
    Schema.ruleObject_value capabilities Options.forBags ascending bag
  have ruled : (Schema.descendObject capabilities Options.forBags bagNode bag "" {}).1.ruling =
      Schema.ruleObject capabilities Options.forBags bagNode bag :=
    Schema.descendObject_ruling (fun schema _ => schema.followsRuling) bag "" {}
  refine ⟨delivered, ?_, sorted, fun name listed => ?_⟩
  · rw [walk_bag, ← Outcome.ruling_value, ruled, value]
  · have declared : KeyMap.find? name bagNode.keys = some (entrySchema name) := by
      rw [find?_bagNode, if_pos (List.contains_iff_mem.mpr listed)]
    rw [finds, Schema.memberResult, declared]
    dsimp only
    rw [result_entry (fits name listed)]

/-! ## Reading the tree -/

/-- In the data tree of a record are the data trees of its members that are present. -/
theorem find?_membersToJson {members : List (String × Value)}
    (ascending : KeyMap.IsAscending members) (key : String) :
    KeyMap.find? key (Value.membersToJson members) =
      ((KeyMap.find? key members).bind Value.present?).map Value.toJson := by
  induction members with
  | nil => rfl
  | cons entry rest ih =>
      obtain ⟨name, item⟩ := entry
      obtain ⟨behind, tail⟩ := KeyMap.ascending_cons.mp ascending
      unfold Value.membersToJson
      rw [KeyMap.find?_cons]
      by_cases same : name = key
      · subst same
        rw [if_pos rfl, Option.bind_some, Value.present?]
        split
        · rw [ih tail, KeyMap.find?_eq_none_of_lt behind]
          rfl
        · exact if_pos rfl
      · rw [if_neg same]
        split
        · exact ih tail
        · rw [KeyMap.find?_cons, if_neg same, ih tail]

theorem givenEntry_flag {name : String} (other : name ≠ "presence") {default : Bool}
    (defaults : Options.defaultEntry name = .boolean default) {item : Value}
    (fits : Options.fitsEntry name item = true) :
    Options.givenEntry name item = .boolean (Options.givenFlag default item) := by
  unfold Options.givenEntry
  cases item with
  | undefined => exact defaults
  | boolean holds => rfl
  | string text =>
      rw [Options.fitsEntry, beq_false_of_ne other] at fits
      cases fits
  | _ => cases fits

theorem givenEntry_presence {item : Value}
    (fits : Options.fitsEntry "presence" item = true) :
    Options.givenEntry "presence" item = .string (Options.givenPresence item).name := by
  cases item with
  | undefined => rfl
  | string text =>
      have named : text = "optional" ∨ text = "required" ∨ text = "forbidden" := by
        simpa [Options.fitsEntry, Options.presenceNames] using fits
      rcases named with rfl | rfl | rfl
      · rfl
      · rfl
      · rfl
  | _ => cases fits

/-- From entries with the right values the options are read that the bag gives. -/
theorem ofEntries_of_given {entry : String → Option Json}
    (fits : bag.HasFittingEntries)
    (entries : ∀ name ∈ Options.sortedNames,
      entry name = some (Options.givenEntry name (bag.get name)).toJson) :
    Options.ofEntries entry = some bag.givenOptions := by
  have first := givenEntry_flag (by decide) rfl (fits "allowUnknown" (by decide))
  have second := givenEntry_presence (fits "presence" (by decide))
  have third := givenEntry_flag (by decide) rfl (fits "strict" (by decide))
  have fourth := givenEntry_flag (by decide) rfl (fits "stripUnknown" (by decide))
  have fifth := givenEntry_flag (by decide) rfl (fits "warnOnInvalidOptionals" (by decide))
  have sixth := givenEntry_flag (by decide) rfl (fits "warnUnknown" (by decide))
  have read (fallback presence : Presence) :
      Options.readPresence fallback (some (.string presence.name)) = some presence := by
    cases presence <;> rfl
  simp only [Options.sortedNames, List.forall_mem_cons, first, second, third, fourth, fifth, sixth,
    Value.toJson] at entries
  obtain ⟨first', second', third', fourth', fifth', sixth', -⟩ := entries
  simp only [Options.ofEntries, first', second', third', fourth', fifth', sixth', read]
  rfl

theorem givenEntry_present {name : String} (listed : name ∈ Options.sortedNames) (item : Value) :
    (Options.givenEntry name item).present? = some (Options.givenEntry name item) := by
  have known : ∀ name ∈ Options.sortedNames, (Options.defaultEntry name).isUndefined = false := by
    decide
  cases item with
  | undefined => exact if_neg (Bool.eq_false_iff.mp (known name listed))
  | _ => rfl

variable (capabilities) in
/-- From the tree that is built of a bag the options are read that the bag gives. -/
theorem ofJson?_walk_bag (fits : bag.HasFittingEntries) :
    Options.ofJson? (Schema.walk capabilities Options.forBags (.node bagNode) bag.toValue ""
      {}).1.value.toJson = some bag.givenOptions := by
  obtain ⟨delivered, value, ascending, finds⟩ := walk_bag_value capabilities fits
  have tree : delivered.toValue.toJson = .object (Value.membersToJson delivered.members) := rfl
  rw [value, tree, Options.ofJson?]
  refine ofEntries_of_given fits fun name listed => ?_
  have found : KeyMap.find? name delivered.members = _ := finds name listed
  rw [find?_membersToJson ascending, found, givenEntry_present listed, Option.bind_some,
    givenEntry_present listed]
  rfl

/-- Options are read back from the record of their entries, and from the list of their values. -/
theorem ofJson?_written (options : Options) :
    Options.ofJson? options.toRecord.toValue.toJson = some options ∧
      Options.ofJson? (.array [.boolean options.allowUnknown, .boolean options.stripUnknown,
        .boolean options.warnUnknown, .boolean options.strict,
        .boolean options.warnOnInvalidOptionals, .string options.presence.name]) =
          some options := by
  have distinct : Options.entryNames.Nodup := by decide
  have ascending : KeyMap.IsAscending options.toRecord.members := KeyMap.IsAscending.overlay .nil _
  have found (name : String) : KeyMap.find? name options.toRecord.members = _ :=
    KeyMap.find?_ofList distinct
  have tree : options.toRecord.toValue.toJson =
      .object (Value.membersToJson options.toRecord.members) := rfl
  rw [tree, Options.ofJson?]
  simp only [find?_membersToJson ascending, found]
  obtain ⟨_, _, _, _, _, presence⟩ := options
  cases presence <;> exact ⟨rfl, rfl⟩

/-- The answer that is made of the outcome for a bag. -/
def bagAnswer (outcome : Outcome) : Except BagError Options :=
  if outcome.isOk then
    match Options.ofJson? outcome.value.toJson with
    | some options => .ok options
    | none => .error .unreadable
  else .error (.rejected outcome.errors)

theorem bagAnswer_of_read {outcome : Outcome} {options : Options} (accepted : outcome.errors = [])
    (read : Options.ofJson? outcome.value.toJson = some options) :
    bagAnswer outcome = .ok options := by
  rw [bagAnswer, Outcome.isOk, accepted, read]
  rfl

theorem bagAnswer_of_errors {outcome : Outcome} (rejected : outcome.errors ≠ []) :
    bagAnswer outcome = .error (.rejected outcome.errors) :=
  if_neg fun accepted => rejected (List.isEmpty_iff.mp accepted)

/-- A bag that has a member is validated. -/
theorem readOptions_of_filled (engine : Engine) (filled : bag.members ≠ []) (ledger : Ledger) :
    (engine.readOptions bag.toValue ledger).1 =
      bagAnswer (engine.bagSchema.schema.walk engine.capabilities Options.forBags bag.toValue ""
        {}).1 := by
  obtain ⟨className, _ | ⟨entry, entries⟩⟩ := bag
  · exact absurd rfl filled
  · unfold readOptions bagAnswer Record.toValue
    dsimp only
    split
    · generalize Options.ofJson? _ = read
      cases read <;> rfl
    · rfl

/--
Bags of options are read exactly.  A bag that has a member gives options exactly
if each of its members is an option with a value that it can have.  The options
then have what the bag gives, and their defaults where it gives nothing.
Otherwise the bag is refused with its faults, and for no other reason.
-/
theorem readOptions_exact (lists : capabilities.ListsInOrder)
    (ascending : KeyMap.IsAscending bag.members) (filled : bag.members ≠ [])
    (ledger ledger' : Ledger) :
    let answer := ((start capabilities ledger).1.readOptions bag.toValue ledger').1
    ((∃ options, answer = .ok options) ↔ bag.GivesOptions) ∧
      (bag.GivesOptions → answer = .ok bag.givenOptions) ∧
      (¬ bag.GivesOptions → answer = .error (.rejected bag.optionFaults)) := by
  intro answer
  have answered : answer = bagAnswer
      (Schema.walk capabilities Options.forBags (.node bagNode) bag.toValue "" {}).1 :=
    (readOptions_of_filled _ filled ledger').trans (by rw [start_bagSchema]; rfl)
  have errors : (Schema.walk capabilities Options.forBags (.node bagNode) bag.toValue ""
      {}).1.errors = bag.optionFaults := by
    rw [walk_bag, descendObject_bag_errors lists ascending]
  have accepted (gives : bag.GivesOptions) : answer = .ok bag.givenOptions := by
    have silent := errors.trans (optionFaults_eq_nil_iff.mpr gives)
    have fits : bag.HasFittingEntries := fun name _ => fitsEntry_get gives name
    rw [answered, bagAnswer_of_read silent (ofJson?_walk_bag capabilities fits)]
  have refused (faulty : ¬ bag.GivesOptions) : answer = .error (.rejected bag.optionFaults) := by
    have rejected : bag.optionFaults ≠ [] := fun none => faulty (optionFaults_eq_nil_iff.mp none)
    rw [answered, bagAnswer_of_errors (errors ▸ rejected), errors]
  refine ⟨⟨?_, fun gives => ⟨bag.givenOptions, accepted gives⟩⟩, accepted, refused⟩
  rintro ⟨options, given⟩
  by_contra faulty
  cases given.symm.trans (refused faulty)

/-- A bag with a presence, a truth value and an absent entry gives options, whichever presence it is.
Of the four members of another bag one is absent, two have values that they cannot have, and one is no
option. -/
theorem readOptions_exact_given_and_refused :
    let answer (bag : Record) := ((start .native {}).1.readOptions bag.toValue {}).1
    let given (presence : String) : Record := ⟨none, [("presence", .string presence),
      ("strict", .boolean false), ("stripUnknown", .undefined)]⟩
    let read (presence : Presence) : Options :=
      { allowUnknown := false, stripUnknown := true, warnUnknown := true, strict := false,
        warnOnInvalidOptionals := true, presence }
    let refused : Record := ⟨some "Bag", [("allowUnknown", .undefined), ("bogus", .boolean true),
      ("presence", .string "none"), ("strict", .string "x")]⟩
    answer (given "required") = .ok (read .required) ∧
      answer (given "optional") = .ok (read .optional) ∧
      answer (given "forbidden") = .ok (read .forbidden) ∧
      answer refused = .error (.rejected [
        { tag := "not_a_valid_value", sourcePath := "/presence", sourceValue := .string "none",
          expected := .array [.string "optional", .string "required", .string "forbidden"] },
        { tag := "mismatching_types", sourcePath := "/strict", sourceValue := .string "x",
          expected := .string "boolean", actual := .string "string" },
        { tag := "unknown_key", sourcePath := "", sourceValue := refused.toValue,
          actual := .string "bogus" }]) := by
  intro answer given read refused
  have exact (bag : Record) (names : (bag.members.map Prod.fst).Pairwise (· < ·))
      (filled : bag.members ≠ []) :=
    readOptions_exact (fun _ => rfl : Capabilities.native.ListsInOrder)
      (List.pairwise_map.mp names) filled {} {}
  have gives (presence : String) (named : Options.presenceNames.contains presence) :
      (given presence).GivesOptions := by
    simpa [Record.GivesOptions, given, Options.sortedNames, Options.fitsEntry] using named
  have faulty : ¬ refused.GivesOptions := fun gives =>
    absurd (gives ("bogus", .boolean true) (by simp [refused])).1 (by decide)
  have sorted : ["presence", "strict", "stripUnknown"].Pairwise (· < ·) := by decide
  exact ⟨(exact (given "required") sorted nofun).2.1 (gives _ (by decide)),
    (exact (given "optional") sorted nofun).2.1 (gives _ (by decide)),
    (exact (given "forbidden") sorted nofun).2.1 (gives _ (by decide)),
    (exact refused (by decide) nofun).2.2 faulty⟩

/-! ## Bags of any shape -/

/-- In a bag that its schema accepts every option has a right value, whichever names the host lists. -/
theorem hasFittingEntries_of_accepted
    (accepted : (Schema.walk capabilities Options.forBags (.node bagNode) bag.toValue ""
      {}).1.errors = []) : bag.HasFittingEntries := by
  intro name listed
  have declared : (name, entrySchema name) ∈ bagNode.keys := by
    refine KeyMap.mem_of_find? ?_
    rw [find?_bagNode, if_pos (List.contains_iff_mem.mpr listed)]
  have ok : (Schema.descendObject capabilities Options.forBags bagNode bag "" {}).1.isOk = true := by
    rw [← walk_bag]
    exact List.isEmpty_iff.mpr accepted
  obtain ⟨each, -⟩ :=
    (Schema.descendObject_isOk_iff (fun schema _ => schema.followsRuling) bag "" {}).mp ok
  have lenient : (entrySchema name).isLenient Options.forBags = false := Bool.and_false _
  have accepts := (each (name, entrySchema name) declared).resolve_right (by simp [lenient])
  have follows : (entrySchema name).FollowsRuling capabilities Options.forBags :=
    (entrySchema name).followsRuling
  rw [← follows.isOk (bag.get name) ((Slot.key name).join "") {}, walk_entry] at accepts
  by_contra unfit
  rw [if_neg unfit] at accepts
  cases accepts

/-- A bag that its schema accepts can be read. -/
theorem bagAnswer_walk_bag (bag : Record) :
    let walked := (Schema.walk capabilities Options.forBags (.node bagNode) bag.toValue "" {}).1
    (walked.errors = [] ∧ ∃ options, Options.ofJson? walked.value.toJson = some options ∧
      bagAnswer walked = .ok options) ∨
      (walked.errors ≠ [] ∧ bagAnswer walked = .error (.rejected walked.errors)) := by
  intro walked
  by_cases accepted : walked.errors = []
  · have read := ofJson?_walk_bag capabilities (hasFittingEntries_of_accepted accepted)
    exact .inl ⟨accepted, bag.givenOptions, read, bagAnswer_of_read accepted read⟩
  · exact .inr ⟨accepted, bagAnswer_of_errors accepted⟩

theorem readOptions_of_other (engine : Engine) {bag : Value} (ledger : Ledger)
    (other : bag.shape ≠ .object ∨ bag.isEmpty = true) :
    engine.readOptions bag ledger = (.ok {}, ledger) := by
  cases bag with
  | object className members =>
      cases members with
      | nil => rfl
      | cons entry entries =>
          rcases other with other | empty
          · exact absurd rfl other
          · cases empty
  | _ => rfl

theorem exists_filled_record {bag : Value} (object : bag.shape = .object)
    (filled : bag.isEmpty = false) :
    ∃ record : Record, bag = record.toValue ∧ record.members ≠ [] := by
  obtain ⟨className, members, rfl⟩ := Value.exists_of_shape_object object
  refine ⟨⟨className, members⟩, rfl, ?_⟩
  rintro rfl
  cases filled

/--
A bag is validated exactly if it is an object with members.  Then it is either
accepted by the schema of bags, and the options are read from what the schema
delivers, or it is refused with the reports of the schema.  Every other bag gives
the defaults and leaves no trace, although the schema of bags would report every
one that is present and no object.  The bag of a call is read as the value in
third place is.
-/
theorem readOptions_of_any_shape (capabilities : Capabilities) (bag : Value)
    (ledger ledger' : Ledger) :
    let engine := (start capabilities ledger).1
    let answer := engine.readOptions bag ledger'
    let walked := (engine.bagSchema.schema.walk capabilities Options.forBags bag "" {}).1
    (bag.shape = .object → bag.isEmpty = false →
        (walked.errors = [] ∧ ∃ options, Options.ofJson? walked.value.toJson = some options ∧
          answer.1 = .ok options) ∨
        (walked.errors ≠ [] ∧ answer.1 = .error (.rejected walked.errors))) ∧
      (bag.shape ≠ .object ∨ bag.isEmpty = true → answer = (.ok {}, ledger')) ∧
      (bag.isUndefined = false → bag.shape ≠ .object →
        walked.errors = [{ Report.of .mismatchingTypes "" bag with
          expected := .string "object", actual := .string bag.shape.name }]) ∧
      engine.readOptions (bagOf bag) ledger' = answer := by
  intro engine answer walked
  have along : walked = (Schema.walk capabilities Options.forBags (.node bagNode) bag "" {}).1 :=
    congrArg (fun schema => (Schema.walk capabilities Options.forBags schema bag "" {}).1)
      (start_bagSchema capabilities ledger)
  clear_value walked
  subst along
  refine ⟨fun object filled => ?_, readOptions_of_other engine ledger', fun present other => ?_, ?_⟩
  · obtain ⟨record, rfl, members⟩ := exists_filled_record object filled
    have answered : answer.1 = bagAnswer
        (Schema.walk capabilities Options.forBags (.node bagNode) record.toValue "" {}).1 :=
      (readOptions_of_filled engine members ledger').trans (by rw [start_bagSchema]; rfl)
    rw [answered]
    exact bagAnswer_walk_bag record
  · have described : bagNode.constraints = { kind := some .object, default := .undefined } := rfl
    have plain : bagNode.alternatives = [] := rfl
    exact congrArg Outcome.errors (walk_of_other described plain present other "")
  · cases bag <;> rfl

/-- An object with a wrong entry is refused with the report on it; in a list the object is not even
looked at. -/
theorem readOptions_of_any_shape_wrapped :
    let engine := (start .native {}).1
    let walked (bag : Value) :=
      (engine.bagSchema.schema.walk .native Options.forBags bag "" {}).1
    let bag : Value := .object none [("strict", .string "x")]
    let wrapped : Value := .array [bag]
    bag.shape = .object ∧ bag.isEmpty = false ∧
      (walked bag).errors.map (fun report => (report.tag, report.sourcePath)) =
        [("mismatching_types", "/strict")] ∧
      (engine.readOptions bag {}).1 = .error (.rejected (walked bag).errors) ∧
      wrapped.shape ≠ .object ∧ engine.readOptions wrapped {} = (.ok {}, {}) ∧
      wrapped.isUndefined = false ∧
      (walked wrapped).errors = [
        { tag := "mismatching_types", sourcePath := "", sourceValue := wrapped,
          expected := .string "object", actual := .string "array" }] := by
  intro engine walked bag wrapped
  have other : wrapped.shape ≠ .object := nofun
  have reported : (walked bag).errors.map (fun report => (report.tag, report.sourcePath)) =
      [("mismatching_types", "/strict")] := rfl
  have refused : (engine.readOptions bag {}).1 = .error (.rejected (walked bag).errors) := by
    rcases (readOptions_of_any_shape .native bag {} {}).1 rfl rfl with ⟨none, -⟩ | ⟨-, refused⟩
    · have silent : (walked bag).errors = [] := none
      rw [silent] at reported
      cases reported
    · exact refused
  obtain ⟨-, defaults, rejected, -⟩ := readOptions_of_any_shape .native wrapped {} {}
  exact ⟨rfl, rfl, reported, refused, other, defaults (.inl other), rfl, rejected rfl other⟩

/-- A text that is not empty gives the defaults, although the schema of bags rejects it. -/
theorem text_read_as_defaults :
    let engine := (start .native {}).1
    let bag : Value := .string "strict"
    bag.isUndefined = false ∧ bag.isNullish = false ∧ bag.length? = some 6 ∧
      (engine.readOptions bag {}).1 = .ok {} ∧
      (engine.bagSchema.schema.walk .native Options.forBags bag "" {}).1.isOk = false := by
  intro engine bag
  exact ⟨rfl, rfl, rfl, rfl, rfl⟩

end Engine

end SchemaValidation
