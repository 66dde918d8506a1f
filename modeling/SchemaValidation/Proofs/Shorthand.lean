import SchemaValidation.Engine.Basic
import SchemaValidation.Proofs.Permissiveness
import SchemaValidation.Proofs.Revalidation
import SchemaValidation.Proofs.Silence
import SchemaValidation.Proofs.ValueTree

/-!
# What value shorthands stand for

A plain value can be given in place of a schema: a leaf stands for itself, a list
for whatever one of its items stands for, and an object for the objects whose
members the shorthand's members stand for.  Compiling the shorthand gives a
schema that accepts exactly those values, and delivers them without their absent
members.
-/

namespace SchemaValidation

namespace Value

/-- The present values for which a shorthand stands.  Members that are absent may have any declared
name. -/
inductive StandsFor : Value → Value → Prop where
  | leaf {shorthand value : Value} (plain : shorthand.isContainer = false)
      (present : value.isUndefined = false) (equal : shorthand.equals value = true) :
      StandsFor shorthand value
  | item {items : List Value} {shorthand value : Value} (member : shorthand ∈ items)
      (stands : StandsFor shorthand value) : StandsFor (.array items) value
  | object {className className' : Option String} {shorthands members : List (String × Value)}
      (declared : ∀ key item, KeyMap.find? key members = some item →
        (KeyMap.find? key shorthands).isSome = true)
      (each : ∀ key item shorthand, KeyMap.find? key members = some item →
        KeyMap.find? key shorthands = some shorthand → item.isUndefined = false →
          StandsFor shorthand item) :
      StandsFor (.object className shorthands) (.object className' members)

theorem StandsFor.present {shorthand value : Value} (stands : StandsFor shorthand value) :
    value.isUndefined = false := by
  induction stands with
  | leaf plain present equal => exact present
  | item member stands ih => exact ih
  | object declared each => rfl

namespace StandsFor

variable {className className' : Option String} {shorthands members : List (String × Value)}
  (stands : StandsFor (.object className shorthands) (.object className' members)) {key : String}
include stands

/-- An object has no members besides those that the shorthand declares. -/
theorem missing (undeclared : KeyMap.find? key shorthands = none) :
    KeyMap.find? key members = none := by
  cases found : KeyMap.find? key members with
  | none => rfl
  | some item =>
      cases stands with
      | leaf plain present equal => cases plain
      | object declared each =>
          have known := declared key item found
          rw [undeclared] at known
          cases known

/-- A declared member is absent, or the member of the shorthand stands for it. -/
theorem declared {shorthand : Value} (known : KeyMap.find? key shorthands = some shorthand) :
    (KeyMap.find? key members).getD .undefined = .undefined ∨
      StandsFor shorthand ((KeyMap.find? key members).getD .undefined) := by
  cases found : KeyMap.find? key members with
  | none => exact .inl rfl
  | some item =>
      cases stands with
      | leaf plain present equal => cases plain
      | object _ each =>
          cases absent : item.isUndefined with
          | true =>
              cases item with
              | undefined => exact .inl rfl
              | _ => cases absent
          | false => exact .inr (each key item shorthand found known absent)

end StandsFor

/-! ## Values without absent members -/

mutual

/-- The value with the absent members of all objects left out. -/
def withoutAbsent : Value → Value
  | array items => array (itemsWithoutAbsent items)
  | object className members => object className (membersWithoutAbsent members)
  | value => value

/-- Items with the absent members of all objects left out. -/
def itemsWithoutAbsent : List Value → List Value
  | [] => []
  | item :: rest => withoutAbsent item :: itemsWithoutAbsent rest

/-- Members without those that are absent, and with the absent members of all objects left out. -/
def membersWithoutAbsent : List (String × Value) → List (String × Value)
  | [] => []
  | (key, item) :: rest =>
      if item.isUndefined then membersWithoutAbsent rest
      else (key, withoutAbsent item) :: membersWithoutAbsent rest

end

theorem withoutAbsent_of_leaf {value : Value} (plain : value.isContainer = false) :
    value.withoutAbsent = value := by
  cases value with
  | array items => cases plain
  | object className members => cases plain
  | _ => rfl

theorem withoutAbsent_isUndefined (value : Value) :
    value.withoutAbsent.isUndefined = value.isUndefined := by
  cases value <;> rfl

theorem mem_of_mem_membersWithoutAbsent {members : List (String × Value)}
    {entry : String × Value} (member : entry ∈ membersWithoutAbsent members) :
    ∃ item, (entry.1, item) ∈ members := by
  induction members with
  | nil => cases member
  | cons first rest ih =>
      obtain ⟨name, old⟩ := first
      have behind (member : entry ∈ membersWithoutAbsent rest) :
          ∃ item, (entry.1, item) ∈ (name, old) :: rest := by
        obtain ⟨item, inside⟩ := ih member
        exact ⟨item, List.mem_cons_of_mem _ inside⟩
      rw [membersWithoutAbsent] at member
      split at member
      · exact behind member
      · rcases List.mem_cons.mp member with rfl | member
        · exact ⟨old, List.mem_cons_self⟩
        · exact behind member

theorem membersWithoutAbsent_ascending {members : List (String × Value)}
    (ascending : KeyMap.IsAscending members) :
    KeyMap.IsAscending (membersWithoutAbsent members) := by
  induction members with
  | nil => exact .nil
  | cons first rest ih =>
      obtain ⟨name, old⟩ := first
      obtain ⟨behind, tail⟩ := KeyMap.ascending_cons.mp ascending
      rw [membersWithoutAbsent]
      split
      · exact ih tail
      · refine KeyMap.ascending_cons.mpr ⟨?_, ih tail⟩
        intro entry member
        obtain ⟨item, inside⟩ := mem_of_mem_membersWithoutAbsent member
        exact behind (entry.1, item) inside

/-- A member is left if it is present, and then without absent members of its own. -/
theorem find?_membersWithoutAbsent {members : List (String × Value)}
    (ascending : KeyMap.IsAscending members) (name : String) :
    KeyMap.find? name (membersWithoutAbsent members) =
      ((KeyMap.find? name members).getD .undefined).withoutAbsent.present? := by
  induction members generalizing name with
  | nil => rfl
  | cons first rest ih =>
      obtain ⟨key, item⟩ := first
      obtain ⟨behind, tail⟩ := KeyMap.ascending_cons.mp ascending
      have missing : KeyMap.find? key (membersWithoutAbsent rest) = none := by
        rw [ih tail, KeyMap.find?_eq_none_of_lt behind]
        rfl
      have presence : item.withoutAbsent.present? =
          if item.isUndefined then none else some item.withoutAbsent := by
        rw [present?, withoutAbsent_isUndefined]
      rw [membersWithoutAbsent, KeyMap.find?_cons]
      by_cases same : key = name
      · subst same
        rw [if_pos rfl, Option.getD_some, presence]
        cases item.isUndefined with
        | true => exact missing
        | false => exact if_pos rfl
      · rw [if_neg same, ← ih tail]
        cases item.isUndefined with
        | true => rfl
        | false => exact if_neg same

/-! ## The schema of a shorthand -/

mutual

/-- The schema that a shorthand is compiled to. -/
def asSchema : Value → Schema
  | array items => .node { alternatives := itemsAsSchemas items }
  | object _ members =>
      .node { constraints := { kind := some .object }, keys := membersAsSchemas members }
  | value => .node { constraints := { valid := [value] } }

/-- The schemas that items are compiled to. -/
def itemsAsSchemas : List Value → List Schema
  | [] => []
  | item :: rest => asSchema item :: itemsAsSchemas rest

/-- The schemas that members are compiled to. -/
def membersAsSchemas : List (String × Value) → List (String × Schema)
  | [] => []
  | (key, item) :: rest => (key, asSchema item) :: membersAsSchemas rest

end

theorem asSchema_of_leaf {value : Value} (plain : value.isContainer = false) :
    value.asSchema = .node { constraints := { valid := [value] } } := by
  cases value with
  | array items => cases plain
  | object className members => cases plain
  | _ => rfl

theorem itemsAsSchemas_eq_map (items : List Value) :
    itemsAsSchemas items = items.map asSchema := by
  induction items with
  | nil => rfl
  | cons item rest ih => exact congrArg (asSchema item :: ·) ih

theorem membersAsSchemas_eq_mapItems (members : List (String × Value)) :
    membersAsSchemas members = KeyMap.mapItems asSchema members := by
  induction members with
  | nil => rfl
  | cons entry rest ih => exact congrArg ((entry.1, asSchema entry.2) :: ·) ih

/-- The schemas of shorthands have neither patterns nor checks. -/
theorem asSchema_unwarning (shorthand : Value) :
    shorthand.asSchema.Everywhere Node.IsUnwarning := by
  induction shorthand using nestedInduction with
  | leaf value plain =>
      rw [asSchema_of_leaf plain]
      exact .node ⟨rfl, rfl⟩ (by simp [Node.nested])
  | array items ih =>
      refine .node ⟨rfl, rfl⟩ ?_
      simpa [Node.nested, itemsAsSchemas_eq_map] using ih
  | object className members ih =>
      refine .node ⟨rfl, rfl⟩ ?_
      simp only [Node.nested, membersAsSchemas_eq_mapItems, KeyMap.mapItems, List.map_map,
        Option.map_none, Option.toList_none, List.append_nil, List.forall_mem_map]
      exact ih

end Value

/-! ## Compiling a shorthand -/

namespace Source

open Value

theorem all_compileItems {items : List Value}
    (below : ∀ item ∈ items, ∀ supply,
      ((ofValue item).compile supply).1.schema = item.asSchema) (supply : Supply) :
    (Compilation.all (compileItems (ofItems items)) supply).1 = itemsAsSchemas items := by
  induction items generalizing supply with
  | nil => rfl
  | cons item rest ih =>
      have first := below item List.mem_cons_self supply
      have others := ih (fun item member => below item (List.mem_cons_of_mem _ member))
        ((ofValue item).compile supply).2
      rw [itemsAsSchemas, ← first, ← others]
      rfl

theorem entries_compileEntries {members : List (String × Value)}
    (below : ∀ entry ∈ members, ∀ supply,
      ((ofValue entry.2).compile supply).1.schema = entry.2.asSchema) (supply : Supply) :
    (Compilation.entries (compileEntries (ofMembers members)) supply).1 =
      membersAsSchemas members := by
  induction members generalizing supply with
  | nil => rfl
  | cons entry rest ih =>
      have first := below entry List.mem_cons_self supply
      have others := ih (fun entry member => below entry (List.mem_cons_of_mem _ member))
        ((ofValue entry.2).compile supply).2
      rw [membersAsSchemas, ← first, ← others]
      rfl

theorem keys_compileEntries (members : List (String × Value)) :
    (compileEntries (ofMembers members)).map Prod.fst = members.map Prod.fst := by
  induction members with
  | nil => rfl
  | cons entry rest ih => exact congrArg (entry.1 :: ·) ih

theorem compileEntries_ascending {members : List (String × Value)}
    (ascending : KeyMap.IsAscending members) :
    KeyMap.IsAscending (compileEntries (ofMembers members)) := by
  unfold KeyMap.IsAscending at ascending ⊢
  rw [← List.pairwise_map (f := Prod.fst) (R := (· < ·))] at ascending ⊢
  rw [keys_compileEntries]
  exact ascending

/-- Whatever the supply, a shorthand is compiled to its schema. -/
theorem compile_ofValue {shorthand : Value} (wellFormed : shorthand.IsWellFormed)
    (supply : Supply) :
    ((ofValue shorthand).compile supply).1.schema = shorthand.asSchema := by
  induction shorthand using nestedInduction generalizing supply with
  | leaf value plain =>
      cases value with
      | array items => cases plain
      | object className members => cases plain
      | _ => rfl
  | array items ih =>
      have schemas := all_compileItems
        (fun item member supply => ih item member (wellFormed.item member) supply) supply
      rw [asSchema, ← schemas]
      rfl
  | object className members ih =>
      have schemas := entries_compileEntries
        (fun entry member supply => ih entry member
          (hasWellFormedMembers_iff.mp wellFormed.2 entry member) supply) supply
      have keys := (compileEntries_ascending wellFormed.ascending).ofList_eq
      rw [asSchema, ← schemas, ← keys]
      rfl

end Source

/-! ## What the schemas of shorthands decide -/

namespace Schema

open Value

variable {capabilities : Capabilities} {options : Options}

variable (capabilities options) in
/-- Besides an absent value, the schema of a shorthand accepts what the shorthand stands for, and
delivers it without absent members. -/
def Expresses (schema : Schema) (shorthand : Value) : Prop :=
  ∀ value : Value, value.IsWellFormed →
    (schema.accepts capabilities options value = true ↔
      value = .undefined ∨ StandsFor shorthand value) ∧
    (schema.accepts capabilities options value = true →
      schema.result capabilities options value = value.withoutAbsent)

theorem effectivePresence_of_open (dispensable : options.presence = .optional)
    {constraints : Constraints} (unsaid : constraints.presence = none) :
    constraints.effectivePresence options = .optional := by
  rw [Constraints.effectivePresence, unsaid, Option.getD_none, dispensable]

section Express

variable (dispensable : options.presence = .optional)
include dispensable

/-- A node that leaves presence and default open expresses a shorthand if it decides rightly on
present values. -/
theorem expresses_of_present {node : Node Schema} (unsaid : node.constraints.presence = none)
    (undefaulted : node.constraints.default = .undefined) {shorthand : Value}
    (present : ∀ value : Value, value.IsWellFormed → value.isUndefined = false →
      ((Schema.node node).accepts capabilities options value = true ↔
        StandsFor shorthand value) ∧
      ((Schema.node node).accepts capabilities options value = true →
        (Schema.node node).result capabilities options value = value.withoutAbsent)) :
    (Schema.node node).Expresses capabilities options shorthand := by
  have absent : (Schema.node node).ruling capabilities options .undefined =
      ⟨.undefined, true⟩ := by
    rw [ruling_node, ruleNode_undefined, Constraints.ruleAbsent,
      effectivePresence_of_open dispensable unsaid, undefaulted]
  intro value wellFormed
  cases here : value.isUndefined with
  | true =>
      cases value with
      | undefined =>
          unfold accepts result
          rw [absent]
          exact ⟨⟨fun _ => .inl rfl, fun _ => rfl⟩, fun _ => rfl⟩
      | _ => cases here
  | false =>
      obtain ⟨decides, delivers⟩ := present value wellFormed here
      have known : value ≠ .undefined := by
        rintro rfl
        cases here
      exact ⟨decides.trans ⟨.inr, fun stands => stands.resolve_left known⟩, delivers⟩

/-! ### Leaves -/

theorem ruling_leaf (strict : options.strict = true) (shorthand : Value) {value : Value}
    (present : value.isUndefined = false) :
    (Schema.node { constraints := { valid := [shorthand] } }).ruling capabilities options value =
      if shorthand.equals value then ⟨value, true⟩ else ⟨.undefined, false⟩ := by
  have repeatable : ({ constraints := { valid := [shorthand] } } : Node Schema).IsRepeatable :=
    ⟨⟨rfl, rfl, rfl⟩, rfl, rfl, rfl, rfl, Nat.zero_le 1⟩
  have admitted : ({ valid := [shorthand] } : Constraints).effectivePresence options ≠
      .forbidden := by
    rw [effectivePresence_of_open dispensable rfl]
    nofun
  have among : value.isAmong false ([] ++ [shorthand]) = shorthand.equals value :=
    Bool.or_false _
  rw [ruling_node, ruleNode_of_repeatable capabilities repeatable strict present admitted, among]
  rfl

theorem expresses_leaf (strict : options.strict = true) {shorthand : Value}
    (plain : shorthand.isContainer = false) :
    (shorthand.asSchema).Expresses capabilities options shorthand := by
  rw [asSchema_of_leaf plain]
  refine expresses_of_present dispensable rfl rfl fun value _ present => ?_
  unfold accepts result
  rw [ruling_leaf dispensable strict shorthand present]
  cases equal : shorthand.equals value with
  | true =>
      have leaf : value.isContainer = false :=
        (isContainer_eq_of_shape (shape_eq_of_equals equal)).symm.trans plain
      exact ⟨⟨fun _ => .leaf plain present equal, fun _ => rfl⟩,
        fun _ => (withoutAbsent_of_leaf leaf).symm⟩
  | false =>
      refine ⟨⟨nofun, fun stands => ?_⟩, nofun⟩
      cases stands with
      | leaf plain present same => exact equal.symm.trans same
      | item member stands => cases plain
      | object declared each => cases plain

/-! ### Lists -/

theorem ruling_list {schemas : List Schema} (filled : schemas.isEmpty = false) {value : Value}
    (present : value.isUndefined = false) :
    (Schema.node { alternatives := schemas }).ruling capabilities options value =
      match firstResult capabilities options schemas value with
      | some chosen => ⟨chosen, true⟩
      | none => ⟨.undefined, false⟩ := by
  have admitted : ({} : Constraints).effectivePresence options ≠ .forbidden := by
    rw [effectivePresence_of_open dispensable rfl]
    nofun
  rw [ruling_node, ruleNode_of_union present admitted filled, ruleUnion]
  cases firstResult capabilities options schemas value <;> rfl

theorem expresses_list {items : List Value} (filled : items ≠ [])
    (below : ∀ item ∈ items, item.asSchema.Expresses capabilities options item) :
    (Value.array items).asSchema.Expresses capabilities options (.array items) := by
  rw [asSchema, itemsAsSchemas_eq_map]
  refine expresses_of_present dispensable rfl rfl fun value wellFormed present => ?_
  have union : (items.map asSchema).isEmpty = false := by simpa using filled
  have stands (item : Value) (member : item ∈ items) :
      item.asSchema.accepts capabilities options value = true ↔ StandsFor item value := by
    rw [(below item member value wellFormed).1]
    refine ⟨fun either => either.resolve_left ?_, .inr⟩
    rintro rfl
    cases present
  unfold accepts result
  rw [ruling_list dispensable union present]
  cases first : firstResult capabilities options (items.map asSchema) value with
  | some chosen =>
      obtain ⟨schema, found, rfl⟩ := Option.map_eq_some_iff.mp first
      have accepted := List.find?_some found
      obtain ⟨item, here, rfl⟩ := List.mem_map.mp (List.mem_of_find?_eq_some found)
      exact ⟨⟨fun _ => .item here ((stands item here).mp accepted), fun _ => rfl⟩,
        fun _ => (below item here value wellFormed).2 accepted⟩
  | none =>
      refine ⟨⟨nofun, fun stood => ?_⟩, nofun⟩
      cases stood with
      | leaf plain present equal => cases plain
      | item member stood =>
          have some := firstResult_isSome.mpr
            ⟨_, List.mem_map_of_mem (f := asSchema) member, (stands _ member).mpr stood⟩
          rw [first] at some
          cases some

/-! ### Objects -/

/-- The node of an object with some declared members. -/
def declaring (keys : List (String × Schema)) : Node Schema :=
  { constraints := { kind := some .object }, keys }

theorem ruling_object (strict : options.strict = true) (keys : List (String × Schema))
    {value : Value} (present : value.isUndefined = false) :
    (Schema.node (declaring keys)).ruling capabilities options value =
      if value.shape = .object then
        ruleObject capabilities options (declaring keys) value.recordOrEmpty
      else ⟨.undefined, false⟩ := by
  have repeatable : (declaring keys).IsRepeatable :=
    ⟨⟨rfl, rfl, rfl⟩, rfl, rfl, rfl, rfl, Nat.zero_le 1⟩
  have admitted : (declaring keys).constraints.effectivePresence options ≠ .forbidden := by
    rw [effectivePresence_of_open dispensable rfl]
    nofun
  have among : value.isAmong false ([] ++ []) = false := rfl
  have called : (declaring keys).constraints.callsFor value.shape =
      decide (value.shape = .object) := rfl
  rw [ruling_node, ruleNode_of_repeatable capabilities repeatable strict present admitted, called]
  by_cases object : value.shape = .object
  · rw [if_pos object, decide_eq_true object, if_pos rfl]
    rfl
  · rw [if_neg object, decide_eq_false object, if_neg Bool.false_ne_true]

end Express

section Objects

variable (className : Option String) {className' : Option String}
  {shorthands members : List (String × Value)}
  (below : ∀ entry ∈ shorthands, entry.2.asSchema.Expresses capabilities options entry.2)
  (wellFormed : (Value.object className' members).IsWellFormed)

theorem find?_asSchemas (key : String) :
    KeyMap.find? key (KeyMap.mapItems asSchema shorthands) =
      (KeyMap.find? key shorthands).map asSchema :=
  KeyMap.find?_mapItems asSchema shorthands

/-- Without a pattern and with unknown members rejected, an accepted object has no members besides
the declared ones. -/
theorem declared_of_accepted (hard : options.IsHard) (lists : capabilities.ListsMembers)
    (accepted : (ruleObject capabilities options
      (declaring (KeyMap.mapItems asSchema shorthands)) ⟨className', members⟩).accepted = true)
    {key : String} {item : Value} (found : KeyMap.find? key members = some item) :
    (KeyMap.find? key shorthands).isSome = true := by
  cases undeclared : KeyMap.find? key shorthands with
  | some shorthand => rfl
  | none =>
      have listed : key ∈ capabilities.ownKeys ⟨className', members⟩ :=
        lists _ key (Option.isSome_of_eq_some found)
      have missing : KeyMap.find? key (KeyMap.mapItems asSchema shorthands) = none := by
        rw [find?_asSchemas, undeclared]
        rfl
      rcases ((ruleObject_accepted_iff _).mp accepted).2 key listed missing item found with
        fits | allowed
      · rw [ruleFitting_isSome] at fits
        cases fits
      · rw [hard.allowUnknown] at allowed
        cases allowed

include below wellFormed

/-- The shorthand stands for every object that is accepted. -/
theorem standsFor_of_accepted (hard : options.IsHard) (lists : capabilities.ListsMembers)
    (accepted : (ruleObject capabilities options
      (declaring (KeyMap.mapItems asSchema shorthands)) ⟨className', members⟩).accepted = true) :
    StandsFor (.object className shorthands) (.object className' members) := by
  apply StandsFor.object
  · intro key item found
    exact declared_of_accepted hard lists accepted found
  · intro key item shorthand found declared present
    have schema : KeyMap.find? key (KeyMap.mapItems asSchema shorthands) =
        some shorthand.asSchema := by
      rw [find?_asSchemas, declared]
      rfl
    have stored : Record.get ⟨className', members⟩ key = item := by
      rw [Record.get, Record.find?, found, Option.getD_some]
    have accepts : shorthand.asSchema.accepts capabilities options item = true := by
      have either := ((ruleObject_accepted_iff _).mp accepted).1 (key, shorthand.asSchema)
        (KeyMap.mem_of_find? schema)
      rw [stored] at either
      apply either.resolve_right
      rw [isLenient, hard.warnOnInvalidOptionals, Bool.and_false]
      exact Bool.false_ne_true
    have expressed := below (key, shorthand) (KeyMap.mem_of_find? declared)
    apply ((expressed item (wellFormed.find? found)).1.mp accepts).resolve_left
    rintro rfl
    cases present

variable {className}
  (stands : StandsFor (.object className shorthands) (.object className' members))
include stands

/-- Of an object for which the shorthand stands every declared member is accepted. -/
theorem accepts_of_standsFor {key : String} {shorthand : Value}
    (declared : KeyMap.find? key shorthands = some shorthand) :
    shorthand.asSchema.accepts capabilities options
      ((KeyMap.find? key members).getD .undefined) = true := by
  have expressed := below (key, shorthand) (KeyMap.mem_of_find? declared)
  exact (expressed _ wellFormed.getD).1.mpr (stands.declared declared)

variable (ascending : KeyMap.IsAscending shorthands)
include ascending

theorem accepted_of_standsFor :
    (ruleObject capabilities options (declaring (KeyMap.mapItems asSchema shorthands))
      ⟨className', members⟩).accepted = true := by
  rw [ruleObject_accepted_iff]
  constructor
  · intro entry member
    have found := (ascending.mapItems asSchema).find?_of_mem member
    rw [find?_asSchemas] at found
    obtain ⟨shorthand, declared, same⟩ := Option.map_eq_some_iff.mp found
    rw [← same]
    exact .inl (accepts_of_standsFor below wellFormed stands declared)
  · intro name _ undeclared item found
    have missing : (KeyMap.find? name shorthands).map asSchema = none :=
      (find?_asSchemas name).symm.trans undeclared
    cases (stands.missing (Option.map_eq_none_iff.mp missing)).symm.trans found

/-- An object for which the shorthand stands is delivered without its absent members. -/
theorem ruleObject_value_of_standsFor :
    (ruleObject capabilities options (declaring (KeyMap.mapItems asSchema shorthands))
        ⟨className', members⟩).value =
      (Value.object className' members).withoutAbsent := by
  have keys : KeyMap.IsAscending (declaring (KeyMap.mapItems asSchema shorthands)).keys :=
    ascending.mapItems asSchema
  obtain ⟨delivered, value, sameClass, sorted, finds⟩ :=
    ruleObject_value capabilities options keys ⟨className', members⟩
  have same : delivered.members = membersWithoutAbsent members := by
    apply sorted.ext (membersWithoutAbsent_ascending wellFormed.ascending)
    intro name
    rw [find?_membersWithoutAbsent wellFormed.ascending]
    refine (finds name).trans ?_
    have schema : KeyMap.find? name (declaring (KeyMap.mapItems asSchema shorthands)).keys =
        (KeyMap.find? name shorthands).map asSchema := find?_asSchemas name
    unfold memberResult Record.get Record.find?
    rw [schema]
    cases declared : KeyMap.find? name shorthands with
    | none =>
        rw [stands.missing declared]
        exact ite_self none
    | some shorthand =>
        have expressed := below (name, shorthand) (KeyMap.mem_of_find? declared)
        exact congrArg Value.present? ((expressed _ wellFormed.getD).2
          (accepts_of_standsFor below wellFormed stands declared))
  rw [value, withoutAbsent, ← same]
  exact congrArg (Value.object · delivered.members) sameClass

end Objects

theorem expresses_object (hard : options.IsHard) (dispensable : options.presence = .optional)
    (lists : capabilities.ListsMembers) (className : Option String)
    {shorthands : List (String × Value)} (ascending : KeyMap.IsAscending shorthands)
    (below : ∀ entry ∈ shorthands, entry.2.asSchema.Expresses capabilities options entry.2) :
    (Value.object className shorthands).asSchema.Expresses capabilities options
      (.object className shorthands) := by
  rw [asSchema, membersAsSchemas_eq_mapItems]
  refine expresses_of_present dispensable rfl rfl fun value wellFormed present => ?_
  have ruled : (Schema.node { constraints := { kind := some .object }
                              keys := KeyMap.mapItems asSchema shorthands }).ruling
        capabilities options value = _ :=
    ruling_object dispensable hard.strict (KeyMap.mapItems asSchema shorthands) present
  unfold accepts result
  rw [ruled]
  by_cases shape : value.shape = .object
  · obtain ⟨className', members, rfl⟩ := exists_of_shape_object shape
    rw [if_pos shape]
    have stands := standsFor_of_accepted className below wellFormed hard lists
    refine ⟨⟨stands, fun stands => accepted_of_standsFor below wellFormed stands ascending⟩, ?_⟩
    exact fun accepted =>
      ruleObject_value_of_standsFor below wellFormed (stands accepted) ascending
  · rw [if_neg shape]
    refine ⟨⟨nofun, fun stands => ?_⟩, nofun⟩
    cases stands with
    | leaf plain present equal => cases plain
    | object declared each => exact absurd rfl shape

/-- The schema of every shorthand whose lists are filled expresses it. -/
theorem expresses_asSchema (hard : options.IsHard) (dispensable : options.presence = .optional)
    (lists : capabilities.ListsMembers) {shorthand : Value} (filled : shorthand.HasFilledLists)
    (wellFormed : shorthand.IsWellFormed) :
    shorthand.asSchema.Expresses capabilities options shorthand := by
  induction filled with
  | leaf plain => exact expresses_leaf dispensable hard.strict plain
  | array filled each ih =>
      apply expresses_list dispensable filled
      exact fun item member => ih item member (wellFormed.item member)
  | @object className members each ih =>
      apply expresses_object hard dispensable lists className wellFormed.ascending
      exact fun entry member =>
        ih entry member (hasWellFormedMembers_iff.mp wellFormed.2 entry member)

end Schema

namespace Engine

/-- A validation delivers what the walk along the compiled schema delivers. -/
theorem validateWith_eq (engine : Engine) (value : Value) (source : Source) (options : Options)
    (ledger : Ledger) :
    let walked := (source.compile ledger.supply).1.schema.walk engine.capabilities options value
      "" {}
    (engine.validateWith value source options ledger).1 =
      ⟨walked.1.value, walked.1.errors, walked.2.warnings⟩ :=
  rfl

/--
Under hard options by which members may be absent, a shorthand whose lists are
filled accepts an absent value and whatever it stands for.  An accepted value is
delivered without its absent members, and there are no warnings.
-/
theorem validateWith_ofValue (engine : Engine) (lists : engine.capabilities.ListsMembers)
    {options : Options} (hard : options.IsHard) (dispensable : options.presence = .optional)
    {shorthand : Value} (filled : shorthand.HasFilledLists)
    (shorthandWellFormed : shorthand.IsWellFormed) {value : Value}
    (wellFormed : value.IsWellFormed) (ledger : Ledger) :
    let validation := (engine.validateWith value (.ofValue shorthand) options ledger).1
    (validation.isValid = true ↔ value = .undefined ∨ shorthand.StandsFor value) ∧
      (validation.isValid = true → validation.value = value.withoutAbsent) ∧
      validation.warnings = [] := by
  intro validation
  have compiled := Source.compile_ofValue shorthandWellFormed ledger.supply
  have validated : validation = _ :=
    engine.validateWith_eq value (.ofValue shorthand) options ledger
  have expressed : shorthand.asSchema.Expresses engine.capabilities options shorthand :=
    Schema.expresses_asSchema hard dispensable lists filled shorthandWellFormed
  have follows : shorthand.asSchema.FollowsRuling engine.capabilities options :=
    shorthand.asSchema.followsRuling
  have valid : validation.isValid =
      shorthand.asSchema.accepts engine.capabilities options value := by
    rw [validated, compiled]
    exact follows.isOk value "" {}
  have delivered : validation.value =
      shorthand.asSchema.result engine.capabilities options value := by
    rw [validated, compiled]
    exact follows.value value "" {}
  have silent : validation.warnings = [] := by
    rw [validated, compiled]
    exact Schema.walk_silent "" engine.capabilities hard shorthand.asSchema_unwarning value {}
  rw [valid, delivered]
  exact ⟨(expressed value wellFormed).1, (expressed value wellFormed).2, silent⟩

/-- A shorthand with a list stands for a tagged object whose inner object has an absent member. -/
theorem validateWith_ofValue_nested :
    let options : Options := {
      strict := true, allowUnknown := false, warnOnInvalidOptionals := false,
      presence := .optional }
    let engine : Engine := (Engine.start .native {}).1
    let shorthand : Value := .object none [
      ("a", .array [.null, .string "x"]), ("b", .object none [("c", .boolean true)])]
    let value : Value := .object (some "Point") [
      ("a", .string "x"), ("b", .object none [("c", .undefined)])]
    let validation := (engine.validateWith value (.ofValue shorthand) options {}).1
    validation.isValid = true ∧ shorthand.StandsFor value ∧
      validation.value = .object (some "Point") [("a", .string "x"), ("b", .object none [])] ∧
      validation.warnings = [] := by
  intro options engine shorthand value validation
  have hard : options.IsHard := ⟨rfl, rfl, rfl⟩
  have filled : shorthand.HasFilledLists := by
    refine .object (List.forall_mem_cons.mpr ⟨?_, List.forall_mem_singleton.mpr ?_⟩)
    · exact .array (List.cons_ne_nil _ _) (List.forall_mem_cons.mpr
        ⟨.leaf rfl, List.forall_mem_singleton.mpr (.leaf rfl)⟩)
    · exact .object (List.forall_mem_singleton.mpr (.leaf rfl))
  have shorthandWellFormed : shorthand.IsWellFormed := by
    refine ⟨KeyMap.ascending_pair (by decide) _ _, ?_⟩
    simp [Value.IsWellFormed, Value.HasWellFormedMembers, Value.AreWellFormed,
      KeyMap.IsAscending]
  have wellFormed : value.IsWellFormed := by
    refine ⟨KeyMap.ascending_pair (by decide) _ _, ?_⟩
    simp [Value.IsWellFormed, Value.HasWellFormedMembers, KeyMap.IsAscending]
  have meaning := validateWith_ofValue engine Capabilities.native_listsMembers hard rfl filled
    shorthandWellFormed wellFormed {}
  have valid : validation.isValid = true := by decide
  have known : value ≠ .undefined := by simp [value]
  have stands : shorthand.StandsFor value := (meaning.1.mp valid).resolve_left known
  exact ⟨valid, stands, meaning.2.1 valid, meaning.2.2⟩

end Engine

end SchemaValidation
