import SchemaValidation.Proofs.CanonicalSteps
import SchemaValidation.Proofs.Identities

/-!
# Validation of equal values

A schema whose checks are all rules, none of them asking for the class of an
object, and that transforms nothing by user code treats equal values alike: the
values that it delivers for them are equal, and so are its reports on them, one by
one.  Equal values have one canonical form, and a walk keeps it that way.
-/

namespace SchemaValidation

open Trail

/-- The host lists the same names for equal records. -/
def Capabilities.RespectsEquality (capabilities : Capabilities) : Prop :=
  ∀ record record' : Record, record.equals record' = true →
    capabilities.ownKeys record = capabilities.ownKeys record'

variable {capabilities : Capabilities} {options : Options} (path : String)
  {value value' : Value} (form : value.canonical = value'.canonical)
  {trail trail' : Trail} (before : SameForms trail trail')

namespace Schema

/-- A walk along the schema treats values with one canonical form alike. -/
def TreatsAlike (capabilities : Capabilities) (options : Options) (schema : Schema) : Prop :=
  ∀ {value value' : Value}, value.canonical = value'.canonical → ∀ path,
    LooksAlike Outcome.canonical (walk capabilities options schema value path {})
      (walk capabilities options schema value' path {})

/-! ## Choices and the items of a list -/

section Choices

variable {schemas : List Schema}
  (each : ∀ schema ∈ schemas, schema.TreatsAlike capabilities options)
include each form before

/-- The same schema accepts both values, and what the others warned of is taken back on both sides. -/
theorem walkFirst_looksAlike {reports reports' : List Report}
    (forms : reports.map Report.canonical = reports'.map Report.canonical) :
    LooksAlike (canonicalResult (List.map Report.canonical))
      (walkFirst capabilities options schemas value path reports trail)
      (walkFirst capabilities options schemas value' path reports' trail') := by
  induction schemas generalizing reports reports' trail trail' with
  | nil => exact ⟨congrArg Except.error forms, before⟩
  | cons schema rest ih =>
      obtain ⟨first, others⟩ := List.forall_mem_cons.mp each
      have walked := first form path
      obtain ⟨value_form, errors_form⟩ := Outcome.mk.inj walked.result
      unfold walkFirst
      dsimp only
      rw [walk_eq_append, walk_eq_append options schema value',
        Outcome.isOk_eq_of_canonical_eq walked.result, takeBack_mark, takeBack_mark]
      split
      · exact ⟨congrArg Except.ok value_form, comparison_sameForms.append before walked.trail⟩
      · exact ih (comparison_sameForms.append before (comparison_sameForms.takeBack walked.trail))
          others errors_form

theorem walkExcluded_looksAlike :
    LooksAlike (canonicalResult (List.map Report.canonical))
      (walkExcluded capabilities options schemas value path trail)
      (walkExcluded capabilities options schemas value' path trail') := by
  induction schemas generalizing trail trail' with
  | nil => exact ⟨congrArg Except.ok form, before⟩
  | cons schema rest ih =>
      obtain ⟨first, others⟩ := List.forall_mem_cons.mp each
      have walked := first form path
      have kept := comparison_sameForms.append before (comparison_sameForms.takeBack walked.trail)
      have report := Report.canonical_of path .matchedExcludedType .undefined .undefined form
      unfold walkExcluded
      dsimp only
      rw [walk_eq_append, walk_eq_append options schema value',
        Outcome.isOk_eq_of_canonical_eq walked.result, takeBack_mark, takeBack_mark]
      split
      · exact ⟨congrArg Except.error (Report.canonical_singleton report), kept⟩
      · exact ih kept others

end Choices

/-- Items are settled alike one by one, if they are chosen alike at every index. -/
theorem settleItems_looksAlike
    {choose : Value → String → Trail → Except (List Report) Value × Trail}
    (each : ∀ {item item' : Value}, item.canonical = item'.canonical → ∀ path {trail trail'},
      SameForms trail trail' → LooksAlike (canonicalResult (List.map Report.canonical))
        (choose item path trail) (choose item' path trail'))
    (index : Nat) {items items' : List Value}
    (forms : items.map Value.canonical = items'.map Value.canonical)
    (before : SameForms trail trail') :
    (settleItems path choose index items trail).1.map Value.canonical =
        (settleItems path choose index items' trail').1.map Value.canonical ∧
      (settleItems path choose index items trail).2.1.map Report.canonical =
        (settleItems path choose index items' trail').2.1.map Report.canonical ∧
      SameForms (settleItems path choose index items trail).2.2
        (settleItems path choose index items' trail').2.2 := by
  induction items generalizing index items' trail trail' with
  | nil =>
      cases items' with
      | nil => exact ⟨rfl, rfl, before⟩
      | cons item rest => cases forms
  | cons item rest ih =>
      cases items' with
      | nil => cases forms
      | cons item' rest' =>
          obtain ⟨first, others⟩ := List.cons.inj forms
          have alike := each first ((Slot.index index).join path) before
          unfold settleItems
          obtain ⟨reports, reports', left, left', chosen, chosen', same, after⟩ |
              ⟨value, value', left, left', chosen, chosen', same, after⟩ := alike.result_cases
          all_goals
            obtain ⟨values, errors, behind⟩ := ih (index + 1) others after
            rw [chosen, chosen']
          · refine ⟨values, ?_, behind⟩
            dsimp only
            rw [List.map_append, List.map_append, errors, same]
          · exact ⟨congrArg₂ List.cons same values, errors, behind⟩

/-! ## The members of an object -/

section Members

variable {assembly assembly' : Assembly} {members members' : List (String × Value)}

include before in
theorem walkKeys_looksAlike {keys : List (String × Schema)}
    (each : ∀ entry ∈ keys, entry.2.TreatsAlike capabilities options)
    (forms : KeyMap.mapItems Value.canonical members = KeyMap.mapItems Value.canonical members')
    (built : assembly.canonical = assembly'.canonical) :
    LooksAlike Assembly.canonical
      (walkKeys capabilities options keys members path assembly trail)
      (walkKeys capabilities options keys members' path assembly' trail') := by
  induction keys generalizing assembly assembly' trail trail' with
  | nil => exact ⟨built, before⟩
  | cons entry rest ih =>
      obtain ⟨key, schema⟩ := entry
      obtain ⟨first, others⟩ := List.forall_mem_cons.mp each
      have walked := (first (KeyMap.getD_forms forms key) ((Slot.key key).join path)).behind before
      have settled := Assembly.settleDeclared_looksAlike walked.trail built options
        (schema.root.constraints.effectivePresence options) key walked.result
      unfold walkKeys
      dsimp only
      rw [walk_eq_append, walk_eq_append options schema
        ((KeyMap.find? key members').getD .undefined)]
      exact ih settled.trail others settled.result

variable {pattern : Option (Pattern × Schema)}
  (each : ∀ entry ∈ pattern, entry.2.TreatsAlike capabilities options)
  {whole whole' : Value} (wholes : whole.canonical = whole'.canonical)
include each wholes before

include form in
theorem settleOther_looksAlike (key : String) (built : assembly.canonical = assembly'.canonical) :
    LooksAlike Assembly.canonical
      (assembly.settleOther options path whole (walkFitting capabilities options pattern path)
        key value trail)
      (assembly'.settleOther options path whole' (walkFitting capabilities options pattern path)
        key value' trail') := by
  have unknown := Assembly.settleUnknown_looksAlike form before built options key
    (Report.canonical_of path .unknownKey .undefined (.string key) wholes)
  unfold Assembly.settleOther
  rcases pattern with _ | ⟨given, schema⟩
  · exact unknown
  · unfold walkFitting
    cases fits : given.isMatch key with
    | false => exact unknown
    | true =>
        have walked := (each (given, schema) rfl form ((Slot.key key).join path)).behind before
        obtain ⟨value_form, errors_form⟩ := Outcome.mk.inj walked.result
        simp only [if_true]
        rw [walk_eq_append, walk_eq_append options schema value']
        exact ⟨Assembly.store_canonical value_form built key, walked.trail.warn errors_form⟩

theorem settleOthers_looksAlike (keys : List String)
    (forms : KeyMap.mapItems Value.canonical members = KeyMap.mapItems Value.canonical members')
    (built : assembly.canonical = assembly'.canonical) :
    LooksAlike Assembly.canonical
      (Assembly.settleOthers options path whole (walkFitting capabilities options pattern path)
        keys members assembly trail)
      (Assembly.settleOthers options path whole' (walkFitting capabilities options pattern path)
        keys members' assembly' trail') := by
  induction keys generalizing members members' assembly assembly' trail trail' with
  | nil => exact ⟨built, before⟩
  | cons key rest ih =>
      have found := KeyMap.find?_forms forms key
      cases one : KeyMap.find? key members with
      | none =>
          have other : KeyMap.find? key members' = none := by simpa [one] using found.symm
          rw [Assembly.settleOthers_cons_of_missing options path assembly one,
            Assembly.settleOthers_cons_of_missing options path assembly' other]
          exact ih before forms built
      | some item =>
          rw [one] at found
          obtain ⟨item', other, same⟩ := Option.map_eq_some_iff.mp found.symm
          have settled := settleOther_looksAlike path same.symm before each wholes key built
          have left : KeyMap.mapItems Value.canonical (KeyMap.erase key members) =
              KeyMap.mapItems Value.canonical (KeyMap.erase key members') := by
            unfold KeyMap.erase
            rw [KeyMap.mapItems_filter _ (· != key), KeyMap.mapItems_filter _ (· != key), forms]
          rw [Assembly.settleOthers_cons_of_found options path assembly one,
            Assembly.settleOthers_cons_of_found options path assembly' other]
          exact ih settled.trail left settled.result

end Members

/-! ## The parts of a value -/

section Node

variable {node : Node Schema}
  (below : ∀ schema ∈ node.nested, schema.TreatsAlike capabilities options)
include below before

theorem descendObject_looksAlike
    (lists : capabilities.RespectsEquality)
    {record record' : Record}
    (forms : KeyMap.mapItems Value.canonical record.members =
      KeyMap.mapItems Value.canonical record'.members) :
    LooksAlike Outcome.canonical (descendObject capabilities options node record path trail)
      (descendObject capabilities options node record' path trail') := by
  have listed := lists record record' (Value.equalMembers_of_canonical_eq forms)
  have values : record.toValue.canonical = record'.toValue.canonical := by
    unfold Record.toValue
    rw [Value.canonical_object, Value.canonical_object, forms]
  have others : KeyMap.mapItems Value.canonical
        (record.members.filter fun entry => !KeyMap.contains entry.1 node.keys) =
      KeyMap.mapItems Value.canonical
        (record'.members.filter fun entry => !KeyMap.contains entry.1 node.keys) := by
    rw [KeyMap.mapItems_filter _ fun name => !KeyMap.contains name node.keys,
      KeyMap.mapItems_filter _ fun name => !KeyMap.contains name node.keys, forms]
  have counted : SameForms trail.countOwnKeys trail'.countOwnKeys := before
  have declared := walkKeys_looksAlike path counted
    (fun entry member => below entry.2 (Node.nested_of_key member)) forms
    (rfl : (({} : Assembly).canonical = ({} : Assembly).canonical))
  unfold descendObject
  dsimp only
  rw [listed]
  -- The report on an unknown member carries the record only if there is such a member.
  have wholes : (if (capabilities.ownKeys record').any fun key => !KeyMap.contains key node.keys
        then record.toValue else .undefined).canonical =
      (if (capabilities.ownKeys record').any fun key => !KeyMap.contains key node.keys
        then record'.toValue else .undefined).canonical := by
    split
    · exact values
    · rfl
  have settled := settleOthers_looksAlike path declared.trail
    (fun entry same => below entry.2 (Node.nested_of_pattern same)) wholes
    (capabilities.ownKeys record') others declared.result
  obtain ⟨members, errors⟩ := Assembly.mk.inj settled.result
  refine ⟨?_, settled.trail⟩
  unfold Outcome.canonical
  rw [Value.canonical_object, Value.canonical_object, members, errors]

include form in
theorem chooseItem_looksAlike :
    LooksAlike (canonicalResult (List.map Report.canonical))
      (chooseItem capabilities options node value path trail)
      (chooseItem capabilities options node value' path trail') := by
  unfold chooseItem
  split
  · exact walkExcluded_looksAlike path form before
      (fun schema member => below schema (Node.nested_of_exclude member))
  · exact walkFirst_looksAlike path form before
      (fun schema member => below schema (Node.nested_of_include member)) rfl

theorem descendArray_looksAlike {items items' : List Value}
    (forms : items.map Value.canonical = items'.map Value.canonical) :
    LooksAlike Outcome.canonical (descendArray capabilities options node items path trail)
      (descendArray capabilities options node items' path trail') := by
  unfold descendArray Outcome.canonical
  split
  · exact ⟨by simp only [Value.canonical_array, forms], before⟩
  · obtain ⟨values, errors, after⟩ := settleItems_looksAlike path
      (fun form path _ _ before => chooseItem_looksAlike path form before below) 0 forms before
    refine ⟨?_, after⟩
    dsimp only
    rw [Value.canonical_array, Value.canonical_array, values, errors]

variable (lists : capabilities.RespectsEquality)
include form lists

theorem descend_looksAlike :
    LooksAlike Outcome.canonical (descend capabilities options node value path trail)
      (descend capabilities options node value' path trail') := by
  have entered : LooksAlike Outcome.canonical ((⟨value, []⟩ : Outcome), trail)
      ((⟨value', []⟩ : Outcome), trail') :=
    ⟨Outcome.canonical_of_value form, before⟩
  unfold descend
  cases node.constraints.kind with
  | none => exact entered
  | some kind =>
      cases kind with
      | object => exact descendObject_looksAlike path before below lists (Value.members_forms form)
      | array => exact descendArray_looksAlike path before below (Value.items_forms form)
      | _ => exact entered

omit lists in
theorem settleUnion_looksAlike :
    LooksAlike Outcome.canonical (settleUnion capabilities options node value path trail)
      (settleUnion capabilities options node value' path trail') := by
  have alike := walkFirst_looksAlike path form before
    (fun schema member => below schema (Node.nested_of_alternative member))
    (rfl : ([] : List Report).map Report.canonical = [].map Report.canonical)
  unfold settleUnion
  obtain ⟨reports, reports', left, left', chosen, chosen', -, after⟩ |
      ⟨result, result', left, left', chosen, chosen', same, after⟩ := alike.result_cases
  all_goals rw [chosen, chosen']
  · exact node.constraints.fail_looksAlike after options
      (Report.canonical_of path .noAlternativeMatched .undefined .undefined form)
  · exact ⟨Outcome.canonical_of_value same, after⟩

theorem settlePlain_looksAlike (only : node.constraints.HasOnlyRules) :
    LooksAlike Outcome.canonical (settlePlain capabilities options node value path trail)
      (settlePlain capabilities options node value' path trail') := by
  obtain ⟨arrived, after⟩ := node.constraints.arrive_looksAlike path form before only options
  unfold settlePlain
  rcases run : node.constraints.arrive options path value trail with
    ⟨accepted | report | entered, left⟩
  all_goals
    rcases run' : node.constraints.arrive options path value' trail' with
      ⟨accepted' | report' | entered', left'⟩
    all_goals rw [run, run'] at arrived after
    all_goals try cases arrived
  · exact ⟨Outcome.canonical_of_value (Arrival.accepted.inj arrived), after⟩
  · exact node.constraints.fail_looksAlike after options (Arrival.rejected.inj arrived)
  · have parts := descend_looksAlike path (Arrival.entered.inj arrived) after below lists
    exact node.constraints.leave_looksAlike path parts.trail only options parts.result

end Node

/-- A schema whose checks are rules treats values with one canonical form alike. -/
theorem treatsAlike {schema : Schema}
    (lists : capabilities.RespectsEquality)
    (tree : schema.Everywhere fun node => node.constraints.HasOnlyRules) :
    schema.TreatsAlike capabilities options := by
  induction tree with
  | @node parts only _ ih =>
      intro value value' form path
      have absent : value.isUndefined = value'.isUndefined :=
        Value.reading_eq Value.isUndefined Value.isUndefined_canonical form
      have start : SameForms ({} : Trail) {} := rfl
      rw [walk_node, walk_node, absent]
      split
      · exact ⟨rfl, rfl⟩
      · split
        · exact parts.constraints.failAll_looksAlike rfl start options (Report.canonical_singleton
            (Report.canonical_of path .forbiddenEncountered .undefined .undefined form))
        · split
          · exact settleUnion_looksAlike path form start ih
          · exact settlePlain_looksAlike path form start ih lists only

end Schema

/-! ## Engines -/

theorem Value.keys_eq_of_equalMembers {members members' : List (String × Value)}
    (equal : equalMembers members members' = true) :
    KeyMap.keys members = KeyMap.keys members' := by
  induction members generalizing members' with
  | nil =>
      cases members' with
      | nil => rfl
      | cons entry rest => cases equal
  | cons entry rest ih =>
      cases members' with
      | nil => cases equal
      | cons entry' rest' =>
          obtain ⟨here, there⟩ := Bool.and_eq_true_iff.mp equal
          obtain ⟨name, -⟩ := Bool.and_eq_true_iff.mp here
          exact congrArg₂ List.cons (eq_of_beq name) (ih there)

/-- A host that lists all names respects equality. -/
theorem Capabilities.native_respectsEquality : native.RespectsEquality :=
  fun _ _ equal => Value.keys_eq_of_equalMembers equal

/-- An engine answers to equal values alike, if all checks of the schema are rules that do not
ask for the class of an object, nothing else in it is user code, and its host respects equality.
Callables are told apart by identity. -/
theorem Engine.validateWith_of_equals (engine : Engine) {source : Source} (options : Options)
    {ledger : Ledger} (ledger' : Ledger) {value value' : Value}
    (tree : (ledger.compile source).1.schema.Everywhere fun node => node.constraints.HasOnlyRules)
    (lists : engine.capabilities.RespectsEquality)
    (equal : value.equals value' = true)
    (agree : Value.AgreeOn value.callables value'.callables) :
    let first := (engine.validateWith value source options ledger).1
    let second := (engine.validateWith value' source options ledger').1
    first.value.equals second.value = true ∧
      relatedItems Report.equals first.errors second.errors = true ∧
      relatedItems Report.equals first.warnings second.warnings = true := by
  have alike : LooksAlike Outcome.canonical
      ((ledger.compile source).1.schema.walk engine.capabilities options value "" {})
      ((ledger.compile source).1.schema.walk engine.capabilities options value' "" {}) :=
    Schema.treatsAlike lists tree (Value.canonical_eq_of_equals equal agree) ""
  obtain ⟨value_form, errors_form⟩ := Outcome.mk.inj alike.result
  intro first second
  have again : second = (engine.validateWith value' source options ledger).1 :=
    engine.validateWith_eq_of_ledger ledger' ledger value' source options
  rw [again]
  exact ⟨Value.equals_of_canonical_eq value_form, Report.relatedItems_of_canonical_eq errors_form,
    Report.relatedItems_of_canonical_eq alike.trail⟩

/-- Two objects that differ in their classes, in the sign of a zero and in the bits of what is no
number are rejected alike. -/
theorem Engine.validateWith_of_equals_numbers :
    let engine : Engine := (Engine.start .native {}).1
    let source : Source := .chain [
      .root (some .object),
      .keys [("n", .chain [.root (some .number), .satisfy ((Rule.min Binary64.one).check 0)])]]
    let value : Value := .object (some "Point") [
      ("n", .number (Binary64.ofMagnitude true 0)),
      ("u", .number (Binary64.ofMagnitude true (Binary64.infinity + 1)))]
    let value' : Value := .object none [
      ("n", .number Binary64.zero),
      ("u", .number (Binary64.ofMagnitude false (Binary64.infinity + 2)))]
    let first := (engine.validateWith value source {} {}).1
    let second := (engine.validateWith value' source {} {}).1
    value.equals value' = true ∧ first.value.equals second.value = true ∧
      relatedItems Report.equals first.errors second.errors = true ∧
      relatedItems Report.equals first.warnings second.warnings = true := by
  intro engine source value value'
  have equal : value.equals value' = true := by decide
  have leaf : (Schema.node { constraints := {
      kind := some .number, checks := [(Rule.min Binary64.one).check 0] } }).Everywhere
        fun node => node.constraints.HasOnlyRules :=
    .node ⟨rfl, rfl, rfl, List.forall_mem_singleton.mpr
      ⟨.min Binary64.one, 0, rfl, by rintro className ⟨⟩⟩⟩ (by simp [Node.nested])
  have tree : (({} : Ledger).compile source).1.schema.Everywhere
      fun node => node.constraints.HasOnlyRules :=
    .node ⟨rfl, rfl, rfl, List.forall_mem_nil _⟩ (List.forall_mem_singleton.mpr leaf)
  have agree : Value.AgreeOn value.callables value'.callables := List.forall_mem_nil _
  exact ⟨equal, engine.validateWith_of_equals {} {} tree Capabilities.native_respectsEquality equal
    agree⟩

end SchemaValidation
