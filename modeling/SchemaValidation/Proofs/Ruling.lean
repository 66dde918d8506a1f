import SchemaValidation.Proofs.Parts
import SchemaValidation.Proofs.SchemaTree

/-!
# What a walk decides

The ruling of a schema is computed here from the rulings of the schemas below it,
and every walk is shown to follow it, whatever its path and its trail.
-/

namespace SchemaValidation

namespace Schema

variable (capabilities : Capabilities) (options : Options)

/-! ## Rulings of schemas -/

/-- What a schema decides about a value. -/
def ruling (schema : Schema) (value : Value) : Ruling :=
  (walk capabilities options schema value "" {}).1.ruling

/-- Whether a schema accepts a value. -/
def accepts (schema : Schema) (value : Value) : Bool :=
  (schema.ruling capabilities options value).accepted

/-- The value that a schema delivers for a value. -/
def result (schema : Schema) (value : Value) : Value :=
  (schema.ruling capabilities options value).value

/-- The walk along a schema follows its ruling at every path and with every trail. -/
def FollowsRuling (schema : Schema) : Prop :=
  ∀ value path trail, (walk capabilities options schema value path trail).1.ruling =
    schema.ruling capabilities options value

/-- The value that the first accepting schema of a list delivers. -/
def firstResult (schemas : List Schema) (value : Value) : Option Value :=
  (schemas.find? fun schema => schema.accepts capabilities options value).map fun schema =>
    schema.result capabilities options value

/-- What becomes of an item at a node that calls for a list. -/
def itemResult (node : Node Schema) (item : Value) : Option Value :=
  if node.includes.isEmpty then
    if node.excludes.any fun schema => schema.accepts capabilities options item then none
    else some item
  else firstResult capabilities options node.includes item

/-- The ruling on a list at a node that calls for one. -/
def ruleArray (node : Node Schema) (items : List Value) : Ruling :=
  ⟨.array (items.filterMap (itemResult capabilities options node)),
    items.all fun item => (itemResult capabilities options node item).isSome⟩

/-- The ruling on a member that is not declared, if its name fits the pattern of the node. -/
def ruleFitting (node : Node Schema) (key : String) (item : Value) : Option Ruling :=
  match node.pattern with
  | some (pattern, schema) =>
      if pattern.isMatch key then some (schema.ruling capabilities options item) else none
  | none => none

/-- The members that are delivered for the declared ones, over those that are already there. -/
def declaredResults (keys : List (String × Schema)) (members built : List (String × Value)) :
    List (String × Value) :=
  keys.foldl (fun built entry => KeyMap.storePresent entry.1
    (entry.2.result capabilities options ((KeyMap.find? entry.1 members).getD .undefined)) built)
    built

/-- Whether reports on a member that a schema describes are only warnings. -/
def isLenient (schema : Schema) : Bool :=
  schema.root.constraints.effectivePresence options == .optional &&
    options.warnOnInvalidOptionals

variable {capabilities options}

namespace FollowsRuling

variable {schema : Schema} (follows : schema.FollowsRuling capabilities options)
include follows

theorem value (value : Value) (path : String) (trail : Trail) :
    (walk capabilities options schema value path trail).1.value =
      schema.result capabilities options value :=
  congrArg Ruling.value (follows value path trail)

theorem isOk (value : Value) (path : String) (trail : Trail) :
    (walk capabilities options schema value path trail).1.isOk =
      schema.accepts capabilities options value :=
  congrArg Ruling.accepted (follows value path trail)

end FollowsRuling

theorem firstResult_isSome {schemas : List Schema} {value : Value} :
    (firstResult capabilities options schemas value).isSome = true ↔
      ∃ schema ∈ schemas, schema.accepts capabilities options value = true := by
  simp [firstResult]

theorem walkFirst_toOption {schemas : List Schema}
    (follows : ∀ schema ∈ schemas, schema.FollowsRuling capabilities options) (value : Value)
    (path : String) (reports : List Report) (trail : Trail) :
    (walkFirst capabilities options schemas value path reports trail).1.toOption =
      firstResult capabilities options schemas value := by
  induction schemas generalizing reports trail with
  | nil => rfl
  | cons schema rest ih =>
      have first := follows schema List.mem_cons_self
      unfold walkFirst firstResult
      dsimp only
      rw [first.isOk, first.value, List.find?_cons]
      cases schema.accepts capabilities options value with
      | true => rfl
      | false => exact ih (fun schema member => follows schema (List.mem_cons_of_mem _ member)) _ _

/-- A choice between schemas that fails has reports. -/
theorem walkFirst_error {schemas : List Schema} {value : Value} {path : String}
    {reports errors : List Report} {trail : Trail}
    (some : schemas.isEmpty = false ∨ reports.isEmpty = false)
    (failed : (walkFirst capabilities options schemas value path reports trail).1 =
      .error errors) : errors.isEmpty = false := by
  induction schemas generalizing reports trail with
  | nil =>
      cases failed
      exact some.resolve_left (by simp)
  | cons schema rest ih =>
      unfold walkFirst at failed
      dsimp only at failed
      split at failed
      · cases failed
      · rename_i rejected
        exact ih (.inr (by simpa [Outcome.isOk] using rejected)) failed

theorem walkExcluded_toOption {schemas : List Schema}
    (follows : ∀ schema ∈ schemas, schema.FollowsRuling capabilities options) (item : Value)
    (path : String) (trail : Trail) :
    (walkExcluded capabilities options schemas item path trail).1.toOption =
      if schemas.any fun schema => schema.accepts capabilities options item then none
      else some item := by
  induction schemas generalizing trail with
  | nil => rfl
  | cons schema rest ih =>
      have first := follows schema List.mem_cons_self
      unfold walkExcluded
      dsimp only
      rw [first.isOk, List.any_cons]
      cases schema.accepts capabilities options item with
      | true => rfl
      | false => exact ih (fun schema member => follows schema (List.mem_cons_of_mem _ member)) _

/-- An item that a schema excludes has a report. -/
theorem walkExcluded_error {schemas : List Schema} {item : Value} {path : String}
    {errors : List Report} {trail : Trail}
    (failed : (walkExcluded capabilities options schemas item path trail).1 = .error errors) :
    errors.isEmpty = false := by
  induction schemas generalizing trail with
  | nil => cases failed
  | cons schema rest ih =>
      unfold walkExcluded at failed
      dsimp only at failed
      split at failed
      · cases failed
        rfl
      · exact ih failed

theorem walkKeys_members {keys : List (String × Schema)}
    (follows : ∀ entry ∈ keys, entry.2.FollowsRuling capabilities options)
    (members : List (String × Value)) (path : String) (assembly : Assembly) (trail : Trail) :
    (walkKeys capabilities options keys members path assembly trail).1.members =
      declaredResults capabilities options keys members assembly.members := by
  induction keys generalizing assembly trail with
  | nil => rfl
  | cons entry rest ih =>
      obtain ⟨key, schema⟩ := entry
      unfold walkKeys declaredResults
      dsimp only
      rw [ih (fun entry member => follows entry (List.mem_cons_of_mem _ member)),
        Assembly.settleDeclared_members, (follows _ List.mem_cons_self).value]
      rfl

theorem walkKeys_isEmpty {keys : List (String × Schema)}
    (follows : ∀ entry ∈ keys, entry.2.FollowsRuling capabilities options)
    (members : List (String × Value)) (path : String) (assembly : Assembly) (trail : Trail) :
    (walkKeys capabilities options keys members path assembly trail).1.errors.isEmpty =
      (assembly.errors.isEmpty && keys.all fun entry =>
        entry.2.accepts capabilities options ((KeyMap.find? entry.1 members).getD .undefined) ||
          entry.2.isLenient options) := by
  induction keys generalizing assembly trail with
  | nil => exact (Bool.and_true _).symm
  | cons entry rest ih =>
      obtain ⟨key, schema⟩ := entry
      unfold walkKeys
      dsimp only
      rw [ih (fun entry member => follows entry (List.mem_cons_of_mem _ member)),
        Assembly.settleDeclared_isEmpty, (follows _ List.mem_cons_self).isOk, List.all_cons,
        Bool.and_assoc]
      rfl

theorem declaredResults_ascending (keys : List (String × Schema))
    (members : List (String × Value)) {built : List (String × Value)}
    (ascending : KeyMap.IsAscending built) :
    KeyMap.IsAscending (declaredResults capabilities options keys members built) := by
  induction keys generalizing built with
  | nil => exact ascending
  | cons entry rest ih => exact ih (ascending.storePresent entry.1 _)

/-- Under a declared name stands what its schema delivers. -/
theorem find?_declaredResults {keys : List (String × Schema)}
    (ascending : KeyMap.IsAscending keys) (members built : List (String × Value))
    (name : String) :
    KeyMap.find? name (declaredResults capabilities options keys members built) =
      match KeyMap.find? name keys with
      | some schema =>
          (schema.result capabilities options
            ((KeyMap.find? name members).getD .undefined)).present?.or
              (KeyMap.find? name built)
      | none => KeyMap.find? name built := by
  induction keys generalizing built with
  | nil => rfl
  | cons entry rest ih =>
      obtain ⟨key, schema⟩ := entry
      obtain ⟨behind, tail⟩ := KeyMap.ascending_cons.mp ascending
      unfold declaredResults
      rw [List.foldl_cons]
      refine (ih tail _).trans ?_
      rw [KeyMap.find?_cons, KeyMap.find?_storePresent]
      by_cases same : name = key
      · subst same
        simp [KeyMap.find?_eq_none_of_lt behind]
      · simp [same, Ne.symm same]

theorem walkFitting_ruling {node : Node Schema}
    (follows : ∀ entry ∈ node.pattern, entry.2.FollowsRuling capabilities options)
    (path key : String) (item : Value) (trail : Trail) :
    (walkFitting capabilities options node.pattern path key item trail).map
        (fun result => result.1.ruling) = ruleFitting capabilities options node key item := by
  unfold ruleFitting
  cases fits : node.pattern with
  | none => rfl
  | some entry =>
      obtain ⟨pattern, schema⟩ := entry
      unfold walkFitting
      dsimp only
      split
      · exact congrArg some (follows (pattern, schema) fits item _ trail)
      · rfl

variable (capabilities options) in
/-- Whether the name of a member fits the pattern does not depend on the member. -/
theorem ruleFitting_cases (node : Node Schema) (key : String) :
    (∃ pattern schema, node.pattern = some (pattern, schema) ∧ pattern.isMatch key = true ∧
      ∀ item, ruleFitting capabilities options node key item =
        some (schema.ruling capabilities options item)) ∨
    (∀ entry ∈ node.pattern, entry.1.isMatch key = false) ∧
      ∀ item, ruleFitting capabilities options node key item = none := by
  unfold ruleFitting
  cases same : node.pattern with
  | none => exact .inr ⟨nofun, fun _ => rfl⟩
  | some entry =>
      obtain ⟨pattern, schema⟩ := entry
      cases fits : pattern.isMatch key with
      | false => exact .inr ⟨by simp [fits], fun _ => by simp [fits]⟩
      | true => exact .inl ⟨pattern, schema, rfl, fits, fun _ => by simp [fits]⟩

theorem ruleFitting_isSome (options : Options) (node : Node Schema) (key : String)
    (item : Value) :
    (ruleFitting capabilities options node key item).isSome =
      node.pattern.any fun entry => entry.1.isMatch key := by
  rcases ruleFitting_cases capabilities options node key with
    ⟨pattern, schema, same, fits, fitting⟩ | ⟨unfit, unruled⟩
  · rw [fitting, same]
    exact fits.symm
  · rw [unruled]
    cases same : node.pattern with
    | none => rfl
    | some entry => exact (unfit entry same).symm

/-! ## The ruling of a node -/

variable (capabilities options)

/-- The ruling on a record at a node that calls for an object. -/
def ruleObject (node : Node Schema) (record : Record) : Ruling :=
  (descendObject capabilities options node record "" {}).1.ruling

/-- The ruling on the parts of a value that has entered a node. -/
def ruleParts (node : Node Schema) (entered : Value) : Ruling :=
  match node.constraints.kind with
  | some .object => ruleObject capabilities options node entered.recordOrEmpty
  | some .array => ruleArray capabilities options node entered.itemsOrEmpty
  | _ => ⟨entered, true⟩

/-- The ruling on a value at a node that is a union. -/
def ruleUnion (node : Node Schema) (value : Value) : Ruling :=
  match firstResult capabilities options node.alternatives value with
  | some chosen => ⟨chosen, true⟩
  | none => node.constraints.refuse options node.constraints.default

/-- The ruling on a value at a node that is no union. -/
def rulePlain (node : Node Schema) (value : Value) : Ruling :=
  match node.constraints.receive options value with
  | .accepted accepted => ⟨accepted, true⟩
  | .rejected => node.constraints.refuse options node.constraints.default
  | .entered entered => node.constraints.dismiss options
      (ruleParts capabilities options node entered)

/-- The ruling of a node, from the rulings of the schemas below it. -/
def ruleNode (node : Node Schema) (value : Value) : Ruling :=
  if value.isUndefined then node.constraints.ruleAbsent options
  else if node.constraints.effectivePresence options = .forbidden then
    node.constraints.refuse options .undefined
  else if !node.alternatives.isEmpty then ruleUnion capabilities options node value
  else rulePlain capabilities options node value

/-- The member of the object that a node delivers, under any name. -/
def memberResult (node : Node Schema) (record : Record) (name : String) : Option Value :=
  match KeyMap.find? name node.keys with
  | some schema => (schema.result capabilities options (record.get name)).present?
  | none =>
      if name ∈ capabilities.ownKeys record then
        (record.find? name).bind
          (Assembly.otherResult options (ruleFitting capabilities options node) name)
      else none

variable {capabilities options}

section Delivered

variable {node : Node Schema} {record delivered : Record}
  (finds : ∀ name, delivered.find? name = memberResult capabilities options node record name)
  {key : String}
include finds

/-- Under a declared name a delivered object has what the schema of the name delivers. -/
theorem get_of_declared {schema : Schema} (declared : KeyMap.find? key node.keys = some schema) :
    delivered.get key = schema.result capabilities options (record.get key) := by
  unfold Record.get
  rw [finds, memberResult, declared]
  exact Value.present?_getD _

/-- Under any other name it has what became of a listed member. -/
theorem source_of_undeclared (undeclared : KeyMap.find? key node.keys = none) {item : Value}
    (found : delivered.find? key = some item) :
    key ∈ capabilities.ownKeys record ∧ ∃ source, record.find? key = some source ∧
      Assembly.otherResult options (ruleFitting capabilities options node) key source =
        some item := by
  rw [finds, memberResult, undeclared] at found
  dsimp only at found
  split at found
  · rename_i listed
    exact ⟨listed, Option.bind_eq_some_iff.mp found⟩
  · cases found

end Delivered

section Exits

variable {node : Node Schema} {value : Value}

theorem ruleNode_undefined :
    ruleNode capabilities options node .undefined = node.constraints.ruleAbsent options :=
  rfl

variable (present : value.isUndefined = false)
include present

theorem ruleNode_of_forbidden
    (forbidden : node.constraints.effectivePresence options = .forbidden) :
    ruleNode capabilities options node value = node.constraints.refuse options .undefined := by
  unfold ruleNode
  rw [if_neg (by simp [present]), if_pos forbidden]

variable (admitted : node.constraints.effectivePresence options ≠ .forbidden)
include admitted

theorem ruleNode_of_union (union : node.alternatives.isEmpty = false) :
    ruleNode capabilities options node value = ruleUnion capabilities options node value := by
  unfold ruleNode
  rw [if_neg (by simp [present]), if_neg admitted, if_pos (by simp [union])]

theorem ruleNode_of_plain (plain : node.alternatives.isEmpty = true) :
    ruleNode capabilities options node value = rulePlain capabilities options node value := by
  unfold ruleNode
  rw [if_neg (by simp [present]), if_neg admitted, if_neg (by simp [plain])]

end Exits

section Node

variable {node : Node Schema}
  (below : ∀ schema ∈ node.nested, schema.FollowsRuling capabilities options)
include below

theorem followsRuling_of_key :
    ∀ entry ∈ node.keys, entry.2.FollowsRuling capabilities options :=
  fun entry member => below entry.2 (Node.nested_of_key member)

theorem walkFitting_followsRuling (path key : String) (item : Value) (trail : Trail) :
    (walkFitting capabilities options node.pattern path key item trail).map
        (fun result => result.1.ruling) = ruleFitting capabilities options node key item :=
  walkFitting_ruling (fun entry same => below entry.2 (Node.nested_of_pattern same))
    path key item trail

/-- The members of a delivered object in ascending order, and what they are in the order of the
steps. -/
theorem descendObject_value (record : Record) (path : String) (trail : Trail) :
    ∃ members, (descendObject capabilities options node record path trail).1.value =
        .object record.className members ∧
      KeyMap.IsAscending members ∧
      ∀ name, KeyMap.find? name members =
        let declared := KeyMap.find? name
          (declaredResults capabilities options node.keys record.members [])
        if name ∈ capabilities.ownKeys record then
          ((if KeyMap.contains name node.keys then none else record.find? name).bind
            (Assembly.otherResult options (ruleFitting capabilities options node) name)).or declared
        else declared := by
  refine ⟨_, rfl, ?_, ?_⟩
  · refine Assembly.settleOthers_ascending options path ?_ _ _ _
    rw [walkKeys_members (followsRuling_of_key below)]
    exact declaredResults_ascending node.keys record.members .nil
  · intro name
    dsimp only
    rw [Assembly.find?_settleOthers options path _
        (fun key item trail => walkFitting_followsRuling below path key item trail),
      walkKeys_members (followsRuling_of_key below),
      KeyMap.find?_filter fun name => !KeyMap.contains name node.keys]
    cases KeyMap.contains name node.keys <;> rfl

theorem descendObject_isOk_iff (record : Record) (path : String) (trail : Trail) :
    (descendObject capabilities options node record path trail).1.isOk = true ↔
      (∀ entry ∈ node.keys, entry.2.accepts capabilities options (record.get entry.1) = true ∨
        entry.2.isLenient options = true) ∧
      ∀ name ∈ capabilities.ownKeys record, KeyMap.find? name node.keys = none →
        ∀ item, record.find? name = some item →
          (ruleFitting capabilities options node name item).isSome = true ∨
            options.allowUnknown = true := by
  unfold descendObject Outcome.isOk
  dsimp only
  rw [Assembly.settleOthers_isEmpty_iff options path _
      (fun key item trail => walkFitting_followsRuling below path key item trail),
    walkKeys_isEmpty (followsRuling_of_key below)]
  refine and_congr (by simp [Record.get, Record.find?]) ?_
  refine forall_congr' fun name => forall_congr' fun _ => ?_
  rw [KeyMap.find?_filter fun name => !KeyMap.contains name node.keys,
    ← KeyMap.contains_eq_false_iff]
  cases KeyMap.contains name node.keys <;> simp [Record.find?]

theorem descendObject_ruling (record : Record) (path : String) (trail : Trail) :
    (descendObject capabilities options node record path trail).1.ruling =
      ruleObject capabilities options node record := by
  obtain ⟨members, value, ascending, finds⟩ := descendObject_value below record path trail
  obtain ⟨members', value', ascending', finds'⟩ := descendObject_value below record "" {}
  have same : members = members' :=
    ascending.ext ascending' fun name => (finds name).trans (finds' name).symm
  have decided : (descendObject capabilities options node record path trail).1.isOk =
      (descendObject capabilities options node record "" {}).1.isOk := by
    rw [Bool.eq_iff_iff, descendObject_isOk_iff below, descendObject_isOk_iff below]
  unfold ruleObject Outcome.ruling
  rw [value, value', same, decided]

theorem chooseItem_toOption (item : Value) (path : String) (trail : Trail) :
    (chooseItem capabilities options node item path trail).1.toOption =
      itemResult capabilities options node item := by
  unfold chooseItem itemResult
  split
  · exact walkExcluded_toOption
      (fun schema member => below schema (Node.nested_of_exclude member)) item path trail
  · exact walkFirst_toOption
      (fun schema member => below schema (Node.nested_of_include member)) item path [] trail

omit below in
theorem chooseItem_error {item : Value} {path : String} {trail : Trail} {errors : List Report}
    (failed : (chooseItem capabilities options node item path trail).1 = .error errors) :
    errors.isEmpty = false := by
  unfold chooseItem at failed
  split at failed
  · exact walkExcluded_error failed
  · rename_i included
    exact walkFirst_error (.inl (by simpa using included)) failed

theorem descendArray_ruling (items : List Value) (path : String) (trail : Trail) :
    (descendArray capabilities options node items path trail).1.ruling =
      ruleArray capabilities options node items := by
  unfold descendArray ruleArray
  split
  · rename_i unrestricted
    obtain ⟨includes, excludes⟩ := Bool.and_eq_true_iff.mp unrestricted
    have each : itemResult capabilities options node = some := by
      funext item
      simp only [itemResult, includes, if_true]
      rw [List.isEmpty_iff.mp excludes]
      rfl
    rw [each]
    simp
  · obtain ⟨values, errors⟩ := settleItems_picks path (chooseItem_toOption below)
      (fun _ _ _ _ failed => chooseItem_error failed) 0 items trail
    rw [← values, ← errors]
    rfl

theorem descend_ruling (entered : Value) (path : String) (trail : Trail) :
    (descend capabilities options node entered path trail).1.ruling =
      ruleParts capabilities options node entered := by
  unfold descend ruleParts
  cases node.constraints.kind with
  | none => rfl
  | some kind =>
      cases kind with
      | object => exact descendObject_ruling below _ path trail
      | array => exact descendArray_ruling below _ path trail
      | _ => rfl

theorem settleUnion_ruling (value : Value) (path : String) (trail : Trail) :
    (settleUnion capabilities options node value path trail).1.ruling =
      ruleUnion capabilities options node value := by
  have first := walkFirst_toOption
    (fun schema member => below schema (Node.nested_of_alternative member)) value path [] trail
  unfold settleUnion ruleUnion
  rw [← first]
  obtain ⟨errors | chosen, after⟩ :=
    walkFirst capabilities options node.alternatives value path [] trail
  · exact node.constraints.fail_ruling options _ after
  · rfl

theorem settlePlain_ruling (value : Value) (path : String) (trail : Trail) :
    (settlePlain capabilities options node value path trail).1.ruling =
      rulePlain capabilities options node value := by
  have received := node.constraints.arrive_reception options path value trail
  unfold settlePlain rulePlain
  rw [← received]
  obtain ⟨accepted | report | entered, after⟩ :=
    node.constraints.arrive options path value trail
  · rfl
  · exact node.constraints.fail_ruling options report after
  · dsimp only [Arrival.reception]
    rw [← descend_ruling below entered path after]
    exact node.constraints.leave_ruling capabilities options path _ _

theorem walk_node_ruling (value : Value) (path : String) (trail : Trail) :
    (walk capabilities options (.node node) value path trail).1.ruling =
      ruleNode capabilities options node value := by
  rw [walk_node]
  unfold ruleNode
  split
  · exact node.constraints.absent_ruling options path trail
  · split
    · exact node.constraints.failAll_ruling options _ rfl trail
    · split
      · exact settleUnion_ruling below value path trail
      · exact settlePlain_ruling below value path trail

end Node

/-- Every walk follows the ruling of its schema. -/
theorem followsRuling (schema : Schema) : schema.FollowsRuling capabilities options := by
  induction schema using nestedInduction with
  | node parts below =>
      intro value path trail
      rw [walk_node_ruling below]
      exact (walk_node_ruling below value "" {}).symm

/-- Which schema of a list accepts first does not depend on the path. -/
theorem find?_walk_isOk (schemas : List Schema) (value : Value) (path : String) :
    (schemas.find? fun schema => (walk capabilities options schema value path {}).1.isOk) =
      schemas.find? fun schema => schema.accepts capabilities options value :=
  congrArg (schemas.find? ·) (funext fun schema => schema.followsRuling.isOk value path {})

/-- The ruling of a schema is that of its root node. -/
theorem ruling_node (node : Node Schema) (value : Value) :
    (Schema.node node).ruling capabilities options value =
      ruleNode capabilities options node value :=
  walk_node_ruling (fun schema _ => schema.followsRuling) value "" {}

variable (capabilities options) in
/-- The object that a node delivers, and its members. -/
theorem ruleObject_value {node : Node Schema} (ascending : KeyMap.IsAscending node.keys)
    (record : Record) :
    ∃ delivered : Record,
      (ruleObject capabilities options node record).value = delivered.toValue ∧
        delivered.className = record.className ∧ KeyMap.IsAscending delivered.members ∧
          ∀ name, delivered.find? name = memberResult capabilities options node record name := by
  obtain ⟨members, value, sorted, finds⟩ :=
    descendObject_value (fun schema _ => schema.followsRuling) record "" {}
  refine ⟨⟨record.className, members⟩, value, rfl, sorted, fun name => ?_⟩
  change KeyMap.find? name members = _
  rw [finds, find?_declaredResults ascending]
  unfold memberResult KeyMap.contains
  cases declared : KeyMap.find? name node.keys with
  | none =>
      dsimp only
      split <;> simp
  | some schema => simp [Record.get, Record.find?]

theorem ruleObject_accepted_iff {node : Node Schema} (record : Record) :
    (ruleObject capabilities options node record).accepted = true ↔
      (∀ entry ∈ node.keys, entry.2.accepts capabilities options (record.get entry.1) = true ∨
        entry.2.isLenient options = true) ∧
      ∀ name ∈ capabilities.ownKeys record, KeyMap.find? name node.keys = none →
        ∀ item, record.find? name = some item →
          (ruleFitting capabilities options node name item).isSome = true ∨
            options.allowUnknown = true :=
  descendObject_isOk_iff (fun schema _ => schema.followsRuling) record "" {}

/-! ## How a node accepts -/

variable (capabilities options) in
/-- The ways in which a node accepts a value, with the value that it then delivers. -/
inductive NodeAccepts (node : Node Schema) : Value → Value → Prop where
  | absent (optional : node.constraints.effectivePresence options = .optional) :
      NodeAccepts node .undefined node.constraints.default
  | unwanted (forbidden : node.constraints.effectivePresence options = .forbidden) :
      NodeAccepts node .undefined .undefined
  | chosen {value result : Value} (present : value.isUndefined = false)
      (admitted : node.constraints.effectivePresence options ≠ .forbidden)
      (union : node.alternatives.isEmpty = false)
      (first : firstResult capabilities options node.alternatives value = some result) :
      NodeAccepts node value result
  | settled {value result : Value} (present : value.isUndefined = false)
      (admitted : node.constraints.effectivePresence options ≠ .forbidden)
      (plain : node.alternatives.isEmpty = true)
      (received : node.constraints.receive options value = .accepted result) :
      NodeAccepts node value result
  | entered {value entered result : Value} (present : value.isUndefined = false)
      (admitted : node.constraints.effectivePresence options ≠ .forbidden)
      (plain : node.alternatives.isEmpty = true)
      (received : node.constraints.receive options value = .entered entered)
      (parts : (ruleParts capabilities options node entered).accepted = true)
      (sanitized : sanitized? node.constraints.sanitize
        (ruleParts capabilities options node entered).value = some result) :
      NodeAccepts node value result

theorem NodeAccepts.ruleNode_eq {node : Node Schema} {value result : Value}
    (accepts : NodeAccepts capabilities options node value result) :
    ruleNode capabilities options node value = ⟨result, true⟩ := by
  cases accepts with
  | absent optional => simp [ruleNode_undefined, Constraints.ruleAbsent, optional]
  | unwanted forbidden => simp [ruleNode_undefined, Constraints.ruleAbsent, forbidden]
  | chosen present admitted union first =>
      rw [ruleNode_of_union present admitted union, ruleUnion, first]
  | settled present admitted plain received =>
      rw [ruleNode_of_plain present admitted plain, rulePlain, received]
  | entered present admitted plain received parts sanitized =>
      rw [ruleNode_of_plain present admitted plain, rulePlain, received]
      simp [Constraints.dismiss, parts, sanitized]

section Fatal

variable {node : Node Schema} (fatal : node.constraints.downgrades options = false)
include fatal

theorem refuse_rejects (value : Value) :
    (node.constraints.refuse options value).accepted = false :=
  fatal

theorem nodeAccepts_of_absent
    (accepted : (node.constraints.ruleAbsent options).accepted = true) :
    NodeAccepts capabilities options node .undefined
      (node.constraints.ruleAbsent options).value := by
  unfold Constraints.ruleAbsent at accepted ⊢
  cases presence : node.constraints.effectivePresence options with
  | optional => exact .absent presence
  | required =>
      rw [presence] at accepted
      cases (refuse_rejects fatal _).symm.trans accepted
  | forbidden => exact .unwanted presence

variable {value : Value} (present : value.isUndefined = false)
  (admitted : node.constraints.effectivePresence options ≠ .forbidden)
include present admitted

theorem nodeAccepts_of_union (union : node.alternatives.isEmpty = false)
    (accepted : (ruleUnion capabilities options node value).accepted = true) :
    NodeAccepts capabilities options node value
      (ruleUnion capabilities options node value).value := by
  unfold ruleUnion at accepted ⊢
  cases first : firstResult capabilities options node.alternatives value with
  | none =>
      rw [first] at accepted
      cases (refuse_rejects fatal _).symm.trans accepted
  | some result => exact .chosen present admitted union first

/-- A value that has entered the node is accepted if its parts are and no sanitizer panics. -/
theorem nodeAccepts_of_entered (plain : node.alternatives.isEmpty = true) {entered : Value}
    (received : node.constraints.receive options value = .entered entered)
    (accepted : (node.constraints.dismiss options
      (ruleParts capabilities options node entered)).accepted = true) :
    NodeAccepts capabilities options node value
      (node.constraints.dismiss options (ruleParts capabilities options node entered)).value := by
  unfold Constraints.dismiss at accepted ⊢
  cases parts : (ruleParts capabilities options node entered).accepted with
  | false =>
      rw [parts] at accepted
      cases (refuse_rejects fatal _).symm.trans accepted
  | true =>
      rw [parts] at accepted
      cases sanitized : sanitized? node.constraints.sanitize
          (ruleParts capabilities options node entered).value with
      | none =>
          rw [sanitized] at accepted
          cases (refuse_rejects fatal _).symm.trans accepted
      | some result => exact .entered present admitted plain received parts sanitized

theorem nodeAccepts_of_plain (plain : node.alternatives.isEmpty = true)
    (accepted : (rulePlain capabilities options node value).accepted = true) :
    NodeAccepts capabilities options node value
      (rulePlain capabilities options node value).value := by
  unfold rulePlain at accepted ⊢
  cases received : node.constraints.receive options value with
  | accepted result => exact .settled present admitted plain received
  | rejected =>
      rw [received] at accepted
      cases (refuse_rejects fatal _).symm.trans accepted
  | entered entered =>
      rw [received] at accepted
      exact nodeAccepts_of_entered fatal present admitted plain received accepted

omit present admitted in
/-- A node that does not downgrade its failures accepts in no other way. -/
theorem nodeAccepts_of_accepted
    (accepted : (ruleNode capabilities options node value).accepted = true) :
    NodeAccepts capabilities options node value
      (ruleNode capabilities options node value).value := by
  cases present : value.isUndefined with
  | true =>
      cases value with
      | undefined => exact nodeAccepts_of_absent fatal accepted
      | _ => cases present
  | false =>
      by_cases admitted : node.constraints.effectivePresence options = .forbidden
      · rw [ruleNode_of_forbidden present admitted] at accepted
        cases (refuse_rejects fatal _).symm.trans accepted
      · cases alternatives : node.alternatives.isEmpty with
        | false =>
            rw [ruleNode_of_union present admitted alternatives] at accepted ⊢
            exact nodeAccepts_of_union fatal present admitted alternatives accepted
        | true =>
            rw [ruleNode_of_plain present admitted alternatives] at accepted ⊢
            exact nodeAccepts_of_plain fatal present admitted alternatives accepted

end Fatal

end Schema

end SchemaValidation
