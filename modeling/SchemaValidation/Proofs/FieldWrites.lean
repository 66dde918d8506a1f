import Mathlib.Data.List.Induction
import Mathlib.Logic.Function.Basic
import SchemaValidation.Proofs.DeepMerge
import SchemaValidation.Proofs.Recompilation

/-!
# Chains field by field

A step of a chain writes items to one field of the node, and what becomes of a
field is decided by the items that are written to it, in their order.  So steps
on different fields can change places, and a step that lists several items can
be split into steps with one item each.
-/

namespace SchemaValidation

variable {α : Type}

/-- The fields of a node. -/
inductive Field where
  | kind
  | presence
  | default
  | allowed
  | valid
  | invalid
  | checks
  | checksAfter
  | aliases
  | sanitizeBefore
  | sanitize
  | insensitive
  | keys
  | pattern
  | includes
  | excludes
  | alternatives
deriving DecidableEq

/-- The items that are written to a field, nested schemas being of type `α`. -/
abbrev Field.Item (α : Type) : Field → Type
  | kind => Option Kind
  | presence => Presence
  | default => Value
  | allowed => Value
  | valid => Value
  | invalid => Value
  | checks => Check
  | checksAfter => Check
  | aliases => Record
  | sanitizeBefore => Sanitizer
  | sanitize => Sanitizer
  | insensitive => Unit
  | keys => String × α
  | pattern => Pattern × α
  | includes => α
  | excludes => α
  | alternatives => α

namespace Refinement

/-- The field to which a step writes. -/
def field : Refinement α → Field
  | root _ => .kind
  | presence _ => .presence
  | default _ => .default
  | allow _ => .allowed
  | valid _ => .valid
  | invalid _ => .invalid
  | aliases _ => .aliases
  | checkAfter _ => .checksAfter
  | satisfy _ => .checks
  | sanitize _ => .sanitize
  | sanitizeBefore _ => .sanitizeBefore
  | keys _ => .keys
  | pattern _ _ => .pattern
  | includes _ => .includes
  | excludes _ => .excludes
  | alternatives _ => .alternatives
  | insensitive => .insensitive

/-- The items that a step writes to its field, in their order. -/
def items : (step : Refinement α) → List (step.field.Item α)
  | root kind => [kind]
  | presence demanded => [demanded]
  | default value => [value]
  | allow values => values
  | valid values => values
  | invalid values => values
  | aliases table => [table]
  | checkAfter check => [check]
  | satisfy check => [check]
  | sanitize sanitizer => [sanitizer]
  | sanitizeBefore sanitizer => [sanitizer]
  | keys entries => entries
  | pattern given schema => [(given, schema)]
  | includes schemas => schemas
  | excludes schemas => schemas
  | alternatives schemas => schemas
  | insensitive => [()]

/-- The items that a step writes to some field. -/
def itemsFor (field : Field) (step : Refinement α) : List (field.Item α) :=
  if same : step.field = field then same ▸ step.items else []

/-- The step, or if it lists items, the steps with one of them each. -/
def singles : Refinement α → List (Refinement α)
  | allow values => values.map fun value => allow [value]
  | valid values => values.map fun value => valid [value]
  | invalid values => values.map fun value => invalid [value]
  | keys entries => entries.map fun entry => keys [entry]
  | includes schemas => schemas.map fun schema => includes [schema]
  | excludes schemas => schemas.map fun schema => excludes [schema]
  | alternatives schemas => schemas.map fun schema => alternatives [schema]
  | step => [step]

theorem itemsFor_field (step : Refinement α) : step.itemsFor step.field = step.items :=
  dif_pos rfl

theorem itemsFor_of_ne {field : Field} {step : Refinement α} (other : step.field ≠ field) :
    step.itemsFor field = [] :=
  dif_neg other

theorem field_of_mem_singles {step single : Refinement α} (member : single ∈ step.singles) :
    single.field = step.field := by
  cases step <;> simp only [singles, List.mem_map, List.mem_singleton] at member <;>
    first
    | exact congrArg field member
    | obtain ⟨item, -, rfl⟩ := member; rfl

theorem singles_items (step : Refinement α) :
    step.singles.flatMap (itemsFor step.field) = step.items := by
  cases step with
  | allow values | valid values | invalid values | keys values | includes values | excludes values
  | alternatives values =>
      refine (List.flatMap_map ..).trans ?_
      exact List.flatMap_singleton' values
  | _ => exact List.append_nil _

theorem singles_singles (step : Refinement α) : step.singles.flatMap singles = step.singles := by
  cases step with
  | allow values | valid values | invalid values | keys values | includes values | excludes values
  | alternatives values =>
      refine (List.flatMap_map ..).trans ?_
      exact List.map_eq_flatMap.symm
  | _ => rfl

end Refinement

/-- The items that the steps of a chain write to a field, in their order. -/
def written (steps : List (Refinement α)) (field : Field) : List (field.Item α) :=
  steps.flatMap (Refinement.itemsFor field)

/-- The node whose fields are made of the items that are written to them: all of them in lists, the
last one in fields that hold one, the last one for every name among the members, and the tables of
aliases merged. -/
def Node.ofItems (items : (field : Field) → List (field.Item α)) : Node α where
  constraints := {
    kind := (items .kind).getLast?.getD none
    presence := (items .presence).getLast?
    default := (items .default).getLast?.getD .undefined
    allowed := items .allowed
    valid := items .valid
    invalid := items .invalid
    checks := items .checks
    checksAfter := items .checksAfter
    aliases := .mergeAll (items .aliases)
    sanitizeBefore := items .sanitizeBefore
    sanitize := items .sanitize
    insensitive := !(items .insensitive).isEmpty }
  keys := KeyMap.ofList (items .keys)
  pattern := (items .pattern).getLast?
  includes := items .includes
  excludes := items .excludes
  alternatives := items .alternatives

theorem Node.refine_ofItems (items : (field : Field) → List (field.Item α)) (step : Refinement α) :
    (Node.ofItems items).refine step =
      Node.ofItems fun field => items field ++ step.itemsFor field := by
  have updated : (fun field => items field ++ step.itemsFor field) =
      Function.update items step.field (items step.field ++ step.items) := by
    funext field
    by_cases same : step.field = field
    · subst same
      rw [Function.update_self, Refinement.itemsFor_field]
    · rw [Function.update_of_ne (Ne.symm same), Refinement.itemsFor_of_ne same, List.append_nil]
  rw [updated]
  let node := ofItems items
  cases step with
  | root kind =>
      have last : some kind = (items .kind ++ [kind]).getLast? := List.getLast?_concat.symm
      exact congrArg (fun last : Option (Option Kind) =>
        { node with constraints := { node.constraints with kind := last.getD none } }) last
  | presence demanded =>
      have last : some demanded = (items .presence ++ [demanded]).getLast? :=
        List.getLast?_concat.symm
      exact congrArg (fun last =>
        { node with constraints := { node.constraints with presence := last } }) last
  | default value =>
      have last : some value = (items .default ++ [value]).getLast? := List.getLast?_concat.symm
      exact congrArg (fun last : Option Value =>
        { node with constraints := { node.constraints with default := last.getD .undefined } }) last
  | pattern given schema =>
      have last : some (given, schema) = (items .pattern ++ [(given, schema)]).getLast? :=
        List.getLast?_concat.symm
      exact congrArg (fun last => { node with pattern := last }) last
  | aliases table =>
      have merged : (Record.mergeAll (items .aliases)).merge table =
          .mergeAll (items .aliases ++ [table]) := Record.mergeAll_concat.symm
      exact congrArg (fun merged =>
        { node with constraints := { node.constraints with aliases := merged } }) merged
  | keys entries =>
      have laid : KeyMap.overlay (KeyMap.ofList (items .keys)) entries =
          KeyMap.ofList (items .keys ++ entries) := List.foldl_append.symm
      exact congrArg (fun laid => { node with keys := laid }) laid
  | insensitive =>
      have filled : true = !(items .insensitive ++ [()]).isEmpty := by simp
      exact congrArg (fun filled =>
        { node with constraints := { node.constraints with insensitive := filled } }) filled
  | _ => rfl

/-- A chain describes the node whose fields are made of what its steps write to them. -/
theorem Node.ofRefinements_eq (steps : List (Refinement α)) :
    Node.ofRefinements steps = Node.ofItems (written steps) := by
  induction steps using List.reverseRecOn with
  | nil => rfl
  | append_singleton steps step ih =>
      have last : written (steps ++ [step]) =
          fun field => written steps field ++ step.itemsFor field := by
        funext field
        exact List.flatMap_append.trans (congrArg (written steps field ++ ·) (List.append_nil _))
      have folded : ofRefinements (steps ++ [step]) = (ofRefinements steps).refine step :=
        List.foldl_concat ..
      rw [folded, ih, refine_ofItems, last]

/-! ## Chains with the same steps on every field -/

/-- Two chains arise from each other by moving steps past steps on other fields and by putting steps
with one item each in place of a step that lists them, or back. -/
inductive Rearranged : List (Refinement α) → List (Refinement α) → Prop where
  | reordered {first second : List (Refinement α)}
      (same : ∀ field, (first.filter fun step => step.field = field) =
        second.filter fun step => step.field = field) : Rearranged first second
  | split (front : List (Refinement α)) (step : Refinement α) (back : List (Refinement α)) :
      Rearranged (front ++ step :: back) (front ++ step.singles ++ back)
  | symm {first second : List (Refinement α)} (back : Rearranged second first) :
      Rearranged first second
  | trans {first second third : List (Refinement α)} (front : Rearranged first second)
      (back : Rearranged second third) : Rearranged first third

/-- Two chains have the same steps on every field, in the same order, where a list of items counts
as steps with one item each. -/
def SameByField (first second : List (Refinement α)) : Prop :=
  ∀ field, ((first.flatMap Refinement.singles).filter fun step => step.field = field) =
    (second.flatMap Refinement.singles).filter fun step => step.field = field

/-- Steps with one item each write what the steps write that list them. -/
theorem written_singles (steps : List (Refinement α)) :
    written (steps.flatMap Refinement.singles) = written steps := by
  funext field
  have each (step : Refinement α) :
      step.singles.flatMap (Refinement.itemsFor field) = step.itemsFor field := by
    by_cases same : step.field = field
    · subst same
      rw [step.singles_items, step.itemsFor_field]
    · rw [Refinement.itemsFor_of_ne same]
      refine List.flatMap_eq_nil_iff.mpr fun single member => ?_
      exact Refinement.itemsFor_of_ne (Refinement.field_of_mem_singles member ▸ same)
  unfold written
  rw [List.flatMap_assoc]
  exact List.flatMap_congr fun step _ => each step

/-- What is written to a field is written by the steps on this field. -/
theorem written_filter (steps : List (Refinement α)) (field : Field) :
    written (steps.filter fun step => step.field = field) field = written steps field := by
  induction steps with
  | nil => rfl
  | cons step rest ih =>
      have split : written (step :: rest) field = step.itemsFor field ++ written rest field := rfl
      by_cases same : step.field = field
      · rw [List.filter_cons_of_pos (by simpa using same), split, ← ih]
        rfl
      · rw [List.filter_cons_of_neg (by simpa using same), split, ih,
          Refinement.itemsFor_of_ne same, List.nil_append]

theorem SameByField.written_eq {first second : List (Refinement α)}
    (same : SameByField first second) : written first = written second := by
  rw [← written_singles first, ← written_singles second]
  funext field
  rw [← written_filter, same field, written_filter]

/-- The steps on a field may be selected before their lists are split. -/
theorem filter_singles (steps : List (Refinement α)) (field : Field) :
    ((steps.flatMap Refinement.singles).filter fun step => step.field = field) =
      (steps.filter fun step => step.field = field).flatMap Refinement.singles := by
  induction steps with
  | nil => rfl
  | cons step rest ih =>
      rw [List.flatMap_cons, List.filter_append, ih]
      by_cases here : step.field = field
      · have kept : (step.singles.filter fun single => single.field = field) = step.singles :=
          List.filter_eq_self.mpr fun single member => by
            simpa [Refinement.field_of_mem_singles member] using here
        rw [kept, List.filter_cons_of_pos (by simpa using here), List.flatMap_cons]
      · have left : (step.singles.filter fun single => single.field = field) = [] :=
          List.filter_eq_nil_iff.mpr fun single member => by
            simpa [Refinement.field_of_mem_singles member] using here
        rw [left, List.filter_cons_of_neg (by simpa using here), List.nil_append]

theorem Rearranged.sameByField {first second : List (Refinement α)}
    (rearranged : Rearranged first second) : SameByField first second := by
  induction rearranged with
  | reordered same =>
      intro field
      rw [filter_singles, filter_singles, same]
  | split front step back =>
      have listed : (front ++ step.singles ++ back).flatMap Refinement.singles =
          (front ++ step :: back).flatMap Refinement.singles := by
        simp only [List.flatMap_append, List.flatMap_cons, step.singles_singles,
          List.append_assoc]
      intro field
      rw [listed]
  | symm _ ih => exact fun field => (ih field).symm
  | trans _ _ ih ih' => exact fun field => (ih field).trans (ih' field)

/-! ## Chains of frozen schemas -/

/-- Among pairs, the last one with a name counts. -/
theorem KeyMap.find?_ofList_last (name : String) (pairs : List (String × α)) :
    find? name (ofList pairs) =
      (pairs.filter fun entry => entry.1 = name).getLast?.map Prod.snd := by
  induction pairs using List.reverseRecOn with
  | nil => rfl
  | append_singleton pairs entry ih =>
      have last : ofList (pairs ++ [entry]) = insert entry.1 entry.2 (ofList pairs) :=
        List.foldl_concat ..
      rw [last, List.filter_append]
      by_cases same : entry.1 = name
      · rw [← same, find?_insert_self]
        simp
      · rw [find?_insert_of_ne (Ne.symm same), ih]
        simp [same]

namespace Compilation

variable (supply : Supply)

theorem all_frozen (schemas : List Frozen) :
    all (schemas.map fun schema => (Source.frozen schema).compile) supply =
      (schemas.map Frozen.schema, supply) := by
  induction schemas with
  | nil => rfl
  | cons schema rest ih =>
      exact congrArg (fun made : List Schema × Supply => (schema.schema :: made.1, made.2)) ih

theorem entries_frozen (keys : List (String × Frozen)) :
    entries (KeyMap.mapItems (fun schema => (Source.frozen schema).compile) keys) supply =
      (KeyMap.mapItems Frozen.schema keys, supply) := by
  induction keys with
  | nil => rfl
  | cons entry rest ih =>
      exact congrArg (fun made : List (String × Schema) × Supply =>
        ((entry.1, entry.2.schema) :: made.1, made.2)) ih

theorem optional_frozen (pattern : Option (Pattern × Frozen)) :
    optional (pattern.map fun entry => (entry.1, (Source.frozen entry.2).compile)) supply =
      (pattern.map fun entry => (entry.1, entry.2.schema), supply) := by
  cases pattern <;> rfl

/-- A node of frozen schemas is frozen under the next identity, and nothing else is. -/
theorem ofNode_frozen (node : Node Frozen) :
    ofNode (node.map fun schema => (Source.frozen schema).compile) supply =
      supply.freeze (.node (node.map Frozen.schema)) := by
  simp only [ofNode, Node.map, entries_frozen, optional_frozen, all_frozen]

end Compilation

namespace Source

/-- A chain whose nested schemas are frozen is compiled to the node that it describes. -/
theorem compile_frozen_chain (steps : List (Refinement Frozen)) (supply : Supply) :
    (chain (steps.map (Refinement.map frozen))).compile supply =
      supply.freeze (.node ((Node.ofItems (written steps)).map Frozen.schema)) := by
  rw [compile_of_steps rfl, Node.ofRefinements_map, Node.map_map, Node.ofRefinements_eq]
  exact Compilation.ofNode_frozen supply _

/--
Only the order of the steps on one field counts.  Chains that arise from each other
by moving steps past steps on other fields, and by splitting steps that list items
or joining them again, are compiled to equal schemas.  What is compiled is the node
whose lists are what the steps write to them, one after the other, whose kind,
presence, default and pattern are the last ones, whose aliases are the tables merged
from the first to the last, and which has under every name the last schema that was
declared for it.
-/
theorem compile_field_by_field (steps : List (Refinement Frozen)) (supply : Supply) :
    let compiled (steps : List (Refinement Frozen)) (supply : Supply) : Schema :=
      ((chain (steps.map (Refinement.map frozen))).compile supply).1.schema
    (∀ other, Rearranged steps other → ∀ supply',
      (compiled steps supply).equals (compiled other supply') = true) ∧
    compiled steps supply = .node ((Node.ofItems (written steps)).map Frozen.schema) ∧
    ∀ name, KeyMap.find? name (compiled steps supply).root.keys =
      ((written steps .keys).filter fun entry => entry.1 = name).getLast?.map
        fun entry => entry.2.schema := by
  intro compiled
  have made (steps : List (Refinement Frozen)) (supply : Supply) :
      compiled steps supply = .node ((Node.ofItems (written steps)).map Frozen.schema) :=
    congrArg (fun made => made.1.schema) (compile_frozen_chain steps supply)
  refine ⟨fun other rearranged supply' => ?_, made steps supply, fun name => ?_⟩
  · rw [made, made, rearranged.sameByField.written_eq]
    exact Schema.equals_self _
  · have last : KeyMap.find? name (Node.ofItems (written steps)).keys = _ :=
      KeyMap.find?_ofList_last name (written steps .keys)
    rw [made]
    refine (KeyMap.find?_mapItems ..).trans ?_
    rw [last, Option.map_map]
    rfl

/-- Steps on six fields change places, and the list of two values is split. -/
theorem compile_field_by_field_rearranged :
    let leaf (kind : Kind) : Frozen := ⟨0, .node { constraints := { kind := some kind } }⟩
    let table (target : Value) : Record := .ofList [("k", target)]
    let first : List (Refinement Frozen) := [
      .root (some .object), .valid [.boolean true, .null], .keys [("a", leaf .string)],
      .presence .required, .aliases (table .null), .includes [leaf .array],
      .valid [.string "x"], .keys [("a", leaf .number)], .presence .optional,
      .aliases (table (.string "y"))]
    let second : List (Refinement Frozen) := [
      .aliases (table .null), .valid [.boolean true], .valid [.null], .presence .required,
      .presence .optional, .includes [leaf .array], .keys [("a", leaf .string)],
      .keys [("a", leaf .number)], .valid [.string "x"], .aliases (table (.string "y")),
      .root (some .object)]
    Rearranged first second ∧
      ((chain (first.map (Refinement.map frozen))).compile {}).1.schema.equals
        ((chain (second.map (Refinement.map frozen))).compile ⟨7, 1⟩).1.schema = true := by
  intro leaf table first second
  let between : List (Refinement Frozen) := [
    .root (some .object), .valid [.boolean true], .valid [.null], .keys [("a", leaf .string)],
    .presence .required, .aliases (table .null), .includes [leaf .array],
    .valid [.string "x"], .keys [("a", leaf .number)], .presence .optional,
    .aliases (table (.string "y"))]
  have apart : Rearranged first between :=
    .split [.root (some .object)] (.valid [.boolean true, .null]) (first.drop 2)
  have moved : Rearranged between second := .reordered fun field => by cases field <;> rfl
  have rearranged : Rearranged first second := apart.trans moved
  exact ⟨rearranged, (compile_field_by_field first {}).1 second rearranged ⟨7, 1⟩⟩

end Source

end SchemaValidation
