import SchemaValidation.Schema.Basic

/-!
# Schemas as trees

Every law about schemas is an induction over the tree.  The nested schemas of a
node sit in five places; here they are one list, so that an induction has one
hypothesis and a condition on all nodes of a tree is one predicate.
-/

namespace SchemaValidation

namespace Node

variable {α : Type} {node : Node α} {item : α}

/-- The schemas directly below a node. -/
def nested (node : Node α) : List α :=
  node.keys.map Prod.snd ++ ((node.pattern.map Prod.snd).toList ++
    (node.includes ++ (node.excludes ++ node.alternatives)))

theorem nested_of_key {key : String} (declared : (key, item) ∈ node.keys) :
    item ∈ node.nested :=
  List.mem_append_left _ (List.mem_map_of_mem declared)

theorem nested_of_pattern {pattern : Pattern} (same : node.pattern = some (pattern, item)) :
    item ∈ node.nested := by
  simp [Node.nested, same]

theorem nested_of_include (included : item ∈ node.includes) : item ∈ node.nested := by
  simp [Node.nested, included]

theorem nested_of_exclude (excluded : item ∈ node.excludes) : item ∈ node.nested := by
  simp [Node.nested, excluded]

theorem nested_of_alternative (alternative : item ∈ node.alternatives) :
    item ∈ node.nested := by
  simp [Node.nested, alternative]

/-- A node whose schemas stay as they are stays as it is. -/
theorem map_id (node : Node α) : node.map id = node := by
  obtain ⟨constraints, keys, pattern, includes, excludes, alternatives⟩ := node
  unfold Node.map KeyMap.mapItems
  cases pattern <;> simp

theorem map_map {β γ : Type} (f : α → β) (g : β → γ) (node : Node α) :
    (node.map f).map g = node.map (g ∘ f) := by
  unfold Node.map KeyMap.mapItems
  simp [Function.comp_def]

/-- Below a node with images in the place of its schemas are just these images. -/
theorem nested_map {β : Type} (f : α → β) (node : Node α) :
    (node.map f).nested = node.nested.map f := by
  unfold nested Node.map KeyMap.mapItems
  cases node.pattern <;> simp [Function.comp_def]

/-- A condition on everything nested in a node, place by place. -/
theorem forall_nested_iff {holds : α → Prop} (node : Node α) :
    (∀ item ∈ node.nested, holds item) ↔
      (∀ entry ∈ node.keys, holds entry.2) ∧ (∀ entry ∈ node.pattern, holds entry.2) ∧
        (∀ item ∈ node.includes, holds item) ∧ (∀ item ∈ node.excludes, holds item) ∧
          ∀ item ∈ node.alternatives, holds item := by
  unfold nested
  simp only [List.forall_mem_append, List.forall_mem_map]
  cases node.pattern <;> simp

end Node

namespace Schema

/-- Induction over a schema with one hypothesis for all schemas directly below its root. -/
theorem nestedInduction {motive : Schema → Prop}
    (node : ∀ parts : Node Schema, (∀ schema ∈ parts.nested, motive schema) →
      motive (.node parts))
    (schema : Schema) : motive schema := by
  refine @Schema.rec motive
    (fun parts => ∀ schema ∈ parts.nested, motive schema)
    (fun keys => ∀ entry ∈ keys, motive entry.2)
    (fun pattern => ∀ entry ∈ pattern, motive entry.2)
    (fun schemas => ∀ schema ∈ schemas, motive schema)
    (fun entry => motive entry.2) (fun entry => motive entry.2)
    node ?parts (by simp) ?keys (by simp) ?pattern (by simp) ?schemas
    (fun _ _ ih => ih) (fun _ _ ih => ih) schema
  case parts =>
    intro constraints keys pattern includes excludes alternatives
      ihKeys ihPattern ihIncludes ihExcludes ihAlternatives schema member
    simp only [Node.nested, List.mem_append, List.mem_map, Option.mem_toList,
      Option.map_eq_some_iff] at member
    rcases member with ⟨entry, member, rfl⟩ | ⟨entry, same, rfl⟩ | member | member | member
    · exact ihKeys entry member
    · exact ihPattern entry same
    · exact ihIncludes schema member
    · exact ihExcludes schema member
    · exact ihAlternatives schema member
  case keys =>
    intro first rest ihFirst ihRest entry member
    rcases List.mem_cons.mp member with rfl | member
    · exact ihFirst
    · exact ihRest entry member
  case pattern =>
    intro entry ih other same
    cases same
    exact ih
  case schemas =>
    intro first rest ihFirst ihRest schema member
    rcases List.mem_cons.mp member with rfl | member
    · exact ihFirst
    · exact ihRest schema member

/-- A condition holds at every node of a schema. -/
inductive Everywhere (holds : Node Schema → Prop) : Schema → Prop where
  | node {parts : Node Schema} (here : holds parts)
      (below : ∀ schema ∈ parts.nested, Everywhere holds schema) :
      Everywhere holds (.node parts)

namespace Everywhere

variable {holds : Node Schema → Prop} {parts : Node Schema} {schema : Schema}

theorem root (everywhere : Everywhere holds (.node parts)) : holds parts := by
  cases everywhere with
  | node here below => exact here

theorem nested (everywhere : Everywhere holds (.node parts)) (member : schema ∈ parts.nested) :
    Everywhere holds schema := by
  cases everywhere with
  | node here below => exact below schema member

theorem imp {weaker : Node Schema → Prop} (everywhere : Everywhere holds schema)
    (implied : ∀ parts, holds parts → weaker parts) : Everywhere weaker schema := by
  induction everywhere with
  | node here below ih => exact .node (implied _ here) ih

/-- What holds of all nodes holds at every node of a schema. -/
theorem of_forall (always : ∀ parts, holds parts) (schema : Schema) : Everywhere holds schema := by
  induction schema using nestedInduction with
  | node parts ih => exact .node (always parts) ih

end Everywhere

/-- At every node the declared names stand in ascending order, as a collection by name keeps them. -/
def IsWellFormed (schema : Schema) : Prop :=
  schema.Everywhere fun node => KeyMap.IsAscending node.keys

end Schema

end SchemaValidation
