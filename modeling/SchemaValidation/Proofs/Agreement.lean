import SchemaValidation.Proofs.Parts
import SchemaValidation.Proofs.TrailFrame

/-!
# Two walks side by side

Two walks, along different schemas or under different options, are compared step
by step.  They agree if they come to the same outcome and leave trails that
compare.  How trails are compared is left open: in all that they hold, in their
warnings alone, or not at all.  Each lemma below takes the agreement of the parts
as a hypothesis, so that a law of two walks is an induction over the schema with
one condition on every node.
-/

namespace SchemaValidation

/-- A way to compare trails that is kept when trails are laid behind each other and when warnings
are taken back. -/
structure Trail.Comparison (same : Trail → Trail → Prop) : Prop where
  refl : ∀ trail, same trail trail
  append : ∀ {before before' after after' : Trail}, same before before' → same after after' →
    same (before ++ after) (before' ++ after')
  takeBack : ∀ {trail trail' : Trail}, same trail trail' →
    same (trail.takeBack 0) (trail'.takeBack 0)

namespace Trail

/-- Trails are compared in all that they hold. -/
theorem comparison_eq : Comparison (· = ·) where
  refl _ := rfl
  append same same' := same ▸ same' ▸ rfl
  takeBack same := same ▸ rfl

/-- Two trails have the same warnings. -/
def SameWarnings (trail trail' : Trail) : Prop :=
  trail.warnings = trail'.warnings

/-- Trails are compared in their warnings alone. -/
theorem comparison_sameWarnings : Comparison SameWarnings where
  refl _ := rfl
  append same same' := by rw [SameWarnings, append_warnings, append_warnings, same, same']
  takeBack same := congrArg (List.take 0) same

/-- Trails are not compared. -/
theorem comparison_none : Comparison fun _ _ => True where
  refl _ := trivial
  append _ _ := trivial
  takeBack _ := trivial

/-- Taking back all warnings behind a trail. -/
theorem takeBack_mark (before after : Trail) :
    (before ++ after).takeBack before.mark = before ++ after.takeBack 0 := by
  have whole := takeBack_append before {} after
  rwa [append_empty] at whole

namespace Comparison

variable {same : Trail → Trail → Prop} (comparison : Comparison same) {trail trail' : Trail}
  (before : same trail trail')
include comparison before

theorem warn (reports : List Report) : same (trail.warn reports) (trail'.warn reports) := by
  have added := comparison.append before (comparison.refl (({} : Trail).warn reports))
  rwa [← warn_append, ← warn_append, append_empty, append_empty] at added

theorem countOwnKeys : same trail.countOwnKeys trail'.countOwnKeys := by
  have added := comparison.append before (comparison.refl ({} : Trail).countOwnKeys)
  rwa [← countOwnKeys_append, ← countOwnKeys_append, append_empty, append_empty] at added

end Comparison

end Trail

/-- Two steps come to the same result and leave trails that compare. -/
structure Agrees {α : Type} (same : Trail → Trail → Prop) (one other : α × Trail) : Prop where
  result : one.1 = other.1
  trail : same one.2 other.2

namespace Agrees

open Trail

variable {α : Type} {same : Trail → Trail → Prop} (comparison : Comparison same)
  {trail trail' : Trail}
include comparison

theorem refl (one : α × Trail) : Agrees same one one :=
  ⟨rfl, comparison.refl _⟩

/-- Laid behind trails that compare, endings that agree still agree. -/
theorem behind {one other : α × Trail} (agrees : Agrees same one other)
    (before : same trail trail') : Agrees same (one.1, trail ++ one.2) (other.1, trail' ++ other.2) :=
  ⟨agrees.result, comparison.append before agrees.trail⟩

/-- Steps that agree on the empty trail agree on trails that compare. -/
theorem on {step step' : Trail → α × Trail} (agrees : Agrees same (step {}) (step' {}))
    (adds : OnlyAdds step) (adds' : OnlyAdds step') (before : same trail trail') :
    Agrees same (step trail) (step' trail') := by
  rw [adds.eq_append, adds'.eq_append]
  exact agrees.behind comparison before

/-- A step agrees with itself on trails that compare. -/
theorem of_onlyAdds {step : Trail → α × Trail} (adds : OnlyAdds step)
    (before : same trail trail') : Agrees same (step trail) (step trail') :=
  (refl comparison (step {})).on comparison adds adds before

end Agrees

/-- Two sets of options treat the members of objects in the same way. -/
structure Options.AgreeOnMembers (options options' : Options) : Prop where
  allowUnknown : options.allowUnknown = options'.allowUnknown
  stripUnknown : options.stripUnknown = options'.stripUnknown
  warnUnknown : options.warnUnknown = options'.warnUnknown
  warnOnInvalidOptionals : options.warnOnInvalidOptionals = options'.warnOnInvalidOptionals

theorem Options.AgreeOnMembers.refl (options : Options) : options.AgreeOnMembers options :=
  ⟨rfl, rfl, rfl, rfl⟩

open Trail

variable {capabilities : Capabilities} {options options' : Options}
  {same : Trail → Trail → Prop} {trail trail' : Trail}

namespace Assembly

variable (members : options.AgreeOnMembers options') (assembly : Assembly)
include members

theorem settleDeclared_of_agreeOnMembers (presence : Presence) (key : String)
    (outcome : Outcome) :
    assembly.settleDeclared options' presence key outcome =
      assembly.settleDeclared options presence key outcome := by
  unfold settleDeclared
  rw [members.warnOnInvalidOptionals]

theorem settleUnknown_of_agreeOnMembers (key : String) (item : Value) (report : Report) :
    assembly.settleUnknown options' key item report =
      assembly.settleUnknown options key item report := by
  unfold settleUnknown
  rw [members.allowUnknown, members.stripUnknown, members.warnUnknown]

end Assembly

namespace Schema

/-! ## Choices and the items of a list -/

section Choices

variable (comparison : Comparison same) {image : Schema → Schema} {value : Value} {path : String}
include comparison

theorem walkFirst_agrees {schemas : List Schema}
    (each : ∀ schema ∈ schemas, Agrees same (walk capabilities options schema value path {})
      (walk capabilities options' (image schema) value path {}))
    (reports : List Report) (before : same trail trail') :
    Agrees same (walkFirst capabilities options schemas value path reports trail)
      (walkFirst capabilities options' (schemas.map image) value path reports trail') := by
  induction schemas generalizing reports trail trail' with
  | nil => exact ⟨rfl, before⟩
  | cons schema rest ih =>
      obtain ⟨first, others⟩ := List.forall_mem_cons.mp each
      rw [List.map_cons]
      unfold walkFirst
      dsimp only
      rw [walk_eq_append, walk_eq_append options', ← first.result, takeBack_mark, takeBack_mark]
      split
      · exact ⟨rfl, comparison.append before first.trail⟩
      · exact ih others _ (comparison.append before (comparison.takeBack first.trail))

theorem walkExcluded_agrees {schemas : List Schema}
    (each : ∀ schema ∈ schemas, Agrees same (walk capabilities options schema value path {})
      (walk capabilities options' (image schema) value path {}))
    (before : same trail trail') :
    Agrees same (walkExcluded capabilities options schemas value path trail)
      (walkExcluded capabilities options' (schemas.map image) value path trail') := by
  induction schemas generalizing trail trail' with
  | nil => exact ⟨rfl, before⟩
  | cons schema rest ih =>
      obtain ⟨first, others⟩ := List.forall_mem_cons.mp each
      have kept := comparison.append before (comparison.takeBack first.trail)
      rw [List.map_cons]
      unfold walkExcluded
      dsimp only
      rw [walk_eq_append, walk_eq_append options', ← first.result, takeBack_mark, takeBack_mark]
      split
      · exact ⟨rfl, kept⟩
      · exact ih others kept

end Choices

theorem settleItems_agrees
    {choose choose' : Value → String → Trail → Except (List Report) Value × Trail}
    {path : String} {items : List Value}
    (each : ∀ item ∈ items, ∀ path, ∀ {trail trail'}, same trail trail' →
      Agrees same (choose item path trail) (choose' item path trail'))
    (index : Nat) (before : same trail trail') :
    (settleItems path choose index items trail).1 =
        (settleItems path choose' index items trail').1 ∧
      (settleItems path choose index items trail).2.1 =
        (settleItems path choose' index items trail').2.1 ∧
      same (settleItems path choose index items trail).2.2
        (settleItems path choose' index items trail').2.2 := by
  induction items generalizing index trail trail' with
  | nil => exact ⟨rfl, rfl, before⟩
  | cons item rest ih =>
      obtain ⟨first, others⟩ := List.forall_mem_cons.mp each
      obtain ⟨chosen, after⟩ := first ((Slot.index index).join path) before
      obtain ⟨values, errors, behind⟩ := ih others (index + 1) after
      unfold settleItems
      rcases run : choose item ((Slot.index index).join path) trail with ⟨reports | value, left⟩
      all_goals
        rcases run' : choose' item ((Slot.index index).join path) trail' with ⟨result, left'⟩
        rw [run, run'] at chosen values errors behind
        cases chosen
      · exact ⟨values, congrArg (reports ++ ·) errors, behind⟩
      · exact ⟨congrArg (value :: ·) values, errors, behind⟩

/-! ## The members of an object -/

section Members

variable (comparison : Comparison same) (members : options.AgreeOnMembers options')
  {image : Schema → Schema}
include comparison members

theorem walkKeys_agrees {keys : List (String × Schema)} {given : List (String × Value)}
    {path : String}
    (presence : ∀ entry ∈ keys, (image entry.2).root.constraints.effectivePresence options' =
      entry.2.root.constraints.effectivePresence options)
    (each : ∀ entry ∈ keys, Agrees same
      (walk capabilities options entry.2 ((KeyMap.find? entry.1 given).getD .undefined)
        ((Slot.key entry.1).join path) {})
      (walk capabilities options' (image entry.2) ((KeyMap.find? entry.1 given).getD .undefined)
        ((Slot.key entry.1).join path) {}))
    (assembly : Assembly) (before : same trail trail') :
    Agrees same (walkKeys capabilities options keys given path assembly trail)
      (walkKeys capabilities options' (KeyMap.mapItems image keys) given path assembly
        trail') := by
  induction keys generalizing assembly trail trail' with
  | nil => exact ⟨rfl, before⟩
  | cons entry rest ih =>
      obtain ⟨key, schema⟩ := entry
      obtain ⟨same_presence, presences⟩ := List.forall_mem_cons.mp presence
      obtain ⟨first, others⟩ := List.forall_mem_cons.mp each
      have walked := first.behind comparison before
      have settled := Agrees.of_onlyAdds comparison (assembly.settleDeclared_onlyAdds options
        (schema.root.constraints.effectivePresence options) key
        (walk capabilities options schema ((KeyMap.find? key given).getD .undefined)
          ((Slot.key key).join path) {}).1) walked.trail
      change Agrees same _ (walkKeys capabilities options'
        ((key, image schema) :: KeyMap.mapItems image rest) given path assembly trail')
      unfold walkKeys
      dsimp only
      rw [walk_eq_append, walk_eq_append options', ← walked.result, same_presence,
        assembly.settleDeclared_of_agreeOnMembers members, ← settled.result]
      exact ih presences others _ settled.trail

/-- A member that is not declared is settled in agreement if the walks along the schema of the
pattern agree on it. -/
theorem settleOther_agrees {pattern : Option (Pattern × Schema)} {path : String} (whole : Value)
    {key : String} {item : Value}
    (fitting : ∀ given schema, pattern = some (given, schema) → given.isMatch key = true →
      Agrees same (walk capabilities options schema item ((Slot.key key).join path) {})
        (walk capabilities options' (image schema) item ((Slot.key key).join path) {}))
    (assembly : Assembly) (before : same trail trail') :
    Agrees same
      (assembly.settleOther options path whole (walkFitting capabilities options pattern path)
        key item trail)
      (assembly.settleOther options' path whole (walkFitting capabilities options'
        (pattern.map fun entry => (entry.1, image entry.2)) path) key item trail') := by
  have unknown := Agrees.of_onlyAdds comparison (assembly.settleUnknown_onlyAdds options key item
    { Report.of .unknownKey path whole with actual := .string key }) before
  unfold Assembly.settleOther
  rw [assembly.settleUnknown_of_agreeOnMembers members]
  rcases pattern with _ | ⟨given, schema⟩
  · exact unknown
  · rw [Option.map_some]
    unfold walkFitting
    cases fits : given.isMatch key with
    | false => exact unknown
    | true =>
        have walked := (fitting given schema rfl fits).behind comparison before
        simp only [if_true]
        rw [walk_eq_append, walk_eq_append options', ← walked.result]
        exact ⟨rfl, comparison.warn walked.trail _⟩

theorem settleOthers_agrees {pattern : Option (Pattern × Schema)} {path : String} (whole : Value)
    {keys : List String} {given : List (String × Value)}
    (fitting : ∀ key ∈ keys, ∀ item, KeyMap.find? key given = some item →
      ∀ demanded schema, pattern = some (demanded, schema) → demanded.isMatch key = true →
        Agrees same (walk capabilities options schema item ((Slot.key key).join path) {})
          (walk capabilities options' (image schema) item ((Slot.key key).join path) {}))
    (assembly : Assembly) (before : same trail trail') :
    Agrees same
      (Assembly.settleOthers options path whole (walkFitting capabilities options pattern path)
        keys given assembly trail)
      (Assembly.settleOthers options' path whole (walkFitting capabilities options'
        (pattern.map fun entry => (entry.1, image entry.2)) path) keys given assembly trail') := by
  induction keys generalizing given assembly trail trail' with
  | nil => exact ⟨rfl, before⟩
  | cons key rest ih =>
      cases found : KeyMap.find? key given with
      | none =>
          rw [Assembly.settleOthers_cons_of_missing options path assembly found,
            Assembly.settleOthers_cons_of_missing options' path assembly found]
          exact ih (fun name member => fitting name (List.mem_cons_of_mem _ member)) assembly before
      | some item =>
          obtain ⟨first, others⟩ := (KeyMap.forall_found_cons found).mp fitting
          have settled := settleOther_agrees comparison members whole first assembly before
          rw [Assembly.settleOthers_cons_of_found options path assembly found,
            Assembly.settleOthers_cons_of_found options' path assembly found, ← settled.result]
          exact ih others _ settled.trail

end Members

/-! ## The parts of a value -/

section Parts

variable (comparison : Comparison same) {image : Schema → Schema} {node : Node Schema}
include comparison

/-- An object is described in agreement if the walks of its members agree, of those that are declared
and of those that fit the pattern. -/
theorem descendObject_agrees (members : options.AgreeOnMembers options') {record : Record}
    {path : String}
    (presence : ∀ entry ∈ node.keys,
      (image entry.2).root.constraints.effectivePresence options' =
        entry.2.root.constraints.effectivePresence options)
    (declared : ∀ entry ∈ node.keys, Agrees same
      (walk capabilities options entry.2 (record.get entry.1) ((Slot.key entry.1).join path) {})
      (walk capabilities options' (image entry.2) (record.get entry.1)
        ((Slot.key entry.1).join path) {}))
    (fitting : ∀ key ∈ capabilities.ownKeys record, KeyMap.find? key node.keys = none →
      ∀ item, record.find? key = some item →
        ∀ demanded schema, node.pattern = some (demanded, schema) → demanded.isMatch key = true →
          Agrees same (walk capabilities options schema item ((Slot.key key).join path) {})
            (walk capabilities options' (image schema) item ((Slot.key key).join path) {}))
    (before : same trail trail') :
    Agrees same (descendObject capabilities options node record path trail)
      (descendObject capabilities options' (node.map image) record path trail') := by
  have contains (key : String) :
      KeyMap.contains key (KeyMap.mapItems image node.keys) = KeyMap.contains key node.keys := by
    unfold KeyMap.contains
    rw [KeyMap.find?_mapItems, Option.isSome_map]
  have built := walkKeys_agrees comparison members presence declared {}
    (comparison.countOwnKeys before)
  have listed : ∀ key ∈ capabilities.ownKeys record, ∀ item,
      KeyMap.find? key (record.members.filter fun entry =>
        !KeyMap.contains entry.1 node.keys) = some item →
      ∀ demanded schema, node.pattern = some (demanded, schema) → demanded.isMatch key = true →
        Agrees same (walk capabilities options schema item ((Slot.key key).join path) {})
          (walk capabilities options' (image schema) item ((Slot.key key).join path) {}) := by
    intro key own item found
    rw [KeyMap.find?_filter fun name => !KeyMap.contains name node.keys] at found
    split at found
    · rename_i unknown
      exact fitting key own (KeyMap.contains_eq_false_iff.mp (by simpa using unknown)) item found
    · cases found
  have settled := settleOthers_agrees comparison members
    (if (capabilities.ownKeys record).any fun key => !KeyMap.contains key node.keys then
      record.toValue else .undefined) listed
    (walkKeys capabilities options node.keys record.members path {} trail.countOwnKeys).1
    built.trail
  unfold descendObject Node.map
  dsimp only
  simp only [contains]
  rw [← built.result]
  exact ⟨congrArg (fun assembly : Assembly =>
    (⟨.object record.className assembly.members, assembly.errors⟩ : Outcome)) settled.result,
    settled.trail⟩

theorem chooseItem_agrees {item : Value} {path : String}
    (each : ∀ schema ∈ node.nested, Agrees same (walk capabilities options schema item path {})
      (walk capabilities options' (image schema) item path {})) (before : same trail trail') :
    Agrees same (chooseItem capabilities options node item path trail)
      (chooseItem capabilities options' (node.map image) item path trail') := by
  unfold chooseItem Node.map
  dsimp only
  rw [List.isEmpty_map]
  split
  · exact walkExcluded_agrees comparison
      (fun schema member => each schema (Node.nested_of_exclude member)) before
  · exact walkFirst_agrees comparison
      (fun schema member => each schema (Node.nested_of_include member)) [] before

theorem descendArray_agrees {items : List Value} {path : String}
    (each : ∀ schema ∈ node.nested, ∀ value path,
      Agrees same (walk capabilities options schema value path {})
        (walk capabilities options' (image schema) value path {})) (before : same trail trail') :
    Agrees same (descendArray capabilities options node items path trail)
      (descendArray capabilities options' (node.map image) items path trail') := by
  have chosen : ∀ item ∈ items, ∀ path, ∀ {trail trail'}, same trail trail' →
      Agrees same (chooseItem capabilities options node item path trail)
        (chooseItem capabilities options' (node.map image) item path trail') :=
    fun item _ path _ _ =>
      chooseItem_agrees comparison fun schema member => each schema member item path
  obtain ⟨values, errors, after⟩ := settleItems_agrees chosen 0 before
  have selects : ((node.map image).includes.isEmpty && (node.map image).excludes.isEmpty) =
      (node.includes.isEmpty && node.excludes.isEmpty) := by
    unfold Node.map
    rw [List.isEmpty_map, List.isEmpty_map]
  unfold descendArray
  rw [selects]
  split
  · exact ⟨rfl, before⟩
  · refine ⟨?_, after⟩
    dsimp only
    rw [values, errors]

theorem settleUnion_agrees {other : Constraints} {value : Value} {path : String}
    (each : ∀ schema ∈ node.nested, Agrees same (walk capabilities options schema value path {})
      (walk capabilities options' (image schema) value path {}))
    (fails : ∀ report, other.fail options' report = node.constraints.fail options report)
    (before : same trail trail') :
    Agrees same (settleUnion capabilities options node value path trail)
      (settleUnion capabilities options' { node.map image with constraints := other } value path
        trail') := by
  obtain ⟨chosen, after⟩ := walkFirst_agrees comparison
    (fun schema member => each schema (Node.nested_of_alternative member)) [] before
  unfold settleUnion Node.map
  dsimp only
  rcases run : walkFirst capabilities options node.alternatives value path [] trail with
    ⟨errors | result, left⟩
  all_goals
    rcases run' : walkFirst capabilities options' (node.alternatives.map image) value path []
      trail' with ⟨result', left'⟩
    rw [run, run'] at chosen after
    cases chosen
  · rw [fails]
    exact .of_onlyAdds comparison (node.constraints.fail_onlyAdds options _) after
  · exact ⟨rfl, after⟩

end Parts

end Schema

end SchemaValidation
