import SchemaValidation.Proofs.Ruling
import SchemaValidation.Proofs.TrailFrame

/-!
# Reports on members

The walk along the schema of a member is part of the walk of the object.  Its
warnings are warnings there, and so are its errors if the member is declared and
may be invalid, or if it is not declared and fits the pattern.
-/

namespace SchemaValidation

namespace Trail.OnlyAdds

variable {α : Type} {step : Trail → α × Trail} (adds : OnlyAdds step) {report : Report}
include adds

theorem kept {trail : Trail} (there : report ∈ trail.warnings) :
    report ∈ (step trail).2.warnings := by
  rw [adds.warnings]
  exact List.mem_append_left _ there

theorem made (trail : Trail) (left : report ∈ (step {}).2.warnings) :
    report ∈ (step trail).2.warnings := by
  rw [adds.warnings]
  exact List.mem_append_right _ left

end Trail.OnlyAdds

/-- The selected entries are those that contribute. -/
theorem flatMap_filter {α β : Type} (selects : α → Bool) (parts : α → List β) (entries : List α) :
    (entries.filter selects).flatMap parts =
      entries.flatMap fun entry => if selects entry then parts entry else [] := by
  induction entries with
  | nil => rfl
  | cons entry rest ih =>
      rw [List.filter_cons, List.flatMap_cons, ← ih]
      cases selects entry <;> rfl

namespace Schema

open Trail

variable (capabilities : Capabilities) (options : Options)

/-- The warnings that a declared member adds to those of its object. -/
def memberWarnings (schema : Schema) (value : Value) (path : String) : List Report :=
  let walked := walk capabilities options schema value path {}
  walked.2.warnings ++ if schema.isLenient options then walked.1.errors else []

/-- The errors that a declared member adds to those of its object. -/
def memberErrors (schema : Schema) (value : Value) (path : String) : List Report :=
  if schema.isLenient options then [] else (walk capabilities options schema value path {}).1.errors

/-- All reports of a walk. -/
def allReports (schema : Schema) (value : Value) (path : String) : List Report :=
  let walked := walk capabilities options schema value path {}
  walked.2.warnings ++ walked.1.errors

variable {capabilities options}

/-- A member is settled by whether its schema is lenient. -/
theorem settleDeclared_eq (assembly : Assembly) (schema : Schema) (key : String)
    (outcome : Outcome) (trail : Trail) :
    assembly.settleDeclared options (schema.root.constraints.effectivePresence options) key outcome
        trail =
      if !outcome.isOk && schema.isLenient options then
        (assembly.store key outcome.value, trail.warn outcome.errors)
      else ((assembly.reject outcome.errors).store key outcome.value, trail) := by
  unfold Assembly.settleDeclared
  rw [Bool.and_assoc]
  rfl

/-- The warnings of a declared member are those of its walk, with its errors unless they count
against the object. -/
theorem settleDeclared_warnings (assembly : Assembly) (schema : Schema) (key : String)
    (value : Value) (path : String) (trail : Trail) :
    (assembly.settleDeclared options (schema.root.constraints.effectivePresence options) key
        (walk capabilities options schema value path trail).1
        (walk capabilities options schema value path trail).2).2.warnings =
      trail.warnings ++ schema.memberWarnings capabilities options value path := by
  have adds := walk_onlyAdds capabilities options schema value path
  unfold memberWarnings
  dsimp only
  rw [settleDeclared_eq, adds.result trail, ← List.append_assoc, ← adds.warnings trail]
  cases schema.isLenient options with
  | false =>
      rw [Bool.and_false]
      exact (List.append_nil _).symm
  | true =>
      rw [Bool.and_true, if_pos rfl]
      cases accepted : (walk capabilities options schema value path {}).1.isOk with
      | false => rfl
      | true =>
          rw [List.isEmpty_iff.mp accepted, List.append_nil]
          rfl

/-- Each declared member adds its warnings. -/
theorem walkKeys_warnings (keys : List (String × Schema)) (members : List (String × Value))
    (path : String) (assembly : Assembly) (trail : Trail) :
    (walkKeys capabilities options keys members path assembly trail).2.warnings =
      trail.warnings ++ keys.flatMap fun entry =>
        entry.2.memberWarnings capabilities options
          ((KeyMap.find? entry.1 members).getD .undefined) ((Slot.key entry.1).join path) := by
  induction keys generalizing assembly trail with
  | nil => exact (List.append_nil _).symm
  | cons entry rest ih =>
      obtain ⟨key, schema⟩ := entry
      unfold walkKeys
      dsimp only
      rw [ih, settleDeclared_warnings, List.append_assoc, List.flatMap_cons]

/-- The errors of a declared member are those of its walk unless they are warnings. -/
theorem settleDeclared_errors (assembly : Assembly) (schema : Schema) (key : String)
    (value : Value) (path : String) (trail trail' : Trail) :
    (assembly.settleDeclared options (schema.root.constraints.effectivePresence options) key
        (walk capabilities options schema value path trail).1 trail').1.errors =
      assembly.errors ++ schema.memberErrors capabilities options value path := by
  unfold memberErrors
  rw [settleDeclared_eq, (walk_onlyAdds capabilities options schema value path).result trail]
  cases schema.isLenient options with
  | false =>
      rw [Bool.and_false]
      exact (assembly.reject _).store_errors key _
  | true =>
      rw [Bool.and_true, if_pos rfl, List.append_nil]
      cases accepted : (walk capabilities options schema value path {}).1.isOk with
      | false => exact assembly.store_errors key _
      | true =>
          refine (Assembly.store_errors _ key _).trans ?_
          rw [Assembly.reject, List.isEmpty_iff.mp accepted, List.append_nil]

/-- Each declared member adds its errors, in the order of the names. -/
theorem walkKeys_errors (keys : List (String × Schema)) (members : List (String × Value))
    (path : String) (assembly : Assembly) (trail : Trail) :
    (walkKeys capabilities options keys members path assembly trail).1.errors =
      assembly.errors ++ keys.flatMap fun entry =>
        entry.2.memberErrors capabilities options
          ((KeyMap.find? entry.1 members).getD .undefined) ((Slot.key entry.1).join path) := by
  induction keys generalizing assembly trail with
  | nil => exact (List.append_nil _).symm
  | cons entry rest ih =>
      obtain ⟨key, schema⟩ := entry
      unfold walkKeys
      dsimp only
      rw [ih, settleDeclared_errors, List.append_assoc, List.flatMap_cons]

/-- All reports on a member that fits the pattern are warnings. -/
theorem settleOthers_warnings_mem {pattern : Pattern} {schema : Schema} {path : String}
    {whole : Value} {keys : List String} {members : List (String × Value)} {assembly : Assembly}
    {trail : Trail} {key : String} {item : Value} {report : Report} (listed : key ∈ keys)
    (found : KeyMap.find? key members = some item) (fits : pattern.isMatch key = true)
    (made : report ∈ schema.allReports capabilities options item ((Slot.key key).join path)) :
    report ∈ (Assembly.settleOthers options path whole
      (walkFitting capabilities options (some (pattern, schema)) path) keys members assembly
        trail).2.warnings := by
  induction keys generalizing members assembly trail with
  | nil => cases listed
  | cons first rest ih =>
      cases here : KeyMap.find? first members with
      | none =>
          rw [Assembly.settleOthers_cons_of_missing options path assembly here]
          rcases List.mem_cons.mp listed with rfl | listed
          · rw [here] at found
            cases found
          · exact ih listed found
      | some other =>
          rw [Assembly.settleOthers_cons_of_found options path assembly here]
          by_cases same : key = first
          · subst same
            rw [here] at found
            cases found
            have adds := walk_onlyAdds capabilities options schema item ((Slot.key key).join path)
            apply (Assembly.settleOthers_onlyAdds options path whole
              (walkFitting_append capabilities options
                (fun entry _ => walk_onlyAdds capabilities options entry.2) path) rest _ _).kept
            unfold Assembly.settleOther walkFitting
            rw [if_pos fits]
            dsimp only [warn]
            rw [adds.warnings, adds.result, List.append_assoc]
            exact List.mem_append_right _ made
          · apply ih ((List.mem_cons.mp listed).resolve_left same)
            rwa [KeyMap.find?_erase, if_neg same]

variable {node : Node Schema} {record : Record} {key : String} {schema : Schema} {path : String}
  {trail : Trail} {report : Report}

theorem descendObject_warnings_of_key (declared : (key, schema) ∈ node.keys)
    (made : report ∈ schema.memberWarnings capabilities options (record.get key)
      ((Slot.key key).join path)) :
    report ∈ (descendObject capabilities options node record path trail).2.warnings := by
  unfold descendObject
  dsimp only
  apply (Assembly.settleOthers_onlyAdds options path _ (walkFitting_append capabilities options
    (fun entry _ => walk_onlyAdds capabilities options entry.2) path) _ _ _).kept
  rw [walkKeys_warnings]
  exact List.mem_append_right _ (List.mem_flatMap.mpr ⟨(key, schema), declared, made⟩)

theorem descendObject_warnings_of_fitting {pattern : Pattern}
    (described : node.pattern = some (pattern, schema)) (fits : pattern.isMatch key = true)
    (undeclared : KeyMap.find? key node.keys = none) (listed : key ∈ capabilities.ownKeys record)
    {item : Value} (found : record.find? key = some item)
    (made : report ∈ schema.allReports capabilities options item ((Slot.key key).join path)) :
    report ∈ (descendObject capabilities options node record path trail).2.warnings := by
  unfold descendObject
  dsimp only
  rw [described]
  apply settleOthers_warnings_mem listed _ fits made
  rw [KeyMap.find?_filter fun name => !KeyMap.contains name node.keys,
    KeyMap.contains_eq_false_iff.mpr undeclared]
  exact found

end Schema

end SchemaValidation
