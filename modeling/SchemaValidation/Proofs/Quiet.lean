import SchemaValidation.Proofs.Ruling
import SchemaValidation.Proofs.TrailFrame

/-!
# Walks without warnings

Since a walk only adds to its trail, one that leaves no warnings is made of walks
that leave none, those in rejected choices apart.  In particular no member that
fits a pattern was rejected.
-/

namespace SchemaValidation.Schema

open Trail

variable {capabilities : Capabilities} {options : Options}

variable (capabilities options) in
/-- A walk leaves no warnings. -/
def Quiet (schema : Schema) (value : Value) (path : String) : Prop :=
  (walk capabilities options schema value path {}).2.warnings = []

/-- A step leaves no warnings behind a trail without any exactly if it leaves none alone. -/
theorem quiet_step {α : Type} {step : Trail → α × Trail} (adds : OnlyAdds step)
    {trail : Trail} (quiet : (step trail).2.warnings = []) :
    trail.warnings = [] ∧ (step {}).2.warnings = [] :=
  List.append_eq_nil_iff.mp ((adds.warnings trail).symm.trans quiet)

theorem walkFirst_quiet {schemas : List Schema} {value : Value} {path : String}
    (quiet : (walkFirst capabilities options schemas value path [] {}).2.warnings = [])
    {schema : Schema}
    (first : (schemas.find? fun schema => schema.accepts capabilities options value) =
      some schema) : Quiet capabilities options schema value path := by
  have left := walkFirst_warnings capabilities options schemas value path [] {}
  rw [quiet, find?_walk_isOk, first] at left
  exact left.symm

theorem walkKeys_quiet {keys : List (String × Schema)} {members : List (String × Value)}
    {path : String} {assembly : Assembly} {trail : Trail}
    (quiet : (walkKeys capabilities options keys members path assembly trail).2.warnings = []) :
    ∀ entry ∈ keys, Quiet capabilities options entry.2
      ((KeyMap.find? entry.1 members).getD .undefined) ((Slot.key entry.1).join path) := by
  induction keys generalizing assembly trail with
  | nil => nofun
  | cons first rest ih =>
      obtain ⟨key, schema⟩ := first
      unfold walkKeys at quiet
      dsimp only at quiet
      have settled := (quiet_step (walkKeys_onlyAdds capabilities options
        (fun entry _ => walk_onlyAdds capabilities options entry.2) members path _) quiet).1
      have walked := (quiet_step (assembly.settleDeclared_onlyAdds options _ key _) settled).1
      intro entry member
      rcases List.mem_cons.mp member with rfl | member
      · exact (quiet_step (walk_onlyAdds capabilities options schema _ _) walked).2
      · exact ih quiet entry member

theorem settleOthers_quiet {pattern : Pattern} {schema : Schema} {path : String} {whole : Value}
    {keys : List String} {members : List (String × Value)} {assembly : Assembly} {trail : Trail}
    (quiet : (Assembly.settleOthers options path whole
      (walkFitting capabilities options (some (pattern, schema)) path) keys members assembly
      trail).2.warnings = []) :
    ∀ key ∈ keys, ∀ item, KeyMap.find? key members = some item → pattern.isMatch key = true →
      schema.accepts capabilities options item = true ∧
        Quiet capabilities options schema item ((Slot.key key).join path) := by
  induction keys generalizing members assembly trail with
  | nil => nofun
  | cons key rest ih =>
      cases found : KeyMap.find? key members with
      | none =>
          rw [Assembly.settleOthers_cons_of_missing options path assembly found] at quiet
          intro name member item present
          rcases List.mem_cons.mp member with rfl | member
          · rw [found] at present
            cases present
          · exact ih quiet name member item present
      | some item =>
          rw [Assembly.settleOthers_cons_of_found options path assembly found] at quiet
          refine (KeyMap.forall_found_cons found).mpr ⟨fun fits => ?_, ih quiet⟩
          have settled := (quiet_step (Assembly.settleOthers_onlyAdds options path whole
            (walkFitting_append capabilities options
              (fun entry _ => walk_onlyAdds capabilities options entry.2) path)
            rest _ _) quiet).1
          unfold Assembly.settleOther walkFitting at settled
          simp only [fits, if_true] at settled
          obtain ⟨walked, errors⟩ := List.append_eq_nil_iff.mp settled
          refine ⟨?_, (quiet_step (walk_onlyAdds capabilities options schema _ _) walked).2⟩
          rw [← schema.followsRuling.isOk item _ trail]
          exact List.isEmpty_iff.mpr errors

theorem settleItems_cons_trail (path : String)
    (choose : Value → String → Trail → Except (List Report) Value × Trail) (index : Nat)
    (item : Value) (rest : List Value) (trail : Trail) :
    (settleItems path choose index (item :: rest) trail).2.2 =
      (settleItems path choose (index + 1) rest
        (choose item ((Slot.index index).join path) trail).2).2.2 := by
  rw [settleItems]
  obtain ⟨reports | value, after⟩ := choose item ((Slot.index index).join path) trail
  · rfl
  · rfl

theorem settleItems_quiet {path : String}
    {choose : Value → String → Trail → Except (List Report) Value × Trail}
    (adds : ∀ item path, OnlyAdds (choose item path)) {index : Nat} {items : List Value}
    {trail : Trail} (quiet : (settleItems path choose index items trail).2.2.warnings = []) :
    ∀ item ∈ items, ∃ path, (choose item path {}).2.warnings = [] := by
  induction items generalizing index trail with
  | nil => nofun
  | cons first rest ih =>
      rw [settleItems_cons_trail] at quiet
      intro item member
      rcases List.mem_cons.mp member with rfl | member
      · have whole := settleItems_onlyAdds path adds (index + 1) rest
          (choose item ((Slot.index index).join path) trail).2 {}
        rw [append_empty] at whole
        rw [whole] at quiet
        have chosen := (List.append_eq_nil_iff.mp quiet).1
        exact ⟨_, (quiet_step (adds item _) chosen).2⟩
      · exact ih quiet item member

section Node

variable {node : Node Schema} {value : Value} {path : String}
  (present : value.isUndefined = false)
  (admitted : node.constraints.effectivePresence options ≠ .forbidden)
  (quiet : Quiet capabilities options (.node node) value path)
include present admitted quiet

/-- If a union leaves no warnings, neither does the alternative that it takes. -/
theorem quiet_chosen (union : node.alternatives.isEmpty = false) {schema : Schema}
    (first : (node.alternatives.find? fun schema =>
      schema.accepts capabilities options value) = some schema) :
    Quiet capabilities options schema value path := by
  refine walkFirst_quiet ?_ first
  unfold Quiet at quiet
  rw [walk_node] at quiet
  simp only [present, admitted, union, Bool.false_eq_true, if_false, Bool.not_false,
    if_true] at quiet
  revert quiet
  unfold settleUnion
  obtain ⟨errors | chosen, after⟩ :=
    walkFirst capabilities options node.alternatives value path [] {}
  · exact fun quiet => (quiet_step (node.constraints.fail_onlyAdds options _) quiet).1
  · exact id

/-- If a node leaves no warnings, neither does the descent into the parts. -/
theorem quiet_descend (plain : node.alternatives.isEmpty = true) {entered : Value}
    (received : node.constraints.receive options value = .entered entered) :
    (descend capabilities options node entered path {}).2.warnings = [] := by
  have reception := node.constraints.arrive_reception options path value {}
  rw [received] at reception
  unfold Quiet at quiet
  rw [walk_node] at quiet
  simp only [present, admitted, plain, Bool.false_eq_true, if_false, Bool.not_true,
    settlePlain] at quiet
  rcases run : node.constraints.arrive options path value {} with ⟨accepted | report | other, after⟩
  · rw [run] at reception
    cases reception
  · rw [run] at reception
    cases reception
  · rw [run] at reception quiet
    cases reception
    have left := (quiet_step (node.constraints.leave_onlyAdds capabilities options path _)
      quiet).1
    exact (quiet_step (descend_onlyAdds capabilities options
      (fun schema _ => walk_onlyAdds capabilities options schema) entered path) left).2

end Node

/-- If the descent into an object leaves no warnings, neither do the walks along the schemas of its
members, and the schema of the pattern accepts every member that fits. -/
theorem quiet_descendObject {node : Node Schema} {record : Record} {path : String}
    (quiet : (descendObject capabilities options node record path {}).2.warnings = []) :
    (∀ entry ∈ node.keys, Quiet capabilities options entry.2 (record.get entry.1)
      ((Slot.key entry.1).join path)) ∧
    ∀ pattern schema, node.pattern = some (pattern, schema) →
      ∀ key ∈ capabilities.ownKeys record, KeyMap.find? key node.keys = none →
        ∀ item, record.find? key = some item → pattern.isMatch key = true →
          schema.accepts capabilities options item = true ∧
            Quiet capabilities options schema item ((Slot.key key).join path) := by
  unfold descendObject at quiet
  dsimp only at quiet
  have walked := (quiet_step (Assembly.settleOthers_onlyAdds options path _
    (walkFitting_append capabilities options
      (fun entry _ => walk_onlyAdds capabilities options entry.2) path) _ _ _) quiet).1
  refine ⟨walkKeys_quiet walked, ?_⟩
  intro pattern schema same key listed undeclared item found fits
  rw [same] at quiet
  refine settleOthers_quiet quiet key listed item ?_ fits
  rw [KeyMap.find?_filter fun name => !KeyMap.contains name node.keys,
    KeyMap.contains_eq_false_iff.mpr undeclared]
  exact found

/-- If the descent into a list leaves no warnings, neither does the walk along the schema that an item
takes. -/
theorem quiet_descendArray {node : Node Schema} {items : List Value} {path : String}
    (included : node.includes.isEmpty = false)
    (quiet : (descendArray capabilities options node items path {}).2.warnings = []) :
    ∀ item ∈ items, ∀ schema,
      (node.includes.find? fun schema => schema.accepts capabilities options item) =
        some schema → ∃ path, Quiet capabilities options schema item path := by
  unfold descendArray at quiet
  simp only [included, Bool.false_and, Bool.false_eq_true, if_false] at quiet
  intro item member schema first
  obtain ⟨place, chosen⟩ := settleItems_quiet (chooseItem_onlyAdds capabilities options
    (fun schema _ => walk_onlyAdds capabilities options schema)) quiet item member
  unfold chooseItem at chosen
  rw [if_neg (by simp [included])] at chosen
  exact ⟨place, walkFirst_quiet chosen first⟩

end SchemaValidation.Schema
