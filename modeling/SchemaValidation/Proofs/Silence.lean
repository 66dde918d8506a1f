import SchemaValidation.Proofs.TrailFrame

/-!
# Options that make no warnings

Under hard options no failure is downgraded, no value is converted and no unknown
member is let through.  Then only members that fit a pattern and the checks after
the descent can warn, so that along a schema without either every walk is silent,
whatever it says about the value.
-/

namespace SchemaValidation

/-- Options under which whatever is wrong is an error. -/
structure Options.IsHard (options : Options) : Prop where
  strict : options.strict = true
  allowUnknown : options.allowUnknown = false
  warnOnInvalidOptionals : options.warnOnInvalidOptionals = false

/-- A node that has no pattern and no checks after the descent. -/
structure Node.IsUnwarning (node : Node Schema) : Prop where
  pattern : node.pattern = none
  checksAfter : node.constraints.checksAfter = []

/-- A step that leaves the warnings as they were. -/
def Silent {α : Type} (step : Trail → α × Trail) : Prop :=
  ∀ trail, (step trail).2.warnings = trail.warnings

variable {options : Options} (path : String)

/-! ## The steps at one position -/

theorem runSanitizers_silent (sanitizers : List Sanitizer) (value : Value) :
    Silent (runSanitizers path sanitizers value) := by
  intro trail
  induction sanitizers generalizing value with
  | nil => rfl
  | cons sanitizer rest ih =>
      unfold runSanitizers
      cases sanitizer.transform value with
      | returned sanitized => exact ih sanitized
      | panicked reason => rfl

theorem runChecks_silent (value : Value) (checks : List Check) :
    Silent (runChecks path value checks) := by
  intro trail
  induction checks generalizing trail with
  | nil => rfl
  | cons check rest ih =>
      unfold runChecks
      split
      · exact ih trail
      · exact ih trail
      · exact ih trail
      · exact ih (trail.log _)

namespace Constraints

variable (constraints : Constraints)

theorem judge_silent (value : Value) : Silent (constraints.judge path value) := by
  intro trail
  have checked := runChecks_silent path value constraints.checks trail
  unfold judge
  split
  · rfl
  · split
    · rfl
    · split
      · split <;> rfl
      · rcases run : runChecks path value constraints.checks trail with ⟨details, after⟩
        rw [run] at checked
        cases details with
        | nil => exact checked
        | cons detail rest => exact checked

section Strict

variable (strict : options.strict = true)
include strict

theorem settleKind_silent (arrived : Shape) (value : Value) :
    Silent (constraints.settleKind options arrived path value) := by
  intro trail
  unfold settleKind
  split
  · rfl
  · split
    · rfl
    · rfl

theorem arrive_silent (value : Value) : Silent (constraints.arrive options path value) := by
  intro trail
  have sanitized := runSanitizers_silent path constraints.sanitizeBefore value trail
  unfold arrive
  rcases run : runSanitizers path constraints.sanitizeBefore value trail with
    ⟨report | clean, after⟩
  · rw [run] at sanitized
    exact sanitized
  · have settled := constraints.settleKind_silent path strict value.shape
      (constraints.resolveAlias clean) after
    rw [run] at sanitized
    dsimp only
    rcases kind : constraints.settleKind options value.shape path
        (constraints.resolveAlias clean) after with ⟨report | fitted, behind⟩
    · rw [kind] at settled
      exact settled.trans sanitized
    · rw [kind] at settled
      have judged := constraints.judge_silent path fitted behind
      exact judged.trans (settled.trans sanitized)

end Strict

variable (hard : options.IsHard)
include hard

theorem failAll_silent (value : Value) (errors : List Report) :
    Silent (constraints.failAll options value errors) := by
  have kept : constraints.downgrades options = false := by
    unfold downgrades
    rw [hard.warnOnInvalidOptionals, Bool.and_false]
  intro trail
  rw [failAll, kept]
  rfl

theorem fail_silent (report : Report) : Silent (constraints.fail options report) :=
  constraints.failAll_silent hard _ [report]

theorem absent_silent : Silent (constraints.absent options path) := by
  intro trail
  unfold absent
  cases constraints.effectivePresence options with
  | optional => rfl
  | required => exact constraints.failAll_silent hard _ _ trail
  | forbidden => rfl

theorem leave_silent (capabilities : Capabilities) (quiet : constraints.checksAfter = [])
    (descent : Outcome) : Silent (constraints.leave capabilities options path descent) := by
  intro trail
  unfold leave
  rw [quiet, runChecksAfter]
  split
  · exact constraints.failAll_silent hard _ _ trail
  · have sanitized := runSanitizers_silent path constraints.sanitize descent.value trail
    rcases run : runSanitizers path constraints.sanitize descent.value trail with
      ⟨report | value, after⟩
    · rw [run] at sanitized
      exact (constraints.fail_silent hard report after).trans sanitized
    · rw [run] at sanitized
      exact sanitized

end Constraints

/-! ## The steps over the parts of a value -/

namespace Assembly

variable (hard : options.IsHard) (assembly : Assembly)
include hard

theorem settleDeclared_silent (presence : Presence) (key : String) (outcome : Outcome) :
    Silent (assembly.settleDeclared options presence key outcome) := by
  intro trail
  rw [settleDeclared, hard.warnOnInvalidOptionals, Bool.and_false]
  rfl

theorem settleUnknown_silent (key : String) (item : Value) (report : Report) :
    Silent (assembly.settleUnknown options key item report) := by
  intro trail
  rw [settleUnknown, hard.allowUnknown]
  rfl

/-- Without a pattern every member that is not declared is unknown. -/
theorem settleOthers_silent (whole : Value)
    {walkFitting : String → Value → Trail → Option (Outcome × Trail)}
    (unfit : ∀ key item trail, walkFitting key item trail = none) (keys : List String)
    (members : List (String × Value)) :
    Silent (settleOthers options path whole walkFitting keys members assembly) := by
  intro trail
  induction keys generalizing members assembly trail with
  | nil => rfl
  | cons key rest ih =>
      unfold settleOthers
      cases KeyMap.find? key members with
      | none => exact ih assembly members trail
      | some item =>
          dsimp only
          rw [unfit]
          exact (ih _ _ _).trans (assembly.settleUnknown_silent hard key item _ trail)

end Assembly

theorem settleItems_silent
    {choose : Value → String → Trail → Except (List Report) Value × Trail}
    (silent : ∀ item path, Silent (choose item path)) (index : Nat) (items : List Value)
    (trail : Trail) :
    (settleItems path choose index items trail).2.2.warnings = trail.warnings := by
  induction items generalizing index trail with
  | nil => rfl
  | cons item rest ih =>
      have chosen := silent item ((Slot.index index).join path) trail
      unfold settleItems
      rcases run : choose item ((Slot.index index).join path) trail with ⟨reports | value, after⟩
      · rw [run] at chosen
        exact (ih (index + 1) after).trans chosen
      · rw [run] at chosen
        exact (ih (index + 1) after).trans chosen

namespace Schema

variable (capabilities : Capabilities)

theorem walkFirst_silent {schemas : List Schema} {value : Value}
    (silent : ∀ schema ∈ schemas, Silent (walk capabilities options schema value path))
    (reports : List Report) :
    Silent (walkFirst capabilities options schemas value path reports) := by
  intro trail
  rw [walkFirst_warnings]
  cases found : schemas.find? fun schema =>
      (walk capabilities options schema value path {}).1.isOk with
  | none => exact List.append_nil _
  | some schema =>
      have none := silent schema (List.mem_of_find?_eq_some found) {}
      dsimp only
      rw [none]
      exact List.append_nil _

section Walk

variable (hard : options.IsHard)
include hard

theorem walkKeys_silent {keys : List (String × Schema)}
    (silent : ∀ entry ∈ keys, ∀ value path, Silent (walk capabilities options entry.2 value path))
    (members : List (String × Value)) (assembly : Assembly) :
    Silent (walkKeys capabilities options keys members path assembly) := by
  intro trail
  induction keys generalizing assembly trail with
  | nil => rfl
  | cons entry rest ih =>
      obtain ⟨key, schema⟩ := entry
      have walked := silent (key, schema) List.mem_cons_self
        ((KeyMap.find? key members).getD .undefined) ((Slot.key key).join path) trail
      unfold walkKeys
      dsimp only
      have settled := assembly.settleDeclared_silent hard
        (schema.root.constraints.effectivePresence options) key
        (walk capabilities options schema ((KeyMap.find? key members).getD .undefined)
          ((Slot.key key).join path) trail).1
        (walk capabilities options schema ((KeyMap.find? key members).getD .undefined)
          ((Slot.key key).join path) trail).2
      have behind := ih (fun entry member => silent entry (List.mem_cons_of_mem _ member))
      exact (behind _ _).trans (settled.trans walked)

variable {node : Node Schema}
  (below : ∀ schema ∈ node.nested, ∀ value path,
    Silent (walk capabilities options schema value path))
include below

theorem descendObject_silent (unpatterned : node.pattern = none) (record : Record) :
    Silent (descendObject capabilities options node record path) := by
  intro trail
  have declared := walkKeys_silent path capabilities hard
    (fun entry member => below entry.2 (Node.nested_of_key member)) record.members {}
    trail.countOwnKeys
  unfold descendObject
  dsimp only
  rw [unpatterned]
  exact (Assembly.settleOthers_silent path hard _ _ (fun _ _ _ => rfl) _ _ _).trans declared

omit hard in
theorem chooseItem_silent (item : Value) :
    Silent (chooseItem capabilities options node item path) := by
  intro trail
  unfold chooseItem
  split
  · exact walkExcluded_warnings capabilities options node.excludes item path trail
  · exact walkFirst_silent path capabilities
      (fun schema member => below schema (Node.nested_of_include member) item path) [] trail

omit hard in
theorem descendArray_silent (items : List Value) :
    Silent (descendArray capabilities options node items path) := by
  intro trail
  unfold descendArray
  split
  · rfl
  · exact settleItems_silent path
      (fun item path => chooseItem_silent path capabilities below item) 0 items trail

theorem descend_silent (unpatterned : node.pattern = none) (entered : Value) :
    Silent (descend capabilities options node entered path) := by
  intro trail
  unfold descend
  split
  · exact descendObject_silent path capabilities hard below unpatterned _ trail
  · exact descendArray_silent path capabilities below _ trail
  · rfl

theorem settleUnion_silent (value : Value) :
    Silent (settleUnion capabilities options node value path) := by
  intro trail
  have first := walkFirst_silent path capabilities
    (fun schema member => below schema (Node.nested_of_alternative member) value path) [] trail
  unfold settleUnion
  rcases run : walkFirst capabilities options node.alternatives value path [] trail with
    ⟨reports | chosen, after⟩
  · rw [run] at first
    exact (node.constraints.fail_silent hard _ after).trans first
  · rw [run] at first
    exact first

theorem settlePlain_silent (unwarning : node.IsUnwarning) (value : Value) :
    Silent (settlePlain capabilities options node value path) := by
  intro trail
  have arrived := node.constraints.arrive_silent path hard.strict value trail
  unfold settlePlain
  rcases run : node.constraints.arrive options path value trail with
    ⟨accepted | report | entered, after⟩
  · rw [run] at arrived
    exact arrived
  · rw [run] at arrived
    exact (node.constraints.fail_silent hard report after).trans arrived
  · rw [run] at arrived
    have descent := descend_silent path capabilities hard below unwarning.pattern entered after
    have left := node.constraints.leave_silent path hard capabilities unwarning.checksAfter
      (descend capabilities options node entered path after).1
      (descend capabilities options node entered path after).2
    exact left.trans (descent.trans arrived)

omit below in
/-- Under hard options a walk along a schema of unwarning nodes leaves the warnings as they were. -/
theorem walk_silent {schema : Schema} (tree : schema.Everywhere Node.IsUnwarning)
    (value : Value) : Silent (walk capabilities options schema value path) := by
  induction tree generalizing value path with
  | @node parts unwarning nested ih =>
      intro trail
      have below : ∀ schema ∈ parts.nested, ∀ value path,
          Silent (walk capabilities options schema value path) :=
        fun schema member value path => ih schema member path value
      rw [walk_node]
      split
      · exact parts.constraints.absent_silent path hard trail
      · split
        · exact parts.constraints.failAll_silent hard _ _ trail
        · split
          · exact settleUnion_silent path capabilities hard below value trail
          · exact settlePlain_silent path capabilities hard below unwarning value trail

end Walk

end Schema

end SchemaValidation
