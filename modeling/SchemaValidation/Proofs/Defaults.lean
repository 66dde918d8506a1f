import SchemaValidation.Proofs.NodeStep

/-!
# What a default has a part in

Whether a node fails a present value, and for which reports, is decided without
its default.  Only then the default counts: it is delivered in the place of a
value that was rejected as a whole, and a node whose value is optional turns the
reports into warnings because of it.
-/

namespace SchemaValidation

/-- The node with another default. -/
def Node.withDefault (node : Node Schema) (default : Value) : Node Schema :=
  { node with constraints := { node.constraints with default } }

/-- The schema with another default at its root. -/
def Schema.withDefault (schema : Schema) (default : Value) : Schema :=
  .node (schema.root.withDefault default)

@[simp] theorem Trail.warn_nil (trail : Trail) : trail.warn [] = trail := by
  unfold Trail.warn
  rw [List.append_nil]

namespace Constraints

variable {constraints : Constraints} {options : Options} (value : Value) (errors : List Report)
  (trail : Trail)

theorem failAll_of_downgrades (downgrades : constraints.downgrades options = true) :
    constraints.failAll options value errors trail = (⟨value, []⟩, trail.warn errors) :=
  if_pos downgrades

theorem failAll_of_keeps (keeps : constraints.downgrades options = false) :
    constraints.failAll options value errors trail = (⟨value, errors⟩, trail) :=
  if_neg (by simp [keeps])

end Constraints

namespace Schema

variable (capabilities : Capabilities) (options : Options)

/-- The ways in which a walk can come to fail a value at a node: what it is about to deliver, the
reports that it hands over, and the trail that it has left by then. -/
inductive FailsWith (node : Node Schema) (value : Value) (path : String) (trail : Trail) :
    Value → List Report → Trail → Prop where
  | missing (absent : value.isUndefined = true)
      (required : node.constraints.effectivePresence options = .required) :
      FailsWith node value path trail .undefined [.of .requiredMissing path .undefined] trail
  | unwanted (present : value.isUndefined = false)
      (forbidden : node.constraints.effectivePresence options = .forbidden) :
      FailsWith node value path trail .undefined [.of .forbiddenEncountered path value] trail
  | unmatched {errors : List Report} {after : Trail} (present : value.isUndefined = false)
      (admitted : node.constraints.effectivePresence options ≠ .forbidden)
      (union : node.alternatives ≠ [])
      (tried : walkFirst capabilities options node.alternatives value path [] trail =
        (.error errors, after)) :
      FailsWith node value path trail node.constraints.default
        [.of .noAlternativeMatched path value] after
  | turnedAway {report : Report} {after : Trail} (present : value.isUndefined = false)
      (admitted : node.constraints.effectivePresence options ≠ .forbidden)
      (plain : node.alternatives = [])
      (arrived : node.constraints.arrive options path value trail = (.rejected report, after)) :
      FailsWith node value path trail node.constraints.default [report] after
  | broken {entered : Value} {between after : Trail} {descent : Outcome}
      (present : value.isUndefined = false)
      (admitted : node.constraints.effectivePresence options ≠ .forbidden)
      (plain : node.alternatives = [])
      (arrived : node.constraints.arrive options path value trail = (.entered entered, between))
      (descended : descend capabilities options node entered path between = (descent, after))
      (rejected : descent.isOk = false) :
      FailsWith node value path trail descent.value descent.errors after
  | unsanitized {entered : Value} {between behind after : Trail} {descent : Outcome}
      {report : Report} (present : value.isUndefined = false)
      (admitted : node.constraints.effectivePresence options ≠ .forbidden)
      (plain : node.alternatives = [])
      (arrived : node.constraints.arrive options path value trail = (.entered entered, between))
      (descended : descend capabilities options node entered path between = (descent, behind))
      (accepted : descent.isOk = true)
      (panicked : runSanitizers path node.constraints.sanitize descent.value
        (runChecksAfter capabilities path descent.value node.constraints.checksAfter behind) =
          (.error report, after)) :
      FailsWith node value path trail node.constraints.default [report] after

variable {capabilities options} {node : Node Schema} {value : Value} {path : String}
  {trail : Trail}

namespace FailsWith

variable {failed : Value} {reports : List Report} {after : Trail}
  (fails : FailsWith capabilities options node value path trail failed reports after)
include fails

/-- A walk that comes to fail a value leaves the rest to the rule for failures. -/
theorem walk_eq :
    walk capabilities options (.node node) value path trail =
      node.constraints.failAll options failed reports after := by
  cases fails with
  | missing absent required =>
      rw [walk_node, if_pos absent, Constraints.absent, required]
  | unwanted present forbidden => exact walk_of_forbidden present forbidden
  | unmatched present admitted union tried =>
      rw [walk_eq_settleUnion present admitted union, settleUnion, tried]
      rfl
  | turnedAway present admitted plain arrived =>
      rw [walk_eq_settlePlain present admitted plain, settlePlain, arrived]
      rfl
  | broken present admitted plain arrived descended rejected =>
      rw [walk_eq_settlePlain present admitted plain, settlePlain, arrived]
      dsimp only
      rw [descended, Constraints.leave]
      exact if_pos (by simp [rejected])
  | unsanitized present admitted plain arrived descended accepted panicked =>
      rw [walk_eq_settlePlain present admitted plain, settlePlain, arrived]
      dsimp only
      rw [descended, Constraints.leave, if_neg (by simp [accepted]), panicked]
      rfl

theorem reports_ne_nil : reports ≠ [] := by
  cases fails with
  | broken present admitted plain arrived descended rejected =>
      simpa [Outcome.isOk] using rejected
  | _ => exact List.cons_ne_nil _ _

end FailsWith

/-! ## Failures without a look at the default -/

section Delivered

variable {result : Value} {after : Trail} (present : value.isUndefined = false)
  (admitted : node.constraints.effectivePresence options ≠ .forbidden)
include present admitted

theorem walk_of_chosen (union : node.alternatives ≠ [])
    (tried : walkFirst capabilities options node.alternatives value path [] trail =
      (.ok result, after)) :
    walk capabilities options (.node node) value path trail = (⟨result, []⟩, after) := by
  rw [walk_eq_settleUnion present admitted union, settleUnion, tried]

theorem walk_of_settled (plain : node.alternatives = [])
    (arrived : node.constraints.arrive options path value trail = (.accepted result, after)) :
    walk capabilities options (.node node) value path trail = (⟨result, []⟩, after) := by
  rw [walk_eq_settlePlain present admitted plain, settlePlain, arrived]

theorem walk_of_entered (plain : node.alternatives = []) {entered : Value}
    {between behind : Trail} {descent : Outcome}
    (arrived : node.constraints.arrive options path value trail = (.entered entered, between))
    (descended : descend capabilities options node entered path between = (descent, behind))
    (accepted : descent.isOk = true)
    (sanitized : runSanitizers path node.constraints.sanitize descent.value
      (runChecksAfter capabilities path descent.value node.constraints.checksAfter behind) =
        (.ok result, after)) :
    walk capabilities options (.node node) value path trail = (⟨result, []⟩, after) := by
  rw [walk_eq_settlePlain present admitted plain, settlePlain, arrived]
  dsimp only
  rw [descended, Constraints.leave, if_neg (by simp [accepted]), sanitized]

end Delivered

variable (capabilities options) in
/-- Whatever its default, a node delivers one result for a value, or comes to fail it for the same
reports. -/
def DecidesAlone (node : Node Schema) (value : Value) (path : String) (trail : Trail) : Prop :=
  (∃ result after, ∀ default,
    walk capabilities options (.node (node.withDefault default)) value path trail =
      (⟨result, []⟩, after)) ∨
  ∃ (delivered : Value → Value) (reports : List Report) (after : Trail), ∀ default,
    FailsWith capabilities options (node.withDefault default) value path trail
      (delivered default) reports after

section Present

variable (present : value.isUndefined = false)
include present

section Admitted

variable (admitted : node.constraints.effectivePresence options ≠ .forbidden)
include admitted

theorem decidesAlone_of_union (union : node.alternatives ≠ []) :
    DecidesAlone capabilities options node value path trail := by
  rcases tried : walkFirst capabilities options node.alternatives value path [] trail with
    ⟨errors | chosen, after⟩
  · exact .inr ⟨id, _, after, fun _ => .unmatched present admitted union tried⟩
  · exact .inl ⟨chosen, after, fun _ => walk_of_chosen present admitted union tried⟩

theorem decidesAlone_of_entered (plain : node.alternatives = []) {entered : Value}
    {between : Trail}
    (arrived : node.constraints.arrive options path value trail = (.entered entered, between)) :
    DecidesAlone capabilities options node value path trail := by
  rcases descended : descend capabilities options node entered path between with ⟨descent, behind⟩
  cases accepted : descent.isOk with
  | false =>
      exact .inr ⟨fun _ => descent.value, _, behind,
        fun _ => .broken present admitted plain arrived descended accepted⟩
  | true =>
      rcases sanitized : runSanitizers path node.constraints.sanitize descent.value
          (runChecksAfter capabilities path descent.value node.constraints.checksAfter behind) with
        ⟨report | result, after⟩
      · exact .inr ⟨id, _, after,
          fun _ => .unsanitized present admitted plain arrived descended accepted sanitized⟩
      · exact .inl ⟨result, after,
          fun _ => walk_of_entered present admitted plain arrived descended accepted sanitized⟩

theorem decidesAlone_of_plain (plain : node.alternatives = []) :
    DecidesAlone capabilities options node value path trail := by
  rcases arrived : node.constraints.arrive options path value trail with
    ⟨accepted | report | entered, after⟩
  · exact .inl ⟨accepted, after, fun _ => walk_of_settled present admitted plain arrived⟩
  · exact .inr ⟨id, _, after, fun _ => .turnedAway present admitted plain arrived⟩
  · exact decidesAlone_of_entered present admitted plain arrived

end Admitted

/-- For a present value the default of a node is not looked at before the value has failed. -/
theorem decidesAlone (node : Node Schema) (path : String) (trail : Trail) :
    DecidesAlone capabilities options node value path trail := by
  by_cases forbidden : node.constraints.effectivePresence options = .forbidden
  · exact .inr ⟨fun _ => .undefined, _, trail, fun _ => .unwanted present forbidden⟩
  · by_cases plain : node.alternatives = []
    · exact decidesAlone_of_plain present forbidden plain
    · exact decidesAlone_of_union present forbidden plain

/-- A schema that accepts a present value without its default makes the same of it with the default;
otherwise it comes to fail the value for the errors that it has without the default. -/
theorem walk_withoutDefault (node : Node Schema) (path : String) (trail : Trail) :
    let walked := walk capabilities options (.node node) value path trail
    let bare := walk capabilities options (.node (node.withDefault .undefined)) value path trail
    (bare.1.isOk = true ∧ walked = bare) ∨
      bare.1.isOk = false ∧
        ∃ failed, FailsWith capabilities options node value path trail failed bare.1.errors
          bare.2 := by
  intro walked bare
  rcases decidesAlone present node path trail with
    ⟨result, after, each⟩ | ⟨delivered, reports, after, each⟩
  · have same : walked = bare := (each node.constraints.default).trans (each .undefined).symm
    have accepted : bare = (⟨result, []⟩, after) := each .undefined
    exact .inl ⟨by rw [accepted]; rfl, same⟩
  · have keeps : (node.withDefault .undefined).constraints.downgrades options = false := rfl
    have failed : bare = (⟨delivered .undefined, reports⟩, after) :=
      (each .undefined).walk_eq.trans (Constraints.failAll_of_keeps _ _ _ keeps)
    refine .inr ⟨?_, delivered node.constraints.default, ?_⟩
    · simpa [failed, Outcome.isOk] using (each .undefined).reports_ne_nil
    · rw [failed]
      exact each node.constraints.default

end Present

/-! ## Optional values with a default -/

variable (capabilities) in
/--
A node whose value is optional and has a default never rejects, if the options
turn failures of optional values into warnings.  Wherever the walk comes to fail
the value, all reports that are handed over there become warnings, in their
order.  They are the errors that the schema would have reported without its
default.
-/
theorem optional_default_never_rejects (given : node.constraints.default.isNullish = false)
    (optional : node.constraints.effectivePresence options = .optional)
    (lenient : options.warnOnInvalidOptionals = true) (value : Value) (path : String)
    (trail : Trail) :
    let walked := walk capabilities options (.node node) value path trail
    let bare := walk capabilities options (.node (node.withDefault .undefined)) value path trail
    walked.1.errors = [] ∧
      (∀ failed reports after,
        FailsWith capabilities options node value path trail failed reports after →
          walked = (⟨failed, []⟩, after.warn reports)) ∧
      walked.2 = bare.2.warn bare.1.errors := by
  intro walked bare
  have downgrades : node.constraints.downgrades options = true := by
    simp [Constraints.downgrades, given, optional, lenient]
  have exits : ∀ failed reports after,
      FailsWith capabilities options node value path trail failed reports after →
        walked = (⟨failed, []⟩, after.warn reports) :=
    fun _ _ _ fails => fails.walk_eq.trans (Constraints.failAll_of_downgrades _ _ _ downgrades)
  cases present : value.isUndefined with
  | true =>
      have here : walked = (⟨node.constraints.default, []⟩, trail) := by
        dsimp only [walked]
        rw [walk_node, if_pos present, Constraints.absent, optional]
      have there : bare = (⟨.undefined, []⟩, trail) := by
        have optional : (node.withDefault .undefined).constraints.effectivePresence options =
            .optional := optional
        dsimp only [bare]
        rw [walk_node, if_pos present, Constraints.absent, optional]
        rfl
      refine ⟨congrArg (fun ending => ending.1.errors) here, exits, ?_⟩
      rw [here, there]
      exact (Trail.warn_nil trail).symm
  | false =>
      rcases walk_withoutDefault present node path trail with
        ⟨accepted, same⟩ | ⟨-, failed, fails⟩
      · have none : bare.1.errors = [] := by simpa [Outcome.isOk] using accepted
        refine ⟨(congrArg (fun ending => ending.1.errors) same).trans none, exits, ?_⟩
        rw [none, Trail.warn_nil]
        exact congrArg Prod.snd same
      · have ending := exits _ _ _ fails
        exact ⟨congrArg (fun ending => ending.1.errors) ending, exits, congrArg Prod.snd ending⟩

/-- Both members are rejected, the object has a default, and the reports on its members are laid
behind the warning that was there. -/
theorem optional_default_never_rejects_object :
    let number : Schema :=
      .node { constraints := { kind := some .number, presence := some .required } }
    let node : Node Schema := {
      constraints := { kind := some .object, default := .object none [] }
      keys := [("a", number), ("b", number)] }
    let value : Value := .object none [("a", .string "x"), ("b", .boolean true)]
    let reports : List Report := [
      { tag := "mismatching_types", sourcePath := "/p/a", sourceValue := .string "x",
        expected := .string "number", actual := .string "string" },
      { tag := "mismatching_types", sourcePath := "/p/b", sourceValue := .boolean true,
        expected := .string "number", actual := .string "boolean" }]
    let trail : Trail :=
      { warnings := [{ tag := "check_failed", sourcePath := "", sourceValue := .null }] }
    let walked := walk .native {} (.node node) value "/p" trail
    node.constraints.default.isNullish = false ∧
      node.constraints.effectivePresence {} = .optional ∧
      ({} : Options).warnOnInvalidOptionals = true ∧
      FailsWith .native {} node value "/p" trail (.object none []) reports trail.countOwnKeys ∧
      walked.1.errors = [] ∧ walked.2.warnings = trail.warnings ++ reports := by
  intro number node value reports trail walked
  have given : node.constraints.default.isNullish = false := rfl
  have optional : node.constraints.effectivePresence {} = .optional := rfl
  have admitted : node.constraints.effectivePresence {} ≠ .forbidden := by decide
  have arrived : node.constraints.arrive {} "/p" value trail = (.entered value, trail) := rfl
  have descended : descend .native {} node value "/p" trail =
      (⟨.object none [], reports⟩, trail.countOwnKeys) := rfl
  have fails : FailsWith .native {} node value "/p" trail (.object none []) reports
      trail.countOwnKeys := .broken rfl admitted rfl arrived descended rfl
  obtain ⟨none, exits, -⟩ :=
    optional_default_never_rejects .native given optional rfl value "/p" trail
  have ending := exits _ _ _ fails
  exact ⟨given, optional, rfl, fails, none, congrArg (fun ending => ending.2.warnings) ending⟩

end Schema

end SchemaValidation
