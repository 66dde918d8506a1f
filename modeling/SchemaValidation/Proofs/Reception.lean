import SchemaValidation.Proofs.NodeStep

/-!
# What a position decides

A ruling is what a walk decides about a value: the value that it delivers and
whether it accepts.  The path and the trail have no part in it; they only go into
reports.  This module has the rulings of one position, which its constraints
settle without the schemas below it.
-/

namespace SchemaValidation

/-- The value that is delivered, and whether it is accepted. -/
structure Ruling where
  value : Value
  accepted : Bool

/-- What an outcome decides, its reports left out. -/
def Outcome.ruling (outcome : Outcome) : Ruling :=
  ⟨outcome.value, outcome.isOk⟩

@[simp] theorem Outcome.ruling_mk (value : Value) (errors : List Report) :
    (⟨value, errors⟩ : Outcome).ruling = ⟨value, errors.isEmpty⟩ := rfl

@[simp] theorem Outcome.ruling_value (outcome : Outcome) :
    outcome.ruling.value = outcome.value := rfl

@[simp] theorem Outcome.ruling_accepted (outcome : Outcome) :
    outcome.ruling.accepted = outcome.isOk := rfl

/-- What a position makes of a value before its parts are looked at, without the report. -/
inductive Reception where
  | accepted (value : Value)
  | rejected
  | entered (value : Value)

/-- An arrival without its report. -/
def Arrival.reception : Arrival → Reception
  | accepted value => .accepted value
  | rejected _ => .rejected
  | entered value => .entered value

/-- A value unless it is absent. -/
def Value.present? (value : Value) : Option Value :=
  if value.isUndefined then none else some value

@[simp] theorem Value.present?_getD (value : Value) :
    value.present?.getD .undefined = value := by
  cases value <;> rfl

theorem Value.eq_of_present? {value item : Value} (present : value.present? = some item) :
    item = value := by
  unfold present? at present
  split at present
  · cases present
  · cases present
    rfl

/-- Whether a check lets a value pass. -/
def Check.passes (check : Check) (value : Value) : Bool :=
  match check.judge value with
  | .returned .pass => true
  | _ => false

/-- The value that sanitizers make of a value, unless one of them panics. -/
def sanitized? : List Sanitizer → Value → Option Value
  | [], value => some value
  | sanitizer :: rest, value =>
      match sanitizer.transform value with
      | .returned sanitized => sanitized? rest sanitized
      | .panicked _ => none

namespace Constraints

variable (constraints : Constraints) (options : Options)

/-- The ruling on a failure that delivers a value. -/
def refuse (value : Value) : Ruling :=
  ⟨value, constraints.downgrades options⟩

/-- The ruling on an absent value. -/
def ruleAbsent : Ruling :=
  match constraints.effectivePresence options with
  | .optional => ⟨constraints.default, true⟩
  | .required => constraints.refuse options .undefined
  | .forbidden => ⟨.undefined, true⟩

/-- The value as one of the kind of the node, unless that is an error. -/
def fitKind (arrived : Shape) (value : Value) : Option Value :=
  match constraints.kind with
  | none => some value
  | some kind =>
      if arrived = kind.shape then some value
      else if options.strict then none
      else some (value.cast kind.shape)

/-- What the lists of values and the checks of the node make of a value. -/
def weigh (value : Value) : Reception :=
  if value.isAmong constraints.insensitive constraints.allowed then .accepted value
  else if value.isAmong constraints.insensitive constraints.invalid then .rejected
  else if !constraints.valid.isEmpty then
    if value.isAmong constraints.insensitive constraints.valid then .accepted value else .rejected
  else if constraints.checks.all fun check => check.passes value then .entered value
  else .rejected

/-- What the node makes of a present value before its parts are looked at. -/
def receive (value : Value) : Reception :=
  match sanitized? constraints.sanitizeBefore value with
  | none => .rejected
  | some sanitized =>
      match constraints.fitKind options value.shape (constraints.resolveAlias sanitized) with
      | none => .rejected
      | some settled => constraints.weigh settled

/-- The ruling at the node once there is one on the parts of the value. -/
def dismiss (descent : Ruling) : Ruling :=
  if !descent.accepted then constraints.refuse options descent.value
  else
    match sanitized? constraints.sanitize descent.value with
    | some value => ⟨value, true⟩
    | none => constraints.refuse options constraints.default

end Constraints

/-! ## The steps at one position -/

variable (capabilities : Capabilities) (options : Options) (path : String)

theorem runSanitizers_toOption (sanitizers : List Sanitizer) (value : Value) (trail : Trail) :
    (runSanitizers path sanitizers value trail).1.toOption = sanitized? sanitizers value := by
  induction sanitizers generalizing value trail with
  | nil => rfl
  | cons sanitizer rest ih =>
      unfold runSanitizers sanitized?
      cases sanitizer.transform value with
      | returned sanitized => exact ih sanitized trail
      | panicked reason => rfl

theorem runChecks_isEmpty (value : Value) (checks : List Check) (trail : Trail) :
    (runChecks path value checks trail).1.isEmpty =
      checks.all fun check => check.passes value := by
  induction checks generalizing trail with
  | nil => rfl
  | cons check rest ih =>
      rw [List.all_cons]
      unfold runChecks Check.passes
      cases check.judge value with
      | returned verdict =>
          cases verdict with
          | pass => exact ih trail
          | fail detail => cases detail <;> rfl
      | panicked reason => rfl

namespace Constraints

variable (constraints : Constraints)

theorem failAll_ruling (value : Value) {errors : List Report} (some : errors.isEmpty = false)
    (trail : Trail) :
    (constraints.failAll options value errors trail).1.ruling =
      constraints.refuse options value := by
  unfold failAll refuse
  split
  · rename_i downgraded
    simp [downgraded]
  · rename_i kept
    simp [kept, some]

theorem fail_ruling (report : Report) (trail : Trail) :
    (constraints.fail options report trail).1.ruling =
      constraints.refuse options constraints.default :=
  constraints.failAll_ruling options _ rfl trail

theorem absent_ruling (trail : Trail) :
    (constraints.absent options path trail).1.ruling = constraints.ruleAbsent options := by
  unfold absent ruleAbsent
  cases constraints.effectivePresence options with
  | optional => rfl
  | required => exact constraints.failAll_ruling options _ rfl trail
  | forbidden => rfl

theorem settleKind_toOption (arrived : Shape) (value : Value) (trail : Trail) :
    (constraints.settleKind options arrived path value trail).1.toOption =
      constraints.fitKind options arrived value := by
  unfold settleKind fitKind
  cases constraints.kind with
  | none => rfl
  | some kind =>
      dsimp only
      split
      · rfl
      · split <;> rfl

theorem judge_reception (value : Value) (trail : Trail) :
    (constraints.judge path value trail).1.reception = constraints.weigh value := by
  have checked := runChecks_isEmpty path value constraints.checks trail
  unfold judge weigh
  split
  · rfl
  · split
    · rfl
    · split
      · split <;> rfl
      · rw [← checked]
        obtain ⟨details, after⟩ := runChecks path value constraints.checks trail
        cases details <;> rfl

theorem arrive_reception (value : Value) (trail : Trail) :
    (constraints.arrive options path value trail).1.reception =
      constraints.receive options value := by
  have before := runSanitizers_toOption path constraints.sanitizeBefore value trail
  unfold arrive receive
  rw [← before]
  obtain ⟨report | sanitized, after⟩ := runSanitizers path constraints.sanitizeBefore value trail
  · rfl
  · have fitted := constraints.settleKind_toOption options path value.shape
      (constraints.resolveAlias sanitized) after
    dsimp only [Except.toOption]
    rw [← fitted]
    obtain ⟨report | settled, behind⟩ := constraints.settleKind options value.shape path
      (constraints.resolveAlias sanitized) after
    · rfl
    · exact constraints.judge_reception path settled behind

theorem leave_ruling (descent : Outcome) (trail : Trail) :
    (constraints.leave capabilities options path descent trail).1.ruling =
      constraints.dismiss options descent.ruling := by
  have settled := runSanitizers_toOption path constraints.sanitize descent.value
    (runChecksAfter capabilities path descent.value constraints.checksAfter trail)
  unfold leave dismiss
  simp only [Outcome.ruling_accepted, Outcome.ruling_value, ← settled]
  split
  · rename_i rejected
    exact constraints.failAll_ruling options _ (by simpa [Outcome.isOk] using rejected) trail
  · obtain ⟨report | value, after⟩ := runSanitizers path constraints.sanitize descent.value
      (runChecksAfter capabilities path descent.value constraints.checksAfter trail)
    · exact constraints.fail_ruling options report after
    · rfl

end Constraints

/-! ## Positions that transform nothing -/

namespace Constraints

/-- Nothing transforms the values at a position. -/
structure IsUntransformed (constraints : Constraints) : Prop where
  sanitizeBefore : constraints.sanitizeBefore = []
  aliases : constraints.aliases.members = []
  sanitize : constraints.sanitize = []

/-- Whether a position calls for the values of a shape. -/
def callsFor (constraints : Constraints) (shape : Shape) : Bool :=
  constraints.kind.all fun kind => decide (shape = kind.shape)

theorem shape_of_callsFor {constraints : Constraints} {shape : Shape}
    (called : constraints.callsFor shape = true) {kind : Kind}
    (known : constraints.kind = some kind) : shape = kind.shape := by
  unfold callsFor at called
  rw [known] at called
  exact of_decide_eq_true called

theorem resolveAlias_of_untransformed {constraints : Constraints}
    (untransformed : constraints.IsUntransformed) (value : Value) :
    constraints.resolveAlias value = value := by
  have unnamed : value.keyText?.bind constraints.aliases.find? = none := by
    cases value.keyText? with
    | none => rfl
    | some name =>
        unfold Record.find?
        rw [Option.bind_some, untransformed.aliases]
        rfl
  unfold resolveAlias
  rw [unnamed]

/-- A strict position that transforms nothing weighs a value as it is, if it calls for its shape. -/
theorem receive_of_untransformed {constraints : Constraints}
    (untransformed : constraints.IsUntransformed) (strict : options.strict = true)
    (value : Value) :
    constraints.receive options value =
      if constraints.callsFor value.shape then constraints.weigh value else .rejected := by
  unfold receive fitKind callsFor
  rw [untransformed.sanitizeBefore, sanitized?]
  dsimp only
  rw [resolveAlias_of_untransformed untransformed]
  cases constraints.kind with
  | none => rfl
  | some kind =>
      rw [Option.all_some]
      by_cases same : value.shape = kind.shape
      · simp [same]
      · simp [same, strict]

theorem dismiss_of_untransformed {constraints : Constraints}
    (untransformed : constraints.IsUntransformed) (descent : Ruling) :
    constraints.dismiss options descent =
      if descent.accepted then ⟨descent.value, true⟩
      else constraints.refuse options descent.value := by
  unfold dismiss
  rw [untransformed.sanitize, sanitized?]
  cases descent.accepted <;> rfl

section Weigh

variable {constraints : Constraints} {value result : Value}

theorem weigh_accepted (settled : constraints.weigh value = .accepted result) :
    result = value ∧
      value.isAmong constraints.insensitive (constraints.allowed ++ constraints.valid) =
        true := by
  unfold Value.isAmong
  unfold weigh at settled
  rw [List.any_append, Bool.or_eq_true]
  split at settled
  · rename_i allowed
    cases settled
    exact ⟨rfl, .inl allowed⟩
  · split at settled
    · cases settled
    · split at settled
      · split at settled
        · rename_i valid
          cases settled
          exact ⟨rfl, .inr valid⟩
        · cases settled
      · split at settled <;> cases settled

theorem weigh_entered (settled : constraints.weigh value = .entered result) :
    result = value ∧ constraints.valid = [] ∧
      value.isAmong constraints.insensitive constraints.invalid = false ∧
      ∀ check ∈ constraints.checks, check.passes value = true := by
  unfold weigh at settled
  split at settled
  · cases settled
  · split at settled
    · cases settled
    · rename_i notInvalid
      split at settled
      · split at settled <;> cases settled
      · rename_i unlisted
        split at settled
        · rename_i passed
          cases settled
          exact ⟨rfl, by simpa using unlisted, by simpa using notInvalid,
            List.all_eq_true.mp passed⟩
        · cases settled

end Weigh

end Constraints

end SchemaValidation
