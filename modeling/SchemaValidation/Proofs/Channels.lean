import Mathlib.Algebra.Order.Group.Multiset
import SchemaValidation.Proofs.Parts
import SchemaValidation.Proofs.TrailFrame

/-!
# Two channels of reports

A report is made once and is then sent on as an error or as a warning.  Which of
the two it becomes is a matter of the options, but no option makes it twice or
drops it.  So two walks whose options differ only in this deliver the same value
and the same reports, and the more permissive one has fewer errors.  Choices
between schemas take reports back, and some steps are taken only after a descent
without errors; the law is about schemas without either.
-/

namespace SchemaValidation

/-- Two sets of options that report unknown members and differ at most in which reports they make
warnings. -/
structure Options.DiffersInChannels (first second : Options) : Prop where
  strict : first.strict = second.strict
  stripUnknown : first.stripUnknown = second.stripUnknown
  presence : first.presence = second.presence
  reports : first.warnUnknown = true
  reports' : second.warnUnknown = true

/-- The second options make warnings of every report that the first make a warning. -/
structure Options.SoftenedBy (first second : Options) : Prop where
  allowUnknown : first.allowUnknown = true → second.allowUnknown = true
  warnOnInvalidOptionals :
    first.warnOnInvalidOptionals = true → second.warnOnInvalidOptionals = true

/-- A node that makes no choice between schemas and has nothing to do after the descent. -/
structure Node.IsDirect (node : Node Schema) : Prop where
  alternatives : node.alternatives = []
  includes : node.includes = []
  excludes : node.excludes = []
  checksAfter : node.constraints.checksAfter = []
  sanitize : node.constraints.sanitize = []

/-! ## Reports on their way -/

/-- Errors together with a trail. -/
abbrev Reported : Type := List Report × Trail

namespace Reported

/-- All reports, whichever channel they are in. -/
def all (reported : Reported) : Multiset Report :=
  reported.1 + reported.2.warnings

/-- The reports with the errors made warnings if the flag says so. -/
def send (asWarnings : Bool) (reported : Reported) : Reported :=
  if asWarnings then ([], reported.2.warn reported.1) else reported

/-- Further reports behind the first ones, in both channels. -/
def append (first second : Reported) : Reported :=
  (first.1 ++ second.1, first.2 ++ second.2)

theorem all_send (asWarnings : Bool) (reported : Reported) :
    (send asWarnings reported).all = reported.all := by
  cases asWarnings with
  | false => rfl
  | true =>
      change (0 : Multiset Report) + (reported.2.warnings ++ reported.1 : List Report) = _
      rw [zero_add, ← Multiset.coe_add, add_comm]
      rfl

theorem all_append (first second : Reported) :
    (append first second).all = first.all + second.all := by
  change ((first.1 ++ second.1 : List Report) : Multiset Report) +
    (first.2.warnings ++ second.2.warnings : List Report) = _
  rw [← Multiset.coe_add, ← Multiset.coe_add]
  exact add_add_add_comm _ _ _ _

theorem send_nil (asWarnings : Bool) (trail : Trail) :
    send asWarnings ([], trail) = ([], trail) := by
  cases asWarnings with
  | false => rfl
  | true =>
      change ([], Trail.mk (trail.warnings ++ []) trail.events trail.usage) = _
      rw [List.append_nil]

/-- Both hold the same reports, and if the first are softened by the second, the second hold no error
that the first do not. -/
structure Exchanges (softened : Prop) (first second : Reported) : Prop where
  all : first.all = second.all
  errors : softened → (second.1 : Multiset Report) ≤ first.1

namespace Exchanges

variable {softened : Prop} {first second first' second' : Reported}

theorem refl (reported : Reported) : Exchanges softened reported reported :=
  ⟨rfl, fun _ => le_refl _⟩

/-- Making warnings of the errors keeps the law, if the second side does so whenever the first
does. -/
theorem send (exchanges : Exchanges softened first second) {asWarnings asWarnings' : Bool}
    (softer : softened → asWarnings = true → asWarnings' = true) :
    Exchanges softened (first.send asWarnings) (second.send asWarnings') := by
  constructor
  · rw [all_send, all_send]
    exact exchanges.all
  · intro holds
    cases asWarnings' with
    | true => exact Multiset.zero_le _
    | false =>
        cases asWarnings with
        | true => cases softer holds rfl
        | false => exact exchanges.errors holds

theorem append (exchanges : Exchanges softened first second)
    (exchanges' : Exchanges softened first' second') :
    Exchanges softened (first.append first') (second.append second') := by
  constructor
  · rw [all_append, all_append, exchanges.all, exchanges'.all]
  · intro holds
    have sum := add_le_add (exchanges.errors holds) (exchanges'.errors holds)
    rw [Multiset.coe_add, Multiset.coe_add] at sum
    exact sum

end Exchanges

end Reported

open Reported Trail

/-- The reports of an outcome and a trail. -/
def Outcome.reported (result : Outcome × Trail) : Reported :=
  (result.1.errors, result.2)

/-- The reports against an object and those of a trail. -/
def Assembly.reported (result : Assembly × Trail) : Reported :=
  (result.1.errors, result.2)

/-- Two outcomes with the same value and exchanged reports. -/
structure Outcome.Exchanges (softened : Prop) (one other : Outcome × Trail) : Prop where
  value : one.1.value = other.1.value
  reported : Reported.Exchanges softened (reported one) (reported other)

/-- Two objects with the same members and exchanged reports. -/
structure Assembly.Exchanges (softened : Prop) (one other : Assembly × Trail) : Prop where
  members : one.1.members = other.1.members
  reported : Reported.Exchanges softened (reported one) (reported other)

/-! ## The steps at one position -/

namespace Constraints

variable (constraints : Constraints) {first second : Options}

theorem failAll_eq_send (options : Options) (value : Value) (errors : List Report)
    (trail : Trail) :
    constraints.failAll options value errors trail =
      (⟨value, (send (constraints.downgrades options) (errors, trail)).1⟩,
        (send (constraints.downgrades options) (errors, trail)).2) := by
  unfold failAll send
  cases constraints.downgrades options <;> rfl

/-- Without later steps, leaving is a failure with no report if there is no error. -/
theorem leave_eq_failAll (checksAfter : constraints.checksAfter = [])
    (sanitize : constraints.sanitize = []) (capabilities : Capabilities) (options : Options)
    (path : String) (descent : Outcome) (trail : Trail) :
    constraints.leave capabilities options path descent trail =
      constraints.failAll options descent.value descent.errors trail := by
  obtain ⟨value, errors⟩ := descent
  unfold leave
  rw [checksAfter, sanitize]
  cases errors with
  | nil => rw [failAll_eq_send, send_nil]; rfl
  | cons report rest => rfl

variable (differ : first.DiffersInChannels second)
include differ

theorem effectivePresence_exchange :
    constraints.effectivePresence first = constraints.effectivePresence second := by
  unfold effectivePresence
  rw [differ.presence]

theorem downgrades_exchange (softened : first.SoftenedBy second)
    (downgrades : constraints.downgrades first = true) :
    constraints.downgrades second = true := by
  unfold Constraints.downgrades at downgrades ⊢
  rw [← constraints.effectivePresence_exchange differ]
  rw [Bool.and_eq_true] at downgrades ⊢
  exact ⟨downgrades.1, softened.warnOnInvalidOptionals downgrades.2⟩

theorem failAll_exchanges (value : Value) {errors errors' : List Report} {trail trail' : Trail}
    (exchanges : Reported.Exchanges (first.SoftenedBy second) (errors, trail)
      (errors', trail')) :
    Outcome.Exchanges (first.SoftenedBy second)
      (constraints.failAll first value errors trail)
      (constraints.failAll second value errors' trail') := by
  rw [failAll_eq_send, failAll_eq_send]
  exact ⟨rfl, exchanges.send (constraints.downgrades_exchange differ)⟩

theorem fail_exchanges (report : Report) (trail : Trail) :
    Outcome.Exchanges (first.SoftenedBy second) (constraints.fail first report trail)
      (constraints.fail second report trail) :=
  constraints.failAll_exchanges differ _ (.refl _)

theorem absent_exchanges (path : String) (trail : Trail) :
    Outcome.Exchanges (first.SoftenedBy second) (constraints.absent first path trail)
      (constraints.absent second path trail) := by
  unfold absent
  rw [constraints.effectivePresence_exchange differ]
  cases constraints.effectivePresence second with
  | optional => exact ⟨rfl, .refl _⟩
  | required => exact constraints.failAll_exchanges differ _ (.refl _)
  | forbidden => exact ⟨rfl, .refl _⟩

theorem arrive_exchange (path : String) (value : Value) (trail : Trail) :
    constraints.arrive first path value trail = constraints.arrive second path value trail := by
  have settled : constraints.settleKind first = constraints.settleKind second := by
    unfold settleKind
    rw [differ.strict]
  unfold arrive
  rw [settled]

theorem leave_exchanges (capabilities : Capabilities) (path : String)
    (checksAfter : constraints.checksAfter = []) (sanitize : constraints.sanitize = [])
    {one other : Outcome × Trail}
    (exchanges : Outcome.Exchanges (first.SoftenedBy second) one other) :
    Outcome.Exchanges (first.SoftenedBy second)
      (constraints.leave capabilities first path one.1 one.2)
      (constraints.leave capabilities second path other.1 other.2) := by
  rw [constraints.leave_eq_failAll checksAfter sanitize,
    constraints.leave_eq_failAll checksAfter sanitize, exchanges.value]
  exact constraints.failAll_exchanges differ _ exchanges.reported

end Constraints

/-! ## The steps over the members of an object -/

namespace Assembly

/-- The reports on a declared member are sent behind what is already there. -/
theorem settleDeclared_reported (assembly : Assembly) (options : Options) (presence : Presence)
    (key : String) (outcome : Outcome) (before trail : Trail) :
    reported (assembly.settleDeclared options presence key outcome (before ++ trail)) =
      append (assembly.errors, before)
        (send (presence == .optional && options.warnOnInvalidOptionals)
          (outcome.errors, trail)) := by
  obtain ⟨value, errors⟩ := outcome
  unfold settleDeclared
  rw [Bool.and_assoc]
  cases errors with
  | nil => simp [reported, append, send_nil, Outcome.isOk, store_errors, reject]
  | cons report rest =>
      cases presence == Presence.optional && options.warnOnInvalidOptionals with
      | true => simp [reported, append, send, Outcome.isOk, store_errors]
      | false => simp [reported, append, send, Outcome.isOk, store_errors, reject]

/-- The report on an unknown member is sent behind what is already there, if such members are
reported. -/
theorem settleUnknown_reported (assembly : Assembly) {options : Options}
    (reports : options.warnUnknown = true) (key : String) (item : Value) (report : Report)
    (before : Trail) :
    reported (assembly.settleUnknown options key item report before) =
      append (assembly.errors, before) (send options.allowUnknown ([report], {})) := by
  have warned := warn_append before {} [report]
  rw [append_empty] at warned
  unfold settleUnknown
  rw [reports, Bool.and_true]
  cases options.stripUnknown <;> cases options.allowUnknown <;>
    simp [reported, append, send, reject, warned]

variable {first second : Options} (differ : first.DiffersInChannels second)
  {one other : Assembly × Trail}
  (exchanges : Exchanges (first.SoftenedBy second) one other)
include differ exchanges

/-- A declared member keeps the law if the walks of its value do. -/
theorem settleDeclared_exchanges (constraints : Constraints) (key : String)
    {result result' : Outcome × Trail}
    (walked : Outcome.Exchanges (first.SoftenedBy second) result result') :
    Exchanges (first.SoftenedBy second)
      (one.1.settleDeclared first (constraints.effectivePresence first) key result.1
        (one.2 ++ result.2))
      (other.1.settleDeclared second (constraints.effectivePresence second) key result'.1
        (other.2 ++ result'.2)) := by
  constructor
  · rw [settleDeclared_members, settleDeclared_members, walked.value, exchanges.members]
  · rw [settleDeclared_reported, settleDeclared_reported,
      constraints.effectivePresence_exchange differ]
    refine exchanges.reported.append (walked.reported.send ?_)
    intro softened lenient
    rw [Bool.and_eq_true] at lenient ⊢
    exact ⟨lenient.1, softened.warnOnInvalidOptionals lenient.2⟩

theorem settleUnknown_exchanges (key : String) (item : Value) (report : Report) :
    Exchanges (first.SoftenedBy second)
      (one.1.settleUnknown first key item report one.2)
      (other.1.settleUnknown second key item report other.2) := by
  constructor
  · unfold settleUnknown
    rw [differ.stripUnknown]
    cases second.stripUnknown <;> cases first.allowUnknown <;> cases second.allowUnknown <;>
      simp [reject, exchanges.members]
  · rw [settleUnknown_reported _ differ.reports, settleUnknown_reported _ differ.reports']
    exact exchanges.reported.append (.send (.refl _) fun softened => softened.allowUnknown)

end Assembly

/-! ## Walks -/

namespace Schema

variable {capabilities : Capabilities} {first second : Options}

variable (capabilities first second) in
/-- The walks of every value along a schema exchange their reports. -/
def WalksExchange (schema : Schema) : Prop :=
  ∀ value path trail, Outcome.Exchanges (first.SoftenedBy second)
    (walk capabilities first schema value path trail)
    (walk capabilities second schema value path trail)

section Walks

variable (differ : first.DiffersInChannels second)
include differ

theorem walkKeys_exchanges {keys : List (String × Schema)}
    (below : ∀ entry ∈ keys, entry.2.WalksExchange capabilities first second)
    (members : List (String × Value)) (path : String) {one other : Assembly × Trail}
    (exchanges : Assembly.Exchanges (first.SoftenedBy second) one other) :
    Assembly.Exchanges (first.SoftenedBy second)
      (walkKeys capabilities first keys members path one.1 one.2)
      (walkKeys capabilities second keys members path other.1 other.2) := by
  induction keys generalizing one other with
  | nil => exact exchanges
  | cons entry rest ih =>
      obtain ⟨key, schema⟩ := entry
      unfold walkKeys
      dsimp only
      rw [walk_eq_append first, walk_eq_append second]
      have walked := below (key, schema) List.mem_cons_self
        ((KeyMap.find? key members).getD .undefined) ((Slot.key key).join path) {}
      have settled := Assembly.settleDeclared_exchanges differ exchanges schema.root.constraints
        key walked
      exact ih (fun entry member => below entry (List.mem_cons_of_mem _ member)) settled

/-- A member that is not declared keeps the law if the walk along the schema of the pattern does. -/
theorem settleOther_exchanges {pattern : Option (Pattern × Schema)}
    (below : ∀ entry ∈ pattern, entry.2.WalksExchange capabilities first second)
    (path key : String) (whole item : Value) {one other : Assembly × Trail}
    (exchanges : Assembly.Exchanges (first.SoftenedBy second) one other) :
    Assembly.Exchanges (first.SoftenedBy second)
      (one.1.settleOther first path whole (walkFitting capabilities first pattern path) key item
        one.2)
      (other.1.settleOther second path whole (walkFitting capabilities second pattern path) key
        item other.2) := by
  unfold Assembly.settleOther
  rcases pattern with _ | ⟨pattern, schema⟩
  · exact Assembly.settleUnknown_exchanges differ exchanges key item _
  · unfold walkFitting
    cases pattern.isMatch key with
    | false => exact Assembly.settleUnknown_exchanges differ exchanges key item _
    | true =>
        have walked := below (pattern, schema) rfl item ((Slot.key key).join path) {}
        simp only [if_true]
        rw [walk_eq_append first, walk_eq_append second]
        constructor
        · simp only [Assembly.store_members]
          rw [walked.value, exchanges.members]
        · have warned := walked.reported.send fun _ (always : true = true) => always
          have sent := exchanges.reported.append warned
          simpa [Reported.append, Reported.send, Assembly.reported, Outcome.reported,
            Assembly.store_errors] using sent

theorem settleOthers_exchanges {pattern : Option (Pattern × Schema)}
    (below : ∀ entry ∈ pattern, entry.2.WalksExchange capabilities first second)
    (path : String) (whole : Value) (keys : List String) (members : List (String × Value))
    {one other : Assembly × Trail}
    (exchanges : Assembly.Exchanges (first.SoftenedBy second) one other) :
    Assembly.Exchanges (first.SoftenedBy second)
      (Assembly.settleOthers first path whole (walkFitting capabilities first pattern path) keys
        members one.1 one.2)
      (Assembly.settleOthers second path whole (walkFitting capabilities second pattern path) keys
        members other.1 other.2) := by
  induction keys generalizing members one other with
  | nil => exact exchanges
  | cons key rest ih =>
      cases found : KeyMap.find? key members with
      | none =>
          rw [Assembly.settleOthers_cons_of_missing first path _ found,
            Assembly.settleOthers_cons_of_missing second path _ found]
          exact ih members exchanges
      | some item =>
          rw [Assembly.settleOthers_cons_of_found first path _ found,
            Assembly.settleOthers_cons_of_found second path _ found]
          exact ih _ (settleOther_exchanges differ below path key whole item exchanges)

section Node

variable {node : Node Schema}
  (below : ∀ schema ∈ node.nested, schema.WalksExchange capabilities first second)
include below

theorem descendObject_exchanges (record : Record) (path : String) (trail : Trail) :
    Outcome.Exchanges (first.SoftenedBy second)
      (descendObject capabilities first node record path trail)
      (descendObject capabilities second node record path trail) := by
  have start : Assembly.Exchanges (first.SoftenedBy second) ({}, trail.countOwnKeys)
      ({}, trail.countOwnKeys) := ⟨rfl, .refl _⟩
  have declared := walkKeys_exchanges differ
    (fun entry member => below entry.2 (Node.nested_of_key member)) record.members path start
  have whole := settleOthers_exchanges differ
    (fun entry same => below entry.2 (Node.nested_of_pattern same)) path
    (if (capabilities.ownKeys record).any fun key => !KeyMap.contains key node.keys then
      record.toValue else .undefined)
    (capabilities.ownKeys record)
    (record.members.filter fun entry => !KeyMap.contains entry.1 node.keys) declared
  exact ⟨congrArg (Value.object record.className) whole.members, whole.reported⟩

theorem descend_exchanges (direct : node.IsDirect) (entered : Value) (path : String)
    (trail : Trail) :
    Outcome.Exchanges (first.SoftenedBy second)
      (descend capabilities first node entered path trail)
      (descend capabilities second node entered path trail) := by
  have plain (options : Options) (items : List Value) :
      descendArray capabilities options node items path trail = (⟨.array items, []⟩, trail) := by
    unfold descendArray
    rw [direct.includes, direct.excludes]
    rfl
  unfold descend
  split
  · exact descendObject_exchanges differ below _ path trail
  · rw [plain first, plain second]
    exact ⟨rfl, .refl _⟩
  · exact ⟨rfl, .refl _⟩

theorem settlePlain_exchanges (direct : node.IsDirect) (value : Value) (path : String)
    (trail : Trail) :
    Outcome.Exchanges (first.SoftenedBy second)
      (settlePlain capabilities first node value path trail)
      (settlePlain capabilities second node value path trail) := by
  unfold settlePlain
  rw [node.constraints.arrive_exchange differ]
  rcases node.constraints.arrive second path value trail with
    ⟨accepted | report | entered, after⟩
  · exact ⟨rfl, .refl _⟩
  · exact node.constraints.fail_exchanges differ report after
  · exact node.constraints.leave_exchanges differ capabilities path direct.checksAfter
      direct.sanitize (descend_exchanges differ below direct entered path after)

end Node

/-- Along a schema of direct nodes, walks exchange their reports. -/
theorem walksExchange {schema : Schema} (tree : schema.Everywhere Node.IsDirect) :
    schema.WalksExchange capabilities first second := by
  induction tree with
  | @node parts direct nested ih =>
      intro value path trail
      have presence := parts.constraints.effectivePresence_exchange differ
      rw [walk_node, walk_node, presence, direct.alternatives]
      split
      · exact parts.constraints.absent_exchanges differ path trail
      · split
        · exact parts.constraints.failAll_exchanges differ _ (.refl _)
        · exact settlePlain_exchanges differ ih direct value path trail

variable (capabilities) in
/--
The options that decide between errors and warnings lose no report.  Two walks
along a schema of direct nodes, under options that report unknown members and
differ at most in this decision, deliver the same value and the same reports,
errors and warnings taken together.  If the second options are at least as
permissive, its errors are among those of the first walk.
-/
theorem channels_conserve_reports {schema : Schema} (tree : schema.Everywhere Node.IsDirect)
    (value : Value) (path : String) (trail : Trail) :
    (walk capabilities first schema value path trail).1.value =
        (walk capabilities second schema value path trail).1.value ∧
      ((walk capabilities first schema value path trail).1.errors : Multiset Report) +
          (walk capabilities first schema value path trail).2.warnings =
        (walk capabilities second schema value path trail).1.errors +
          (walk capabilities second schema value path trail).2.warnings ∧
      (first.SoftenedBy second →
        ((walk capabilities second schema value path trail).1.errors : Multiset Report) ≤
          (walk capabilities first schema value path trail).1.errors) := by
  have exchanges : schema.WalksExchange capabilities first second := walksExchange differ tree
  have walked := exchanges value path trail
  exact ⟨walked.value, walked.reported.all, walked.reported.errors⟩

end Walks

/-- Of four errors under the first options, the second ones leave one and make warnings of three. -/
theorem channels_conserve_reports_nested :
    let first : Options := { warnOnInvalidOptionals := false }
    let second : Options := { allowUnknown := true }
    let number (presence : Option Presence) : Schema :=
      .node { constraints := { kind := some .number, presence } }
    let inner : Schema := .node {
      constraints := { kind := some .object }
      keys := [("b", number none)] }
    let schema : Schema := .node {
      constraints := { kind := some .object }
      keys := [("a", inner), ("c", number (some .required))] }
    let value : Value := .object none [
      ("a", .object none [("b", .string "x"), ("d", .null)]), ("c", .string "y"), ("e", .null)]
    let one := walk .native first schema value "" {}
    let other := walk .native second schema value "" {}
    (one.1.errors.length = 4 ∧ one.2.warnings.length = 0) ∧
      (other.1.errors.length = 1 ∧ other.2.warnings.length = 3) ∧
      one.1.value = other.1.value ∧
      (one.1.errors : Multiset Report) + one.2.warnings =
        other.1.errors + other.2.warnings ∧
      (other.1.errors : Multiset Report) ≤ one.1.errors := by
  intro first second number inner schema value one other
  have differ : first.DiffersInChannels second := ⟨rfl, rfl, rfl, rfl, rfl⟩
  have softened : first.SoftenedBy second := ⟨by decide, by decide⟩
  have leaf (presence : Option Presence) : (number presence).Everywhere Node.IsDirect :=
    .node ⟨rfl, rfl, rfl, rfl, rfl⟩ (by simp [Node.nested])
  have tree : schema.Everywhere Node.IsDirect := by
    refine .node ⟨rfl, rfl, rfl, rfl, rfl⟩ ?_
    simp only [Node.nested, List.map_cons, List.map_nil, Option.map_none, Option.toList_none,
      List.append_nil, List.forall_mem_cons]
    refine ⟨.node ⟨rfl, rfl, rfl, rfl, rfl⟩ ?_, leaf (some .required), List.forall_mem_nil _⟩
    simpa [Node.nested] using leaf none
  have conserved := channels_conserve_reports .native differ tree value "" {}
  exact ⟨by decide, by decide, conserved.1, conserved.2.1, conserved.2.2 softened⟩

end Schema

end SchemaValidation
