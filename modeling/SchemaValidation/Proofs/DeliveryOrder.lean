import SchemaValidation.Engine.Service
import SchemaValidation.Proofs.DeliverySteps
import SchemaValidation.Proofs.Identities

/-!
# Deliveries of an engine

An engine in service puts the outcomes of orders into a queue and delivers them
when it is asked to.  What it delivers is what a validation of the same value
returns, whenever that is made, and an order whose bag is refused leaves nothing
to deliver.  A call delivers to the callable in fourth place, or else to the one
in third place: what is against the value, the value and the warnings.
-/

namespace SchemaValidation

open Deferred

namespace Validation

/-- What is handed over of some reports: null if there are none, and else the list of their records. -/
def handedReports : List Report → Value
  | [] => .null
  | report :: rest => .array ((report :: rest).map fun report => report.toRecord.toValue)

/-- What a callable is handed of an outcome: the reports against the value, the value and the
warnings. -/
def handedOver (outcome : Validation) : List Value :=
  [handedReports outcome.errors, outcome.value, handedReports outcome.warnings]

/-- What is returned of an outcome: the same as a record. -/
def handedBack (outcome : Validation) : Value :=
  .object none [("errors", handedReports outcome.errors), ("value", outcome.value),
    ("warnings", handedReports outcome.warnings)]

theorem reportsValue_eq (reports : List Report) : reportsValue reports = handedReports reports := by
  cases reports <;> rfl

theorem arguments_eq (outcome : Validation) : outcome.arguments = outcome.handedOver := by
  rw [arguments, reportsValue_eq, reportsValue_eq, handedOver]

theorem toRecord_toValue_eq (outcome : Validation) :
    outcome.toRecord.toValue = outcome.handedBack := by
  have sorted : ["errors", "value", "warnings"].Pairwise (· < ·) := by decide
  have ascending : KeyMap.IsAscending [("errors", reportsValue outcome.errors),
      ("value", outcome.value), ("warnings", reportsValue outcome.warnings)] :=
    List.pairwise_map.mp sorted
  rw [handedBack, ← reportsValue_eq, ← reportsValue_eq, ← ascending.ofList_eq]
  rfl

end Validation

/-- What there is to deliver of the outcome of an order: the outcome as it is, or, in a call, what is
handed to the callable in fourth place, or else to the one in third place. -/
def Order.parcel? : Order → Validation → Option Parcel
  | validation _ _ _, outcome => some (.outcome outcome)
  | call _ _ _ (.function callable), outcome => some (.arguments callable outcome.handedOver)
  | call _ _ (.function callable) _, outcome => some (.arguments callable outcome.handedOver)
  | call _ _ _ _, _ => none

namespace Engine

variable (engine : Engine) (reference : Ledger)

/-- What a call comes to is what there is to deliver, or else what is returned. -/
theorem answer_eq (value : Value) (source : Source) (third fourth : Value) (outcome : Validation) :
    answer third fourth outcome =
      match (Order.call value source third fourth).parcel? outcome with
      | some parcel => .deferred parcel
      | none => .returned outcome.handedBack := by
  unfold answer
  rw [outcome.arguments_eq, outcome.toRecord_toValue_eq]
  cases fourth with
  | function callable => rfl
  | _ => cases third <;> rfl

/-- What an order comes to is what its validation comes to. -/
theorem fulfil_eq (order : Order) (ledger : Ledger) :
    engine.fulfil order ledger =
      ((engine.examine order ledger).1.map fun outcome =>
        match order.parcel? outcome with
        | some parcel => .deferred parcel
        | none => .returned outcome.handedBack, (engine.examine order ledger).2) := by
  cases order with
  | validation value source bag => rfl
  | call value source third fourth =>
      unfold fulfil
      dsimp only
      rw [funext (answer_eq value source third fourth)]
      rfl

/-- The outcome of the validation that an order asks for, made with some ledger.  The bag of a call is
the object in third place; without one there is no bag. -/
def outcomeOf : Order → Except BagError Validation
  | .validation value source bag => (engine.validate value source bag reference).1
  | .call value source (.object className members) _ =>
      (engine.validate value source (.object className members) reference).1
  | .call value source _ _ => (engine.validate value source .undefined reference).1

theorem examine_eq_outcomeOf (order : Order) (ledger : Ledger) :
    (engine.examine order ledger).1 = engine.outcomeOf reference order := by
  have same : (engine.examine order ledger).1 = (engine.examine order reference).1 :=
    engine.validate_eq_of_ledger ledger reference order.value order.source order.bag
  rw [same]
  cases order with
  | validation value source bag => rfl
  | call value source third fourth => cases third <;> rfl

/-- What is answered at a moment: the outcome of a validation or the error against its bag, the result
of a call or the notice that an outcome waits, and the number of the deliveries that end. -/
def answersAt : Moment Order Parcel → List Answer
  | .performed order =>
      match engine.outcomeOf reference order with
      | .ok outcome => [.validated outcome]
      | .error error => [.refused error]
  | .declined order =>
      match engine.outcomeOf reference order with
      | .ok outcome => [.returned outcome.handedBack]
      | .error error => [.refused error]
  | .scheduled _ _ => [.accepted]
  | .closed count => [.ran count]
  | .opened | .began _ | .finished _ => []

/-- A delivery is what there is to deliver of the validation, and without one there is nothing to
deliver. -/
def Accords : Moment Order Parcel → Prop
  | .scheduled order delivery => ∃ outcome, engine.outcomeOf reference order = .ok outcome ∧
      order.parcel? outcome = some delivery.outcome
  | .declined order => ∀ outcome, engine.outcomeOf reference order = .ok outcome →
      order.parcel? outcome = none
  | _ => True

variable {engine} {mayAsk : Delivery Order Parcel → List (Request Order) → Prop}
  {config next : Config Order Parcel Service} {moment : Moment Order Parcel}
  {history : List (Moment Order Parcel)}

/-- An order that is examined is answered with the outcome of its validation. -/
theorem perform_answers (order : Order) (pending : Nat) (state : Service) :
    (engine.service.perform order pending state).answers =
      state.answers ++ engine.answersAt reference (.performed order) := by
  have examined := engine.examine_eq_outcomeOf reference order state.ledger
  unfold answersAt service
  dsimp only
  rw [← examined]
  rcases engine.examine order state.ledger with ⟨error | outcome, after⟩ <;> rfl

/-- An order is attempted by the validation that it asks for. -/
theorem attempt_eq (order : Order) (pending : Nat) (state : Service) :
    engine.service.attempt order pending state =
      match engine.outcomeOf reference order with
      | .error error =>
          (none, state.reply (engine.examine order state.ledger).2 (.refused error))
      | .ok outcome =>
          match order.parcel? outcome with
          | some parcel =>
              (some parcel, { state with ledger := (engine.examine order state.ledger).2 })
          | none => (none, state.reply (engine.examine order state.ledger).2
              (.returned outcome.handedBack)) := by
  rw [← engine.examine_eq_outcomeOf reference order state.ledger]
  unfold service
  dsimp only
  rw [fulfil_eq]
  rcases engine.examine order state.ledger with ⟨error | outcome, after⟩
  · rfl
  · dsimp only [Except.map]
    cases order.parcel? outcome <;> rfl

section Attempt

variable {order : Order} {pending : Nat} {state after : Service}

/-- An order that leaves nothing to deliver is answered with its result or with the error against its
bag. -/
theorem attempt_none (attempted : engine.service.attempt order pending state = (none, after)) :
    after.answers = state.answers ++ engine.answersAt reference (.declined order) ∧
      engine.Accords reference (.declined order) := by
  rw [attempt_eq reference] at attempted
  unfold Accords answersAt
  dsimp only
  cases examined : engine.outcomeOf reference order with
  | error error =>
      rw [examined] at attempted
      cases attempted
      exact ⟨rfl, nofun⟩
  | ok outcome =>
      cases wraps : order.parcel? outcome with
      | some parcel => simp [examined, wraps] at attempted
      | none =>
          simp only [examined, wraps] at attempted
          cases attempted
          refine ⟨rfl, ?_⟩
          rintro _ ⟨⟩
          exact wraps

/-- What an order leaves to deliver is made of the outcome of its validation. -/
theorem attempt_some {parcel : Parcel}
    (attempted : engine.service.attempt order pending state = (some parcel, after)) :
    after.answers = state.answers ∧ ∃ outcome, engine.outcomeOf reference order = .ok outcome ∧
      order.parcel? outcome = some parcel := by
  rw [attempt_eq reference] at attempted
  cases examined : engine.outcomeOf reference order with
  | error error =>
      rw [examined] at attempted
      cases attempted
  | ok outcome =>
      cases wraps : order.parcel? outcome with
      | none => simp [examined, wraps] at attempted
      | some wrapped =>
          simp only [examined, wraps] at attempted
          cases attempted
          exact ⟨rfl, outcome, rfl, wraps⟩

end Attempt

/-- One step answers and delivers what the validation of its order comes to. -/
theorem step_accords (step : Step engine.service mayAsk config moment next) :
    next.state.answers = config.state.answers ++ engine.answersAt reference moment ∧
      engine.Accords reference moment := by
  cases step with
  | @perform order rest queue state =>
      exact ⟨perform_answers reference order queue.length state, trivial⟩
  | decline attempted => exact attempt_none reference attempted
  | schedule attempted =>
      obtain ⟨answers, wrapped⟩ := attempt_some reference attempted
      exact ⟨congrArg (· ++ [Answer.accepted]) answers, wrapped⟩
  | enter | begin | finish => exact ⟨(List.append_nil _).symm, trivial⟩
  | close => exact ⟨rfl, trivial⟩

theorem leads_accords {start : Config Order Parcel Service}
    (leads : Leads engine.service mayAsk start history config) :
    config.state.answers = start.state.answers ++ history.flatMap (engine.answersAt reference) ∧
      ∀ moment ∈ history, engine.Accords reference moment := by
  induction leads with
  | start => exact ⟨(List.append_nil _).symm, nofun⟩
  | step _ step ih =>
      obtain ⟨answers, accords⟩ := ih
      obtain ⟨answered, accord⟩ := step_accords reference step
      refine ⟨?_, List.forall_mem_append.mpr ⟨accords, List.forall_mem_singleton.mpr accord⟩⟩
      rw [answered, answers, List.flatMap_append, List.flatMap_singleton, List.append_assoc]

end Engine

/--
Deliveries are made in order and exactly once.  An engine that serves requests,
those that receivers make included, comes to an end of its history, where nothing
is in progress.  Along this history, and along every other that receivers can bring
about by deciding anew what to ask for, what was put into the queue is at every
moment what has begun, in the same order, and then what waits.  Outcomes are received
only inside of deliveries, and deliveries end when nothing waits, with their number.
Every request is answered, and every receiver served, with what the validation of
the same order comes to with any ledger; an order with a refused bag is answered
with the same error and leaves nothing to deliver.
-/
theorem Engine.serve_delivers_in_order (engine : Engine) (requests : List (Request Order))
    (ledger reference : Ledger) :
    let start : Config Order Parcel Service := ⟨asks requests, [], { ledger }⟩
    let final := serve engine.service requests { ledger }
    (∃ history, Leads engine.service Delivery.Asks start history ⟨[], final.1, final.2⟩ ∧
        inProgress history = []) ∧
      ∀ mayAsk history config, Leads engine.service mayAsk start history config →
        scheduledIn history = begunIn history ++ config.queue ∧
        (scheduledIn history).length = (begunIn history).length + config.queue.length ∧
        IsOrderly history ∧
        config.state.answers = history.flatMap (engine.answersAt reference) ∧
        (∀ moment ∈ history, engine.Accords reference moment) ∧
        ∀ delivery ∈ begunIn history, ∃ order outcome, .scheduled order delivery ∈ history ∧
          engine.outcomeOf reference order = .ok outcome ∧
          order.parcel? outcome = some delivery.outcome := by
  intro start final
  constructor
  · obtain ⟨history, leads⟩ := exists_leads_run engine.service start
    exact ⟨history, leads, leads.tells.2.frames⟩
  · intro mayAsk history config leads
    obtain ⟨orderly, tells⟩ := leads.tells
    obtain ⟨answers, accords⟩ := Engine.leads_accords reference leads
    refine ⟨tells.queue, ?_, orderly, answers, accords, fun delivery begun => ?_⟩
    · rw [tells.queue, List.length_append]
    · have scheduled : delivery ∈ scheduledIn history :=
        tells.queue ▸ List.mem_append_left _ begun
      obtain ⟨order, member⟩ := mem_scheduledIn.mp scheduled
      obtain ⟨outcome, examined, wraps⟩ := accords _ member
      exact ⟨order, outcome, member, examined, wraps⟩

/-- Of five calls one has a bag and a callable behind it, one a callable in third place, one a bag that
is refused, and one no callable.  The receiver of the first makes the fifth call, with callables in both
places, and is served again after the second one. -/
theorem Engine.serve_delivers_in_order_calls :
    let engine := (start .native {}).1
    let texts : Source := .frozen ⟨1, .node { constraints :=
      { kind := some .string, presence := some .required } }⟩
    let first : Callable := ⟨"first", 1⟩
    let second : Callable := ⟨"second", 2⟩
    let call (holds : Bool) (third fourth : Value) : Order :=
      .call (.boolean holds) texts third fourth
    let bagged := call true (.object none [("strict", .boolean false)]) (.function first)
    let bare := call true (.function second) .null
    let malformed := call true (.object none [("strict", .string "x")]) (.function first)
    let silent := call true .undefined .undefined
    let both := call false (.function second) (.function first)
    let requests : List (Request Order) := [.schedule bagged [.schedule both []],
      .schedule bare [], .schedule malformed [], .schedule silent [], .deliver]
    let mismatch (holds : Bool) : Value := .array [.object none [("actual", .string "boolean"),
      ("expected", .string "string"), ("sourcePath", .string ""), ("sourceValue", .boolean holds),
      ("type", .string "mismatching_types")]]
    let casted : Delivery Order Parcel :=
      ⟨.arguments first [.null, .string "true", mismatch true], [.schedule both []]⟩
    let failed : Delivery Order Parcel :=
      ⟨.arguments second [mismatch true, .undefined, .null], []⟩
    let further : Delivery Order Parcel :=
      ⟨.arguments first [mismatch false, .undefined, .null], []⟩
    let history : List (Moment Order Parcel) := [
      .scheduled bagged casted, .scheduled bare failed, .declined malformed, .declined silent,
      .opened, .began casted, .scheduled both further, .finished casted.outcome,
      .began failed, .finished failed.outcome, .began further, .finished further.outcome, .closed 3]
    ∃ state,
      Leads engine.service Delivery.Asks ⟨asks requests, [], {}⟩ history ⟨[], [], state⟩ ∧
      scheduledIn history = begunIn history ∧
      state.answers = [.accepted, .accepted,
        .refused (.rejected [
          { tag := "mismatching_types", sourcePath := "/strict", sourceValue := .string "x",
            expected := .string "boolean", actual := .string "string" }]),
        .returned (.object none
          [("errors", mismatch true), ("value", .undefined), ("warnings", .null)]),
        .accepted, .ran 3] := by
  intro engine texts first second call bagged bare malformed silent both requests mismatch casted
    failed further history
  have begins : Leads engine.service Delivery.Asks ⟨asks requests, [], {}⟩ []
      ⟨asks requests, [], {}⟩ := .start
  -- The state is a long term, of which nothing but the answers is needed.
  obtain ⟨state, leads⟩ : ∃ state,
      Leads engine.service Delivery.Asks ⟨asks requests, [], {}⟩ history ⟨[], [], state⟩ :=
    ⟨_, begins.step (.schedule rfl) |>.step (.schedule rfl)
      |>.step (.decline rfl) |>.step (.decline rfl)
      |>.step .enter |>.step (.begin rfl) |>.step (.schedule rfl) |>.step .finish
      |>.step (.begin rfl) |>.step .finish |>.step (.begin rfl) |>.step .finish |>.step .close⟩
  obtain ⟨queue, -, -, answers, -, -⟩ :=
    (serve_delivers_in_order engine requests {} {}).2 _ _ _ leads
  exact ⟨state, leads, queue, answers.trans rfl⟩

end SchemaValidation
