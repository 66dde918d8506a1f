import SchemaValidation.Engine.Deferred

/-!
# Histories of deliveries

A host does its tasks step by step, and every step is a moment of its history.
What is known of deliveries is a law of histories: whatever was put into the queue
has left it in the same order or still waits there, a receiver is served only
while a request for the deliveries is in progress, and this request ends when
nothing waits, with the number of those that it served.  The law does not depend on
how a receiver decides what to ask for.
-/

namespace SchemaValidation.Deferred

/-- What a host has still to do, what waits for delivery, and the state of the host. -/
structure Config (α π σ : Type) where
  tasks : List (Task α π)
  queue : List (Delivery α π)
  state : σ

/-- What happens in a step: an action is done, or comes to nothing that could be delivered, or its
outcome is put into the queue; the deliveries are asked for, one begins, it ends, or all have ended. -/
inductive Moment (α π : Type) where
  | performed (action : α)
  | declined (action : α)
  | scheduled (action : α) (delivery : Delivery α π)
  | opened
  | began (delivery : Delivery α π)
  | finished (outcome : π)
  | closed (count : Nat)

section Steps

variable {α π σ : Type}

/-- A receiver makes the requests that its delivery came with. -/
def Delivery.Asks (delivery : Delivery α π) (requests : List (Request α)) : Prop :=
  requests = delivery.followUps

/-- The steps of a host, one for every form of the next task, where a receiver makes some requests that
it may make. -/
inductive Step (host : Host α π σ) (mayAsk : Delivery α π → List (Request α) → Prop) :
    Config α π σ → Moment α π → Config α π σ → Prop where
  | perform {action : α} {rest : List (Task α π)} {queue : List (Delivery α π)} {state : σ} :
      Step host mayAsk ⟨.ask (.perform action) :: rest, queue, state⟩ (.performed action)
        ⟨rest, queue, host.perform action queue.length state⟩
  | decline {action : α} {followUps : List (Request α)} {rest : List (Task α π)}
      {queue : List (Delivery α π)} {state after : σ}
      (attempted : host.attempt action queue.length state = (none, after)) :
      Step host mayAsk ⟨.ask (.schedule action followUps) :: rest, queue, state⟩ (.declined action)
        ⟨rest, queue, after⟩
  | schedule {action : α} {followUps : List (Request α)} {outcome : π} {rest : List (Task α π)}
      {queue : List (Delivery α π)} {state after : σ}
      (attempted : host.attempt action queue.length state = (some outcome, after)) :
      Step host mayAsk ⟨.ask (.schedule action followUps) :: rest, queue, state⟩
        (.scheduled action ⟨outcome, followUps⟩)
        ⟨rest, queue ++ [⟨outcome, followUps⟩], host.scheduled (queue.length + 1) after⟩
  | enter {rest : List (Task α π)} {queue : List (Delivery α π)} {state : σ} :
      Step host mayAsk ⟨.ask .deliver :: rest, queue, state⟩ .opened ⟨.drain 0 :: rest, queue, state⟩
  -- A receiver may decide by what it is given, and ask for other requests than it came with.
  | begin {count : Nat} {delivery : Delivery α π} {requests : List (Request α)}
      {rest : List (Task α π)} {queue : List (Delivery α π)} {state : σ}
      (asked : mayAsk delivery requests) :
      Step host mayAsk ⟨.drain count :: rest, delivery :: queue, state⟩ (.began delivery)
        ⟨asks requests ++ .finish delivery.outcome :: .drain (count + 1) :: rest, queue,
          host.begin delivery.outcome state⟩
  | finish {outcome : π} {rest : List (Task α π)} {queue : List (Delivery α π)} {state : σ} :
      Step host mayAsk ⟨.finish outcome :: rest, queue, state⟩ (.finished outcome)
        ⟨rest, queue, host.finish outcome state⟩
  | close {count : Nat} {rest : List (Task α π)} {state : σ} :
      Step host mayAsk ⟨.drain count :: rest, [], state⟩ (.closed count)
        ⟨rest, [], host.delivered count state⟩

variable {host : Host α π σ} {mayAsk : Delivery α π → List (Request α) → Prop}
  {config next : Config α π σ} {moment : Moment α π}

/-- As long as there is something to do, a step is taken. -/
theorem exists_step (host : Host α π σ) (busy : config.tasks ≠ []) :
    ∃ moment next, Step host Delivery.Asks config moment next := by
  obtain ⟨tasks, queue, state⟩ := config
  rcases tasks with _ | ⟨⟨request⟩ | outcome | count, rest⟩
  · exact absurd rfl busy
  · cases request with
    | perform action => exact ⟨_, _, .perform⟩
    | schedule action followUps =>
        rcases attempted : host.attempt action queue.length state with ⟨_ | outcome, after⟩
        · exact ⟨_, _, .decline attempted⟩
        · exact ⟨_, _, .schedule attempted⟩
    | deliver => exact ⟨_, _, .enter⟩
  · exact ⟨_, _, .finish⟩
  · cases queue with
    | nil => exact ⟨_, _, .close⟩
    | cons delivery queue => exact ⟨_, _, .begin rfl⟩

/-- Every step lightens the load. -/
theorem Step.load_lt (step : Step host Delivery.Asks config moment next) :
    load next.tasks next.queue < load config.tasks config.queue := by
  cases step with
  | begin asked =>
      cases asked
      simp only [load, taskWeights, deliveryWeights, taskWeights_asks_append, Task.weight]
      omega
  | perform | decline | schedule | enter | finish | close =>
      simp only [load, taskWeights, deliveryWeights_concat, Task.weight, Request.weight]
      omega

/-- A run goes on from the next step as it would have gone on. -/
theorem Step.run_eq (step : Step host Delivery.Asks config moment next) :
    run host config.tasks config.queue config.state =
      run host next.tasks next.queue next.state := by
  cases step with
  | perform | enter | finish | close => rw [run]
  | begin asked => rw [run, asked]
  | decline attempted => rw [run, attempted]
  | schedule attempted => rw [run, attempted]

/-! ## Histories -/

/-- A history leads from one configuration to another. -/
inductive Leads (host : Host α π σ) (mayAsk : Delivery α π → List (Request α) → Prop)
    (start : Config α π σ) : List (Moment α π) → Config α π σ → Prop where
  | start : Leads host mayAsk start [] start
  | step {history : List (Moment α π)} {config next : Config α π σ} {moment : Moment α π}
      (leads : Leads host mayAsk start history config) (step : Step host mayAsk config moment next) :
      Leads host mayAsk start (history ++ [moment]) next

variable {start : Config α π σ} {history : List (Moment α π)}

theorem Leads.run_eq (leads : Leads host Delivery.Asks start history config) :
    run host start.tasks start.queue start.state =
      run host config.tasks config.queue config.state := by
  induction leads with
  | start => rfl
  | step _ step ih => exact ih.trans step.run_eq

/-- Some history goes on to where nothing is left to do. -/
theorem Leads.exists_end {history : List (Moment α π)} {config : Config α π σ}
    (leads : Leads host Delivery.Asks start history config) :
    ∃ history queue state, Leads host Delivery.Asks start history ⟨[], queue, state⟩ := by
  by_cases busy : config.tasks = []
  · obtain ⟨tasks, queue, state⟩ := config
    obtain rfl : tasks = [] := busy
    exact ⟨history, queue, state, leads⟩
  · obtain ⟨moment, next, step⟩ := exists_step host busy
    have lighter := step.load_lt
    exact (leads.step step).exists_end
termination_by load config.tasks config.queue

/-- A run has a history, that leads to what is left in the end. -/
theorem exists_leads_run (host : Host α π σ) (start : Config α π σ) :
    ∃ history, Leads host Delivery.Asks start history
      ⟨[], (run host start.tasks start.queue start.state).1,
        (run host start.tasks start.queue start.state).2⟩ := by
  have begins : Leads host Delivery.Asks start [] start := .start
  obtain ⟨history, queue, state, leads⟩ := begins.exists_end
  have ended := leads.run_eq
  rw [run] at ended
  rw [ended]
  exact ⟨history, leads⟩

end Steps

/-! ## What a history says -/

/-- What is in progress: deliveries, of which as many have begun as the number says, or the reception
of an outcome. -/
inductive Frame (π : Type) where
  | delivering (count : Nat)
  | receiving (outcome : π)

section Laws

variable {α π σ : Type}

/-- The delivery that is put into the queue. -/
@[simp] def Moment.scheduled? : Moment α π → Option (Delivery α π)
  | scheduled _ delivery => some delivery
  | _ => none

/-- The delivery that begins. -/
@[simp] def Moment.begun? : Moment α π → Option (Delivery α π)
  | began delivery => some delivery
  | _ => none

/-- What is in progress after a moment, the innermost first. -/
def Moment.after : Moment α π → List (Frame π) → List (Frame π)
  | opened, frames => .delivering 0 :: frames
  | began delivery, .delivering count :: outer =>
      .receiving delivery.outcome :: .delivering (count + 1) :: outer
  | finished _, _ :: outer => outer
  | closed _, _ :: outer => outer
  | _, frames => frames

/-- All that was put into the queue, in order. -/
def scheduledIn (history : List (Moment α π)) : List (Delivery α π) :=
  history.filterMap Moment.scheduled?

/-- All deliveries that have begun, in order. -/
def begunIn (history : List (Moment α π)) : List (Delivery α π) :=
  history.filterMap Moment.begun?

/-- What is in progress after a history. -/
def inProgress (history : List (Moment α π)) : List (Frame π) :=
  history.foldl (fun frames moment => moment.after frames) []

/-- A moment may come after a history: an outcome is received only inside of deliveries, its reception
ends where it began, and deliveries end with their number when nothing waits. -/
def Moment.Fits (history : List (Moment α π)) : Moment α π → Prop
  | began _ => ∃ count outer, inProgress history = .delivering count :: outer
  | finished outcome => ∃ outer, inProgress history = .receiving outcome :: outer
  | closed count => (∃ outer, inProgress history = .delivering count :: outer) ∧
      scheduledIn history = begunIn history
  | _ => True

/-- Every moment of a history may come where it comes. -/
def IsOrderly (history : List (Moment α π)) : Prop :=
  ∀ before moment after, history = before ++ moment :: after → moment.Fits before

variable {history : List (Moment α π)} {moment : Moment α π}

theorem scheduledIn_concat :
    scheduledIn (history ++ [moment]) = scheduledIn history ++ moment.scheduled?.toList := by
  unfold scheduledIn
  rw [List.filterMap_append]
  cases moment <;> rfl

theorem begunIn_concat :
    begunIn (history ++ [moment]) = begunIn history ++ moment.begun?.toList := by
  unfold begunIn
  rw [List.filterMap_append]
  cases moment <;> rfl

theorem inProgress_concat :
    inProgress (history ++ [moment]) = moment.after (inProgress history) := by
  unfold inProgress
  rw [List.foldl_append]
  rfl

/-- What is put into the queue is the outcome of some action. -/
theorem mem_scheduledIn {delivery : Delivery α π} :
    delivery ∈ scheduledIn history ↔ ∃ action, .scheduled action delivery ∈ history := by
  unfold scheduledIn
  rw [List.mem_filterMap]
  constructor
  · rintro ⟨moment, member, same⟩
    cases moment <;> cases same
    exact ⟨_, member⟩
  · rintro ⟨action, member⟩
    exact ⟨_, member, rfl⟩

theorem isOrderly_nil : IsOrderly ([] : List (Moment α π)) := by
  intro before moment after same
  cases before <;> cases same

theorem IsOrderly.concat (orderly : IsOrderly history) (fits : moment.Fits history) :
    IsOrderly (history ++ [moment]) := by
  intro before last after same
  rcases after.eq_nil_or_concat with rfl | ⟨after, other, rfl⟩
  · obtain ⟨rfl, last_eq⟩ := List.append_inj' same rfl
    cases last_eq
    exact fits
  · rw [List.concat_eq_append, ← List.cons_append, ← List.append_assoc] at same
    exact orderly before last after (List.append_inj' same rfl).1

/-- What is in progress while a task is yet to be done. -/
def Task.frame? : Task α π → Option (Frame π)
  | .ask _ => none
  | .finish outcome => some (.receiving outcome)
  | .drain count => some (.delivering count)

theorem frames_of_asks (requests : List (Request α)) :
    (asks requests : List (Task α π)).filterMap Task.frame? = [] := by
  induction requests with
  | nil => rfl
  | cons request rest ih => exact ih

/-- A history says what waits and what is in progress. -/
structure Tells (history : List (Moment α π)) (config : Config α π σ) : Prop where
  queue : scheduledIn history = begunIn history ++ config.queue
  frames : inProgress history = config.tasks.filterMap Task.frame?

theorem tells_start (requests : List (Request α)) (state : σ) :
    Tells [] ⟨(asks requests : List (Task α π)), [], state⟩ :=
  ⟨rfl, (frames_of_asks requests).symm⟩

variable {host : Host α π σ} {mayAsk : Delivery α π → List (Request α) → Prop}
  {config next : Config α π σ}

/-- A step is taken where it may be, and goes into the history. -/
theorem Tells.step (tells : Tells history config) (step : Step host mayAsk config moment next) :
    moment.Fits history ∧ Tells (history ++ [moment]) next := by
  obtain ⟨queue, frames⟩ := tells
  have goes_on (queue : scheduledIn history ++ moment.scheduled?.toList =
        begunIn history ++ moment.begun?.toList ++ next.queue)
      (frames : moment.after (inProgress history) = next.tasks.filterMap Task.frame?) :
      Tells (history ++ [moment]) next :=
    ⟨by rw [scheduledIn_concat, begunIn_concat, queue], by rw [inProgress_concat, frames]⟩
  -- Requests leave no mark in what is in progress; the other tasks are what is in progress.
  cases step with
  | perform | decline attempted | schedule attempted =>
      exact ⟨trivial, goes_on (by simp [queue]) frames⟩
  | enter =>
      refine ⟨trivial, goes_on (by simp [queue]) ?_⟩
      exact congrArg (Frame.delivering 0 :: ·) frames
  | @begin count delivery requests rest waiting state asked =>
      refine ⟨⟨count, _, frames⟩, goes_on (by simp [queue]) ?_⟩
      rw [frames, List.filterMap_append, frames_of_asks]
      rfl
  | finish =>
      refine ⟨⟨_, frames⟩, goes_on (by simp [queue]) ?_⟩
      rw [frames]
      rfl
  | close =>
      refine ⟨⟨⟨_, frames⟩, by simp [queue]⟩, goes_on (by simp [queue]) ?_⟩
      rw [frames]
      rfl

/-- Along every history that begins with requests and an empty queue, what waits is what was put into
the queue and has not begun, and every moment comes where it may. -/
theorem Leads.tells {requests : List (Request α)} {state : σ}
    (leads : Leads host mayAsk ⟨asks requests, [], state⟩ history config) :
    IsOrderly history ∧ Tells history config := by
  induction leads with
  | start => exact ⟨isOrderly_nil, tells_start requests state⟩
  | step _ step ih =>
      obtain ⟨orderly, tells⟩ := ih
      obtain ⟨fits, tells⟩ := tells.step step
      exact ⟨orderly.concat fits, tells⟩

end Laws

end SchemaValidation.Deferred
