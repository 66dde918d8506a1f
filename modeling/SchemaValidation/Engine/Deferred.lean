/-!
# Deferred deliveries

A host performs requests in order. Some of them have an outcome that is
delivered later: it waits in a queue until a request asks for the deliveries.
Delivering one outcome performs the requests that its receiver makes, which may
put further outcomes into the queue; a delivery ends when the queue is empty.
-/

namespace SchemaValidation.Deferred

/-- A request: an action that is done at once, an action whose outcome is delivered later to a
receiver that then makes requests of its own, or the delivery of all that waits. -/
inductive Request (α : Type) where
  | perform (action : α)
  | schedule (action : α) (followUps : List (Request α))
  | deliver

/-- An outcome that waits for its delivery, with the requests that its receiver makes. -/
structure Delivery (α π : Type) where
  outcome : π
  followUps : List (Request α)

/-- How a host with states in `σ` serves actions in `α` with outcomes in `π`. -/
structure Host (α π σ : Type) where
  /-- Does an action at once. -/
  perform : α → Nat → σ → σ
  /-- Does an action whose outcome, if it has one, is to be delivered later. -/
  attempt : α → Nat → σ → Option π × σ
  /-- Takes note that an outcome was put into the queue, which is as long as the number says. -/
  scheduled : Nat → σ → σ
  /-- Begins the delivery of an outcome. -/
  begin : π → σ → σ
  /-- Ends the delivery of an outcome. -/
  finish : π → σ → σ
  /-- Takes note that as many outcomes as the number says were delivered and none is left. -/
  delivered : Nat → σ → σ

/-- What a host has still to do: a request, the end of a delivery, or the remaining deliveries. -/
inductive Task (α π : Type) where
  | ask (request : Request α)
  | finish (outcome : π)
  | drain (count : Nat)

section Weight

variable {α π : Type}

mutual

/-- The number of steps that a request can cause. -/
def Request.weight : Request α → Nat
  | .perform _ => 1
  | .schedule _ followUps => 3 + weights followUps
  | .deliver => 2

/-- The number of steps that some requests can cause. -/
def weights : List (Request α) → Nat
  | [] => 0
  | request :: rest => request.weight + weights rest

end

/-- The number of steps that a task can cause. -/
def Task.weight : Task α π → Nat
  | .ask request => request.weight
  | .finish _ => 1
  | .drain _ => 1

/-- The tasks of performing some requests in order. -/
def asks (requests : List (Request α)) : List (Task α π) :=
  requests.map Task.ask

/-- The number of steps that some tasks can cause. -/
def taskWeights : List (Task α π) → Nat
  | [] => 0
  | task :: rest => task.weight + taskWeights rest

/-- The number of steps that the deliveries of a queue can cause. -/
def deliveryWeights : List (Delivery α π) → Nat
  | [] => 0
  | delivery :: rest => 2 + weights delivery.followUps + deliveryWeights rest

/-- The number of steps that the tasks and the queue can cause. -/
def load (tasks : List (Task α π)) (queue : List (Delivery α π)) : Nat :=
  taskWeights tasks + deliveryWeights queue

/-- The tasks of performing some requests weigh what the requests do. -/
theorem taskWeights_asks_append (requests : List (Request α)) (tasks : List (Task α π)) :
    taskWeights (asks requests ++ tasks) = weights requests + taskWeights tasks := by
  induction requests with
  | nil => simp [asks, weights]
  | cons request rest ih =>
      have tail : taskWeights (rest.map Task.ask ++ tasks) = weights rest + taskWeights tasks := ih
      simp only [asks, List.map_cons, List.cons_append, taskWeights, Task.weight, weights, tail]
      omega

/-- A delivery at the end of a queue adds its weight. -/
theorem deliveryWeights_concat (queue : List (Delivery α π)) (delivery : Delivery α π) :
    deliveryWeights (queue ++ [delivery]) =
      deliveryWeights queue + (2 + weights delivery.followUps) := by
  induction queue with
  | nil => simp [deliveryWeights]
  | cons first rest ih =>
      simp only [List.cons_append, deliveryWeights, ih]
      omega

end Weight

variable {α π σ : Type}

/-- The state of the host when all tasks are done, and the queue that is left. -/
def run (host : Host α π σ) (tasks : List (Task α π)) (queue : List (Delivery α π)) (state : σ) :
    List (Delivery α π) × σ :=
  match tasks with
  | [] => (queue, state)
  | .ask (.perform action) :: rest =>
      run host rest queue (host.perform action queue.length state)
  | .ask (.schedule action followUps) :: rest =>
      match host.attempt action queue.length state with
      | (none, state) => run host rest queue state
      | (some outcome, state) =>
          run host rest (queue ++ [⟨outcome, followUps⟩]) (host.scheduled (queue.length + 1) state)
  | .ask .deliver :: rest => run host (.drain 0 :: rest) queue state
  | .finish outcome :: rest => run host rest queue (host.finish outcome state)
  | .drain count :: rest =>
      match queue with
      | [] => run host rest [] (host.delivered count state)
      | delivery :: queue =>
          run host
            (asks delivery.followUps ++
              .finish delivery.outcome :: .drain (count + 1) :: rest)
            queue (host.begin delivery.outcome state)
termination_by load tasks queue
decreasing_by
  all_goals
    simp only [load, taskWeights, deliveryWeights, deliveryWeights_concat, taskWeights_asks_append,
      Task.weight, Request.weight]
    omega

/-- The state of a host with an empty queue when all requests are done, and the queue that is left. -/
def serve (host : Host α π σ) (requests : List (Request α)) (state : σ) :
    List (Delivery α π) × σ :=
  run host (asks requests) [] state

end SchemaValidation.Deferred
