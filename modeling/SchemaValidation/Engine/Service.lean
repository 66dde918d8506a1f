import SchemaValidation.Engine.Deferred
import SchemaValidation.Engine.Order

/-!
# Engines in service

An engine in service performs requests one after the other and answers each of
them. An order is either examined at once, the answer being the outcome of the
validation that it asks for, or fulfilled, with the answer that its outcome
waits to be delivered unless there is nothing to deliver. Deliveries are
answered with their number. What receivers do with the outcomes that they get is
left to them; the requests that they make are answered like any others.
-/

namespace SchemaValidation

namespace Order

/-- The value that is to be validated. -/
def value : Order → Value
  | validation value _ _ => value
  | call value _ _ _ => value

/-- The source of the schema. -/
def source : Order → Source
  | validation _ source _ => source
  | call _ source _ _ => source

/-- The bag of options. -/
def bag : Order → Value
  | validation _ _ bag => bag
  | call _ _ third _ => Engine.bagOf third

end Order

/-- What an engine answers to a request. -/
inductive Answer where
  | validated (validation : Validation)
  | refused (error : BagError)
  | returned (result : Value)
  | accepted
  | ran (count : Nat)

/-- The ledger of an engine, and the answers that it has given. -/
structure Service where
  ledger : Ledger := {}
  answers : List Answer := []

/-- The service after an answer that leaves the ledger as given. -/
def Service.reply (service : Service) (ledger : Ledger) (answer : Answer) : Service :=
  ⟨ledger, service.answers ++ [answer]⟩

namespace Engine

/-- The validation that an order asks for. -/
def examine (engine : Engine) (order : Order) (ledger : Ledger) :
    Except BagError Validation × Ledger :=
  engine.validate order.value order.source order.bag ledger

/-- How an engine serves requests. -/
def service (engine : Engine) : Deferred.Host Order Parcel Service where
  perform order _ service :=
    match engine.examine order service.ledger with
    | (.ok validation, ledger) => service.reply ledger (.validated validation)
    | (.error error, ledger) => service.reply ledger (.refused error)
  attempt order _ service :=
    match engine.fulfil order service.ledger with
    | (.ok (.deferred parcel), ledger) => (some parcel, { service with ledger })
    | (.ok (.returned result), ledger) => (none, service.reply ledger (.returned result))
    | (.error error, ledger) => (none, service.reply ledger (.refused error))
  scheduled pending service := service.reply (service.ledger.noteScheduled pending) .accepted
  begin _ service := service
  finish _ service := service
  delivered count service := service.reply (service.ledger.noteDelivered count) (.ran count)

end Engine

end SchemaValidation
