import SchemaValidation.Engine.Basic

/-!
# Orders

An engine takes orders whose outcome may be delivered later: a validation for a
receiver of its own, and a call with four values. Of the values of a call, an
object in third place is the bag of options, and a callable in fourth place, or
else in third, is the receiver; without a callable the outcome is returned at
once. An order with a refused bag has no outcome to deliver.
-/

namespace SchemaValidation

/-- What is asked of an engine that may answer later. -/
inductive Order where
  | validation (value : Value) (source : Source) (bag : Value)
  | call (value : Value) (source : Source) (third fourth : Value)

/-- What is delivered later: an outcome as it is, or the arguments for a callable. -/
inductive Parcel where
  | outcome (validation : Validation)
  | arguments (callable : Callable) (values : List Value)

/-- What an order comes to: a result at once, or a delivery later. -/
inductive Fulfilment where
  | returned (result : Value)
  | deferred (parcel : Parcel)

namespace Engine

/-- The callable that receives the outcome of a call. -/
def receiver? (third fourth : Value) : Option Callable :=
  match fourth, third with
  | .function callable, _ => some callable
  | _, .function callable => some callable
  | _, _ => none

/-- The bag of options of a call. -/
def bagOf (third : Value) : Value :=
  match third with
  | .object className members => .object className members
  | _ => .undefined

/-- What a call comes to once its outcome is known. -/
def answer (third fourth : Value) (validation : Validation) : Fulfilment :=
  match receiver? third fourth with
  | none => .returned validation.toRecord.toValue
  | some callable => .deferred (.arguments callable validation.arguments)

/-- What an order comes to. -/
def fulfil (engine : Engine) (order : Order) (ledger : Ledger) :
    Except BagError Fulfilment × Ledger :=
  match order with
  | .validation value source bag =>
      let (outcome, ledger) := engine.validate value source bag ledger
      (outcome.map fun validation => .deferred (.outcome validation), ledger)
  | .call value source third fourth =>
      let (outcome, ledger) := engine.validate value source (bagOf third) ledger
      (outcome.map (answer third fourth), ledger)

end Engine

/-- The ledger after a parcel was put into a queue that is then as long as the number says. -/
def Ledger.noteScheduled (ledger : Ledger) (pending : Nat) : Ledger :=
  ledger.log (.deliveryScheduled pending)

/-- The ledger after as many deliveries as the number says. -/
def Ledger.noteDelivered (ledger : Ledger) (delivered : Nat) : Ledger :=
  if delivered = 0 then ledger else ledger.log (.deliveriesDrained delivered)

end SchemaValidation
