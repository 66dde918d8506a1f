/-!
# Events

What a validation logs while it runs.
-/

namespace SchemaValidation

/-- The severity of an event. -/
inductive Level where
  | error
  | warn
  | debug
  | trace

/-- The name of a severity. -/
def Level.name : Level → String
  | error => "ERROR"
  | warn => "WARN"
  | debug => "DEBUG"
  | trace => "TRACE"

/-- An event with its fields. -/
inductive Event where
  | checkPanicked (check path reason : String)
  | sanitizerPanicked (sanitizer path reason : String)
  | optionsRejected (violations : Nat)
  | validationStarted (strict : Bool)
  | validationFinished (errors warnings : Nat)
  | deliveryScheduled (pending : Nat)
  | deliveriesDrained (delivered : Nat)

namespace Event

/-- The severity of an event. -/
def level : Event → Level
  | checkPanicked .. => .error
  | sanitizerPanicked .. => .error
  | optionsRejected _ => .warn
  | validationStarted _ => .debug
  | validationFinished .. => .debug
  | deliveryScheduled _ => .trace
  | deliveriesDrained _ => .trace

/-- The message of an event. -/
def message : Event → String
  | checkPanicked .. => "user-supplied check panicked"
  | sanitizerPanicked .. => "user-supplied sanitizer panicked"
  | optionsRejected _ => "rejected validation options"
  | validationStarted _ => "validation started"
  | validationFinished .. => "validation finished"
  | deliveryScheduled _ => "delivery scheduled"
  | deliveriesDrained _ => "deferred deliveries drained"

end Event

end SchemaValidation
