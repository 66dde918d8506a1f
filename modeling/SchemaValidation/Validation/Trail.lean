import SchemaValidation.Report
import SchemaValidation.Validation.Event

/-!
# Capabilities and the trail of a validation

A validation lists the members of a record and lays records over each other by
means of two capabilities that its host may replace. What it leaves behind
besides its result is its trail: warnings, which are taken back when the schema
that made them is rejected in a choice, and events and uses of capabilities,
which are not.
-/

namespace SchemaValidation

/-- The operations on records that a host supplies. -/
structure Capabilities where
  ownKeys : Record → List String
  derive : Record → Record → Record

/-- The capabilities of a host that does nothing special: all names in order, and the members of the
overlay over those of the parent. -/
def Capabilities.native : Capabilities where
  ownKeys := Record.keys
  derive parent overlay := { parent with members := KeyMap.overlay parent.members overlay.members }

/-- How often each capability was used. -/
structure Usage where
  ownKeys : Nat := 0
  derive : Nat := 0

/-- What a validation leaves behind besides its result. -/
structure Trail where
  warnings : List Report := []
  events : List Event := []
  usage : Usage := {}

namespace Trail

/-- The trail with further warnings. -/
def warn (trail : Trail) (reports : List Report) : Trail :=
  { trail with warnings := trail.warnings ++ reports }

/-- The trail with a further event. -/
def log (trail : Trail) (event : Event) : Trail :=
  { trail with events := trail.events ++ [event] }

/-- The place to which warnings can be taken back later. -/
def mark (trail : Trail) : Nat :=
  trail.warnings.length

/-- The trail without the warnings behind a place. -/
def takeBack (trail : Trail) (mark : Nat) : Trail :=
  { trail with warnings := trail.warnings.take mark }

/-- The trail with one more use of the names of a record. -/
def countOwnKeys (trail : Trail) : Trail :=
  { trail with usage := { trail.usage with ownKeys := trail.usage.ownKeys + 1 } }

/-- The trail with one more record laid over another. -/
def countDerive (trail : Trail) : Trail :=
  { trail with usage := { trail.usage with derive := trail.usage.derive + 1 } }

end Trail

end SchemaValidation
