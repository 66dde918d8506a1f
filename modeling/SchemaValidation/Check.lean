import SchemaValidation.Value.Basic

/-!
# Checks and sanitizers

Predicates and transformations of values that a schema carries along. They may
be user code, so that running one may panic instead of returning. Each has a
label for reports and an identity, by which alone it is compared.
-/

namespace SchemaValidation

/-- What comes of running user code. -/
inductive Attempt (α : Type) where
  | returned (result : α)
  | panicked (message : String)

/-- The judgement of a predicate: the value passes, or it fails with a detail. -/
inductive Verdict where
  | pass
  | fail (detail : Value)

namespace Verdict

/-- Whether the value passes. -/
def isPass : Verdict → Bool
  | pass => true
  | fail _ => false

/-- The verdict that a truth value stands for. -/
def ofBool (holds : Bool) : Verdict :=
  if holds then pass else fail (.boolean false)

/-- The verdict that a value stands for: the true value passes, every other value is a detail. -/
def ofValue : Value → Verdict
  | .boolean true => pass
  | detail => fail detail

end Verdict

/-- A predicate over values. -/
structure Check where
  label : String
  identity : Nat
  judge : Value → Attempt Verdict

/-- Whether two checks are the same. -/
def Check.same (a b : Check) : Bool :=
  a.identity == b.identity

/-- A transformation of values. -/
structure Sanitizer where
  label : String
  identity : Nat
  transform : Value → Attempt Value

/-- Whether two sanitizers are the same. -/
def Sanitizer.same (a b : Sanitizer) : Bool :=
  a.identity == b.identity

end SchemaValidation
