import TableBooking.Refusal
import TableBooking.Workflow.Event

/-!
# Outcomes

The outcome of a request is a result or the refusal that ended it, with the events
told on the way. A refusal ends the request but keeps the events told before it.
-/

namespace TableBooking

/-- What a request comes to. -/
structure Outcome (α : Type) where
  result : Except Refusal α
  events : List AuditEvent

namespace Outcome

def ofExcept {α : Type} (result : Except Refusal α) : Outcome α :=
  ⟨result, []⟩

/-- Goes on with a result, unless there is a refusal. -/
def andThen {α β : Type} (outcome : Outcome α) (next : α → Outcome β) : Outcome β :=
  match outcome.result with
  | .ok value => ⟨(next value).result, outcome.events ++ (next value).events⟩
  | .error refusal => ⟨.error refusal, outcome.events⟩

instance : Monad Outcome where
  pure value := ofExcept (.ok value)
  bind := andThen

def refuse {α : Type} (refusal : Refusal) : Outcome α :=
  ofExcept (.error refusal)

def tell (event : AuditEvent) : Outcome Unit :=
  ⟨.ok (), [event]⟩

/-- The result, or another value after a refusal. -/
def resultOr {α : Type} (outcome : Outcome α) (other : α) : α :=
  match outcome.result with
  | .ok value => value
  | .error _ => other

/-- What the caller of the request is answered. -/
def answer {α : Type} (outcome : Outcome α) : Except ErrorReport Unit :=
  ErrorReport.answer Refusal.report outcome.result

/-- The value that is needed, or the refusal for want of it. -/
def require {α : Type} (refusal : Refusal) : Option α → Outcome α
  | some value => ofExcept (.ok value)
  | none => refuse refusal

end Outcome

end TableBooking
