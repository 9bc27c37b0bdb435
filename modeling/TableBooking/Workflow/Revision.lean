import TableBooking.Workflow.Outcome

/-!
# Revisions

A revision works on a booking in place: it comes to an outcome and leaves a booking
behind. A refusal ends the revision, but does not undo what was written before it.
-/

namespace TableBooking

/-- Work on a booking that is changed in place. -/
structure Revision (α : Type) where
  /-- What the work on a booking comes to, and the booking that it leaves. -/
  run : Booking → Outcome α × Booking

namespace Revision

/-- The work that leaves the booking as it is. -/
def ofOutcome {α : Type} (outcome : Outcome α) : Revision α :=
  ⟨fun booking => (outcome, booking)⟩

/-- Goes on with a result and with the booking that was left, unless there is a
refusal. -/
def andThen {α β : Type} (revision : Revision α) (next : α → Revision β) : Revision β where
  run booking :=
    let first := revision.run booking
    match first.1.result with
    | .ok value =>
      let second := (next value).run first.2
      (⟨second.1.result, first.1.events ++ second.1.events⟩, second.2)
    | .error refusal => (⟨.error refusal, first.1.events⟩, first.2)

instance : Monad Revision where
  pure value := ofOutcome (.ofExcept (.ok value))
  bind := andThen

instance : MonadLift Outcome Revision := ⟨ofOutcome⟩

def read : Revision Booking :=
  ⟨fun booking => (.ofExcept (.ok booking), booking)⟩

def write (change : Booking → Booking) : Revision Unit :=
  ⟨fun booking => (.ofExcept (.ok ()), change booking)⟩

/-! ## Running the parts -/

theorem run_read_bind
    {α : Type} (next : Booking → Revision α) (booking : Booking) :
    (read >>= next).run booking = (next booking).run booking :=
  rfl

theorem run_lift_bind_of_ok
    {α β : Type} {outcome : Outcome α} {value : α}
    (passed : outcome = .ofExcept (.ok value))
    (next : α → Revision β) (booking : Booking) :
    ((liftM outcome : Revision α) >>= next).run booking = (next value).run booking := by
  rw [passed]
  rfl

theorem run_lift_bind_of_error
    {α β : Type} {outcome : Outcome α} {refusal : Refusal} {events : List AuditEvent}
    (refused : outcome = ⟨.error refusal, events⟩)
    (next : α → Revision β) (booking : Booking) :
    ((liftM outcome : Revision α) >>= next).run booking =
      (⟨.error refusal, events⟩, booking) := by
  rw [refused]
  rfl

end Revision

end TableBooking
