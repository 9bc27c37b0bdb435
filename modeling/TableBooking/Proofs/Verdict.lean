import TableBooking.Workflow.Request

/-!
# The verdict on a request

What a request does to a booking is decided by its verdict: an accepted request writes its
own fields and is told of once, a refused one writes nothing (`run_revision_of_accepted`,
`run_revision_of_refused`).
-/

namespace TableBooking

namespace Workflow

theorem ensureOwner_of_owner
    {booking : Booking} {caller : Uuid} (action : Action)
    (owner : caller = booking.customerId) :
    ensureOwner booking caller action = .ofExcept (.ok ()) := by
  have owned : booking.isOwnedBy caller = true := by
    rw [Booking.isOwnedBy, owner, beq_self_eq_true]
  rw [ensureOwner, owned]
  rfl

theorem ensureOwner_of_ne
    {booking : Booking} {caller : Uuid} (action : Action)
    (stranger : caller ≠ booking.customerId) :
    ensureOwner booking caller action =
      ⟨.error .notOwner, [.ownerMismatch action booking.id caller]⟩ := by
  have notOwned : booking.isOwnedBy caller = false :=
    beq_eq_false_iff_ne.2 (Ne.symm stranger)
  rw [ensureOwner, notOwned]
  rfl

end Workflow

namespace Request

/-! ## What a request is -/

def action : Request → Action
  | update _ _ _ => .update
  | cancel _ _ _ => .cancel

/-- The check of what the request brings with it. -/
def check (rules : Rules) : Request → Except Refusal Unit
  | update form _ now => rules.checkForm form now
  | cancel _ reason _ => Rules.checkText "cancel_reason" maxNoteLength reason

/-- The refusal of the request for the status of the booking. -/
def refusalFor (status : Status) : Request → Refusal
  | update _ _ _ => .notEditable status
  | cancel _ _ _ => .notCancellable status

/-- The booking with all that the request writes. -/
def applied (booking : Booking) : Request → Booking
  | update form _ now => { booking.withContent form with updatedAt := some now.stamp }
  | cancel caller reason now =>
    { booking with
      status := .cancelled
      cancelReason := reason
      cancelledAt := some now.stamp
      cancelledBy := some caller }

/-- The event that tells of the request once it is done. -/
def event (booking : Booking) : Request → AuditEvent
  | update _ caller _ => .updated booking.id caller
  | cancel caller _ _ => .cancelled booking.id caller

/-- The events that tell of the request when it is refused. -/
def warnings (booking : Booking) (request : Request) : List AuditEvent :=
  if request.caller = booking.customerId then []
  else [.ownerMismatch request.action booking.id request.caller]

/-- Whether the request is accepted: its caller has to own the booking, the booking has
to be open, and what the request brings with it has to be in order. -/
def verdict (rules : Rules) (booking : Booking) (request : Request) : Except Refusal Unit :=
  if request.caller = booking.customerId then
    if booking.status.isOpen then request.check rules
    else .error (request.refusalFor booking.status)
  else .error .notOwner

theorem verdict_eq_ok_iff
    (rules : Rules) (booking : Booking) (request : Request) :
    request.verdict rules booking = .ok () ↔
      request.caller = booking.customerId ∧ booking.status.isOpen = true ∧
        request.check rules = .ok () := by
  by_cases owner : request.caller = booking.customerId
  · by_cases isOpen : booking.status.isOpen = true
    · simp [verdict, owner, isOpen]
    · simp [verdict, owner, isOpen]
  · simp [verdict, owner]

/-! ## What a request does -/

def admission (rules : Rules) (booking : Booking) (request : Request) : Outcome Unit :=
  Workflow.admission booking request.caller request.action booking.status.isOpen
    (request.refusalFor booking.status) (request.check rules)

theorem admission_of_accepted
    {rules : Rules} {booking : Booking} (request : Request)
    (accepted : request.verdict rules booking = .ok ()) :
    request.admission rules booking = .ofExcept (.ok ()) := by
  obtain ⟨owner, isOpen, passed⟩ := (verdict_eq_ok_iff rules booking request).1 accepted
  rw [admission, Workflow.admission, Workflow.ensureOwner_of_owner request.action owner, isOpen,
    passed]
  rfl

theorem admission_of_refused
    {rules : Rules} {booking : Booking} (request : Request) {refusal : Refusal}
    (refused : request.verdict rules booking = .error refusal) :
    request.admission rules booking = ⟨.error refusal, request.warnings booking⟩ := by
  rw [verdict] at refused
  rw [admission, Workflow.admission]
  by_cases owner : request.caller = booking.customerId
  · rw [if_pos owner] at refused
    rw [warnings, if_pos owner, Workflow.ensureOwner_of_owner request.action owner]
    by_cases isOpen : booking.status.isOpen = true
    · rw [if_pos isOpen] at refused
      rw [isOpen, refused]
      rfl
    · rw [if_neg isOpen] at refused
      obtain rfl : request.refusalFor booking.status = refusal := Except.error.inj refused
      rw [Bool.eq_false_iff.2 isOpen]
      rfl
  · rw [if_neg owner] at refused
    obtain rfl : Refusal.notOwner = refusal := Except.error.inj refused
    rw [warnings, if_neg owner, Workflow.ensureOwner_of_ne request.action owner]
    rfl

theorem run_revision_of_accepted
    {rules : Rules} {booking : Booking} {request : Request}
    (accepted : request.verdict rules booking = .ok ()) :
    (request.revision rules).run booking =
      (⟨.ok (), [request.event booking]⟩, request.applied booking) := by
  have admitted := request.admission_of_accepted accepted
  cases request with
  | update form caller now =>
      rw [revision, Workflow.applyUpdate, Revision.run_read_bind]
      exact Revision.run_lift_bind_of_ok admitted _ booking
  | cancel caller reason now =>
      rw [revision, Workflow.cancel, Revision.run_read_bind]
      exact Revision.run_lift_bind_of_ok admitted _ booking

/-- A refused request writes nothing. -/
theorem run_revision_of_refused
    {rules : Rules} {booking : Booking} {request : Request} {refusal : Refusal}
    (refused : request.verdict rules booking = .error refusal) :
    (request.revision rules).run booking =
      (⟨.error refusal, request.warnings booking⟩, booking) := by
  have notAdmitted := request.admission_of_refused refused
  cases request with
  | update form caller now =>
      rw [revision, Workflow.applyUpdate, Revision.run_read_bind]
      exact Revision.run_lift_bind_of_error notAdmitted _ booking
  | cancel caller reason now =>
      rw [revision, Workflow.cancel, Revision.run_read_bind]
      exact Revision.run_lift_bind_of_error notAdmitted _ booking

/-! ## Results -/

theorem after_of_accepted
    {rules : Rules} {booking : Booking} {request : Request}
    (accepted : request.verdict rules booking = .ok ()) :
    request.after rules booking = request.applied booking := by
  rw [after, run_revision_of_accepted accepted]

theorem after_of_refused
    {rules : Rules} {booking : Booking} {request : Request} {refusal : Refusal}
    (refused : request.verdict rules booking = .error refusal) :
    request.after rules booking = booking := by
  rw [after, run_revision_of_refused refused]

theorem customerId_applied
    (booking : Booking) (request : Request) :
    (request.applied booking).customerId = booking.customerId := by
  cases request with
  | update form caller now => rfl
  | cancel caller reason now => rfl

/-- No request changes the owner of a booking. -/
theorem customerId_after
    (rules : Rules) (booking : Booking) (request : Request) :
    (request.after rules booking).customerId = booking.customerId := by
  cases decided : request.verdict rules booking with
  | ok _ => rw [after_of_accepted decided, customerId_applied]
  | error refusal => rw [after_of_refused decided]

theorem outcome_of_accepted
    {rules : Rules} {booking : Booking} {request : Request}
    (accepted : request.verdict rules booking = .ok ()) :
    request.outcome rules booking =
      ⟨.ok (request.applied booking), [request.event booking]⟩ := by
  rw [outcome, run_revision_of_accepted accepted]
  rfl

theorem outcome_of_refused
    {rules : Rules} {booking : Booking} {request : Request} {refusal : Refusal}
    (refused : request.verdict rules booking = .error refusal) :
    request.outcome rules booking = ⟨.error refusal, request.warnings booking⟩ := by
  rw [outcome, run_revision_of_refused refused]
  rfl

/-- The result of a request is its verdict, with the booking that it writes. -/
theorem result_outcome
    (rules : Rules) (booking : Booking) (request : Request) :
    (request.outcome rules booking).result =
      (request.verdict rules booking).map fun _ => request.applied booking := by
  cases decided : request.verdict rules booking with
  | ok _ =>
      rw [outcome_of_accepted decided]
      rfl
  | error refusal =>
      rw [outcome_of_refused decided]
      rfl

theorem result_outcome_eq_error_iff
    (rules : Rules) (booking : Booking) (request : Request) (refusal : Refusal) :
    (request.outcome rules booking).result = .error refusal ↔
      request.verdict rules booking = .error refusal := by
  rw [result_outcome]
  cases request.verdict rules booking <;> simp [Except.map]

end Request

end TableBooking
