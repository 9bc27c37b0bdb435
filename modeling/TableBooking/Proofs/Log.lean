import TableBooking.Proofs.Acceptance
import TableBooking.Proofs.Verdict

/-!
# The log of a booking

Any list of requests leaves the booking that its accepted requests describe: the owner's
edits, of which only the last one shows, and after them at most one cancellation
(`afterAll_eq_replay`). A refused request leaves no trace.
-/

namespace TableBooking

namespace Booking

/-- The requests of a list that were accepted. -/
def accepted (rules : Rules) (booking : Booking) (requests : List Request) : List Request :=
  ((requests.zip (booking.outcomes rules requests)).filter fun entry =>
    entry.2.result.isOk).map Prod.fst

theorem accepted_cons_of_accepted
    {rules : Rules} {booking : Booking} {request : Request} (rest : List Request)
    (decided : request.verdict rules booking = .ok ()) :
    booking.accepted rules (request :: rest) =
      request :: (request.applied booking).accepted rules rest := by
  have isOk : (request.outcome rules booking).result.isOk = true := by
    rw [Request.result_outcome, decided]
    rfl
  simp only [accepted, outcomes, List.zip_cons_cons, List.filter_cons, isOk, if_true,
    List.map_cons, Request.after_of_accepted decided]

theorem accepted_cons_of_refused
    {rules : Rules} {booking : Booking} {request : Request} {refusal : Refusal}
    (rest : List Request)
    (decided : request.verdict rules booking = .error refusal) :
    booking.accepted rules (request :: rest) = booking.accepted rules rest := by
  have notOk : (request.outcome rules booking).result.isOk = false := by
    rw [Request.result_outcome, decided]
    rfl
  simp only [accepted, outcomes, List.zip_cons_cons, List.filter_cons, notOk,
    Bool.false_eq_true, if_false, Request.after_of_refused decided]

theorem afterAll_cons_of_accepted
    {rules : Rules} {booking : Booking} {request : Request} (rest : List Request)
    (decided : request.verdict rules booking = .ok ()) :
    booking.afterAll rules (request :: rest) =
      (request.applied booking).afterAll rules rest := by
  rw [afterAll_cons, Request.after_of_accepted decided]

theorem afterAll_cons_of_refused
    {rules : Rules} {booking : Booking} {request : Request} {refusal : Refusal}
    (rest : List Request)
    (decided : request.verdict rules booking = .error refusal) :
    booking.afterAll rules (request :: rest) = booking.afterAll rules rest := by
  rw [afterAll_cons, Request.after_of_refused decided]

end Booking

/-- What has been accepted on a booking: the edits, each a form with its time, and the
cancellation after them, a reason with its time. -/
structure Log where
  edits : List (Form × DateTime)
  cancellation : Option (Option String × DateTime)

namespace Log

def empty : Log := ⟨[], none⟩

def requests (log : Log) (owner : Uuid) : List Request :=
  log.edits.map (fun edit => .update edit.1 owner edit.2) ++
    log.cancellation.toList.map fun cancellation =>
      .cancel owner cancellation.1 cancellation.2

/-- The content that the log leaves. -/
def content (log : Log) (booking : Booking) : Form :=
  log.edits.getLast?.elim booking.toForm fun edit => edit.1

/-- The booking that the log makes of a booking. -/
def replay (log : Log) (booking : Booking) : Booking where
  id := booking.id
  customerId := booking.customerId
  restaurantId := (log.content booking).restaurantId
  tableId := (log.content booking).tableId
  guestCount := (log.content booking).guestCount
  bookingTime := (log.content booking).bookingTime
  depositAmount := (log.content booking).depositAmount
  note := (log.content booking).note
  status := log.cancellation.elim booking.status fun _ => .cancelled
  createdAt := booking.createdAt
  updatedAt := log.edits.getLast?.elim booking.updatedAt fun edit => some edit.2.stamp
  cancelledAt :=
    log.cancellation.elim booking.cancelledAt fun cancellation => some cancellation.2.stamp
  cancelReason := log.cancellation.elim booking.cancelReason fun cancellation => cancellation.1
  cancelledBy := log.cancellation.elim booking.cancelledBy fun _ => some booking.customerId

def afterEdit (form : Form) (now : DateTime) (log : Log) : Log where
  edits := (form, now) :: log.edits
  cancellation := log.cancellation

theorem replay_afterEdit
    (form : Form) (caller : Uuid) (now : DateTime) (log : Log) (booking : Booking) :
    (log.afterEdit form now).replay booking =
      log.replay ((Request.update form caller now).applied booking) := by
  have last :
      ((form, now) :: log.edits).getLast? = some (log.edits.getLast?.getD (form, now)) :=
    List.getLast?_cons
  simp only [replay, content, afterEdit, last, Request.applied]
  cases log.edits.getLast? with
  | none => rfl
  | some edit => rfl

end Log

namespace Booking

theorem exists_log
    (rules : Rules) (booking : Booking) (requests : List Request) :
    ∃ log : Log,
      booking.accepted rules requests = log.requests booking.customerId ∧
      (booking.status.isOpen = false → log = .empty) ∧
      booking.afterAll rules requests = log.replay booking := by
  induction requests generalizing booking with
  | nil => exact ⟨.empty, rfl, fun _ => rfl, rfl⟩
  | cons request rest inductionHypothesis =>
      cases decided : request.verdict rules booking with
      | error refusal =>
          rw [accepted_cons_of_refused rest decided, afterAll_cons_of_refused rest decided]
          exact inductionHypothesis booking
      | ok _ =>
          obtain ⟨owner, isOpen, _⟩ :=
            (Request.verdict_eq_ok_iff rules booking request).1 decided
          rw [accepted_cons_of_accepted rest decided, afterAll_cons_of_accepted rest decided]
          obtain ⟨log, acceptedLater, emptyIfClosed, final⟩ :=
            inductionHypothesis (request.applied booking)
          rw [acceptedLater, final]
          cases request with
          | update form caller now =>
              obtain rfl : caller = booking.customerId := owner
              refine ⟨log.afterEdit form now, rfl, ?_, (log.replay_afterEdit ..).symm⟩
              intro closed
              rw [isOpen] at closed
              exact absurd closed Bool.noConfusion
          | cancel caller reason now =>
              -- a cancelled booking is closed, so nothing is accepted after this request
              obtain rfl : caller = booking.customerId := owner
              obtain rfl : log = .empty := emptyIfClosed rfl
              refine ⟨⟨[], some (reason, now)⟩, rfl, ?_, rfl⟩
              intro closed
              rw [isOpen] at closed
              exact absurd closed Bool.noConfusion

/-- A list of requests leaves what the log of its accepted requests says. They are edits
by the owner and then at most one cancellation by the owner, and none on a closed booking.
A request that is refused leaves the booking as it was. -/
theorem afterAll_eq_replay
    (rules : Rules) (booking : Booking) (requests : List Request) :
    (∃ log : Log,
      booking.accepted rules requests = log.requests booking.customerId ∧
      (booking.status.isOpen = false → log = .empty) ∧
      booking.afterAll rules requests = log.replay booking) ∧
    ∀ early request late refusal,
      requests = early ++ request :: late →
      (request.outcome rules (booking.afterAll rules early)).result = .error refusal →
      booking.afterAll rules (early ++ [request]) = booking.afterAll rules early := by
  refine ⟨exists_log rules booking requests, ?_⟩
  intro early request late refusal _ refused
  have decided : request.verdict rules (booking.afterAll rules early) = .error refusal :=
    (Request.result_outcome_eq_error_iff rules _ request refusal).1 refused
  rw [afterAll_append]
  exact afterAll_cons_of_refused [] decided

end Booking

/-! ## An evening -/

namespace Sample

def owner : Uuid := ⟨List.replicate 32 (Text.hexDigit 7), by decide⟩

def stranger : Uuid := ⟨List.replicate 32 (Text.hexDigit 8), by decide⟩

def second (count : Fin 86400) : DateTime where
  day := 20000
  second := count
  nano := 0
  day_ge := by decide
  day_le := by decide
  second_lt := count.isLt
  nano_lt := DateTime.epoch.nano_lt
  leap_last := nofun

def form (guests : Int32) : Form where
  restaurantId := 3
  tableId := some 8
  guestCount := guests
  bookingTime := second 70200
  depositAmount := ⟨false, 20000, 2, by decide, by decide⟩
  note := some "window seat"

/-- The edits of the owner and of a stranger, the cancellation, and an edit after it. -/
def requests : List Request :=
  [.update (form 4) owner (second 30000),
    .update (form 6) stranger (second 30001),
    .cancel owner (some "rain") (second 30002),
    .update (form 5) owner (second 30003)]

end Sample

theorem Booking.afterAll_eq_replay_stranger :
    ((Request.update (Sample.form 6) Sample.stranger (Sample.second 30001)).outcome .standard
        ((Workflow.prepared (Sample.form 2) Sample.owner (Sample.second 0)).afterAll .standard
          (Sample.requests.take 1))).result = .error .notOwner ∧
      (Workflow.prepared (Sample.form 2) Sample.owner (Sample.second 0)).afterAll .standard
          (Sample.requests.take 2) =
        (Workflow.prepared (Sample.form 2) Sample.owner (Sample.second 0)).afterAll .standard
          (Sample.requests.take 1) := by
  refine ⟨rfl, ?_⟩
  exact (Booking.afterAll_eq_replay .standard _ Sample.requests).2
    (Sample.requests.take 1) _ (Sample.requests.drop 2) .notOwner rfl rfl

example :
    (Workflow.prepared (Sample.form 2) Sample.owner (Sample.second 0)).accepted .standard
        Sample.requests =
      [.update (Sample.form 4) Sample.owner (Sample.second 30000),
        .cancel Sample.owner (some "rain") (Sample.second 30002)] :=
  rfl

end TableBooking
