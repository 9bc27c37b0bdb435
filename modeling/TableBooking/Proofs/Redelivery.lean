import TableBooking.Proofs.Isolation

/-!
# Requests that are delivered twice

A request that is delivered a second time right after the first finds the booking as the first
left it, and leaves it so. An edit is accepted again, a cancellation is refused for the status
that it has given to the booking, and a refusal is repeated (`outcome_after`). So no delivery of
a list of requests notices which of them were repeated (`outcomes_of_deliveries`).
-/

namespace TableBooking

/-- The delivery of a request, once or twice in succession. -/
structure Delivery where
  request : Request
  repeated : Bool

namespace Request

/-! ## The second delivery -/

/-- What the second delivery of a request comes to, by what the first has come to. -/
def onRepeat (request : Request) (first : Outcome Booking) : Outcome Booking :=
  match request, first.result with
  | _, .error _ => first
  | .update _ _ _, .ok _ => first
  | .cancel _ _ _, .ok _ => .refuse (.notCancellable .cancelled)

section Repetition

variable {rules : Rules} {booking : Booking}

theorem onRepeat_of_error
    (request : Request) {first : Outcome Booking} {refusal : Refusal}
    (refused : first.result = .error refusal) :
    request.onRepeat first = first := by
  simp only [onRepeat, refused]

theorem applied_applied
    (booking : Booking) (request : Request) :
    request.applied (request.applied booking) = request.applied booking := by
  cases request with
  | update form caller now => rfl
  | cancel caller reason now => rfl

theorem verdict_applied_update
    {form : Form} {caller : Uuid} {now : DateTime}
    (accepted : (update form caller now).verdict rules booking = .ok ()) :
    (update form caller now).verdict rules ((update form caller now).applied booking) =
      .ok () := by
  -- neither the owner nor the status is among what an edit writes
  obtain ⟨owner, isOpen, passed⟩ := (verdict_eq_ok_iff rules booking _).1 accepted
  exact (verdict_eq_ok_iff rules _ _).2 ⟨owner, isOpen, passed⟩

theorem verdict_applied_cancel
    {caller : Uuid} {reason : Option String} {now : DateTime}
    (accepted : (cancel caller reason now).verdict rules booking = .ok ()) :
    (cancel caller reason now).verdict rules ((cancel caller reason now).applied booking) =
      .error (.notCancellable .cancelled) := by
  obtain ⟨owner, _, _⟩ := (verdict_eq_ok_iff rules booking _).1 accepted
  exact if_pos owner

end Repetition

/-- A request that is repeated leaves the booking that it left before. -/
theorem after_after
    (rules : Rules) (booking : Booking) (request : Request) :
    request.after rules (request.after rules booking) = request.after rules booking := by
  cases decided : request.verdict rules booking with
  | error refusal => rw [after_of_refused decided, after_of_refused decided]
  | ok _ =>
      rw [after_of_accepted decided]
      cases request with
      | update form caller now =>
          rw [after_of_accepted (verdict_applied_update decided), applied_applied]
      | cancel caller reason now => rw [after_of_refused (verdict_applied_cancel decided)]

theorem outcome_after
    (rules : Rules) (booking : Booking) (request : Request) :
    request.outcome rules (request.after rules booking) =
      request.onRepeat (request.outcome rules booking) := by
  cases decided : request.verdict rules booking with
  | error refusal =>
      rw [after_of_refused decided, outcome_of_refused decided, onRepeat_of_error request rfl]
  | ok _ =>
      rw [after_of_accepted decided, outcome_of_accepted decided]
      cases request with
      | update form caller now =>
          rw [outcome_of_accepted (verdict_applied_update decided), applied_applied]
          rfl
      | cancel caller reason now =>
          -- the owner is refused for the status, which nobody is told of
          have owner := ((verdict_eq_ok_iff rules booking _).1 decided).1
          rw [outcome_of_refused (verdict_applied_cancel decided), warnings, customerId_applied,
            if_pos owner]
          rfl

end Request

/-! ## Lists of deliveries -/

namespace Delivery

/-- The requests that arrive by the delivery. -/
def requests (delivery : Delivery) : List Request :=
  if delivery.repeated then [delivery.request, delivery.request] else [delivery.request]

/-- What the requests that arrive come to, by what the first of them comes to. -/
def outcomes (delivery : Delivery) (first : Outcome Booking) : List (Outcome Booking) :=
  if delivery.repeated then [first, delivery.request.onRepeat first] else [first]

end Delivery

namespace Booking

theorem outcomes_append
    (rules : Rules) (booking : Booking) (early late : List Request) :
    booking.outcomes rules (early ++ late) =
      booking.outcomes rules early ++ (booking.afterAll rules early).outcomes rules late := by
  induction early generalizing booking with
  | nil => rfl
  | cons request early inductionHypothesis =>
      rw [List.cons_append, outcomes, outcomes, afterAll_cons, inductionHypothesis]
      rfl

section Deliveries

variable (rules : Rules) (booking : Booking)

theorem afterAll_of_delivery
    (delivery : Delivery) :
    booking.afterAll rules delivery.requests = delivery.request.after rules booking := by
  cases again : delivery.repeated with
  | false =>
      simp only [Delivery.requests, again, Bool.false_eq_true, if_false]
      rfl
  | true =>
      simp only [Delivery.requests, again, if_true, afterAll_cons, Request.after_after]
      rfl

theorem outcomes_of_delivery
    (delivery : Delivery) :
    booking.outcomes rules delivery.requests =
      delivery.outcomes (delivery.request.outcome rules booking) := by
  cases again : delivery.repeated with
  | false =>
      simp only [Delivery.requests, Delivery.outcomes, again, Bool.false_eq_true, if_false,
        outcomes]
  | true =>
      simp only [Delivery.requests, Delivery.outcomes, again, if_true, outcomes,
        Request.outcome_after]

theorem afterAll_of_deliveries
    (deliveries : List Delivery) :
    booking.afterAll rules (deliveries.flatMap Delivery.requests) =
      booking.afterAll rules (deliveries.map Delivery.request) := by
  induction deliveries generalizing booking with
  | nil => rfl
  | cons delivery deliveries inductionHypothesis =>
      rw [List.flatMap_cons, List.map_cons, afterAll_append, afterAll_of_delivery, afterAll_cons]
      exact inductionHypothesis (delivery.request.after rules booking)

/-- Deliver some requests of a list twice. The same booking is left, each first delivery comes
to what the request comes to in the list, and each second one to what follows from that. -/
theorem outcomes_of_deliveries
    (deliveries : List Delivery) :
    booking.afterAll rules (deliveries.flatMap Delivery.requests) =
        booking.afterAll rules (deliveries.map Delivery.request) ∧
      booking.outcomes rules (deliveries.flatMap Delivery.requests) =
        (deliveries.zip (booking.outcomes rules (deliveries.map Delivery.request))).flatMap
          fun entry => entry.1.outcomes entry.2 := by
  constructor
  · exact afterAll_of_deliveries rules booking deliveries
  · induction deliveries generalizing booking with
    | nil => rfl
    | cons delivery deliveries inductionHypothesis =>
        have later := inductionHypothesis (delivery.request.after rules booking)
        rw [List.flatMap_cons, outcomes_append, outcomes_of_delivery, afterAll_of_delivery,
          later, List.map_cons, outcomes, List.zip_cons_cons, List.flatMap_cons]

end Deliveries

/-- The evening of a customer who sends each request twice. -/
example :
    ((Sample.booking.outcomes .standard
        ((Sample.requests.map fun request => ⟨request, true⟩).flatMap Delivery.requests)).map
      fun outcome => outcome.result.isOk) =
      [true, true, false, false, true, false, false, false] :=
  rfl

end Booking

end TableBooking
