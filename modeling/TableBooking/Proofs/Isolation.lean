import TableBooking.Proofs.Log

/-!
# Isolation of the owner

A caller who does not own a booking can neither change it nor learn about it. Requests of
others, put in between the requests of the owner in any order, change nothing of what the
owner's requests come to and of what is left (`history_of_interleaving`). And what a stranger
is answered depends neither on the booking nor on the rules nor on what is asked
(`answers_of_stranger`).
-/

namespace TableBooking

/-- The third list is made of the other two, each of which keeps its order. -/
inductive Interleaving {α : Type} : List α → List α → List α → Prop
  | nil : Interleaving [] [] []
  | left (item : α) {first second merged : List α} :
      Interleaving first second merged →
      Interleaving (item :: first) second (item :: merged)
  | right (item : α) {first second merged : List α} :
      Interleaving first second merged →
      Interleaving first (item :: second) (item :: merged)

/-! ## A request of a stranger -/

namespace Request

section Stranger

variable {booking : Booking} {request : Request}

theorem verdict_of_stranger
    (rules : Rules)
    (stranger : request.caller ≠ booking.customerId) :
    request.verdict rules booking = .error .notOwner :=
  if_neg stranger

theorem after_of_stranger
    (rules : Rules)
    (stranger : request.caller ≠ booking.customerId) :
    request.after rules booking = booking :=
  after_of_refused (verdict_of_stranger rules stranger)

theorem result_of_stranger
    (rules : Rules)
    (stranger : request.caller ≠ booking.customerId) :
    (request.outcome rules booking).result = .error .notOwner :=
  (result_outcome_eq_error_iff rules booking request .notOwner).2
    (verdict_of_stranger rules stranger)

end Stranger

end Request

namespace Booking

/-- Whatever came before it, a stranger's request is refused for its caller. -/
theorem result_of_mem_history
    {booking : Booking} {requests : List Request} {entry : Request × Outcome Booking}
    (rules : Rules)
    (member : entry ∈ booking.history rules requests)
    (stranger : entry.1.caller ≠ booking.customerId) :
    entry.2.result = .error .notOwner := by
  induction requests generalizing booking with
  | nil => exact absurd member List.not_mem_nil
  | cons request rest inductionHypothesis =>
      rw [history_cons, List.mem_cons] at member
      rcases member with rfl | later
      · exact Request.result_of_stranger rules stranger
      · rw [← request.customerId_after rules booking] at stranger
        exact inductionHypothesis later stranger

/-! ## The owner among others -/

theorem afterAll_of_interleaving
    {booking : Booking} {own others merged : List Request} (rules : Rules)
    (byOthers : ∀ request ∈ others, request.caller ≠ booking.customerId)
    (interleaved : Interleaving own others merged) :
    booking.afterAll rules merged = booking.afterAll rules own := by
  induction interleaved generalizing booking with
  | nil => rfl
  | left request _ inductionHypothesis =>
      rw [afterAll_cons, afterAll_cons]
      rw [← request.customerId_after rules booking] at byOthers
      exact inductionHypothesis byOthers
  | right request _ inductionHypothesis =>
      -- the stranger's request leaves the booking from which the owner goes on
      obtain ⟨stranger, byOthers⟩ := List.forall_mem_cons.1 byOthers
      rw [afterAll_cons, Request.after_of_stranger rules stranger]
      exact inductionHypothesis byOthers

theorem history_filter_of_interleaving
    {booking : Booking} {own others merged : List Request} (rules : Rules)
    (byOwner : ∀ request ∈ own, request.caller = booking.customerId)
    (byOthers : ∀ request ∈ others, request.caller ≠ booking.customerId)
    (interleaved : Interleaving own others merged) :
    ((booking.history rules merged).filter fun entry =>
      entry.1.caller = booking.customerId) = booking.history rules own := by
  induction interleaved generalizing booking with
  | nil => rfl
  | left request _ inductionHypothesis =>
      obtain ⟨isOwner, byOwner⟩ := List.forall_mem_cons.1 byOwner
      -- the owner's request may change the booking, but not whose it is
      have sameOwner := request.customerId_after rules booking
      rw [← sameOwner] at byOwner byOthers
      have later := inductionHypothesis byOwner byOthers
      rw [sameOwner] at later
      rw [history_cons, history_cons, List.filter_cons, decide_eq_true isOwner, if_pos rfl,
        later]
  | right request _ inductionHypothesis =>
      obtain ⟨stranger, byOthers⟩ := List.forall_mem_cons.1 byOthers
      rw [history_cons, List.filter_cons, decide_eq_false stranger,
        if_neg Bool.false_ne_true, Request.after_of_stranger rules stranger]
      exact inductionHypothesis byOwner byOthers

/-- Put any requests of others in between the requests of the owner. Each request of the
owner comes to what it comes to without them, the same booking is left, and each request of
the others is refused for its caller. -/
theorem history_of_interleaving
    {booking : Booking} {own others merged : List Request} (rules : Rules)
    (byOwner : ∀ request ∈ own, request.caller = booking.customerId)
    (byOthers : ∀ request ∈ others, request.caller ≠ booking.customerId)
    (interleaved : Interleaving own others merged) :
    ((booking.history rules merged).filter fun entry =>
        entry.1.caller = booking.customerId) = booking.history rules own ∧
      booking.afterAll rules merged = booking.afterAll rules own ∧
      ∀ entry ∈ booking.history rules merged,
        entry.1.caller ≠ booking.customerId → entry.2.result = .error .notOwner := by
  refine ⟨history_filter_of_interleaving rules byOwner byOthers interleaved,
    afterAll_of_interleaving rules byOthers interleaved, ?_⟩
  intro entry member stranger
  exact result_of_mem_history rules member stranger

end Booking

namespace Sample

def booking : Booking :=
  Workflow.prepared (form 2) owner .epoch

/-- What the owner asks for in the evening. -/
def ownRequests : List Request :=
  requests.filter fun request => request.caller = owner

def strangerRequests : List Request :=
  requests.filter fun request => request.caller = stranger

end Sample

namespace Booking

theorem history_of_evening :
    ((∀ request ∈ Sample.ownRequests, request.caller = Sample.booking.customerId) ∧
      (∀ request ∈ Sample.strangerRequests, request.caller ≠ Sample.booking.customerId) ∧
      Interleaving Sample.ownRequests Sample.strangerRequests Sample.requests) ∧
    ((Sample.booking.history .standard Sample.requests).filter fun entry =>
        entry.1.caller = Sample.booking.customerId) =
        Sample.booking.history .standard Sample.ownRequests ∧
      Sample.booking.afterAll .standard Sample.requests =
        Sample.booking.afterAll .standard Sample.ownRequests ∧
      ∀ entry ∈ Sample.booking.history .standard Sample.requests,
        entry.1.caller ≠ Sample.booking.customerId → entry.2.result = .error .notOwner := by
  have byOwner : ∀ request ∈ Sample.ownRequests,
      request.caller = Sample.booking.customerId := by
    decide
  have byOthers : ∀ request ∈ Sample.strangerRequests,
      request.caller ≠ Sample.booking.customerId := by
    decide
  have interleaved :
      Interleaving Sample.ownRequests Sample.strangerRequests Sample.requests :=
    .left _ (.right _ (.left _ (.left _ .nil)))
  exact ⟨⟨byOwner, byOthers, interleaved⟩,
    history_of_interleaving .standard byOwner byOthers interleaved⟩

/-! ## What a stranger learns -/

/-- What the callers of a list of requests are answered, one after the other. -/
def answers (rules : Rules) (booking : Booking) (requests : List Request) :
    List (Except ErrorReport Unit) :=
  (booking.outcomes rules requests).map Outcome.answer

theorem answers_eq_replicate
    {booking : Booking} {caller : Uuid} {requests : List Request} (rules : Rules)
    (stranger : caller ≠ booking.customerId)
    (byCaller : ∀ request ∈ requests, request.caller = caller) :
    booking.answers rules requests =
      List.replicate requests.length (.error (.ofCode .notBookingOwner)) := by
  rw [List.eq_replicate_iff]
  constructor
  · rw [answers, List.length_map, length_outcomes]
  · intro answer member
    rw [answers, ← map_snd_history, List.map_map] at member
    obtain ⟨⟨request, outcome⟩, entryMember, rfl⟩ := List.mem_map.1 member
    have isCaller := byCaller request (List.of_mem_zip entryMember).1
    have refused : outcome.result = .error .notOwner := by
      rw [← isCaller] at stranger
      exact result_of_mem_history rules entryMember stranger
    simp only [Function.comp, Outcome.answer, refused]
    rfl

/-- Two lists of requests of the same length, by a caller who owns neither of the two
bookings, are answered alike: each request with the same report, which has no details. The
bookings, the rules and what is asked may all differ. -/
theorem answers_of_stranger
    {caller : Uuid} {left right : Booking} {leftRequests rightRequests : List Request}
    (leftRules rightRules : Rules)
    (strangerLeft : caller ≠ left.customerId)
    (strangerRight : caller ≠ right.customerId)
    (byCallerLeft : ∀ request ∈ leftRequests, request.caller = caller)
    (byCallerRight : ∀ request ∈ rightRequests, request.caller = caller)
    (sameLength : leftRequests.length = rightRequests.length) :
    left.answers leftRules leftRequests = right.answers rightRules rightRequests ∧
      ∀ answer ∈ left.answers leftRules leftRequests,
        answer = .error (.ofCode .notBookingOwner) := by
  rw [answers_eq_replicate leftRules strangerLeft byCallerLeft,
    answers_eq_replicate rightRules strangerRight byCallerRight, sameLength]
  exact ⟨rfl, fun answer member => List.eq_of_mem_replicate member⟩

end Booking

namespace Sample

/-- Nothing fits these rules. -/
def strictRules : Rules :=
  { Rules.standard with minGuests := 5, maxGuests := 4 }

/-- It can be neither edited nor cancelled. -/
def completedBooking : Booking :=
  { booking.withContent (form 90) with status := .completed }

/-- The reason is too long. -/
def otherRequests : List Request :=
  [.cancel stranger (some (String.ofList (List.replicate 501 'x'))) .epoch]

end Sample

theorem Booking.answers_of_stranger_completed :
    (Sample.stranger ≠ Sample.booking.customerId ∧
      Sample.stranger ≠ Sample.completedBooking.customerId ∧
      (∀ request ∈ Sample.strangerRequests, request.caller = Sample.stranger) ∧
      (∀ request ∈ Sample.otherRequests, request.caller = Sample.stranger) ∧
      Sample.strangerRequests.length = Sample.otherRequests.length) ∧
    Sample.booking.answers .standard Sample.strangerRequests =
        Sample.completedBooking.answers Sample.strictRules Sample.otherRequests ∧
      ∀ answer ∈ Sample.booking.answers .standard Sample.strangerRequests,
        answer = .error (.ofCode .notBookingOwner) := by
  have strangerLeft : Sample.stranger ≠ Sample.booking.customerId := by decide
  have strangerRight : Sample.stranger ≠ Sample.completedBooking.customerId := by decide
  have byCallerLeft : ∀ request ∈ Sample.strangerRequests,
      request.caller = Sample.stranger := by
    decide
  have byCallerRight : ∀ request ∈ Sample.otherRequests,
      request.caller = Sample.stranger := by
    decide
  exact ⟨⟨strangerLeft, strangerRight, byCallerLeft, byCallerRight, rfl⟩,
    answers_of_stranger .standard Sample.strictRules strangerLeft strangerRight
      byCallerLeft byCallerRight rfl⟩

end TableBooking
