import TableBooking.Workflow.Basic

/-!
# Requests on a booking

A request asks to edit or to cancel a booking that exists. It leaves a booking whatever
becomes of it, so a list of requests leads from any booking to another one.
-/

namespace TableBooking

/-- A request on an existing booking. -/
inductive Request where
  | update (form : Form) (caller : Uuid) (now : DateTime)
  | cancel (caller : Uuid) (reason : Option String) (now : DateTime)
  deriving DecidableEq

namespace Request

def caller : Request → Uuid
  | update _ caller _ => caller
  | cancel caller _ _ => caller

def now : Request → DateTime
  | update _ _ now => now
  | cancel _ _ now => now

def revision (rules : Rules) : Request → Revision Unit
  | update form caller now => Workflow.applyUpdate rules form caller now
  | cancel caller reason now => Workflow.cancel caller reason now

/-- What the request comes to: the booking that it leaves, or its refusal. -/
def outcome (rules : Rules) (booking : Booking) (request : Request) : Outcome Booking :=
  let done := (request.revision rules).run booking
  (fun _ => done.2) <$> done.1

/-- The booking that the request leaves, whatever it comes to. -/
def after (rules : Rules) (booking : Booking) (request : Request) : Booking :=
  ((request.revision rules).run booking).2

end Request

namespace Booking

def afterAll (rules : Rules) (booking : Booking) (requests : List Request) : Booking :=
  requests.foldl (Request.after rules) booking

/-- What each of a list of requests comes to, on the booking that the requests before
it have left. -/
def outcomes (rules : Rules) : Booking → List Request → List (Outcome Booking)
  | _, [] => []
  | booking, request :: rest =>
    request.outcome rules booking :: outcomes rules (request.after rules booking) rest

/-- The requests of a list, each with what it comes to. -/
def history (rules : Rules) (booking : Booking) (requests : List Request) :
    List (Request × Outcome Booking) :=
  requests.zip (booking.outcomes rules requests)

theorem length_outcomes
    (rules : Rules) (booking : Booking) (requests : List Request) :
    (booking.outcomes rules requests).length = requests.length := by
  induction requests generalizing booking with
  | nil => rfl
  | cons request rest inductionHypothesis =>
      simp [outcomes, inductionHypothesis]

theorem map_snd_history
    (rules : Rules) (booking : Booking) (requests : List Request) :
    (booking.history rules requests).map Prod.snd = booking.outcomes rules requests :=
  List.map_snd_zip (Nat.le_of_eq (length_outcomes rules booking requests))

theorem history_cons
    (rules : Rules) (booking : Booking) (request : Request) (rest : List Request) :
    booking.history rules (request :: rest) =
      (request, request.outcome rules booking) ::
        (request.after rules booking).history rules rest :=
  rfl

theorem afterAll_cons
    (rules : Rules) (booking : Booking) (request : Request) (rest : List Request) :
    booking.afterAll rules (request :: rest) =
      (request.after rules booking).afterAll rules rest :=
  rfl

theorem afterAll_append
    (rules : Rules) (booking : Booking) (early late : List Request) :
    booking.afterAll rules (early ++ late) =
      (booking.afterAll rules early).afterAll rules late :=
  List.foldl_append

end Booking

end TableBooking
