import TableBooking.Json.Choice

/-!
# Booking status

A booking is open while its customer may still change it.
-/

namespace TableBooking

/-- The status of a booking. -/
inductive Status where
  /-- It waits for the restaurant to confirm it. -/
  | pending
  /-- It is confirmed and waits for payment or arrival. -/
  | confirmed
  | completed
  | cancelled
  | noShow
  /-- Its cancellation is requested and a refund in progress. -/
  | pendingCancel
  | deleted
  deriving DecidableEq, Repr

namespace Status

def all : List Status :=
  [pending, confirmed, completed, cancelled, noShow, pendingCancel, deleted]

/-- The token by which statuses are exchanged. -/
def token : Status → String
  | pending => "PENDING"
  | confirmed => "CONFIRMED"
  | completed => "COMPLETED"
  | cancelled => "CANCELLED"
  | noShow => "NO_SHOW"
  | pendingCancel => "PENDING_CANCEL"
  | deleted => "DELETED"

def name : Status → String
  | pending => "Pending"
  | confirmed => "Confirmed"
  | completed => "Completed"
  | cancelled => "Cancelled"
  | noShow => "NoShow"
  | pendingCancel => "PendingCancel"
  | deleted => "Deleted"

/-- A new booking is pending. -/
instance : Inhabited Status := ⟨pending⟩

/-- May the customer still change a booking of this status? -/
def isOpen : Status → Bool
  | pending => true
  | confirmed => true
  | _ => false

def toJson (status : Status) : Json :=
  .string status.token

/-- The status that a JSON value stands for, chosen by its token. -/
def ofJson? : Json → Option Status :=
  Json.choice? all token

end Status

end TableBooking
