import TableBooking.Role
import TableBooking.Booking.Wire
import TableBooking.Settings
import TableBooking.Workflow.Request
import TableBooking.Proofs.Verdict
import TableBooking.Proofs.Acceptance
import TableBooking.Proofs.Log
import TableBooking.Proofs.Reachable
import TableBooking.Proofs.Record
import TableBooking.Proofs.RoundTrip
import TableBooking.Binary64.Canonical
import TableBooking.Logging.Filter
import TableBooking.Logging.Line
import TableBooking.DotFile
import TableBooking.Logging.Host
import TableBooking.Calendar.DayNumber
import TableBooking.Json.Number.RoundTrip
import TableBooking.Json.Quoted.RoundTrip
import TableBooking.Json.Record.Document
import TableBooking.Json.Record.Row
import TableBooking.Json.RoundTrip
import TableBooking.Calendar.RoundTrip
import TableBooking.Decimal.RoundTrip
import TableBooking.Uuid.RoundTrip
import TableBooking.Logging.FieldValue
import TableBooking.Text.Bytes
import TableBooking.Proofs.Members
import TableBooking.Calendar.Timeline
import TableBooking.Proofs.Conditions
import TableBooking.Proofs.Isolation
import TableBooking.Proofs.Classification
import TableBooking.Calendar.Sum
import TableBooking.Proofs.Trail
import TableBooking.Proofs.Window
import TableBooking.Proofs.Configuration
import TableBooking.Proofs.Editing
import TableBooking.Proofs.Hints
import TableBooking.Proofs.Redelivery
import TableBooking.Decimal.Underflow
import TableBooking.Proofs.Rereading
import TableBooking.Proofs.Widening
import TableBooking.Booking.Field
import TableBooking.Proofs.Blame
import TableBooking.Calendar.Units
import TableBooking.Proofs.Faults
import TableBooking.Proofs.Variables
import TableBooking.Proofs.Mapping
import TableBooking.Proofs.Stored
import TableBooking.Proofs.Layouts
import TableBooking.Proofs.RoleTokens
import TableBooking.Proofs.AccountTypes
import TableBooking.Proofs.Details
import TableBooking.Proofs.Stamps
import TableBooking.Proofs.Agreement
