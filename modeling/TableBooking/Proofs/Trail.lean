import Mathlib.Data.List.Forall2
import TableBooking.Proofs.Classification

/-!
# The audit trail

The log tells of a step of the workflow if and only if it was done or was refused to someone
who does not own the booking. There is one entry for each such step, in the order of the
steps, which says what was done, by whom and to which booking, or who tried it
(`trail_tells_steps`). Once a booking is cancelled, the log never again tells of its being
cancelled or updated.
-/

namespace TableBooking

namespace Workflow

/-- A step of the workflow, with everything that it is given. -/
inductive Step where
  | create (rules : Rules) (form : Option Form) (customerId : Option Uuid) (now : DateTime)
  | change (rules : Rules) (booking : Booking) (request : Request)

namespace Step

def outcome : Step → Outcome Booking
  | create rules form customerId now => prepareCreate rules form customerId now
  | change rules booking request => request.outcome rules booking

/-- The entries that the step adds to the log. -/
def entries (step : Step) : List LogEntry :=
  step.outcome.events.map AuditEvent.entry

/-- Was the step done, or refused because the booking belongs to someone else? -/
def isTold (step : Step) : Bool :=
  match step.outcome.answer with
  | .ok _ => true
  | .error report => report.code = .notBookingOwner

/-- Does the entry tell of the step? It names who acted, and the booking by its identifier or,
while it has none, by its content. -/
inductive Tells : Step → LogEntry → Prop
  | prepared {rules : Rules} {form : Form} {customerId : Uuid} {now : DateTime}
      {booking : Booking} :
      (prepareCreate rules (some form) (some customerId) now).result = .ok booking →
      Tells (create rules (some form) (some customerId) now) {
        level := .info
        target := "booking_core::services::booking"
        message := some "Booking prepared"
        fields := [
          ("customer_id", .shown customerId.text),
          ("restaurant_id", .number form.restaurantId.toInt),
          ("guest_count", .number form.guestCount.toInt),
          ("booking_time", .shown form.bookingTime.shown)] }
  | updated {rules : Rules} {booking left : Booking} {form : Form} {caller : Uuid}
      {now : DateTime} :
      ((Request.update form caller now).outcome rules booking).result = .ok left →
      Tells (change rules booking (.update form caller now)) {
        level := .info
        target := "booking_core::services::booking"
        message := some "Booking updated"
        fields := [
          ("booking_id", .shown (AuditEvent.shownId booking.id)),
          ("customer_id", .shown caller.text)] }
  | cancelled {rules : Rules} {booking left : Booking} {caller : Uuid}
      {reason : Option String} {now : DateTime} :
      ((Request.cancel caller reason now).outcome rules booking).result = .ok left →
      Tells (change rules booking (.cancel caller reason now)) {
        level := .info
        target := "booking_core::services::booking"
        message := some "Booking cancelled"
        fields := [
          ("booking_id", .shown (AuditEvent.shownId booking.id)),
          ("customer_id", .shown caller.text)] }
  | ownerMismatch {rules : Rules} {booking : Booking} {request : Request} :
      (request.outcome rules booking).result = .error .notOwner →
      Tells (change rules booking request) {
        level := .info
        target := "security"
        message := none
        fields := [
          ("level", .text "WARN"),
          ("event", .text "booking_owner_mismatch"),
          ("action", .text request.action.name),
          ("booking_id", .shown (AuditEvent.shownId booking.id)),
          ("customer_id", .shown request.caller.text)] }

/-- Is the step told of in one entry, or in none if nothing is to be told of it? -/
def Accounted (step : Step) : Prop :=
  (step.isTold = true ∧ ∃ entry, step.entries = [entry] ∧ Tells step entry) ∨
    (step.isTold = false ∧ step.entries = [])

/-! ## One step -/

def call : Step → Call
  | create rules form customerId now => .create rules form customerId now
  | change rules booking request => .change rules booking request

theorem isTold_eq_false
    {step : Step} {refusal : Refusal}
    (refused : step.outcome.result = .error refusal)
    (notStranger : step.call.cause ≠ .stranger) :
    step.isTold = false := by
  have failed : step.outcome.answer = .error refusal.report :=
    (ErrorReport.answer_eq_error_iff ..).2 ⟨refusal, refused, rfl⟩
  have callFailed : step.call.answer = .error refusal.report := by
    cases step <;> exact failed
  have status := (Call.explained_of_answer callFailed).status
  rw [isTold, failed]
  refine decide_eq_false fun isOwnerCode => notStranger ?_
  rw [isOwnerCode] at status
  exact ((Cause.httpStatus_inj .stranger step.call.cause).1 status).symm

theorem accounted_create
    (rules : Rules) (form : Option Form) (customerId : Option Uuid) (now : DateTime) :
    (create rules form customerId now).Accounted := by
  cases form with
  | none => exact Or.inr ⟨rfl, rfl⟩
  | some content =>
      cases customerId with
      | none => exact Or.inr ⟨rfl, rfl⟩
      | some owner =>
          cases checked : rules.checkForm content now with
          | ok _ =>
              have outcome := prepareCreate_of_passed owner checked
              refine Or.inl ⟨?_, (AuditEvent.prepared (prepared content owner now)).entry, ?_,
                .prepared (congrArg Outcome.result outcome)⟩
              · rw [isTold, Step.outcome, outcome]
                rfl
              · rw [entries, Step.outcome, outcome]
                rfl
          | error refusal =>
              have outcome := prepareCreate_of_failed owner checked
              refine Or.inr ⟨?_, ?_⟩
              · exact isTold_eq_false (congrArg Outcome.result outcome) nofun
              · rw [entries, Step.outcome, outcome]
                rfl

theorem accounted_change
    (rules : Rules) (booking : Booking) (request : Request) :
    (change rules booking request).Accounted := by
  cases decided : request.verdict rules booking with
  | ok _ =>
      have outcome := Request.outcome_of_accepted decided
      refine Or.inl ⟨?_, (request.event booking).entry, ?_, ?_⟩
      · rw [isTold, Step.outcome, outcome]
        rfl
      · rw [entries, Step.outcome, outcome]
        rfl
      · cases request with
        | update form caller now => exact .updated (congrArg Outcome.result outcome)
        | cancel caller reason now => exact .cancelled (congrArg Outcome.result outcome)
  | error refusal =>
      have outcome := Request.outcome_of_refused decided
      by_cases owner : request.caller = booking.customerId
      · rw [Request.warnings, if_pos owner] at outcome
        refine Or.inr ⟨isTold_eq_false (congrArg Outcome.result outcome) ?_, ?_⟩
        · change Call.cause (.change rules booking request) ≠ .stranger
          rw [Call.cause, if_neg (not_not_intro owner)]
          split <;> decide
        · rw [entries, Step.outcome, outcome]
          rfl
      · have stranger := Request.result_of_stranger rules owner
        rw [Request.warnings, if_neg owner] at outcome
        refine Or.inl ⟨?_, (AuditEvent.ownerMismatch request.action booking.id
          request.caller).entry, ?_, .ownerMismatch stranger⟩
        · rw [isTold, Step.outcome, Outcome.answer, stranger]
          rfl
        · rw [entries, Step.outcome, outcome]
          rfl

theorem accounted
    (step : Step) :
    step.Accounted := by
  cases step with
  | create rules form customerId now => exact accounted_create rules form customerId now
  | change rules booking request => exact accounted_change rules booking request

theorem tells_of_mem_entries
    {step : Step} {entry : LogEntry}
    (member : entry ∈ step.entries) :
    Tells step entry := by
  rcases accounted step with ⟨_, told, only, tells⟩ | ⟨_, silent⟩
  · rw [only, List.mem_singleton] at member
    rw [member]
    exact tells
  · rw [silent] at member
    exact absurd member List.not_mem_nil

end Step

/-! ## Many steps -/

def trail (steps : List Step) : List LogEntry :=
  steps.flatMap Step.entries

theorem trail_cons
    (step : Step) (rest : List Step) :
    trail (step :: rest) = step.entries ++ trail rest :=
  List.flatMap_cons

theorem forall₂_tells_trail
    (steps : List Step) :
    List.Forall₂ Step.Tells (steps.filter Step.isTold) (trail steps) := by
  induction steps with
  | nil => exact .nil
  | cons step rest inductionHypothesis =>
      rw [trail_cons]
      rcases step.accounted with ⟨told, entry, only, tells⟩ | ⟨notTold, silent⟩
      · rw [List.filter_cons, if_pos told, only]
        exact .cons tells inductionHypothesis
      · rw [List.filter_cons, notTold, silent]
        exact inductionHypothesis

/-- All changes among the steps are made to one booking, each to what the change before it has
left. Other bookings may be created in between, and the rules may differ from step to step. -/
inductive RunOn : Booking → List Step → Prop
  | nil (booking : Booking) : RunOn booking []
  | create {booking : Booking} {rest : List Step}
      (rules : Rules) (form : Option Form) (customerId : Option Uuid) (now : DateTime) :
      RunOn booking rest →
      RunOn booking (.create rules form customerId now :: rest)
  | change {booking : Booking} {rest : List Step} (rules : Rules) (request : Request) :
      RunOn (request.after rules booking) rest →
      RunOn booking (.change rules booking request :: rest)

/-- Is the entry not about a booking that was cancelled or updated? -/
def LeavesAsItIs (entry : LogEntry) : Prop :=
  entry.message ≠ some "Booking cancelled" ∧ entry.message ≠ some "Booking updated"

theorem leavesAsItIs_of_create
    {rules : Rules} {form : Option Form} {customerId : Option Uuid} {now : DateTime}
    {entry : LogEntry}
    (tells : Step.Tells (.create rules form customerId now) entry) :
    LeavesAsItIs entry := by
  cases tells with
  | prepared _ => exact ⟨by simp, by simp⟩

section Change

variable {rules : Rules} {booking : Booking} {request : Request} {entry : LogEntry}

theorem verdict_of_result
    {left : Booking}
    (done : (request.outcome rules booking).result = .ok left) :
    request.verdict rules booking = .ok () := by
  rw [Request.result_outcome] at done
  cases decided : request.verdict rules booking with
  | ok _ => rfl
  | error refusal =>
      rw [decided] at done
      exact absurd done nofun

theorem leavesAsItIs_of_closed
    (closed : booking.status.isOpen = false)
    (tells : Step.Tells (.change rules booking request) entry) :
    LeavesAsItIs entry := by
  have notDone : ∀ left, (request.outcome rules booking).result ≠ .ok left := by
    intro left done
    have isOpen := ((Request.verdict_eq_ok_iff ..).1 (verdict_of_result done)).2.1
    rw [closed] at isOpen
    exact absurd isOpen Bool.false_ne_true
  cases tells with
  | updated done => exact absurd done (notDone _)
  | cancelled done => exact absurd done (notDone _)
  | ownerMismatch _ => exact ⟨nofun, nofun⟩

/-- A booking that the log tells to be cancelled is closed. -/
theorem isOpen_after_of_cancelled
    (tells : Step.Tells (.change rules booking request) entry)
    (cancelled : entry.message = some "Booking cancelled") :
    (request.after rules booking).status.isOpen = false := by
  cases tells with
  | updated _ => exact absurd cancelled (by simp)
  | cancelled done =>
      rw [Request.after_of_accepted (verdict_of_result done)]
      rfl
  | ownerMismatch _ => exact absurd cancelled nofun

end Change

theorem RunOn.leavesAsItIs_of_mem
    {booking : Booking} {steps : List Step}
    (run : RunOn booking steps)
    (closed : booking.status.isOpen = false) :
    ∀ entry ∈ trail steps, LeavesAsItIs entry := by
  induction run with
  | nil booking => exact nofun
  | create rules form customerId now _ inductionHypothesis =>
      intro entry member
      rw [trail_cons, List.mem_append] at member
      rcases member with atFirst | later
      · exact leavesAsItIs_of_create (Step.tells_of_mem_entries atFirst)
      · exact inductionHypothesis closed entry later
  | @change booking rest rules request _ inductionHypothesis =>
      intro entry member
      rw [trail_cons, List.mem_append] at member
      rcases member with atFirst | later
      · exact leavesAsItIs_of_closed closed (Step.tells_of_mem_entries atFirst)
      · have stillClosed : (request.after rules booking).status.isOpen = false := by
          cases decided : request.verdict rules booking with
          | error refusal => rw [Request.after_of_refused decided, closed]
          | ok _ =>
              have isOpen := ((Request.verdict_eq_ok_iff ..).1 decided).2.1
              rw [closed] at isOpen
              exact absurd isOpen Bool.false_ne_true
        exact inductionHypothesis stillClosed entry later

theorem RunOn.pairwise_trail
    {booking : Booking} {steps : List Step}
    (run : RunOn booking steps) :
    (trail steps).Pairwise fun earlier later =>
      earlier.message = some "Booking cancelled" → LeavesAsItIs later := by
  induction run with
  | nil booking => exact .nil
  | create rules form customerId now _ inductionHypothesis =>
      rw [trail_cons]
      rcases (Step.create rules form customerId now).accounted with
        ⟨_, entry, only, tells⟩ | ⟨_, silent⟩
      · rw [only]
        refine List.Pairwise.cons (fun later _ cancelled => ?_) inductionHypothesis
        exact absurd cancelled (leavesAsItIs_of_create tells).1
      · rw [silent]
        exact inductionHypothesis
  | change rules request rest inductionHypothesis =>
      rw [trail_cons]
      rcases (Step.change rules _ request).accounted with
        ⟨_, entry, only, tells⟩ | ⟨_, silent⟩
      · rw [only]
        refine List.Pairwise.cons (fun later member cancelled => ?_) inductionHypothesis
        -- the booking is closed from here on, whatever the rest of the run asks for
        exact rest.leavesAsItIs_of_mem (isOpen_after_of_cancelled tells cancelled) later member
      · rw [silent]
        exact inductionHypothesis

/-- The requests as steps, each made to what the one before it has left. -/
def changes (rules : Rules) : Booking → List Request → List Step
  | _, [] => []
  | booking, request :: rest =>
    .change rules booking request :: changes rules (request.after rules booking) rest

theorem runOn_changes
    (rules : Rules) (booking : Booking) (requests : List Request) :
    RunOn booking (changes rules booking requests) := by
  induction requests generalizing booking with
  | nil => exact .nil booking
  | cons request rest inductionHypothesis => exact .change rules request (inductionHypothesis _)

/-- The entries in the log are, one by one and in the same order, those that tell of the steps
that were done or were refused for their caller. A step that was refused for anything else
leaves no entry. On a run on one booking, no entry after that of its cancellation tells of a
cancellation or an update. -/
theorem trail_tells_steps
    (steps : List Step) :
    List.Forall₂ Step.Tells (steps.filter Step.isTold) (trail steps) ∧
      (∀ step ∈ steps, step.isTold = false → step.entries = []) ∧
      ∀ booking, RunOn booking steps →
        (trail steps).Pairwise fun earlier later =>
          earlier.message = some "Booking cancelled" →
            later.message ≠ some "Booking cancelled" ∧
              later.message ≠ some "Booking updated" := by
  refine ⟨forall₂_tells_trail steps, ?_, fun booking run => run.pairwise_trail⟩
  intro step _ notTold
  rcases step.accounted with ⟨told, _⟩ | ⟨_, silent⟩
  · rw [notTold] at told
    exact absurd told Bool.false_ne_true
  · exact silent

end Workflow

/-! ## The log of an evening -/

namespace Sample

def formlessStep : Workflow.Step :=
  .create endlessRules none (some owner) .epoch

def steps : List Workflow.Step :=
  formlessStep ::
    .create endlessRules (some (form 2)) (some owner) .epoch ::
      Workflow.changes .standard booking requests

end Sample

namespace Workflow

theorem trail_tells_evening :
    (Sample.formlessStep ∈ Sample.steps ∧ Sample.formlessStep.isTold = false ∧
      RunOn Sample.booking Sample.steps) ∧
    List.Forall₂ Step.Tells (Sample.steps.filter Step.isTold) (trail Sample.steps) ∧
      Sample.formlessStep.entries = [] ∧
      (trail Sample.steps).Pairwise fun earlier later =>
        earlier.message = some "Booking cancelled" →
          later.message ≠ some "Booking cancelled" ∧
            later.message ≠ some "Booking updated" := by
  have member : Sample.formlessStep ∈ Sample.steps := List.mem_cons_self
  have notTold : Sample.formlessStep.isTold = false := rfl
  have run : RunOn Sample.booking Sample.steps :=
    .create _ _ _ _ (.create _ _ _ _ (runOn_changes ..))
  obtain ⟨correspond, silent, pairwise⟩ := trail_tells_steps Sample.steps
  exact ⟨⟨member, notTold, run⟩, correspond, silent _ member notTold, pairwise _ run⟩

example :
    (trail Sample.steps).map LogEntry.message =
      [some "Booking prepared", some "Booking updated", none, some "Booking cancelled"] :=
  rfl

end Workflow

end TableBooking
