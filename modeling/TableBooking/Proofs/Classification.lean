import TableBooking.Proofs.Conditions
import TableBooking.Proofs.Isolation
import TableBooking.Role
import TableBooking.Settings

/-!
# What a report says on its cause

Every operation that can fail answers with a report. The status of the report tells what went
wrong, and it is 400 if and only if the report names a field, which is then an input of the
call (`answer_classified`). Each operation has its own reports, so there is one lemma for each
operation.
-/

namespace TableBooking

/-! ## Codes and refusals -/

theorem ErrorCode.isFieldError_iff
    (code : ErrorCode) :
    code.isFieldError = true ↔ code.httpStatus = 400 := by
  cases code <;> decide

theorem Refusal.isSome_field?_iff
    (refusal : Refusal) :
    refusal.report.field?.isSome = true ↔ refusal.code.isFieldError = true := by
  cases refusal <;> exact Iff.of_eq rfl

/-! ## Calls -/

/-- The fields of a form that its check can refuse. -/
def Form.checkedFields : List String :=
  ["booking_time", "guest_count", "deposit_amount", "note"]

/-- A call of an operation that can fail. -/
inductive Call where
  | create (rules : Rules) (form : Option Form) (customerId : Option Uuid) (now : DateTime)
  | change (rules : Rules) (booking : Booking) (request : Request)
  | configure (settings : Settings)
  | convert (text : Option String)

/-- What can go wrong with a call. -/
inductive Cause where
  /-- There is a form for a booking, but no customer. -/
  | customerMissing
  /-- Someone asks to change the booking of someone else. -/
  | stranger
  /-- The owner asks to change a booking that is not open. -/
  | closed
  /-- The settings are not consistent. -/
  | settings
  /-- An input is missing or not in order. -/
  | input
  deriving DecidableEq

def Cause.httpStatus : Cause → Nat
  | customerMissing => 401
  | stranger => 403
  | closed => 422
  | settings => 500
  | input => 400

theorem Cause.httpStatus_inj
    (a b : Cause) :
    a.httpStatus = b.httpStatus ↔ a = b := by
  cases a <;> cases b <;> decide

namespace Call

def answer : Call → Except ErrorReport Unit
  | create rules form customerId now =>
    (Workflow.prepareCreate rules form customerId now).answer
  | change rules booking request => (request.outcome rules booking).answer
  | configure settings => ErrorReport.answer SettingsFault.report settings.rules
  | convert text => ErrorReport.answer UnknownRole.report (Role.ofToken? text)

/-- What goes wrong with a call if it fails. -/
def cause : Call → Cause
  | create _ (some _) none _ => .customerMissing
  | create _ _ _ _ => .input
  | change _ booking request =>
    if request.caller ≠ booking.customerId then .stranger
    else if booking.status.isOpen then .input
    else .closed
  | configure _ => .settings
  | convert _ => .input

/-- The inputs of a call that can be missing or not in order. -/
def inputs : Call → List String
  | create _ none _ _ => ["booking"]
  | create _ (some _) _ _ => Form.checkedFields
  | change _ _ (.update _ _ _) => Form.checkedFields
  | change _ _ (.cancel _ _ _) => ["cancel_reason"]
  | configure _ => []
  | convert _ => ["role"]

/-- Does the report tell what went wrong with the call? -/
structure Explained (call : Call) (report : ErrorReport) : Prop where
  status : report.code.httpStatus = call.cause.httpStatus
  field : report.field?.isSome = true ↔ report.code.isFieldError = true
  input : call.cause = .input → ∃ field ∈ call.inputs, report.field? = some field
  closed : call.cause = .closed →
    ∃ rules booking request,
      call = .change rules booking request ∧
        report.detail? "status" = some (.string booking.status.name) ∧
        request.after rules booking = booking

/-! ## Inputs -/

theorem explained_of_blames
    {call : Call} {refusal : Refusal} {condition : Condition}
    (isInput : call.cause = .input)
    (blames : refusal.Blames condition)
    (named : condition.field ∈ call.inputs)
    (status : condition.code.httpStatus = 400) :
    call.Explained refusal.report where
  status := by
    rw [blames.code, status, isInput]
    rfl
  field := refusal.isSome_field?_iff
  input := fun _ => ⟨condition.field, named, blames.field⟩
  closed := fun isClosed => absurd (isInput.symm.trans isClosed) nofun

theorem of_mem_calendarConditions
    {rules : Rules} {form : Form} {now : DateTime} {condition : Condition}
    (member : condition ∈ rules.calendarConditions form now) :
    condition.field ∈ Form.checkedFields ∧ condition.code.httpStatus = 400 := by
  have all :
      ((rules.calendarConditions form now).all fun condition =>
        condition.field ∈ Form.checkedFields ∧ condition.code.httpStatus = 400) = true :=
    rfl
  exact of_decide_eq_true (List.all_eq_true.1 all condition member)

theorem explained_of_checkForm
    {call : Call} {rules : Rules} {form : Form} {now : DateTime} {refusal : Refusal}
    (isInput : call.cause = .input)
    (inputs : call.inputs = Form.checkedFields)
    (refused : rules.checkForm form now = .error refusal) :
    call.Explained refusal.report := by
  obtain ⟨condition, member, _, blames⟩ :=
    (rules.enforces_checkForm form now).exists_of_error refused
  obtain ⟨named, status⟩ := of_mem_calendarConditions member
  rw [← inputs] at named
  exact explained_of_blames isInput blames named status

/-! ## One operation after the other -/

theorem explained_create
    {rules : Rules} {form : Option Form} {customerId : Option Uuid} {now : DateTime}
    {refusal : Refusal}
    (refused : (Workflow.prepareCreate rules form customerId now).result = .error refusal) :
    (create rules form customerId now).Explained refusal.report := by
  cases form with
  | none =>
      obtain rfl : Refusal.formMissing = refusal := Except.error.inj refused
      exact {
        status := rfl
        field := Refusal.isSome_field?_iff _
        input := fun _ => ⟨"booking", List.mem_singleton_self "booking", rfl⟩
        closed := nofun }
  | some content =>
      cases customerId with
      | none =>
          obtain rfl : Refusal.notAuthenticated = refusal := Except.error.inj refused
          exact {
            status := rfl
            field := Refusal.isSome_field?_iff _
            input := nofun
            closed := nofun }
      | some owner =>
          cases checked : rules.checkForm content now with
          | ok _ =>
              rw [Workflow.prepareCreate_of_passed owner checked] at refused
              exact absurd refused nofun
          | error found =>
              rw [Workflow.prepareCreate_of_failed owner checked] at refused
              obtain rfl : found = refusal := Except.error.inj refused
              exact explained_of_checkForm rfl rfl checked

section Change

variable {rules : Rules} {booking : Booking} {request : Request} {refusal : Refusal}

theorem explained_change_of_stranger
    (stranger : request.caller ≠ booking.customerId)
    (decided : request.verdict rules booking = .error refusal) :
    (change rules booking request).Explained refusal.report := by
  have byStranger : (change rules booking request).cause = .stranger := if_pos stranger
  rw [Request.verdict_of_stranger rules stranger] at decided
  obtain rfl := Except.error.inj decided
  exact {
    status := by
      rw [byStranger]
      rfl
    field := Refusal.isSome_field?_iff _
    input := fun isInput => absurd (byStranger.symm.trans isInput) (by decide)
    closed := fun isClosed => absurd (byStranger.symm.trans isClosed) (by decide) }

theorem explained_change_of_closed
    (owner : request.caller = booking.customerId)
    (notOpen : ¬ booking.status.isOpen = true)
    (decided : request.verdict rules booking = .error refusal) :
    (change rules booking request).Explained refusal.report := by
  have unchanged := Request.after_of_refused decided
  have isClosed : (change rules booking request).cause = .closed := by
    rw [cause, if_neg (not_not_intro owner), if_neg notOpen]
  rw [Request.verdict, if_pos owner, if_neg notOpen] at decided
  obtain rfl := Except.error.inj decided
  exact {
    status := by
      rw [isClosed]
      cases request <;> rfl
    field := Refusal.isSome_field?_iff _
    input := fun isInput => absurd (isClosed.symm.trans isInput) (by decide)
    closed := by
      intro _
      refine ⟨rules, booking, request, rfl, ?_, unchanged⟩
      cases request <;> rfl }

/-- The owner's request on an open booking is refused only for what it brings with it. -/
theorem explained_change_of_open
    (owner : request.caller = booking.customerId)
    (isOpen : booking.status.isOpen = true)
    (decided : request.verdict rules booking = .error refusal) :
    (change rules booking request).Explained refusal.report := by
  have isInput : (change rules booking request).cause = .input := by
    rw [cause, if_neg (not_not_intro owner), if_pos isOpen]
  rw [Request.verdict, if_pos owner, if_pos isOpen] at decided
  cases request with
  | update form caller now => exact explained_of_checkForm isInput rfl decided
  | cancel caller reason now =>
      obtain ⟨condition, member, _, blames⟩ :=
        (Rules.enforces_checkText "cancel_reason" maxNoteLength reason).exists_of_error
          decided
      obtain rfl := List.mem_singleton.1 member
      exact explained_of_blames isInput blames (List.mem_singleton_self "cancel_reason") rfl

theorem explained_change
    (decided : request.verdict rules booking = .error refusal) :
    (change rules booking request).Explained refusal.report := by
  by_cases owner : request.caller = booking.customerId
  · by_cases isOpen : booking.status.isOpen = true
    · exact explained_change_of_open owner isOpen decided
    · exact explained_change_of_closed owner isOpen decided
  · exact explained_change_of_stranger owner decided

end Change

theorem explained_configure
    (settings : Settings) (fault : SettingsFault) :
    (configure settings).Explained fault.report where
  status := rfl
  field := iff_of_false nofun nofun
  input := nofun
  closed := nofun

theorem explained_convert
    (text : Option String) (unknown : UnknownRole) :
    (convert text).Explained unknown.report where
  status := rfl
  field := iff_of_true rfl rfl
  input := fun _ => ⟨"role", List.mem_singleton_self "role", rfl⟩
  closed := nofun

theorem explained_of_answer
    {call : Call} {report : ErrorReport}
    (failed : call.answer = .error report) :
    call.Explained report := by
  cases call with
  | create rules form customerId now =>
      obtain ⟨refusal, refused, rfl⟩ := (ErrorReport.answer_eq_error_iff ..).1 failed
      exact explained_create refused
  | change rules booking request =>
      obtain ⟨refusal, refused, rfl⟩ := (ErrorReport.answer_eq_error_iff ..).1 failed
      exact explained_change ((Request.result_outcome_eq_error_iff ..).1 refused)
  | configure settings =>
      obtain ⟨fault, _, rfl⟩ := (ErrorReport.answer_eq_error_iff ..).1 failed
      exact explained_configure settings fault
  | convert text =>
      obtain ⟨unknown, _, rfl⟩ := (ErrorReport.answer_eq_error_iff ..).1 failed
      exact explained_convert text unknown

/-! ## Causes -/

theorem exists_report_of_cause
    {call : Call}
    (notInput : call.cause ≠ .input)
    (notSettings : call.cause ≠ .settings) :
    ∃ report, call.answer = .error report := by
  cases call with
  | create rules form customerId now =>
      cases form with
      | none => exact absurd rfl notInput
      | some content =>
          cases customerId with
          | none => exact ⟨_, rfl⟩
          | some owner => exact absurd rfl notInput
  | change rules booking request =>
      cases decided : request.verdict rules booking with
      | error refusal =>
          exact ⟨refusal.report, (ErrorReport.answer_eq_error_iff ..).2
            ⟨refusal, (Request.result_outcome_eq_error_iff ..).2 decided, rfl⟩⟩
      | ok _ =>
          obtain ⟨owner, isOpen, _⟩ :=
            (Request.verdict_eq_ok_iff rules booking request).1 decided
          rw [cause, if_neg (not_not_intro owner), if_pos isOpen] at notInput
          exact absurd rfl notInput
  | configure settings => exact absurd rfl notSettings
  | convert text => exact absurd rfl notInput

/-- A call fails without a customer, by a stranger, or on a booking that is not open.
Whatever report a call fails with, it names a field if and only if its code is for that, and
if and only if its status is 400. The status tells the cause, and the field is an input of
the call. On a booking that is not open the report tells its status, which is left as it
was. -/
theorem answer_classified
    (call : Call) :
    (call.cause ≠ .input → call.cause ≠ .settings → ∃ report, call.answer = .error report) ∧
    ∀ report, call.answer = .error report →
      (report.field?.isSome = true ↔ report.code.isFieldError = true) ∧
      (report.code.isFieldError = true ↔ report.code.httpStatus = 400) ∧
      (∀ cause : Cause, report.code.httpStatus = cause.httpStatus ↔ call.cause = cause) ∧
      (call.cause = .input → ∃ field ∈ call.inputs, report.field? = some field) ∧
      (call.cause = .closed →
        ∃ rules booking request,
          call = .change rules booking request ∧
            report.detail? "status" = some (.string booking.status.name) ∧
            request.after rules booking = booking) := by
  refine ⟨exists_report_of_cause, ?_⟩
  intro report failed
  have explained := explained_of_answer failed
  refine ⟨explained.field, report.code.isFieldError_iff, ?_, explained.input,
    explained.closed⟩
  intro cause
  rw [explained.status, Cause.httpStatus_inj]

end Call

namespace Sample

/-- The owner edits a booking that is completed. -/
def lateEdit : Call :=
  .change .standard completedBooking (.update (form 4) owner .epoch)

def lateReport : ErrorReport :=
  (Refusal.notEditable .completed).report

end Sample

theorem Call.answer_classified_lateEdit :
    (Sample.lateEdit.cause ≠ .input ∧ Sample.lateEdit.cause ≠ .settings ∧
      Sample.lateEdit.answer = .error Sample.lateReport) ∧
    (∃ report, Sample.lateEdit.answer = .error report) ∧
    (Sample.lateReport.field?.isSome = true ↔ Sample.lateReport.code.isFieldError = true) ∧
    (Sample.lateReport.code.isFieldError = true ↔ Sample.lateReport.code.httpStatus = 400) ∧
    (∀ cause : Cause,
      Sample.lateReport.code.httpStatus = cause.httpStatus ↔ Sample.lateEdit.cause = cause) ∧
    (Sample.lateEdit.cause = .input →
      ∃ field ∈ Sample.lateEdit.inputs, Sample.lateReport.field? = some field) ∧
    (Sample.lateEdit.cause = .closed →
      ∃ rules booking request,
        Sample.lateEdit = .change rules booking request ∧
          Sample.lateReport.detail? "status" = some (.string booking.status.name) ∧
          request.after rules booking = booking) := by
  have notInput : Sample.lateEdit.cause ≠ .input := by decide
  have notSettings : Sample.lateEdit.cause ≠ .settings := by decide
  have failed : Sample.lateEdit.answer = .error Sample.lateReport := rfl
  exact ⟨⟨notInput, notSettings, failed⟩,
    (Call.answer_classified Sample.lateEdit).1 notInput notSettings,
    (Call.answer_classified Sample.lateEdit).2 Sample.lateReport failed⟩

end TableBooking
