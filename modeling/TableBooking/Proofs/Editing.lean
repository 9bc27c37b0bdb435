import TableBooking.Booking.Field
import TableBooking.Proofs.Isolation

/-!
# Editing as strictly as creating

The owner of an open booking may write to it what a new booking may be made of at that time,
and nothing else. Where both are refused, they are refused with the same report, and where both
are accepted, the two bookings have the same content and the same owner (`edit_like_create`).
-/

namespace TableBooking

namespace Booking

/-- What a booking that is created of a form and one that is edited by it have in common, and
what each of them is made of. -/
structure MadeAlike (form : Form) (now : DateTime) (loaded created edited : Booking) :
    Prop where
  sameContent : ∀ field : Form.Field, edited.get (.content field) = created.get (.content field)
  sameOwner : edited.customerId = created.customerId
  createdForm : toForm? (some created) = some form
  editedForm : toForm? (some edited) = some form
  ofForm : ofForm? (some form) loaded.customerId = some { created with createdAt := none }
  createdAt : created.createdAt = some now.stamp
  filled : fill? (some loaded) (some form) = some { edited with updatedAt := loaded.updatedAt }
  updatedAt : edited.updatedAt = some now.stamp

end Booking

namespace Workflow

section Editing

variable {rules : Rules} {booking : Booking} {form : Form} {now : DateTime}

theorem run_applyUpdate_of_passed
    (isOpen : booking.status.isOpen = true)
    (passed : rules.checkForm form now = .ok ()) :
    (applyUpdate rules form booking.customerId now).run booking =
      (⟨.ok (), [.updated booking.id booking.customerId]⟩,
        { booking.withContent form with updatedAt := some now.stamp }) := by
  have accepted :
      (Request.update form booking.customerId now).verdict rules booking = .ok () :=
    (Request.verdict_eq_ok_iff ..).2 ⟨rfl, isOpen, passed⟩
  exact Request.run_revision_of_accepted accepted

theorem run_applyUpdate_of_failed
    {refusal : Refusal}
    (isOpen : booking.status.isOpen = true)
    (failed : rules.checkForm form now = .error refusal) :
    (applyUpdate rules form booking.customerId now).run booking =
      (⟨.error refusal, []⟩, booking) := by
  have refused :
      (Request.update form booking.customerId now).verdict rules booking = .error refusal :=
    (if_pos rfl).trans ((if_pos isOpen).trans failed)
  have untold : (Request.update form booking.customerId now).warnings booking = [] :=
    if_pos rfl
  have run := Request.run_revision_of_refused refused
  rw [untold] at run
  exact run

theorem answer_edit_eq_answer_create
    (isOpen : booking.status.isOpen = true) :
    (prepareCreate rules (some form) (some booking.customerId) now).answer =
      ((applyUpdate rules form booking.customerId now).run booking).1.answer := by
  cases passed : rules.checkForm form now with
  | ok _ =>
      rw [prepareCreate_of_passed booking.customerId passed,
        run_applyUpdate_of_passed isOpen passed]
      rfl
  | error refusal =>
      rw [prepareCreate_of_failed booking.customerId passed,
        run_applyUpdate_of_failed isOpen passed]
      rfl

theorem madeAlike_of_create
    {created : Booking}
    (isOpen : booking.status.isOpen = true)
    (isCreated :
      (prepareCreate rules (some form) (some booking.customerId) now).result = .ok created) :
    Booking.MadeAlike form now booking created
      ((applyUpdate rules form booking.customerId now).run booking).2 := by
  obtain ⟨content, owner, sameForm, sameOwner, passed, rfl⟩ :=
    (result_prepareCreate_eq_ok_iff ..).1 isCreated
  obtain rfl : form = content := Option.some.inj sameForm
  obtain rfl : booking.customerId = owner := Option.some.inj sameOwner
  rw [run_applyUpdate_of_passed isOpen passed]
  exact {
    sameContent := by
      intro field
      cases field <;> rfl
    sameOwner := rfl
    createdForm := rfl
    editedForm := rfl
    ofForm := rfl
    createdAt := rfl
    filled := rfl
    updatedAt := rfl }

end Editing

/-- The content that requests bring to a booking passed the check of one of them. -/
theorem exists_passed_of_toForm_ne
    {rules : Rules} {booking : Booking} {requests : List Request}
    (changed : (booking.afterAll rules requests).toForm ≠ booking.toForm) :
    ∃ request ∈ requests,
      rules.checkForm (booking.afterAll rules requests).toForm request.now = .ok () := by
  induction requests generalizing booking with
  | nil => exact absurd rfl changed
  | cons request rest inductionHypothesis =>
      rw [Booking.afterAll_cons] at changed ⊢
      by_cases sameLater :
          ((request.after rules booking).afterAll rules rest).toForm =
            (request.after rules booking).toForm
      · -- what is left is what the first request has written, so that is an edit
        rw [sameLater] at changed ⊢
        refine ⟨request, List.mem_cons_self, ?_⟩
        cases decided : request.verdict rules booking with
        | error refusal =>
            rw [Request.after_of_refused decided] at changed
            exact absurd rfl changed
        | ok _ =>
            rw [Request.after_of_accepted decided] at changed ⊢
            have passed := ((Request.verdict_eq_ok_iff rules booking request).1 decided).2.2
            cases request with
            | update form caller now => exact passed
            | cancel caller reason now => exact absurd rfl changed
      · obtain ⟨later, member, passed⟩ := inductionHypothesis sameLater
        exact ⟨later, List.mem_cons_of_mem request member, passed⟩

/-- Creating a booking and editing an open one are answered alike, and if both are done, the
bookings are made alike. So whatever is done to a booking, its content is the one it had before
or one that a booking could have been created with when it was written. -/
theorem edit_like_create
    {booking : Booking} {owner : Uuid} (rules : Rules) (form : Form) (now : DateTime)
    (owned : booking.customerId = owner)
    (isOpen : booking.status.isOpen = true) :
    (prepareCreate rules (some form) (some owner) now).answer =
        ((applyUpdate rules form owner now).run booking).1.answer ∧
      (∀ created, (prepareCreate rules (some form) (some owner) now).result = .ok created →
        Booking.MadeAlike form now booking created
          ((applyUpdate rules form owner now).run booking).2) ∧
      ∀ requests, (booking.afterAll rules requests).toForm ≠ booking.toForm →
        ∃ request ∈ requests, ∃ created,
          (prepareCreate rules (some (booking.afterAll rules requests).toForm) (some owner)
            request.now).result = .ok created := by
  subst owned
  refine ⟨answer_edit_eq_answer_create isOpen, ?_, ?_⟩
  · intro created isCreated
    exact madeAlike_of_create isOpen isCreated
  · intro requests changed
    obtain ⟨request, member, passed⟩ := exists_passed_of_toForm_ne changed
    have created := prepareCreate_of_passed booking.customerId passed
    exact ⟨request, member, _, congrArg Outcome.result created⟩

theorem edit_like_create_evening :
    (Sample.booking.customerId = Sample.owner ∧ Sample.booking.status.isOpen = true) ∧
    (prepareCreate .standard (some (Sample.form 101)) (some Sample.owner)
        (Sample.second 0)).answer =
      ((applyUpdate .standard (Sample.form 101) Sample.owner
        (Sample.second 0)).run Sample.booking).1.answer ∧
    Booking.MadeAlike (Sample.form 4) (Sample.second 0) Sample.booking
      (prepared (Sample.form 4) Sample.owner (Sample.second 0))
      ((applyUpdate .standard (Sample.form 4) Sample.owner
        (Sample.second 0)).run Sample.booking).2 := by
  have owned : Sample.booking.customerId = Sample.owner := rfl
  have isOpen : Sample.booking.status.isOpen = true := rfl
  have refusedAlike :=
    (edit_like_create .standard (Sample.form 101) (Sample.second 0) owned isOpen).1
  have madeAlike :=
    (edit_like_create .standard (Sample.form 4) (Sample.second 0) owned isOpen).2.1 _ rfl
  exact ⟨⟨owned, isOpen⟩, refusedAlike, madeAlike⟩

end Workflow

end TableBooking
