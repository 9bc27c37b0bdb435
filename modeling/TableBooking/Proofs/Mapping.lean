import TableBooking.Booking.Field
import TableBooking.Proofs.Log

/-!
# Content copied from forms to bookings and back

A booking is filled from a form field by field, and shown as a form. What was filled in is
shown, what is shown fills in nothing new, and of several forms that are filled in one after
another only the last one is left to see (`content_lens`). The eight fields that are not
content are never touched, and a new booking is a blank one that was filled in.

All of this comes down to single fields: the six that are copied there and back, and the eight
that are not.
-/

namespace TableBooking.Booking

/-- The booking after some forms were filled in one after another, where some may be missing. -/
def fillAll? (booking : Option Booking) (forms : List (Option Form)) : Option Booking :=
  forms.foldl fill? booking

/-- The last of the forms that are not missing. -/
def lastForm? (forms : List (Option Form)) : Option Form :=
  (forms.filterMap fun form => form).getLast?

/-! ## Missing forms -/

theorem fill?_none
    (booking : Option Booking) :
    fill? booking none = booking := by
  cases booking with
  | none => rfl
  | some booking => rfl

theorem fill?_some_fill?
    (booking : Option Booking) (early : Form) (late : Option Form) :
    fill? (fill? booking (some early)) late = fill? booking (some (late.getD early)) := by
  cases booking with
  | none => rfl
  | some booking =>
      cases late with
      | none => rfl
      | some late => exact congrArg some (withContent_withContent booking early late)

theorem lastForm?_none_cons
    (forms : List (Option Form)) :
    lastForm? (none :: forms) = lastForm? forms :=
  rfl

theorem lastForm?_some_cons
    (form : Form) (forms : List (Option Form)) :
    lastForm? (some form :: forms) = some ((lastForm? forms).getD form) :=
  List.getLast?_cons

/-- Only the last form counts. -/
theorem fillAll?_eq_fill?
    (booking : Option Booking) (forms : List (Option Form)) :
    fillAll? booking forms = fill? booking (lastForm? forms) := by
  induction forms generalizing booking with
  | nil => exact (fill?_none booking).symm
  | cons form rest inductionHypothesis =>
      rw [fillAll?, List.foldl_cons, ← fillAll?, inductionHypothesis]
      cases form with
      | none => rw [fill?_none, lastForm?_none_cons]
      | some form => rw [fill?_some_fill?, lastForm?_some_cons]

/-! ## Single fields -/

/-- Forms that are filled in one after another always leave a booking, with the content of the
last one and all else as it was. -/
theorem exists_filled
    (booking : Booking) (forms : List (Option Form)) :
    ∃ filled, fillAll? (some booking) forms = some filled ∧
      (∀ field, filled.get (.content field) =
        ((lastForm? forms).getD booking.toForm).get field) ∧
      ∀ field, field.isContent = false → filled.get field = booking.get field := by
  rw [fillAll?_eq_fill?]
  cases lastForm? forms with
  | none =>
      refine ⟨booking, rfl, ?_, fun _ _ => rfl⟩
      intro field
      exact (booking.get_toForm field).symm
  | some form =>
      refine ⟨booking.withContent form, rfl, booking.get_withContent form, ?_⟩
      intro field apart
      exact booking.get_withContent_of_not_content form apart

/-- A booking shows the form that was filled in last, and is as it was if it is filled with what
it shows, which is its content. Only the last of several forms is left to see, and the eight
other fields stay alone, however many forms are filled in. A new booking is a blank one after its
form was filled in. -/
theorem content_lens :
    (∀ booking form, toForm? (fill? (some booking) (some form)) = some form) ∧
    (∀ booking, fill? (some booking) (toForm? (some booking)) = some booking ∧
      ∀ field, booking.toForm.get field = booking.get (.content field)) ∧
    (∀ booking forms, fillAll? booking forms = fill? booking (lastForm? forms)) ∧
    (∀ booking forms, ∃ filled, fillAll? (some booking) forms = some filled ∧
      (∀ field, filled.get (.content field) =
        ((lastForm? forms).getD booking.toForm).get field) ∧
      ∀ field, field.isContent = false → filled.get field = booking.get field) ∧
    ∀ form customerId,
      ofForm? (some form) customerId = fill? (some (blank customerId)) (some form) ∧
        toForm? (ofForm? (some form) customerId) = some form := by
  refine ⟨?_, ?_, fillAll?_eq_fill?, exists_filled, ?_⟩
  · intro booking form
    exact congrArg some (toForm_withContent booking form)
  · intro booking
    exact ⟨congrArg some (withContent_toForm booking), get_toForm booking⟩
  · intro form customerId
    refine ⟨rfl, ?_⟩
    exact congrArg some (toForm_withContent (blank customerId) form)

example :
    fillAll? (ofForm? (some (Sample.form 4)) Sample.owner)
        [none, some (Sample.form 101), some (Sample.form 6), none] =
      ofForm? (some (Sample.form 6)) Sample.owner :=
  rfl

end TableBooking.Booking
