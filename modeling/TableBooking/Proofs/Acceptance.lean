import TableBooking.Workflow.Basic

/-!
# What an accepted form meets

A form passes its check if and only if it passes each of the checks in it
(`checkForm_eq_ok_iff`), and each of these says what it is for. A booking that is prepared
is made of a form that passed (`result_prepareCreate_eq_ok_iff`).
-/

namespace TableBooking

/-! ## Deposits -/

namespace Decimal

theorem isNegative_eq_false_iff_signedMantissa
    (d : Decimal) :
    d.isNegative = false ↔ 0 ≤ d.signedMantissa := by
  rw [isNegative, signedMantissa]
  cases d.negative with
  | false => simp
  | true => simp

theorem isNegative_eq_false_iff
    (d : Decimal) :
    d.isNegative = false ↔ 0 ≤ d.units := by
  have base : (0 : Int) < (Nat.pow 10 (28 - d.scale) : Nat) :=
    Int.natCast_pos.2 (Nat.pow_pos (by decide))
  rw [isNegative_eq_false_iff_signedMantissa]
  constructor
  · intro nonneg
    exact Int.mul_nonneg nonneg (Int.le_of_lt base)
  · intro nonneg
    exact Int.nonneg_of_mul_nonneg_left nonneg base

end Decimal

namespace Rules

/-! ## Forms -/

theorem andThen_eq_ok_iff
    (first second : Except Refusal Unit) :
    (first >>= fun _ => second) = .ok () ↔ first = .ok () ∧ second = .ok () := by
  cases first with
  | error refusal => simp [bind, Except.bind]
  | ok _ => simp [bind, Except.bind]

theorem checkForm_eq_ok_iff
    (rules : Rules) (form : Form) (now : DateTime) :
    rules.checkForm form now = .ok () ↔
      rules.checkTime form.bookingTime now = .ok () ∧
        rules.checkGuests form.guestCount = .ok () ∧
          checkDeposit form.depositAmount = .ok () ∧
            checkText "note" maxNoteLength form.note = .ok () := by
  rw [checkForm, andThen_eq_ok_iff, andThen_eq_ok_iff, andThen_eq_ok_iff]

theorem checkTime_eq_ok_iff
    (rules : Rules) (time now : DateTime) :
    rules.checkTime time now = .ok () ↔
      now ≤ time ∧ now.plus rules.minLead ≤ time ∧ time ≤ now.plus rules.maxAdvance := by
  change _ ↔ ¬ time < now ∧ ¬ time < now.plus rules.minLead ∧
    ¬ now.plus rules.maxAdvance < time
  by_cases past : time < now
  · simp [checkTime, past]
  · by_cases soon : time < now.plus rules.minLead
    · simp [checkTime, past, soon]
    · by_cases far : now.plus rules.maxAdvance < time
      · simp [checkTime, past, soon, far]
      · simp [checkTime, past, soon, far]

theorem checkGuests_eq_ok_iff
    (rules : Rules) (guests : Int32) :
    rules.checkGuests guests = .ok () ↔
      rules.minGuests ≤ guests ∧ guests ≤ rules.maxGuests := by
  by_cases inRange : rules.minGuests ≤ guests ∧ guests ≤ rules.maxGuests
  · rw [checkGuests, if_pos inRange]
    exact iff_of_true rfl inRange
  · rw [checkGuests, if_neg inRange]
    exact iff_of_false nofun inRange

theorem checkDeposit_eq_ok_iff
    (deposit : Decimal) :
    checkDeposit deposit = .ok () ↔ 0 ≤ deposit.units := by
  rw [← Decimal.isNegative_eq_false_iff, checkDeposit]
  cases deposit.isNegative with
  | false => simp
  | true => simp

theorem checkText_eq_ok_iff
    (field : String) (limit : Nat) (text : Option String) :
    checkText field limit text = .ok () ↔ ∀ held ∈ text, held.length ≤ limit := by
  cases text with
  | none => simp [checkText]
  | some held =>
      by_cases long : limit < held.length
      · simp [checkText, long]
      · simpa [checkText, long] using Nat.not_lt.1 long

end Rules

/-! ## Creation -/

namespace Workflow

def prepared (form : Form) (owner : Uuid) (now : DateTime) : Booking :=
  { Booking.ofForm form owner with status := .pending, createdAt := some now.stamp }

theorem prepareCreate_some
    (rules : Rules) (form : Form) (owner : Uuid) (now : DateTime) :
    prepareCreate rules (some form) (some owner) now = do
      Outcome.ofExcept (rules.checkForm form now)
      Outcome.tell (.prepared (prepared form owner now))
      return prepared form owner now :=
  rfl

theorem prepareCreate_of_passed
    {rules : Rules} {form : Form} {now : DateTime} (owner : Uuid)
    (passed : rules.checkForm form now = .ok ()) :
    prepareCreate rules (some form) (some owner) now =
      ⟨.ok (prepared form owner now), [.prepared (prepared form owner now)]⟩ := by
  rw [prepareCreate_some, passed]
  rfl

theorem prepareCreate_of_failed
    {rules : Rules} {form : Form} {now : DateTime} {refusal : Refusal} (owner : Uuid)
    (failed : rules.checkForm form now = .error refusal) :
    prepareCreate rules (some form) (some owner) now = ⟨.error refusal, []⟩ := by
  rw [prepareCreate_some, failed]
  rfl

theorem result_prepareCreate_eq_ok_iff
    (rules : Rules) (form : Option Form) (customerId : Option Uuid) (now : DateTime)
    (booking : Booking) :
    (prepareCreate rules form customerId now).result = .ok booking ↔
      ∃ content owner,
        form = some content ∧ customerId = some owner ∧
          rules.checkForm content now = .ok () ∧ booking = prepared content owner now := by
  cases form with
  | none => exact iff_of_false nofun fun ⟨_, _, missing, _⟩ => nomatch missing
  | some content =>
      cases customerId with
      | none => exact iff_of_false nofun fun ⟨_, _, _, missing, _⟩ => nomatch missing
      | some owner =>
          cases passed : rules.checkForm content now with
          | ok _ => simp [prepareCreate_of_passed owner passed, passed, eq_comm]
          | error refusal => simp [prepareCreate_of_failed owner passed, passed]

end Workflow

end TableBooking
