import Mathlib.Data.List.Forall2
import TableBooking.Proofs.Conditions
import TableBooking.Proofs.Mapping

/-!
# Values that agree

Forms and bookings agree if their deposits are the same number and all their other fields are
equal. No operation tells such values apart: what they are made into agrees, callers are answered
the same, the log says the same, and the bookings that are left agree again
(`alike_of_agrees`). So it never matters with how many zeros a deposit is written.
-/

namespace TableBooking

/-! ## Deposits -/

namespace Decimal

theorem pow_ten_ne_zero
    (n : Nat) :
    Nat.pow 10 n ≠ 0 :=
  Nat.ne_of_gt (Nat.pow_pos (by decide))

theorem units_mul
    (d : Decimal) :
    d.units * (Nat.pow 10 d.scale : Nat) = d.signedMantissa * (Nat.pow 10 28 : Nat) := by
  have whole : Nat.pow 10 (28 - d.scale) * Nat.pow 10 d.scale = Nat.pow 10 28 :=
    Nat.pow_sub_mul_pow 10 d.scale_le
  rw [units, Int.mul_assoc, ← Int.natCast_mul, whole]

/-- Amounts are the same number if they are equal as fractions. -/
theorem sameNumber_iff
    (a b : Decimal) :
    a.SameNumber b ↔ a.toRat = b.toRat := by
  have nonzero : ∀ n : Nat, ((Nat.pow 10 n : Nat) : Int) ≠ 0 :=
    fun n => Int.natCast_ne_zero.2 (pow_ten_ne_zero n)
  rw [toRat, toRat, Rat.mkRat_eq_iff (pow_ten_ne_zero a.scale) (pow_ten_ne_zero b.scale)]
  calc
    a.SameNumber b ↔
        a.units * (Nat.pow 10 a.scale : Nat) * (Nat.pow 10 b.scale : Nat) =
          b.units * (Nat.pow 10 a.scale : Nat) * (Nat.pow 10 b.scale : Nat) := by
      rw [Int.mul_eq_mul_right_iff (nonzero b.scale), Int.mul_eq_mul_right_iff (nonzero a.scale)]
      exact Iff.rfl
    _ ↔ a.signedMantissa * (Nat.pow 10 b.scale : Nat) * (Nat.pow 10 28 : Nat) =
          b.signedMantissa * (Nat.pow 10 a.scale : Nat) * (Nat.pow 10 28 : Nat) := by
      rw [units_mul a, Int.mul_right_comm b.units, units_mul b,
        Int.mul_right_comm a.signedMantissa, Int.mul_right_comm b.signedMantissa]
    _ ↔ a.signedMantissa * (Nat.pow 10 b.scale : Nat) =
          b.signedMantissa * (Nat.pow 10 a.scale : Nat) :=
      Int.mul_eq_mul_right_iff (nonzero 28)

theorem isPositive_iff
    (d : Decimal) :
    d.isPositive = true ↔ 0 < d.units := by
  have base : (0 : Int) < (Nat.pow 10 (28 - d.scale) : Nat) :=
    Int.natCast_pos.2 (Nat.pow_pos (by decide))
  have positive : d.isPositive = true ↔ 0 < d.signedMantissa := by
    rw [isPositive, signedMantissa]
    cases d.negative with
    | false => simp [Nat.pos_iff_ne_zero]
    | true => simp
  rw [positive]
  constructor
  · intro mantissa
    exact Int.mul_pos mantissa base
  · intro product
    exact Int.pos_of_mul_pos_left product base

section SameNumber

variable {a b : Decimal} (same : a.SameNumber b)

include same

theorem isNegative_of_sameNumber :
    a.isNegative = b.isNegative := by
  have signs : a.isNegative = false ↔ b.isNegative = false := by
    rw [isNegative_eq_false_iff, isNegative_eq_false_iff, same]
  rw [Bool.eq_iff_iff, ← Bool.not_eq_false, ← Bool.not_eq_false, signs]

theorem isPositive_of_sameNumber :
    a.isPositive = b.isPositive := by
  rw [Bool.eq_iff_iff, isPositive_iff, isPositive_iff, same]

end SameNumber

end Decimal

/-! ## Agreement -/

namespace Form

theorem agrees_equivalence : Equivalence Agrees where
  refl form := ⟨rfl, rfl, rfl, rfl, rfl, rfl⟩
  symm := by
    rintro a b ⟨restaurant, table, guests, time, deposit, note⟩
    exact ⟨restaurant.symm, table.symm, guests.symm, time.symm, Eq.symm deposit, note.symm⟩
  trans := by
    rintro a b c ⟨restaurant, table, guests, time, deposit, note⟩
      ⟨restaurant', table', guests', time', deposit', note'⟩
    exact ⟨restaurant.trans restaurant', table.trans table', guests.trans guests',
      time.trans time', Eq.trans deposit deposit', note.trans note'⟩

theorem agrees_iff
    (a b : Form) :
    a.Agrees b ↔
      a.depositAmount.toRat = b.depositAmount.toRat ∧
        ∀ field, field ≠ .depositAmount → a.get field = b.get field := by
  rw [← Decimal.sameNumber_iff]
  constructor
  · rintro ⟨restaurant, table, guests, time, deposit, note⟩
    refine ⟨deposit, ?_⟩
    intro field apart
    cases field with
    | restaurantId => exact restaurant
    | tableId => exact table
    | guestCount => exact guests
    | bookingTime => exact time
    | depositAmount => exact absurd rfl apart
    | note => exact note
  · rintro ⟨deposit, others⟩
    exact ⟨others .restaurantId nofun, others .tableId nofun, others .guestCount nofun,
      others .bookingTime nofun, deposit, others .note nofun⟩

end Form

namespace Booking

/-- Bookings agree if one of them is the other with an agreeing content. -/
theorem agrees_iff_exists
    (a b : Booking) :
    a.Agrees b ↔ ∃ form, a.toForm.Agrees form ∧ b = a.withContent form := by
  constructor
  · rintro ⟨id, customer, restaurant, table, guests, time, deposit, note, status, created, updated,
      cancelled, reason, by'⟩
    refine ⟨b.toForm, ⟨restaurant, table, guests, time, deposit, note⟩, ?_⟩
    exact Booking.ext id.symm customer.symm rfl rfl rfl rfl rfl rfl status.symm created.symm
      updated.symm cancelled.symm reason.symm by'.symm
  · rintro ⟨form, ⟨restaurant, table, guests, time, deposit, note⟩, rfl⟩
    exact ⟨rfl, rfl, restaurant, table, guests, time, deposit, note, rfl, rfl, rfl, rfl, rfl, rfl⟩

theorem agrees_equivalence : Equivalence Agrees where
  refl booking := (agrees_iff_exists ..).2
    ⟨booking.toForm, Form.agrees_equivalence.refl booking.toForm,
      (withContent_toForm booking).symm⟩
  symm := by
    intro a b same
    obtain ⟨form, content, rfl⟩ := (agrees_iff_exists a b).1 same
    refine (agrees_iff_exists ..).2 ⟨a.toForm, ?_, ?_⟩
    · rw [toForm_withContent]
      exact Form.agrees_equivalence.symm content
    · rw [withContent_withContent, withContent_toForm]
  trans := by
    intro a b c first second
    obtain ⟨middle, content, rfl⟩ := (agrees_iff_exists a b).1 first
    obtain ⟨form, contentLater, rfl⟩ := (agrees_iff_exists _ c).1 second
    rw [toForm_withContent] at contentLater
    refine (agrees_iff_exists ..).2
      ⟨form, Form.agrees_equivalence.trans content contentLater, ?_⟩
    rw [withContent_withContent]

theorem agrees_iff
    (a b : Booking) :
    a.Agrees b ↔
      a.depositAmount.toRat = b.depositAmount.toRat ∧
        ∀ field, field ≠ .content .depositAmount → a.get field = b.get field := by
  constructor
  · intro same
    obtain ⟨form, content, rfl⟩ := (agrees_iff_exists a b).1 same
    obtain ⟨deposit, others⟩ := (Form.agrees_iff a.toForm form).1 content
    refine ⟨deposit, ?_⟩
    intro field apart
    cases field with
    | content field =>
        rw [get_withContent, ← get_toForm]
        exact others field fun isDeposit => apart (congrArg Field.content isDeposit)
    | _ => rfl
  · rintro ⟨deposit, others⟩
    exact ⟨others .id nofun, others .customerId nofun, others (.content .restaurantId) nofun,
      others (.content .tableId) nofun, others (.content .guestCount) nofun,
      others (.content .bookingTime) nofun, (Decimal.sameNumber_iff ..).2 deposit,
      others (.content .note) nofun, others .status nofun, others .createdAt nofun,
      others .updatedAt nofun, others .cancelledAt nofun, others .cancelReason nofun,
      others .cancelledBy nofun⟩

/-- Do the bookings answer all questions about a booking alike? -/
structure AnswersLike (a b : Booking) : Prop where
  hasDeposit : a.hasDeposit = b.hasDeposit
  canBeEdited : a.canBeEdited = b.canBeEdited
  canBeCancelled : a.canBeCancelled = b.canBeCancelled
  isOwnedBy : ∀ caller, a.isOwnedBy caller = b.isOwnedBy caller

/-! ## Copied content -/

section Copies

variable {a b : Booking} {f g : Form}

theorem answersLike_of_agrees
    (same : a.Agrees b) :
    a.AnswersLike b := by
  obtain ⟨form, content, rfl⟩ := (agrees_iff_exists a b).1 same
  obtain ⟨_, _, _, _, deposit, _⟩ := content
  exact ⟨Decimal.isPositive_of_sameNumber deposit, rfl, rfl, fun _ => rfl⟩

theorem withContent_agrees
    (same : a.Agrees b) (forms : f.Agrees g) :
    (a.withContent f).Agrees (b.withContent g) := by
  obtain ⟨form, _, rfl⟩ := (agrees_iff_exists a b).1 same
  exact (agrees_iff_exists ..).2 ⟨g, forms, rfl⟩

theorem toForm_agrees
    (same : a.Agrees b) :
    a.toForm.Agrees b.toForm := by
  obtain ⟨form, content, rfl⟩ := (agrees_iff_exists a b).1 same
  exact content

theorem ofForm_agrees
    (forms : f.Agrees g) (customerId : Uuid) :
    (ofForm f customerId).Agrees (ofForm g customerId) :=
  withContent_agrees (agrees_equivalence.refl (blank customerId)) forms

end Copies

section OptionalCopies

variable {a b : Option Booking} {f g : Option Form}

theorem ofForm?_agrees
    (forms : Option.Rel Form.Agrees f g) (customerId : Uuid) :
    Option.Rel Agrees (ofForm? f customerId) (ofForm? g customerId) := by
  cases forms with
  | none => exact .none
  | some forms => exact .some (ofForm_agrees forms customerId)

theorem toForm?_agrees
    (same : Option.Rel Agrees a b) :
    Option.Rel Form.Agrees (toForm? a) (toForm? b) := by
  cases same with
  | none => exact .none
  | some same => exact .some (toForm_agrees same)

theorem fill?_agrees
    (same : Option.Rel Agrees a b) (forms : Option.Rel Form.Agrees f g) :
    Option.Rel Agrees (fill? a f) (fill? b g) := by
  cases same with
  | none => cases forms <;> exact .none
  | some same =>
      cases forms with
      | none => exact .some same
      | some forms => exact .some (withContent_agrees same forms)

end OptionalCopies

end Booking

/-! ## Checks -/

theorem Rules.checkForm_of_agrees
    (rules : Rules) {f g : Form} (forms : f.Agrees g) (now : DateTime) :
    rules.checkForm f now = rules.checkForm g now := by
  obtain ⟨_, _, guests, time, deposit, note⟩ := forms
  rw [checkForm, checkForm, guests, time, note, checkDeposit, checkDeposit,
    Decimal.isNegative_of_sameNumber deposit]

/-! ## Outcomes -/

/-- Do the outcomes give the caller the same answer and the log the same entries, and are their
results related? -/
structure Outcome.Alike {α : Type} (related : α → α → Prop) (first second : Outcome α) :
    Prop where
  answer : first.answer = second.answer
  entries : first.events.map AuditEvent.entry = second.events.map AuditEvent.entry
  result : ∀ left right, first.result = .ok left → second.result = .ok right → related left right

namespace Outcome

variable {α : Type} {related : α → α → Prop} {events otherEvents : List AuditEvent}

theorem alike_of_ok
    {left right : α}
    (results : related left right)
    (entries : events.map AuditEvent.entry = otherEvents.map AuditEvent.entry) :
    Alike related ⟨.ok left, events⟩ ⟨.ok right, otherEvents⟩ where
  answer := rfl
  entries := entries
  result := by
    rintro _ _ ⟨⟩ ⟨⟩
    exact results

theorem alike_of_error
    (refusal : Refusal) (events : List AuditEvent) :
    Alike related ⟨.error refusal, events⟩ ⟨.error refusal, events⟩ where
  answer := rfl
  entries := rfl
  result := nofun

end Outcome

namespace Workflow

theorem prepared_agrees
    {f g : Form} (forms : f.Agrees g) (owner : Uuid) (now : DateTime) :
    (prepared f owner now).Agrees (prepared g owner now) :=
  (Booking.agrees_iff_exists ..).2 ⟨g, forms, rfl⟩

theorem entry_prepared
    {f g : Form} (forms : f.Agrees g) (owner : Uuid) (now : DateTime) :
    (AuditEvent.prepared (prepared f owner now)).entry =
      (AuditEvent.prepared (prepared g owner now)).entry := by
  obtain ⟨restaurant, _, guests, time, _, _⟩ := forms
  simp only [AuditEvent.entry, prepared, Booking.ofForm, Booking.withContent, restaurant, guests,
    time]

theorem prepareCreate_alike
    (rules : Rules) {f g : Option Form} (forms : Option.Rel Form.Agrees f g)
    (customerId : Option Uuid) (now : DateTime) :
    (prepareCreate rules f customerId now).Alike Booking.Agrees
      (prepareCreate rules g customerId now) := by
  cases forms with
  | none => exact Outcome.alike_of_error .formMissing []
  | @some f g forms =>
      cases customerId with
      | none => exact Outcome.alike_of_error .notAuthenticated []
      | some owner =>
          have sameCheck := rules.checkForm_of_agrees forms now
          cases checked : rules.checkForm g now with
          | ok _ =>
              rw [prepareCreate_of_passed owner (sameCheck.trans checked),
                prepareCreate_of_passed owner checked]
              refine Outcome.alike_of_ok (prepared_agrees forms owner now) ?_
              rw [List.map_singleton, List.map_singleton, entry_prepared forms]
          | error refusal =>
              rw [prepareCreate_of_failed owner (sameCheck.trans checked),
                prepareCreate_of_failed owner checked]
              exact Outcome.alike_of_error refusal []

end Workflow

/-! ## Requests -/

namespace Request

/-- Do the requests ask for the same, with forms that agree? -/
inductive Agrees : Request → Request → Prop
  | update {f g : Form} (caller : Uuid) (now : DateTime) :
      f.Agrees g → Agrees (update f caller now) (update g caller now)
  | cancel (caller : Uuid) (reason : Option String) (now : DateTime) :
      Agrees (cancel caller reason now) (cancel caller reason now)

section Pair

variable {a b : Booking} {request other : Request} (bookings : a.Agrees b)
  (requests : request.Agrees other)

include bookings requests

theorem verdict_of_agrees
    (rules : Rules) :
    request.verdict rules a = other.verdict rules b := by
  obtain ⟨form, _, rfl⟩ := (Booking.agrees_iff_exists a b).1 bookings
  cases requests with
  | update caller now forms =>
      rw [verdict, verdict, check, check, rules.checkForm_of_agrees forms now]
      rfl
  | cancel caller reason now => rfl

theorem applied_agrees :
    (request.applied a).Agrees (other.applied b) := by
  obtain ⟨form, content, rfl⟩ := (Booking.agrees_iff_exists a b).1 bookings
  cases requests with
  | update caller now forms => exact (Booking.agrees_iff_exists ..).2 ⟨_, forms, rfl⟩
  | cancel caller reason now => exact (Booking.agrees_iff_exists ..).2 ⟨form, content, rfl⟩

theorem events_of_agrees :
    request.event a = other.event b ∧ request.warnings a = other.warnings b := by
  obtain ⟨form, _, rfl⟩ := (Booking.agrees_iff_exists a b).1 bookings
  cases requests with
  | update caller now forms => exact ⟨rfl, rfl⟩
  | cancel caller reason now => exact ⟨rfl, rfl⟩

theorem outcome_alike
    (rules : Rules) :
    (request.outcome rules a).Alike Booking.Agrees (other.outcome rules b) := by
  have sameVerdict := verdict_of_agrees bookings requests rules
  obtain ⟨sameEvent, sameWarnings⟩ := events_of_agrees bookings requests
  cases decided : other.verdict rules b with
  | ok _ =>
      rw [outcome_of_accepted (sameVerdict.trans decided), outcome_of_accepted decided, sameEvent]
      exact Outcome.alike_of_ok (applied_agrees bookings requests) rfl
  | error refusal =>
      rw [outcome_of_refused (sameVerdict.trans decided), outcome_of_refused decided,
        sameWarnings]
      exact Outcome.alike_of_error refusal _

theorem after_agrees
    (rules : Rules) :
    (request.after rules a).Agrees (other.after rules b) := by
  have sameVerdict := verdict_of_agrees bookings requests rules
  cases decided : other.verdict rules b with
  | ok _ =>
      rw [after_of_accepted (sameVerdict.trans decided), after_of_accepted decided]
      exact applied_agrees bookings requests
  | error refusal =>
      rw [after_of_refused (sameVerdict.trans decided), after_of_refused decided]
      exact bookings

end Pair

end Request

namespace Booking

/-- Runs of agreeing requests on agreeing bookings look the same from one end to the other. -/
theorem run_alike
    (rules : Rules) {a b : Booking} {requests others : List Request}
    (bookings : a.Agrees b)
    (agree : List.Forall₂ Request.Agrees requests others) :
    (a.afterAll rules requests).Agrees (b.afterAll rules others) ∧
      List.Forall₂ (Outcome.Alike Agrees) (a.outcomes rules requests)
        (b.outcomes rules others) := by
  induction agree generalizing a b with
  | nil => exact ⟨bookings, .nil⟩
  | cons first _ inductionHypothesis =>
      obtain ⟨left, outcomes⟩ := inductionHypothesis (Request.after_agrees bookings first rules)
      exact ⟨left, .cons (Request.outcome_alike bookings first rules) outcomes⟩

end Booking

/-- Agreement is an equivalence that looks at the number of a deposit and at all other fields as
they are, and nothing that is done with agreeing forms and bookings tells them apart: not a new
booking, not a run of requests, not copied content and no question about a booking. -/
theorem alike_of_agrees :
    (Equivalence Form.Agrees ∧ Equivalence Booking.Agrees) ∧
    (∀ f g : Form, f.Agrees g ↔
      f.depositAmount.toRat = g.depositAmount.toRat ∧
        ∀ field, field ≠ .depositAmount → f.get field = g.get field) ∧
    (∀ a b : Booking, a.Agrees b ↔
      a.depositAmount.toRat = b.depositAmount.toRat ∧
        ∀ field, field ≠ .content .depositAmount → a.get field = b.get field) ∧
    (∀ rules f g customerId now, Option.Rel Form.Agrees f g →
      (Workflow.prepareCreate rules f customerId now).Alike Booking.Agrees
        (Workflow.prepareCreate rules g customerId now)) ∧
    (∀ rules (a b : Booking) (request other : Request), a.Agrees b → request.Agrees other →
      (request.outcome rules a).Alike Booking.Agrees (other.outcome rules b) ∧
        (request.after rules a).Agrees (other.after rules b)) ∧
    (∀ rules (a b : Booking) requests others, a.Agrees b →
      List.Forall₂ Request.Agrees requests others →
      (a.afterAll rules requests).Agrees (b.afterAll rules others) ∧
        List.Forall₂ (Outcome.Alike Booking.Agrees) (a.outcomes rules requests)
          (b.outcomes rules others)) ∧
    (∀ f g customerId, Option.Rel Form.Agrees f g →
      Option.Rel Booking.Agrees (Booking.ofForm? f customerId) (Booking.ofForm? g customerId)) ∧
    (∀ a b, Option.Rel Booking.Agrees a b →
      Option.Rel Form.Agrees (Booking.toForm? a) (Booking.toForm? b) ∧
        ∀ f g, Option.Rel Form.Agrees f g →
          Option.Rel Booking.Agrees (Booking.fill? a f) (Booking.fill? b g)) ∧
    ∀ a b : Booking, a.Agrees b → a.AnswersLike b := by
  refine ⟨⟨Form.agrees_equivalence, Booking.agrees_equivalence⟩, Form.agrees_iff,
    Booking.agrees_iff, ?_, ?_, ?_, ?_, ?_, ?_⟩
  · intro rules f g customerId now forms
    exact Workflow.prepareCreate_alike rules forms customerId now
  · intro rules a b request other bookings requests
    exact ⟨Request.outcome_alike bookings requests rules,
      Request.after_agrees bookings requests rules⟩
  · intro rules a b requests others bookings agree
    exact Booking.run_alike rules bookings agree
  · intro f g customerId forms
    exact Booking.ofForm?_agrees forms customerId
  · intro a b bookings
    refine ⟨Booking.toForm?_agrees bookings, ?_⟩
    intro f g forms
    exact Booking.fill?_agrees bookings forms
  · intro a b bookings
    exact Booking.answersLike_of_agrees bookings

/-- The form of an evening with its deposit written without decimals. -/
def Sample.roundForm (guests : Int32) : Form :=
  { form guests with depositAmount := ⟨false, 200, 0, by decide, Decimal.zero.scale_le⟩ }

theorem alike_of_agrees_evening :
    (Sample.form 4).Agrees (Sample.roundForm 4) ∧ Sample.form 4 ≠ Sample.roundForm 4 ∧
      (Workflow.prepareCreate .standard (some (Sample.form 4)) (some Sample.owner)
          (Sample.second 0)).Alike Booking.Agrees
        (Workflow.prepareCreate .standard (some (Sample.roundForm 4)) (some Sample.owner)
          (Sample.second 0)) := by
  obtain ⟨_, _, _, createdAlike, _⟩ := alike_of_agrees
  have same : (Sample.form 4).Agrees (Sample.roundForm 4) := by decide
  exact ⟨same, by decide, createdAlike _ _ _ _ _ (.some same)⟩

end TableBooking
