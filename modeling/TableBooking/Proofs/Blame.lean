import TableBooking.Booking.Field
import TableBooking.Proofs.Conditions
import TableBooking.Proofs.Log

/-!
# The field that a form is refused for

The check of a form is a row of checks of one field each, and it stops at the first field that
does not pass. So that field alone is at fault: any form with the same value in it is refused,
and once it has a value of an accepted form, only fields after it can still be refused
(`blame_is_local`). Repaired field by field, a form is accepted at last.
-/

namespace TableBooking

/-- The fields that are checked, in the order of the checks. -/
def Form.Field.checked : List Form.Field :=
  [bookingTime, guestCount, depositAmount, note]

namespace Rules

/-! ## Rows of checks -/

section Rows

variable {α : Type} {check other : α → Except Refusal Unit} {row : List α}

theorem forM_eq_ok_iff :
    row.forM check = .ok () ↔ ∀ item ∈ row, check item = .ok () := by
  induction row with
  | nil => exact iff_of_true rfl nofun
  | cons first rest inductionHypothesis =>
      change (check first >>= fun _ => rest.forM check) = .ok () ↔ _
      rw [andThen_eq_ok_iff, inductionHypothesis, List.forall_mem_cons]

/-- A row of checks is refused for the first item that does not pass. -/
theorem exists_of_forM_eq_error
    {refusal : Refusal}
    (refused : row.forM check = .error refusal) :
    ∃ before item after, row = before ++ item :: after ∧
      (∀ earlier ∈ before, check earlier = .ok ()) ∧ check item = .error refusal := by
  induction row with
  | nil => exact nomatch refused
  | cons first rest inductionHypothesis =>
      change (check first >>= fun _ => rest.forM check) = .error refusal at refused
      cases checked : check first with
      | error cause =>
          rw [checked] at refused
          obtain rfl := Except.error.inj refused
          exact ⟨[], first, rest, rfl, nofun, checked⟩
      | ok _ =>
          rw [checked] at refused
          obtain ⟨before, item, after, rfl, passed, itemRefused⟩ := inductionHypothesis refused
          refine ⟨first :: before, item, after, rfl, ?_, itemRefused⟩
          exact List.forall_mem_cons.2 ⟨checked, passed⟩

theorem forM_append_of_passed
    {before after : List α}
    (passed : ∀ earlier ∈ before, check earlier = .ok ()) :
    (before ++ after).forM check = after.forM check := by
  induction before with
  | nil => rfl
  | cons first rest inductionHypothesis =>
      obtain ⟨passedFirst, passedRest⟩ := List.forall_mem_cons.1 passed
      change (check first >>= fun _ => (rest ++ after).forM check) = _
      rw [passedFirst]
      exact inductionHypothesis passedRest

theorem forM_congr
    (same : ∀ item ∈ row, check item = other item) :
    row.forM check = row.forM other := by
  induction row with
  | nil => rfl
  | cons first rest inductionHypothesis =>
      obtain ⟨sameFirst, sameRest⟩ := List.forall_mem_cons.1 same
      change (check first >>= fun _ => rest.forM check) =
        (other first >>= fun _ => rest.forM other)
      rw [sameFirst, inductionHypothesis sameRest]

end Rows

/-! ## Single fields -/

/-- The check of one field of a form. -/
def checkField (rules : Rules) (form : Form) (now : DateTime) :
    Form.Field → Except Refusal Unit
  | .bookingTime => rules.checkTime form.bookingTime now
  | .guestCount => rules.checkGuests form.guestCount
  | .depositAmount => checkDeposit form.depositAmount
  | .note => checkText "note" maxNoteLength form.note
  | .restaurantId => .ok ()
  | .tableId => .ok ()

section Fields

variable {rules : Rules} {form other : Form} {now : DateTime} {field : Form.Field}
  {refusal : Refusal}

theorem checkForm_eq_forM
    (rules : Rules) (form : Form) (now : DateTime) :
    rules.checkForm form now = Form.Field.checked.forM (rules.checkField form now) := by
  have last :
      (checkText "note" maxNoteLength form.note >>= fun _ => pure ()) =
        checkText "note" maxNoteLength form.note := by
    cases checkText "note" maxNoteLength form.note with
    | ok _ => rfl
    | error _ => rfl
  rw [checkForm, ← last]
  rfl

theorem checkField_congr
    (same : form.get field = other.get field) :
    rules.checkField form now field = rules.checkField other now field := by
  cases field with
  | restaurantId => rfl
  | tableId => rfl
  | bookingTime => exact congrArg (rules.checkTime · now) same
  | guestCount => exact congrArg rules.checkGuests same
  | depositAmount => exact congrArg checkDeposit same
  | note => exact congrArg (checkText "note" maxNoteLength) same

theorem field?_of_enforces
    {check : Except Refusal Unit} {conditions : List Condition} {name : String}
    (enforces : Enforces check conditions)
    (named : ∀ condition ∈ conditions, condition.field = name)
    (refused : check = .error refusal) :
    refusal.report.field? = some name := by
  obtain ⟨condition, member, _, blames⟩ := enforces.exists_of_error refused
  rw [blames.field, named condition member]

theorem field?_of_checkField
    (refused : rules.checkField form now field = .error refusal) :
    refusal.report.field? = some field.name := by
  cases field with
  | restaurantId => cases refused
  | tableId => cases refused
  | bookingTime =>
      refine field?_of_enforces (rules.enforces_checkTime form.bookingTime now) ?_ refused
      simp only [timeConditions, List.forall_mem_cons]
      exact ⟨rfl, rfl, rfl, List.forall_mem_nil _⟩
  | guestCount =>
      exact field?_of_enforces (rules.enforces_checkGuests form.guestCount)
        (List.forall_mem_singleton.2 rfl) refused
  | depositAmount =>
      exact field?_of_enforces (enforces_checkDeposit form.depositAmount)
        (List.forall_mem_singleton.2 rfl) refused
  | note =>
      exact field?_of_enforces (enforces_checkText "note" maxNoteLength form.note)
        (List.forall_mem_singleton.2 rfl) refused

end Fields

/-! ## The field to blame -/

section Blame

variable {rules : Rules} {form other : Form} {now : DateTime} {refusal : Refusal}

theorem checkForm_eq_ok_iff_fields
    (rules : Rules) (form : Form) (now : DateTime) :
    rules.checkForm form now = .ok () ↔
      ∀ field ∈ Form.Field.checked, rules.checkField form now field = .ok () := by
  rw [checkForm_eq_forM, forM_eq_ok_iff]

theorem exists_field_of_error
    (refused : rules.checkForm form now = .error refusal) :
    ∃ before field after, Form.Field.checked = before ++ field :: after ∧
      (∀ earlier ∈ before, rules.checkField form now earlier = .ok ()) ∧
        rules.checkField form now field = .error refusal := by
  rw [checkForm_eq_forM] at refused
  exact exists_of_forM_eq_error refused

theorem checkForm_congr
    (same : ∀ field ∈ Form.Field.checked, other.get field = form.get field) :
    rules.checkForm other now = rules.checkForm form now := by
  rw [checkForm_eq_forM, checkForm_eq_forM]
  exact forM_congr fun field member => checkField_congr (same field member)

theorem exists_error_of_checkField
    {field : Form.Field}
    (member : field ∈ Form.Field.checked)
    (refused : rules.checkField form now field = .error refusal) :
    ∃ cause, rules.checkForm form now = .error cause := by
  cases checked : rules.checkForm form now with
  | error cause => exact ⟨cause, rfl⟩
  | ok _ =>
      have passed := (checkForm_eq_ok_iff_fields rules form now).1 checked field member
      exact absurd (refused.symm.trans passed) nofun

end Blame

/-! ## Repairs -/

section Repairs

variable {rules : Rules} {form donor : Form} {now : DateTime} {field : Form.Field}

/-- A repaired field passes, and the fields before it do so still. -/
theorem checkField_set
    {before : List Form.Field}
    (accepted : rules.checkForm donor now = .ok ())
    (member : field ∈ Form.Field.checked)
    (passed : ∀ earlier ∈ before, rules.checkField form now earlier = .ok ()) :
    ∀ earlier ∈ before ++ [field],
      rules.checkField (form.set field (donor.get field)) now earlier = .ok () := by
  intro earlier among
  by_cases repaired : earlier = field
  · rw [repaired, checkField_congr (Form.get_set_self form field (donor.get field))]
    exact (checkForm_eq_ok_iff_fields rules donor now).1 accepted field member
  · rw [checkField_congr (Form.get_set_of_ne form (donor.get field) repaired)]
    rcases List.mem_append.1 among with isBefore | isField
    · exact passed earlier isBefore
    · exact absurd (List.mem_singleton.1 isField) repaired

/-- If some fields in front pass, the form is refused only for one of the others. -/
theorem exists_later_of_error
    {before after : List Form.Field} {refusal : Refusal}
    (split : Form.Field.checked = before ++ after)
    (passed : ∀ earlier ∈ before, rules.checkField form now earlier = .ok ())
    (refused : rules.checkForm form now = .error refusal) :
    ∃ skipped later rest, after = skipped ++ later :: rest ∧
      (∀ earlier ∈ skipped, rules.checkField form now earlier = .ok ()) ∧
        rules.checkField form now later = .error refusal := by
  rw [checkForm_eq_forM, split, forM_append_of_passed passed] at refused
  exact exists_of_forM_eq_error refused

/-- The field that the report on a form names. -/
def blamed? (rules : Rules) (form : Form) (now : DateTime) : Option Form.Field :=
  match rules.checkForm form now with
  | .ok _ => none
  | .error refusal => refusal.report.field?.bind Form.Field.ofName?

/-- The form with the value of another form in the field that it is refused for. -/
def repair (rules : Rules) (now : DateTime) (form donor : Form) : Form :=
  match rules.blamed? form now with
  | none => form
  | some field => form.set field (donor.get field)

theorem repair_of_passed
    (donor : Form)
    (passed : rules.checkForm form now = .ok ()) :
    rules.repair now form donor = form := by
  rw [repair, blamed?, passed]

theorem repair_of_error
    {refusal : Refusal}
    (donor : Form)
    (refused : rules.checkForm form now = .error refusal)
    (fieldRefused : rules.checkField form now field = .error refusal) :
    rules.repair now form donor = form.set field (donor.get field) := by
  rw [repair, blamed?, refused]
  simp only [field?_of_checkField fieldRefused, Option.bind_some, Form.Field.ofName?_name]

/-- A repair leaves at least one field less that the form can be refused for. -/
theorem exists_split_of_repair
    {before after : List Form.Field}
    (accepted : rules.checkForm donor now = .ok ())
    (split : Form.Field.checked = before ++ after)
    (passed : ∀ earlier ∈ before, rules.checkField form now earlier = .ok ()) :
    ∃ front back, Form.Field.checked = front ++ back ∧ back.length ≤ after.length - 1 ∧
      ∀ earlier ∈ front,
        rules.checkField (rules.repair now form donor) now earlier = .ok () := by
  cases checked : rules.checkForm form now with
  | ok _ =>
      refine ⟨Form.Field.checked, [], (List.append_nil _).symm, Nat.zero_le _, ?_⟩
      rw [repair_of_passed donor checked]
      exact (checkForm_eq_ok_iff_fields rules form now).1 checked
  | error refusal =>
      obtain ⟨skipped, later, rest, rfl, skippedPassed, laterRefused⟩ :=
        exists_later_of_error split passed checked
      have member : later ∈ Form.Field.checked := by
        rw [split]
        exact List.mem_append_right before List.mem_append_cons_self
      -- what is passed now are the fields up to the one that is repaired
      refine ⟨(before ++ skipped) ++ [later], rest, ?_, ?_, ?_⟩
      · rw [split, List.append_assoc, List.append_assoc, List.singleton_append]
      · rw [List.length_append, List.length_cons]
        omega
      · rw [repair_of_error donor checked laterRefused]
        refine checkField_set accepted member ?_
        intro earlier among
        exact (List.mem_append.1 among).elim (passed earlier) (skippedPassed earlier)

theorem checkForm_foldl_repair
    {donors : List Form} {before after : List Form.Field}
    (accepted : ∀ donor ∈ donors, rules.checkForm donor now = .ok ())
    (split : Form.Field.checked = before ++ after)
    (passed : ∀ earlier ∈ before, rules.checkField form now earlier = .ok ())
    (enough : after.length ≤ donors.length) :
    rules.checkForm (donors.foldl (rules.repair now) form) now = .ok () := by
  induction donors generalizing form before after with
  | nil =>
      obtain rfl : after = [] := List.eq_nil_of_length_eq_zero (Nat.le_zero.1 enough)
      rw [List.append_nil] at split
      rw [← split] at passed
      exact (checkForm_eq_ok_iff_fields rules form now).2 passed
  | cons donor rest inductionHypothesis =>
      obtain ⟨donorAccepted, restAccepted⟩ := List.forall_mem_cons.1 accepted
      obtain ⟨front, back, newSplit, shorter, frontPassed⟩ :=
        exists_split_of_repair donorAccepted split passed
      rw [List.length_cons] at enough
      exact inductionHypothesis restAccepted newSplit frontPassed (by omega)

end Repairs

/-- Forms that differ only in the restaurant and the table get the same answer. A form that is
refused is so for one field, the one that the report names: any form with the same value in it
is refused, and with the value of an accepted form in it, the form is accepted or refused for a
later field. As many repairs of this kind as there are fields to check make any form accepted,
whichever accepted forms the values are of. -/
theorem blame_is_local
    (rules : Rules) (form : Form) (now : DateTime) :
    (∀ other, (∀ field, field ≠ .restaurantId → field ≠ .tableId →
        other.get field = form.get field) →
      rules.checkForm other now = rules.checkForm form now) ∧
    (∀ refusal, rules.checkForm form now = .error refusal →
      ∃ before field after, Form.Field.checked = before ++ field :: after ∧
        refusal.report.field? = some field.name ∧
        (∀ other, other.get field = form.get field →
          ∃ cause, rules.checkForm other now = .error cause) ∧
        ∀ donor, rules.checkForm donor now = .ok () →
          rules.checkForm (form.set field (donor.get field)) now = .ok () ∨
            ∃ later ∈ after, ∃ cause,
              rules.checkForm (form.set field (donor.get field)) now = .error cause ∧
                cause.report.field? = some later.name) ∧
    ∀ donors : List Form, (∀ donor ∈ donors, rules.checkForm donor now = .ok ()) →
      Form.Field.checked.length ≤ donors.length →
        rules.checkForm (donors.foldl (rules.repair now) form) now = .ok () := by
  refine ⟨?_, ?_, ?_⟩
  · intro other same
    apply checkForm_congr
    intro field member
    refine same field ?_ ?_
    · rintro rfl
      exact absurd member (by decide)
    · rintro rfl
      exact absurd member (by decide)
  · intro refusal refused
    obtain ⟨before, field, after, split, passed, fieldRefused⟩ := exists_field_of_error refused
    have member : field ∈ Form.Field.checked := by
      rw [split]
      exact List.mem_append_cons_self
    refine ⟨before, field, after, split, field?_of_checkField fieldRefused, ?_, ?_⟩
    · intro other same
      exact exists_error_of_checkField member ((checkField_congr same).trans fieldRefused)
    · intro donor accepted
      cases checked : rules.checkForm (form.set field (donor.get field)) now with
      | ok _ => exact .inl rfl
      | error cause =>
          rw [List.append_cons] at split
          obtain ⟨skipped, later, rest, rfl, _, laterRefused⟩ :=
            exists_later_of_error split (checkField_set accepted member passed) checked
          exact .inr ⟨later, List.mem_append_cons_self, cause, rfl,
            field?_of_checkField laterRefused⟩
  · intro donors accepted enough
    exact checkForm_foldl_repair accepted (List.nil_append _).symm nofun enough

end Rules

namespace Sample

/-- A table for four, with a deposit, at the last moment of the calendar. -/
def acceptedForm : Form :=
  { form 4 with bookingTime := .last }

end Sample

theorem Rules.blame_is_local_lastForm :
    (∃ refusal, Sample.endlessRules.checkForm Sample.lastForm .epoch = .error refusal ∧
      refusal.report.field? = some Form.Field.guestCount.name) ∧
    Sample.endlessRules.checkForm Sample.acceptedForm .epoch = .ok () ∧
    Sample.endlessRules.checkForm
      ((List.replicate 4 Sample.acceptedForm).foldl (Sample.endlessRules.repair .epoch)
        Sample.lastForm) .epoch = .ok () := by
  have accepted : Sample.endlessRules.checkForm Sample.acceptedForm .epoch = .ok () := rfl
  refine ⟨⟨_, rfl, rfl⟩, accepted, ?_⟩
  refine (Rules.blame_is_local Sample.endlessRules Sample.lastForm .epoch).2.2 _ ?_ ?_
  · intro donor member
    rw [List.eq_of_mem_replicate member]
    exact accepted
  · exact Nat.le_refl 4

/-- The guests are repaired first, and then the deposit. -/
example :
    Sample.endlessRules.blamed? Sample.lastForm .epoch = some .guestCount ∧
      Sample.endlessRules.blamed?
        (Sample.endlessRules.repair .epoch Sample.lastForm Sample.acceptedForm) .epoch =
          some .depositAmount :=
  ⟨rfl, rfl⟩

end TableBooking
