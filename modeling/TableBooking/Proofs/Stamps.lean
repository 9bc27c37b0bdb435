import TableBooking.Calendar.Timeline
import TableBooking.Proofs.Reachable

/-!
# Stamps

The stamp of a moment counts the milliseconds from the start of 1970, rounded down, at every
date of the calendar (`marks_stamp`). Outside leap seconds later moments have no earlier stamps
(`stamp_le_stamp`). So a booking whose requests come one after another, none of them inside a
leap second, is updated after it was created and cancelled after both, by its stamps as well
(`stamped_afterAll`).
-/

namespace TableBooking

/-! ## Stamps of moments -/

/-- Is the stamp the number of milliseconds from the start of 1970 to the moment, rounded
down? -/
def Marks (stamp : Int64) (moment : DateTime) : Prop :=
  stamp.toInt * 1_000_000 ≤ moment.nanoseconds ∧
    moment.nanoseconds < (stamp.toInt + 1) * 1_000_000

theorem toInt_stamp
    (t : DateTime) :
    t.stamp.toInt = t.milliseconds := by
  have fromStart := t.day_ge
  have toEnd := t.day_le
  have withinDay := t.second_lt
  have withinSeconds := t.nano_lt
  apply Int64.toInt_ofInt_of_le
  · simp only [DateTime.milliseconds, DateTime.nanoseconds]
    omega
  · simp only [DateTime.milliseconds, DateTime.nanoseconds]
    omega

theorem marks_stamp
    (t : DateTime) :
    Marks t.stamp t := by
  rw [Marks, toInt_stamp, DateTime.milliseconds]
  omega

theorem le_of_marks
    {early late : Int64} {a b : DateTime}
    (marksEarly : Marks early a) (marksLate : Marks late b)
    (order : a.nanoseconds ≤ b.nanoseconds) :
    early ≤ late := by
  obtain ⟨fromEarly, _⟩ := marksEarly
  obtain ⟨_, toLate⟩ := marksLate
  rw [Int64.le_iff_toInt_le]
  omega

theorem stamp_le_stamp
    {a b : DateTime}
    (ordinaryLeft : ¬ a.InLeapSecond) (ordinaryRight : ¬ b.InLeapSecond)
    (order : a ≤ b) :
    a.stamp ≤ b.stamp :=
  le_of_marks (marks_stamp a) (marks_stamp b)
    ((DateTime.le_iff_nanoseconds_le ordinaryLeft ordinaryRight).1 order)

theorem pairwise_stamp_le_stamp
    {moments : List DateTime}
    (ordinary : ∀ moment ∈ moments, ¬ moment.InLeapSecond)
    (ordered : moments.Pairwise (· ≤ ·)) :
    moments.Pairwise fun a b => a.stamp ≤ b.stamp := by
  apply ordered.imp_of_mem
  intro a b memberLeft memberRight order
  exact stamp_le_stamp (ordinary a memberLeft) (ordinary b memberRight) order

theorem rel_marks_map_stamp
    (moment : Option DateTime) :
    Option.Rel Marks (moment.map DateTime.stamp) moment := by
  cases moment with
  | none => exact .none
  | some moment => exact .some (marks_stamp moment)

/-! ## Times of requests -/

/-- When the request cancels the booking, if it asks for that. -/
def Request.cancelTime? : Request → Option DateTime
  | update _ _ _ => none
  | cancel _ _ now => some now

namespace Log

def editTimes (log : Log) : List DateTime :=
  log.edits.map Prod.snd

def cancelTime? (log : Log) : Option DateTime :=
  log.cancellation.map Prod.snd

variable (log : Log) (owner : Uuid)

theorem map_now_requests :
    (log.requests owner).map Request.now = log.editTimes ++ log.cancelTime?.toList := by
  rw [requests, List.map_append, List.map_map, editTimes, cancelTime?]
  cases log.cancellation with
  | none => rfl
  | some cancellation => rfl

theorem filterMap_editTime?_requests :
    (log.requests owner).filterMap Request.editTime? = log.editTimes := by
  have edits : Request.editTime? ∘ (fun edit : Form × DateTime => .update edit.1 owner edit.2) =
      some ∘ Prod.snd :=
    rfl
  rw [requests, List.filterMap_append, List.filterMap_map, edits, List.filterMap_eq_map, editTimes]
  cases log.cancellation with
  | none => exact List.append_nil _
  | some cancellation => exact List.append_nil _

theorem filterMap_cancelTime?_requests :
    (log.requests owner).filterMap Request.cancelTime? = log.cancelTime?.toList := by
  have noneFromEdits :
      (log.edits.map fun edit => Request.update edit.1 owner edit.2).filterMap
        Request.cancelTime? = [] := by
    rw [List.filterMap_eq_nil_iff]
    intro request member
    obtain ⟨edit, _, rfl⟩ := List.mem_map.1 member
    rfl
  rw [requests, List.filterMap_append, noneFromEdits, cancelTime?]
  cases log.cancellation with
  | none => rfl
  | some cancellation => rfl

variable (booking : Booking)

theorem updatedAt_replay :
    (log.replay booking).updatedAt =
      (log.editTimes.getLast?.map DateTime.stamp).or booking.updatedAt := by
  rw [replay, editTimes, List.getLast?_map]
  cases log.edits.getLast? with
  | none => rfl
  | some edit => rfl

theorem cancelledAt_replay :
    (log.replay booking).cancelledAt =
      (log.cancelTime?.map DateTime.stamp).or booking.cancelledAt := by
  rw [replay, cancelTime?]
  cases log.cancellation with
  | none => rfl
  | some cancellation => rfl

theorem status_replay :
    (log.replay booking).status = log.cancelTime?.elim booking.status fun _ => .cancelled := by
  rw [replay, cancelTime?]
  cases log.cancellation with
  | none => rfl
  | some cancellation => rfl

end Log

namespace Booking

theorem accepted_sublist
    (rules : Rules) (booking : Booking) (requests : List Request) :
    (booking.accepted rules requests).Sublist requests := by
  have all : (requests.zip (booking.outcomes rules requests)).map Prod.fst = requests :=
    List.map_fst_zip (Nat.le_of_eq (length_outcomes rules booking requests).symm)
  have kept : (booking.accepted rules requests).Sublist
      ((requests.zip (booking.outcomes rules requests)).map Prod.fst) :=
    List.filter_sublist.map Prod.fst
  rwa [all] at kept

/-- Do the stamps of a booking that was created at some moment mark that moment, the last of the
edits that were accepted, and the cancellation if there was one, and are they in order? -/
structure Stamped (created : DateTime) (accepted : List Request) (booking : Booking) : Prop where
  createdAt : ∃ made, booking.createdAt = some made ∧ Marks made created
  updatedAt : Option.Rel Marks booking.updatedAt
    (accepted.filterMap Request.editTime?).getLast?
  cancelledAt : Option.Rel Marks booking.cancelledAt
    (accepted.filterMap Request.cancelTime?).getLast?
  created_le_updated : ∀ made ∈ booking.createdAt, ∀ updated ∈ booking.updatedAt, made ≤ updated
  cancelled : booking.status = .cancelled →
    ∃ ended, booking.cancelledAt = some ended ∧
      (∀ made ∈ booking.createdAt, made ≤ ended) ∧ ∀ updated ∈ booking.updatedAt, updated ≤ ended

/-- The log of a new booking leaves its stamps in order if its entries are in order. -/
theorem stamped_replay
    (log : Log) (form : Form) (owner : Uuid) {created : DateTime}
    (ordered : (created :: log.editTimes ++ log.cancelTime?.toList).Pairwise
      fun a b => a.stamp ≤ b.stamp) :
    (log.replay (Workflow.prepared form owner created)).Stamped created (log.requests owner) := by
  obtain ⟨editsFirst, _, edit_le_cancel⟩ := List.pairwise_append.1 ordered
  obtain ⟨created_le_edit, _⟩ := List.pairwise_cons.1 editsFirst
  have updatedAt : (log.replay (Workflow.prepared form owner created)).updatedAt =
      log.editTimes.getLast?.map DateTime.stamp := by
    rw [log.updatedAt_replay]
    exact Option.or_none
  have cancelledAt : (log.replay (Workflow.prepared form owner created)).cancelledAt =
      log.cancelTime?.map DateTime.stamp := by
    rw [log.cancelledAt_replay]
    exact Option.or_none
  refine ⟨⟨created.stamp, rfl, marks_stamp created⟩, ?_, ?_, ?_, ?_⟩
  · rw [log.filterMap_editTime?_requests, updatedAt]
    exact rel_marks_map_stamp _
  · rw [log.filterMap_cancelTime?_requests, cancelledAt]
    cases log.cancelTime? with
    | none => exact .none
    | some moment => exact .some (marks_stamp moment)
  · intro made isMade updated isUpdated
    obtain rfl : created.stamp = made := Option.some.inj isMade
    rw [updatedAt] at isUpdated
    obtain ⟨moment, isLast, rfl⟩ := Option.map_eq_some_iff.1 isUpdated
    exact created_le_edit moment (List.mem_of_getLast? isLast)
  · intro isCancelled
    rw [log.status_replay] at isCancelled
    cases ending : log.cancelTime? with
    | none =>
        rw [ending] at isCancelled
        exact nomatch isCancelled
    | some moment =>
        have isEnd : moment ∈ log.cancelTime?.toList := Option.mem_toList.2 ending
        rw [ending] at cancelledAt
        refine ⟨moment.stamp, cancelledAt, ?_, ?_⟩
        · intro made isMade
          obtain rfl : created.stamp = made := Option.some.inj isMade
          exact edit_le_cancel created List.mem_cons_self moment isEnd
        · intro updated isUpdated
          rw [updatedAt] at isUpdated
          obtain ⟨edit, isLast, rfl⟩ := Option.map_eq_some_iff.1 isUpdated
          have isEdit := List.mem_cons_of_mem created (List.mem_of_getLast? isLast)
          exact edit_le_cancel edit isEdit moment isEnd

/-- At every point of a run of requests that come one after another, none of them inside a leap
second, the stamps of the booking are exact and in order. -/
theorem stamped_afterAll
    {rules : Rules} {form : Option Form} {customerId : Option Uuid} {created : DateTime}
    {booking : Booking} {requests : List Request}
    (isPrepared :
      (Workflow.prepareCreate rules form customerId created).result = .ok booking)
    (ordered : (created :: requests.map Request.now).Pairwise (· ≤ ·))
    (ordinary : ∀ moment ∈ created :: requests.map Request.now, ¬ moment.InLeapSecond) :
    ∀ early late, requests = early ++ late →
      (booking.afterAll rules early).Stamped created (booking.accepted rules early) := by
  rintro early late rfl
  obtain ⟨content, owner, _, _, _, rfl⟩ :=
    (Workflow.result_prepareCreate_eq_ok_iff ..).1 isPrepared
  obtain ⟨log, accepted, _, final⟩ :=
    exists_log rules (Workflow.prepared content owner created) early
  have inTime := (accepted_sublist rules (Workflow.prepared content owner created) early).trans
    (List.sublist_append_left early late)
  rw [accepted] at inTime
  have acceptedTimes := (inTime.map Request.now).cons_cons created
  rw [log.map_now_requests] at acceptedTimes
  rw [accepted, final]
  apply stamped_replay
  exact (pairwise_stamp_le_stamp ordinary ordered).sublist acceptedTimes

end Booking

/-! ## The last second before 1970 -/

namespace Sample

def newYearsEve (nano : Fin 1_000_000_000) : DateTime where
  day := -1
  second := 86399
  nano := nano
  day_ge := by decide
  day_le := by decide
  second_lt := DateTime.last.second_lt
  nano_lt := by omega
  leap_last := fun _ => rfl

def newYearsForm : Form :=
  { form 4 with
    bookingTime := { DateTime.epoch with
      second := 70200
      second_lt := by decide
      leap_last := nofun } }

/-- An edit half a millisecond before 1970, one by a stranger, and the cancellation. -/
def newYearsRequests : List Request :=
  [.update newYearsForm owner (newYearsEve 999_500_000),
    .update newYearsForm stranger (newYearsEve 999_600_000),
    .cancel owner none (newYearsEve 999_999_999)]

end Sample

namespace Booking

theorem stamped_afterAll_newYear :
    (Workflow.prepareCreate .standard (some Sample.newYearsForm) (some Sample.owner)
        (Sample.newYearsEve 0)).result =
        .ok (Workflow.prepared Sample.newYearsForm Sample.owner (Sample.newYearsEve 0)) ∧
      ((Workflow.prepared Sample.newYearsForm Sample.owner (Sample.newYearsEve 0)).afterAll
          .standard Sample.newYearsRequests).Stamped (Sample.newYearsEve 0)
        ((Workflow.prepared Sample.newYearsForm Sample.owner (Sample.newYearsEve 0)).accepted
          .standard Sample.newYearsRequests) := by
  have isPrepared :
      (Workflow.prepareCreate .standard (some Sample.newYearsForm) (some Sample.owner)
        (Sample.newYearsEve 0)).result =
        .ok (Workflow.prepared Sample.newYearsForm Sample.owner (Sample.newYearsEve 0)) :=
    rfl
  have ordered :
      (Sample.newYearsEve 0 :: Sample.newYearsRequests.map Request.now).Pairwise (· ≤ ·) := by
    decide
  have ordinary : ∀ moment ∈ Sample.newYearsEve 0 :: Sample.newYearsRequests.map Request.now,
      ¬ moment.InLeapSecond := by
    decide
  exact ⟨isPrepared, stamped_afterAll isPrepared ordered ordinary Sample.newYearsRequests [] rfl⟩

/-- Stamps before 1970 are rounded down, not towards 1970. -/
example :
    let booking := (Workflow.prepared Sample.newYearsForm Sample.owner
      (Sample.newYearsEve 0)).afterAll .standard Sample.newYearsRequests
    booking.createdAt = some (-1000) ∧ booking.updatedAt = some (-1) ∧
      booking.cancelledAt = some (-1) := by
  decide

end Booking

end TableBooking
