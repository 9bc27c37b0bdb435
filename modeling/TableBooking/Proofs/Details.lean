import Mathlib.Data.List.Nodup
import TableBooking.Failure.Report

/-!
# The details of a report

A report is opened with a code and a message, and then details are attached to it one after
another. Under each name the value is found that was attached last, whatever value that is, and
nothing is found under any other name (`keepsLast_withDetails`). The order in which details of
different names are attached makes no difference (`detail?_withDetails_of_rearranged`).
-/

namespace TableBooking

theorem Json.string?_eq_some_iff
    (value : Json) (text : String) :
    value.string? = some text ↔ value = .string text := by
  cases value <;> simp [Json.string?]

namespace ErrorReport

/-! ## Opening a report -/

/-- A way to begin a report. -/
inductive Opening where
  | ofCode (code : ErrorCode)
  | withMessage (code : ErrorCode) (message : String)
  | validation (message : String)
  | required (field : String)
  | notAuthenticated
  | config (message : String)

namespace Opening

def report : Opening → ErrorReport
  | ofCode code => .ofCode code
  | withMessage code message => .withMessage code message
  | validation message => .validation message
  | required field => .required field
  | notAuthenticated => .notAuthenticated
  | config message => .config message

def code : Opening → ErrorCode
  | ofCode code => code
  | withMessage code _ => code
  | validation _ => .validationFailed
  | required _ => .requiredField
  | notAuthenticated => .notAuthenticated
  | config _ => .configError

def message : Opening → String
  | ofCode code => code.message
  | withMessage _ message => message
  | validation message => message
  | required field => field ++ " is required"
  | notAuthenticated => "User is not authenticated"
  | config message => message

/-- The details that the report has from the beginning. -/
def entries : Opening → List (String × Json)
  | required field => [("field", .string field)]
  | _ => []

end Opening

/-- The report with details attached to it one after another. -/
def withDetails (report : ErrorReport) (entries : List (String × Json)) : ErrorReport :=
  entries.foldl (fun report entry => report.withDetail entry.1 entry.2) report

theorem withDetails_cons
    (report : ErrorReport) (entry : String × Json) (rest : List (String × Json)) :
    report.withDetails (entry :: rest) = (report.withDetail entry.1 entry.2).withDetails rest :=
  rfl

theorem withDetails_append
    (report : ErrorReport) (early late : List (String × Json)) :
    report.withDetails (early ++ late) = (report.withDetails early).withDetails late :=
  List.foldl_append

theorem Opening.report_eq
    (opening : Opening) :
    opening.report = (ErrorReport.withMessage opening.code opening.message).withDetails
      opening.entries := by
  cases opening <;> rfl

theorem Opening.report_withDetails
    (opening : Opening) (entries : List (String × Json)) :
    opening.report.withDetails entries =
      (ErrorReport.withMessage opening.code opening.message).withDetails
        (opening.entries ++ entries) := by
  rw [withDetails_append, ← opening.report_eq]

/-- Details change neither the code nor the message. -/
theorem header_withDetails
    (report : ErrorReport) (entries : List (String × Json)) :
    (report.withDetails entries).code = report.code ∧
      (report.withDetails entries).message = report.message := by
  induction entries generalizing report with
  | nil => exact ⟨rfl, rfl⟩
  | cons entry rest inductionHypothesis =>
      exact inductionHypothesis (report.withDetail entry.1 entry.2)

/-! ## The last entry of a name -/

/-- Is it the value of the last of the entries that have the name? -/
def LastIn (name : String) (value : Json) (entries : List (String × Json)) : Prop :=
  ∃ early late, entries = early ++ (name, value) :: late ∧ ∀ entry ∈ late, entry.1 ≠ name

theorem lastIn_cons_iff
    (name : String) (value : Json) (first : String × Json) (rest : List (String × Json)) :
    LastIn name value (first :: rest) ↔
      LastIn name value rest ∨ (first = (name, value) ∧ ∀ entry ∈ rest, entry.1 ≠ name) := by
  constructor
  · rintro ⟨early, late, split, noneLater⟩
    rcases List.cons_eq_append_iff.1 split with ⟨_, isFirst⟩ | ⟨before, _, splitRest⟩
    · obtain ⟨rfl, rfl⟩ := List.cons.inj isFirst
      exact Or.inr ⟨rfl, noneLater⟩
    · exact Or.inl ⟨before, late, splitRest, noneLater⟩
  · rintro (⟨early, late, rfl, noneLater⟩ | ⟨rfl, noneLater⟩)
    · exact ⟨first :: early, late, rfl, noneLater⟩
    · exact ⟨[], rest, rfl, noneLater⟩

theorem not_lastIn_nil
    (name : String) (value : Json) :
    ¬ LastIn name value [] := by
  rintro ⟨early, late, split, _⟩
  exact List.append_ne_nil_of_right_ne_nil early (List.cons_ne_nil _ late) split.symm

/-! ## Finding details -/

theorem detail?_withDetails_eq_some_iff
    (report : ErrorReport) (entries : List (String × Json)) (name : String) (value : Json) :
    (report.withDetails entries).detail? name = some value ↔
      LastIn name value entries ∨
        ((∀ entry ∈ entries, entry.1 ≠ name) ∧ report.detail? name = some value) := by
  induction entries generalizing report with
  | nil =>
      rw [or_iff_right (not_lastIn_nil name value)]
      exact (and_iff_right nofun).symm
  | cons first rest inductionHypothesis =>
      obtain ⟨held, attached⟩ := first
      rw [withDetails_cons, inductionHypothesis, detail?_withDetail, lastIn_cons_iff,
        List.forall_mem_cons, Prod.mk.injEq]
      by_cases same : name = held
      · -- this entry hides what the report had under the name
        simp [same, and_comm]
      · simp [same, Ne.symm same]

theorem detail?_withDetails_eq_none_iff
    (report : ErrorReport) (entries : List (String × Json)) (name : String) :
    (report.withDetails entries).detail? name = none ↔
      (∀ entry ∈ entries, entry.1 ≠ name) ∧ report.detail? name = none := by
  induction entries generalizing report with
  | nil => exact (and_iff_right nofun).symm
  | cons first rest inductionHypothesis =>
      rw [withDetails_cons, inductionHypothesis, detail?_withDetail, List.forall_mem_cons]
      by_cases same : name = first.1
      · simp [same]
      · simp [same, Ne.symm same]

/-! ## Each name once -/

theorem mem_names_putDetail
    (name wanted : String) (value : Json) (details : List (String × Json)) :
    wanted ∈ (putDetail name value details).map Prod.fst ↔
      wanted = name ∨ wanted ∈ details.map Prod.fst := by
  induction details with
  | nil => simp [putDetail]
  | cons entry rest inductionHypothesis =>
      by_cases replaced : entry.1 = name
      · simp [putDetail, replaced]
      · rw [putDetail, if_neg replaced, List.map_cons, List.mem_cons, inductionHypothesis,
          List.map_cons, List.mem_cons, or_left_comm]

theorem nodup_names_putDetail
    (name : String) (value : Json) {details : List (String × Json)}
    (once : (details.map Prod.fst).Nodup) :
    ((putDetail name value details).map Prod.fst).Nodup := by
  induction details with
  | nil => exact List.nodup_singleton name
  | cons entry rest inductionHypothesis =>
      obtain ⟨fresh, onceRest⟩ := List.nodup_cons.1 once
      by_cases replaced : entry.1 = name
      · rw [putDetail, if_pos replaced]
        exact List.nodup_cons.2 ⟨replaced ▸ fresh, onceRest⟩
      · rw [putDetail, if_neg replaced]
        refine List.nodup_cons.2 ⟨?_, inductionHypothesis onceRest⟩
        rw [mem_names_putDetail]
        exact not_or.2 ⟨replaced, fresh⟩

theorem nodup_names_withDetails
    {report : ErrorReport} (entries : List (String × Json))
    (once : (report.details.map Prod.fst).Nodup) :
    ((report.withDetails entries).details.map Prod.fst).Nodup := by
  induction entries generalizing report with
  | nil => exact once
  | cons entry rest inductionHypothesis =>
      rw [withDetails_cons]
      exact inductionHypothesis (nodup_names_putDetail entry.1 entry.2 once)

/-- Details that have each name once are a map, so they are told by what is found in them. -/
theorem mem_iff_lookup
    {details : List (String × Json)}
    (once : (details.map Prod.fst).Nodup)
    (entry : String × Json) :
    entry ∈ details ↔ details.lookup entry.1 = some entry.2 := by
  induction details with
  | nil => exact iff_of_false List.not_mem_nil nofun
  | cons first rest inductionHypothesis =>
      obtain ⟨fresh, onceRest⟩ := List.nodup_cons.1 once
      rw [List.mem_cons, inductionHypothesis onceRest, lookup_entry]
      by_cases same : entry.1 = first.1
      · have notLater : entry ∉ rest := by
          intro member
          exact fresh (same ▸ List.mem_map_of_mem member)
        rw [inductionHypothesis onceRest] at notLater
        rw [if_pos same, or_iff_left notLater, Option.some_inj, Prod.ext_iff,
          and_iff_right same, eq_comm]
      · have different : entry ≠ first := fun equal => same (congrArg Prod.fst equal)
        rw [if_neg same, or_iff_right different]

theorem perm_details
    {report other : ErrorReport}
    (once : (report.details.map Prod.fst).Nodup)
    (otherOnce : (other.details.map Prod.fst).Nodup)
    (same : ∀ name, report.detail? name = other.detail? name) :
    report.details.Perm other.details := by
  rw [List.perm_ext_iff_of_nodup (List.Nodup.of_map Prod.fst once)
    (List.Nodup.of_map Prod.fst otherOnce)]
  intro entry
  rw [mem_iff_lookup once, mem_iff_lookup otherOnce, ← detail?, ← detail?, same]

/-! ## The order of attaching -/

theorem detail?_withDetails_congr
    {report other : ErrorReport}
    (same : ∀ name, report.detail? name = other.detail? name)
    (entries : List (String × Json)) (name : String) :
    (report.withDetails entries).detail? name = (other.withDetails entries).detail? name := by
  induction entries generalizing report other with
  | nil => exact same name
  | cons entry rest inductionHypothesis =>
      apply inductionHypothesis
      intro wanted
      rw [detail?_withDetail, detail?_withDetail, same]

/-- Details of different names may be attached in either order. -/
theorem detail?_withDetail_comm
    (report : ErrorReport) {first second : String × Json}
    (apart : first.1 ≠ second.1) (name : String) :
    ((report.withDetail first.1 first.2).withDetail second.1 second.2).detail? name =
      ((report.withDetail second.1 second.2).withDetail first.1 first.2).detail? name := by
  simp only [detail?_withDetail]
  by_cases isFirst : name = first.1
  · have notSecond : name ≠ second.1 := isFirst ▸ apart
    rw [if_neg notSecond, if_pos isFirst, if_pos isFirst]
  · rw [if_neg isFirst, if_neg isFirst]

/-- Lists of entries that come from each other by exchanging neighbours of different names. -/
inductive Rearranged : List (String × Json) → List (String × Json) → Prop
  | refl (entries : List (String × Json)) : Rearranged entries entries
  | cons (first : String × Json) {early late : List (String × Json)} :
      Rearranged early late → Rearranged (first :: early) (first :: late)
  | swap {first second : String × Json} (rest : List (String × Json)) :
      first.1 ≠ second.1 → Rearranged (first :: second :: rest) (second :: first :: rest)
  | trans {early middle late : List (String × Json)} :
      Rearranged early middle → Rearranged middle late → Rearranged early late

theorem detail?_withDetails_of_rearranged
    {early late : List (String × Json)}
    (rearranged : Rearranged early late)
    (report : ErrorReport) (name : String) :
    (report.withDetails early).detail? name = (report.withDetails late).detail? name := by
  induction rearranged generalizing report with
  | refl entries => rfl
  | cons first _ inductionHypothesis =>
      exact inductionHypothesis (report.withDetail first.1 first.2)
  | swap rest apart =>
      exact detail?_withDetails_congr (detail?_withDetail_comm report apart) rest name
  | trans _ _ toMiddle fromMiddle => rw [toMiddle, fromMiddle]

/-- Entries that have each name once may be put in any order. -/
theorem rearranged_of_perm
    {early late : List (String × Json)}
    (permuted : early.Perm late)
    (once : (early.map Prod.fst).Nodup) :
    Rearranged early late := by
  induction permuted with
  | nil => exact .refl []
  | cons first _ inductionHypothesis =>
      exact .cons first (inductionHypothesis (List.nodup_cons.1 once).2)
  | swap first second rest =>
      obtain ⟨fresh, _⟩ := List.nodup_cons.1 once
      exact .swap rest fun same => fresh (same ▸ List.mem_cons_self)
  | trans toMiddle _ early_middle middle_late =>
      have onceMiddle := (toMiddle.map Prod.fst).nodup_iff.1 once
      exact (early_middle once).trans (middle_late onceMiddle)

/-! ## What a report holds -/

/-- Does the report hold the last of the entries of each name, and no others? -/
structure KeepsLast (report : ErrorReport) (entries : List (String × Json)) : Prop where
  found : ∀ name value, report.detail? name = some value ↔ LastIn name value entries
  absent : ∀ name, report.detail? name = none ↔ ∀ entry ∈ entries, entry.1 ≠ name
  empty : report.details = [] ↔ entries = []
  once : (report.details.map Prod.fst).Nodup
  field : ∀ text, report.field? = some text ↔ LastIn "field" (.string text) entries

theorem keepsLast_withDetails
    (code : ErrorCode) (message : String) (entries : List (String × Json)) :
    ((withMessage code message).withDetails entries).KeepsLast entries := by
  have found : ∀ name value,
      ((withMessage code message).withDetails entries).detail? name = some value ↔
        LastIn name value entries := by
    intro name value
    rw [detail?_withDetails_eq_some_iff]
    exact or_iff_left fun opened => nomatch opened.2
  have absent : ∀ name,
      ((withMessage code message).withDetails entries).detail? name = none ↔
        ∀ entry ∈ entries, entry.1 ≠ name := by
    intro name
    rw [detail?_withDetails_eq_none_iff]
    exact and_iff_left rfl
  refine ⟨found, absent, ?_, nodup_names_withDetails entries List.nodup_nil, ?_⟩
  · constructor
    · intro empty
      cases entries with
      | nil => rfl
      | cons entry rest =>
          have notFound := (absent entry.1).1 (by rw [detail?, empty, List.lookup_nil])
          exact absurd rfl (notFound entry List.mem_cons_self)
    · rintro rfl
      rfl
  · intro text
    rw [field?, Option.bind_eq_some_iff, ← found]
    simp only [Json.string?_eq_some_iff, exists_eq_right]

/-- However a report is opened and whatever is attached to it, it keeps the code and the message
that it was opened with, and under each name it has the last value attached, the detail that it
was opened with counting as the first. Nothing changes if details of different names are
attached in another order. -/
theorem details_last_write_wins
    (opening : Opening) (entries : List (String × Json)) :
    (opening.report.withDetails entries).code = opening.code ∧
    (opening.report.withDetails entries).message = opening.message ∧
    (opening.report.withDetails entries).KeepsLast (opening.entries ++ entries) ∧
    ∀ others,
      Rearranged entries others ∨ (entries.Perm others ∧ (entries.map Prod.fst).Nodup) →
      (opening.report.withDetails entries).details.Perm
          (opening.report.withDetails others).details ∧
        ∀ name, (opening.report.withDetails entries).detail? name =
          (opening.report.withDetails others).detail? name := by
  have header := header_withDetails (withMessage opening.code opening.message)
    (opening.entries ++ entries)
  have keeps := fun attached =>
    keepsLast_withDetails opening.code opening.message (opening.entries ++ attached)
  simp only [opening.report_withDetails]
  refine ⟨header.1, header.2, keeps entries, ?_⟩
  intro others order
  have rearranged : Rearranged entries others := by
    rcases order with rearranged | ⟨permuted, once⟩
    · exact rearranged
    · exact rearranged_of_perm permuted once
  have same : ∀ name,
      ((withMessage opening.code opening.message).withDetails
          (opening.entries ++ entries)).detail? name =
        ((withMessage opening.code opening.message).withDetails
          (opening.entries ++ others)).detail? name := by
    intro name
    rw [withDetails_append, withDetails_append]
    exact detail?_withDetails_of_rearranged rearranged _ name
  exact ⟨perm_details (keeps entries).once (keeps others).once same, same⟩

theorem details_last_write_wins_exchanged :
    Rearranged
        [("field", .null), ("max", .ofNat 100), ("field", .string "note")]
        [("max", .ofNat 100), ("field", .null), ("field", .string "note")] ∧
      ((Opening.required "booking").report.withDetails
          [("field", .null), ("max", .ofNat 100), ("field", .string "note")]).details.Perm
        ((Opening.required "booking").report.withDetails
          [("max", .ofNat 100), ("field", .null), ("field", .string "note")]).details := by
  have rearranged :
      Rearranged
        [("field", .null), ("max", .ofNat 100), ("field", .string "note")]
        [("max", .ofNat 100), ("field", .null), ("field", .string "note")] :=
    .swap _ (by decide)
  obtain ⟨_, _, _, sameDetails⟩ := details_last_write_wins (.required "booking")
    [("field", .null), ("max", .ofNat 100), ("field", .string "note")]
  exact ⟨rearranged, (sameDetails _ (.inl rearranged)).1⟩

/-- A null is found like any other value, but it names no field. -/
example :
    ((required "booking").withDetail "field" .null).detail? "field" = some .null ∧
      ((required "booking").withDetail "field" .null).field? = none ∧
      ((required "booking").withDetail "field" .null).detail? "max" = none :=
  ⟨rfl, rfl, rfl⟩

end ErrorReport

end TableBooking
