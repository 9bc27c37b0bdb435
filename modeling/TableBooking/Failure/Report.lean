import TableBooking.Failure.Code
import TableBooking.Json.Basic

/-!
# Error reports

A report is a code, a message and details by name. A detail that is attached again
under its name replaces the earlier one, so the details are a map in which the last
write wins.
-/

namespace TableBooking

/-- What a request that fails is answered with. -/
structure ErrorReport where
  code : ErrorCode
  message : String
  /-- The details in the order in which their names were first attached, each name
  once. -/
  details : List (String × Json)

namespace ErrorReport

/-! ## Building a report -/

/-- The report with a message of its own and no details. -/
def withMessage (code : ErrorCode) (message : String) : ErrorReport :=
  ⟨code, message, []⟩

/-- The report with the message of its code and no details. -/
def ofCode (code : ErrorCode) : ErrorReport :=
  withMessage code code.message

def putDetail (name : String) (value : Json) : List (String × Json) → List (String × Json)
  | [] => [(name, value)]
  | entry :: rest =>
    if entry.1 = name then (name, value) :: rest else entry :: putDetail name value rest

def withDetail (report : ErrorReport) (name : String) (value : Json) : ErrorReport :=
  { report with details := putDetail name value report.details }

def validation (message : String) : ErrorReport :=
  withMessage .validationFailed message

def required (field : String) : ErrorReport :=
  (withMessage .requiredField (field ++ " is required")).withDetail "field" (.string field)

def notAuthenticated : ErrorReport :=
  ofCode .notAuthenticated

/-- The report about settings that contradict each other. -/
def config (message : String) : ErrorReport :=
  withMessage .configError message

/-! ## Reading a report -/

def detail? (report : ErrorReport) (name : String) : Option Json :=
  report.details.lookup name

/-- The name of the form field that the error is about, if a text names one. -/
def field? (report : ErrorReport) : Option String :=
  (report.detail? "field").bind Json.string?

/-! ## Answering -/

/-- What a caller is answered: that it is done, or the report on the error. -/
def answer {ε α : Type} (report : ε → ErrorReport) : Except ε α → Except ErrorReport Unit
  | .ok _ => .ok ()
  | .error error => .error (report error)

theorem answer_eq_error_iff
    {ε α : Type} (report : ε → ErrorReport) (result : Except ε α) (reported : ErrorReport) :
    answer report result = .error reported ↔
      ∃ error, result = .error error ∧ report error = reported := by
  cases result with
  | ok value => simp [answer]
  | error error => simp [answer]

/-! ## The last write wins -/

theorem lookup_entry
    (held wanted : String) (value : Json) (rest : List (String × Json)) :
    ((held, value) :: rest).lookup wanted =
      if wanted = held then some value else rest.lookup wanted := by
  rw [List.lookup_cons]
  by_cases same : wanted = held
  · rw [if_pos same, same, beq_self_eq_true]
  · rw [if_neg same, beq_eq_false_iff_ne.2 same]

theorem lookup_putDetail
    (name wanted : String) (value : Json) (details : List (String × Json)) :
    (putDetail name value details).lookup wanted =
      if wanted = name then some value else details.lookup wanted := by
  induction details with
  | nil => rw [putDetail, lookup_entry]
  | cons entry rest inductionHypothesis =>
      obtain ⟨held, old⟩ := entry
      by_cases replaced : held = name
      · rw [putDetail, if_pos replaced, lookup_entry, lookup_entry, replaced]
        by_cases same : wanted = name
        · rw [if_pos same, if_pos same]
        · rw [if_neg same, if_neg same, if_neg same]
      · rw [putDetail, if_neg replaced, lookup_entry, lookup_entry, inductionHypothesis]
        by_cases found : wanted = held
        · rw [found, if_pos rfl, if_pos rfl, if_neg replaced]
        · rw [if_neg found, if_neg found]

theorem detail?_withDetail
    (report : ErrorReport) (name wanted : String) (value : Json) :
    (report.withDetail name value).detail? wanted =
      if wanted = name then some value else report.detail? wanted :=
  lookup_putDetail name wanted value report.details

end ErrorReport

end TableBooking
