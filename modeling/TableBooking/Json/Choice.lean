import TableBooking.Json.Basic

/-!
# Choices

A choice among a few values is given by the token of a value, as a string or as the
only name of an object whose value is `null`.
-/

namespace TableBooking.Json

/-- The value that is chosen by its token. -/
def choice? {α : Type} (choices : List α) (token : α → String) : Json → Option α
  | .string text => choices.find? fun choice => token choice == text
  | .object [(name, .null)] => choices.find? fun choice => token choice == name
  | _ => none

end TableBooking.Json
