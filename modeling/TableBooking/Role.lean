import TableBooking.Failure.Report
import TableBooking.Json.Choice
import TableBooking.Text.Blank
import TableBooking.Text.LetterCase

/-!
# User roles

Every role has a canonical name and a lookup token, which forms and stored rows
carry. Either is understood in any case of its letters, but without blanks around
it.
-/

namespace TableBooking

/-- A user role. -/
inductive Role where
  | admin
  | customer
  | restaurantOwner
  deriving DecidableEq, Repr

/-- A text that names no role. -/
structure UnknownRole where
  token : String
  deriving DecidableEq, Repr

namespace Role

open TableBooking.Text

def all : List Role :=
  [admin, customer, restaurantOwner]

def name : Role → String
  | admin => "ADMIN"
  | customer => "CUSTOMER"
  | restaurantOwner => "RESTAURANT_OWNER"

/-- The lookup token. -/
def token : Role → String
  | admin => "admin"
  | customer => "customer"
  | restaurantOwner => "restaurant_owner"

def label : Role → String
  | admin => "Quản trị viên"
  | customer => "Khách hàng"
  | restaurantOwner => "Chủ nhà hàng"

def authority (role : Role) : String :=
  "ROLE_" ++ String.ofList (upper role.token.toList)

def isAdmin (role : Role) : Bool :=
  role == admin

def isCustomer (role : Role) : Bool :=
  role == customer

def isRestaurantOwner (role : Role) : Bool :=
  role == restaurantOwner

/-! ## Reading -/

/-- The first role whose canonical name, or else whose lookup token, is the text up
to the case of its letters. -/
def ofToken (text : String) : Except UnknownRole Role :=
  match all.find? (fun role => sameLetters role.name.toList text.toList) with
  | some role => .ok role
  | none =>
    match all.find? (fun role => sameLetters role.token.toList text.toList) with
    | some role => .ok role
    | none => .error ⟨text⟩

/-- The role that a text names. No text names no role. -/
def ofToken? : Option String → Except UnknownRole (Option Role)
  | none => .ok none
  | some text => (ofToken text).map some

/-! ## Registration -/

/-- The account types that stand for the owner of a restaurant. -/
def ownerAccounts : List String :=
  ["restaurant_owner", "restaurant-owner", "restaurant"]

/-- The role that an account type is registered with. Blanks around it and the case
of its letters do not matter; whatever is unknown registers a customer. -/
def ofAccountType : Option String → Role
  | none => .customer
  | some text =>
    if ownerAccounts.any fun account => account.toList == lower (trim text.toList) then
      .restaurantOwner
    else .customer

/-! ## JSON -/

def toJson (role : Role) : Json :=
  .string role.token

/-- The role that a JSON value stands for, chosen by its lookup token. -/
def ofJson? : Json → Option Role :=
  Json.choice? all token

end Role

namespace UnknownRole

def message (unknown : UnknownRole) : String :=
  "Invalid role: '" ++ unknown.token ++ "'"

def report (unknown : UnknownRole) : ErrorReport :=
  ((ErrorReport.withMessage .roleInvalid unknown.message).withDetail "field"
    (.string "role")).withDetail "token" (.string unknown.token)

end UnknownRole

end TableBooking
