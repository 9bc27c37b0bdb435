import TableBooking.Role

/-!
# The texts that name a role

A role is named by its token and by all texts that differ from it in the case of ASCII letters,
and by nothing else (`ofToken?_exact`). Canonical names are tokens in capitals, so looking for a
name finds whatever looking for a token would find. A text that names no role is reported as it
was given.
-/

namespace TableBooking.Role

open TableBooking.Text

theorem mem_all
    (role : Role) :
    role ∈ all := by
  cases role <;> decide

theorem token_injective
    {role other : Role}
    (same : role.token.toList = other.token.toList) :
    role = other := by
  revert same
  cases role <;> cases other <;> decide

theorem lower_token
    (role : Role) :
    lower role.token.toList = role.token.toList := by
  cases role <;> rfl

theorem lower_name
    (role : Role) :
    lower role.name.toList = role.token.toList := by
  cases role <;> rfl

theorem toNat_lt_of_mem_token
    (role : Role) :
    ∀ c ∈ role.token.toList, c.toNat < 128 := by
  have ascii : role.token.toList.all (fun c => decide (c.toNat < 128)) = true := by
    cases role <;> rfl
  intro c member
  exact of_decide_eq_true (List.all_eq_true.1 ascii c member)

/-! ## Named roles -/

/-- Is the text as long as the token of the role, and the token itself after its ASCII letters
are put in lower case? -/
def IsNamedBy (role : Role) (text : String) : Prop :=
  text.length = role.token.length ∧ lower text.toList = role.token.toList

theorem isNamedBy_iff
    (role : Role) (text : String) :
    role.IsNamedBy text ↔ lower text.toList = role.token.toList := by
  rw [IsNamedBy, and_iff_right_iff_imp]
  intro same
  have length := congrArg List.length same
  rw [lower, List.length_map] at length
  exact length

theorem isNamedBy_token
    (role : Role) :
    role.IsNamedBy role.token :=
  (isNamedBy_iff ..).2 role.lower_token

theorem eq_of_isNamedBy
    {role other : Role} {text : String}
    (named : role.IsNamedBy text) (otherNamed : other.IsNamedBy text) :
    role = other :=
  token_injective (named.2.symm.trans otherNamed.2)

theorem toNat_lt_of_isNamedBy
    {role : Role} {text : String}
    (named : role.IsNamedBy text) :
    ∀ c ∈ text.toList, c.toNat < 128 := by
  apply toNat_lt_of_lower
  rw [named.2]
  exact role.toNat_lt_of_mem_token

/-! ## Looking for a key -/

/-- The first role whose key is the text up to the case of its letters. -/
def ofKey? (key : Role → String) (text : String) : Option Role :=
  all.find? fun role => sameLetters (key role).toList text.toList

section Keys

variable {key : Role → String} (folded : ∀ role, lower (key role).toList = role.token.toList)

include folded

theorem isNamedBy_of_ofKey?
    {text : String} {role : Role}
    (found : ofKey? key text = some role) :
    role.IsNamedBy text := by
  have same := List.find?_some found
  rw [sameLetters_iff, folded] at same
  exact (isNamedBy_iff role text).2 same.symm

theorem ofKey?_eq_some_iff
    (text : String) (role : Role) :
    ofKey? key text = some role ↔ role.IsNamedBy text := by
  constructor
  · exact isNamedBy_of_ofKey? folded
  · intro named
    cases found : ofKey? key text with
    | none =>
        have differs := List.find?_eq_none.1 found role role.mem_all
        rw [sameLetters_iff, folded] at differs
        exact absurd named.2.symm differs
    | some other =>
        rw [eq_of_isNamedBy (isNamedBy_of_ofKey? folded found) named]

end Keys

theorem ofKey?_token
    (text : String) :
    ofKey? token text = ofKey? name text := by
  apply Option.ext
  intro role
  rw [ofKey?_eq_some_iff lower_token, ofKey?_eq_some_iff lower_name]

/-- Names are looked for first, and tokens only if no name is found. -/
theorem ofToken_eq_passes
    (text : String) :
    ofToken text = ((ofKey? name text).or (ofKey? token text)).elim (.error ⟨text⟩) .ok := by
  rw [ofToken, ← ofKey?, ← ofKey?]
  rcases ofKey? name text with _ | role
  · rcases ofKey? token text with _ | role
    · rfl
    · rfl
  · rfl

theorem ofToken_eq_firstPass
    (text : String) :
    ofToken text = (ofKey? name text).elim (.error ⟨text⟩) .ok := by
  rw [ofToken_eq_passes, ofKey?_token, Option.or_self]

/-! ## What a text comes to -/

theorem ofToken?_eq_ok_iff
    (text : String) (role : Role) :
    ofToken? (some text) = .ok (some role) ↔ role.IsNamedBy text := by
  rw [← ofKey?_eq_some_iff lower_name, ofToken?, ofToken_eq_firstPass]
  cases ofKey? name text with
  | none => simp [Except.map]
  | some found => simp [Except.map]

theorem ofToken?_eq_error
    {text : String}
    (unnamed : ∀ role : Role, ¬ role.IsNamedBy text) :
    ofToken? (some text) = .error ⟨text⟩ := by
  rw [ofToken?, ofToken_eq_firstPass]
  cases found : ofKey? name text with
  | none => rfl
  | some role => exact absurd (isNamedBy_of_ofKey? lower_name found) (unnamed role)

theorem token_eq_of_ofJson?
    {text : String} {role : Role}
    (isRead : ofJson? (.string text) = some role ∨
      ofJson? (.object [(text, .null)]) = some role) :
    role.token = text := by
  have chosen : (all.find? fun choice => choice.token == text) = some role := by
    rcases isRead with isRead | isRead
    · exact isRead
    · exact isRead
  have same := List.find?_some chosen
  exact beq_iff_eq.1 same

theorem report_unknown
    (text : String) :
    (UnknownRole.mk text).report.code = .roleInvalid ∧
      (UnknownRole.mk text).report.message = "Invalid role: '" ++ text ++ "'" ∧
      (UnknownRole.mk text).report.field? = some "role" ∧
      (UnknownRole.mk text).report.detail? "token" = some (.string text) := by
  refine ⟨rfl, rfl, ?_, ?_⟩
  · rw [ErrorReport.field?, UnknownRole.report, ErrorReport.detail?_withDetail,
      ErrorReport.detail?_withDetail]
    rfl
  · rw [UnknownRole.report, ErrorReport.detail?_withDetail]
    rfl

/-- A text is converted to the role that it names. There is one such role at most, it is found
among the names already, and the text has no letter outside ASCII. What gives a role in JSON
names that role. All other texts are refused, and each of them is reported as it stands. -/
theorem ofToken?_exact
    (text : String) :
    (∀ role, ofToken? (some text) = .ok (some role) ↔ role.IsNamedBy text) ∧
    (∀ role other : Role, role.IsNamedBy text → other.IsNamedBy text → role = other) ∧
    (∀ role : Role, role.IsNamedBy text → ∀ c ∈ text.toList, c.toNat < 128) ∧
    (ofToken text = ((ofKey? name text).or (ofKey? token text)).elim (.error ⟨text⟩) .ok ∧
      ofKey? token text = ofKey? name text) ∧
    (∀ role, ofJson? (.string text) = some role ∨
        ofJson? (.object [(text, .null)]) = some role →
      ofToken? (some text) = .ok (some role)) ∧
    ((∀ role : Role, ¬ role.IsNamedBy text) →
      ∃ unknown : UnknownRole, ofToken? (some text) = .error unknown ∧ unknown.token = text ∧
        unknown.report.code = .roleInvalid ∧
        unknown.report.message = "Invalid role: '" ++ text ++ "'" ∧
        unknown.report.field? = some "role" ∧
        unknown.report.detail? "token" = some (.string text)) := by
  refine ⟨ofToken?_eq_ok_iff text, ?_, ?_, ⟨ofToken_eq_passes text, ofKey?_token text⟩, ?_, ?_⟩
  · intro role other named otherNamed
    exact eq_of_isNamedBy named otherNamed
  · intro role named
    exact toNat_lt_of_isNamedBy named
  · intro role isRead
    rw [ofToken?_eq_ok_iff, ← token_eq_of_ofJson? isRead]
    exact role.isNamedBy_token
  · intro unnamed
    exact ⟨⟨text⟩, ofToken?_eq_error unnamed, rfl, report_unknown text⟩

/-- Capitals of ASCII do not matter, but the dotted capital of `i` is no `i`, and blanks are not
passed over. -/
example :
    ofToken? (some "RestauranT_Owner") = .ok (some .restaurantOwner) ∧
      ofToken? (some "adm\u0130n") = .error ⟨"adm\u0130n"⟩ ∧
      ofToken? (some " admin") = .error ⟨" admin"⟩ :=
  ⟨rfl, rfl, rfl⟩

end TableBooking.Role
