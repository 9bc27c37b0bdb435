import Mathlib.Data.List.Forall2
import TableBooking.Proofs.RoleTokens

/-!
# The account types that register an owner

Nobody becomes an administrator by registering. An account type registers the owner of a
restaurant if and only if it is one of three words in any case of its ASCII letters, with any
blanks around it, and whatever else is given registers a customer (`ofAccountType_exact`).
Folding the case of letters and cutting off blanks do not disturb each other
(`lower_trim`), so the role depends on neither.
-/

namespace TableBooking

namespace Text

/-! ## White space -/

/-- The code points of Unicode's `White_Space` property. -/
def whiteSpace : List Nat :=
  [0x09, 0x0A, 0x0B, 0x0C, 0x0D, 0x20, 0x85, 0xA0, 0x1680,
    0x2000, 0x2001, 0x2002, 0x2003, 0x2004, 0x2005, 0x2006, 0x2007, 0x2008, 0x2009, 0x200A,
    0x2028, 0x2029, 0x202F, 0x205F, 0x3000]

theorem isBlank_iff
    (c : Char) :
    isBlank c = true ↔ c.toNat ∈ whiteSpace := by
  simp only [isBlank, whiteSpace, Bool.or_eq_true, Bool.and_eq_true, decide_eq_true_eq,
    beq_iff_eq, List.mem_cons, List.not_mem_nil, or_false]
  omega

/-- Does the text consist of white space? -/
def AllBlank (text : String) : Prop :=
  ∀ c ∈ text.toList, c.toNat ∈ whiteSpace

instance (text : String) : Decidable (AllBlank text) :=
  decidable_of_iff ((text.toList.all fun c => whiteSpace.contains c.toNat) = true) (by
    simp only [AllBlank, List.all_eq_true, List.contains_iff_mem])

theorem allBlank_iff
    (text : String) :
    AllBlank text ↔ ∀ c ∈ text.toList, isBlank c = true := by
  simp only [AllBlank, isBlank_iff]

theorem trim_toList_around
    {before after : String}
    (blankBefore : AllBlank before) (blankAfter : AllBlank after) (text : String) :
    trim (before ++ text ++ after).toList = trim text.toList := by
  rw [allBlank_iff] at blankBefore blankAfter
  rw [String.toList_append, String.toList_append]
  exact trim_around blankBefore blankAfter text.toList

theorem exists_around_trim
    (text : String) :
    ∃ before after : String,
      text = before ++ String.ofList (trim text.toList) ++ after ∧
        AllBlank before ∧ AllBlank after := by
  obtain ⟨before, after, split, blankBefore, blankAfter⟩ :=
    exists_blank_trim_blank text.toList
  refine ⟨String.ofList before, String.ofList after, ?_, ?_, ?_⟩
  · rw [← String.ofList_append, ← String.ofList_append, ← split, String.ofList_toList]
  · rwa [allBlank_iff, String.toList_ofList]
  · rwa [allBlank_iff, String.toList_ofList]

/-! ## Letters -/

/-- Are the texts equal up to the case of ASCII letters, character by character? -/
def EqualUpToCase (text other : String) : Prop :=
  List.Forall₂ SameLetter text.toList other.toList

theorem lower_eq_lower_iff
    (text other : String) :
    lower text.toList = lower other.toList ↔ EqualUpToCase text other := by
  rw [EqualUpToCase, lower, lower, ← List.forall₂_eq_eq_eq, List.forall₂_map_left_iff,
    List.forall₂_map_right_iff]
  simp only [toLower_eq_toLower_iff]

/-! ## Both together -/

theorem isBlank_toLower
    (c : Char) :
    isBlank c.toLower = isBlank c := by
  simp only [isBlank, toNat_toLower]
  by_cases isUpper : 65 ≤ c.toNat ∧ c.toNat ≤ 90
  · rw [if_pos isUpper, Bool.eq_iff_iff]
    simp only [Bool.or_eq_true, Bool.and_eq_true, decide_eq_true_eq, beq_iff_eq]
    omega
  · rw [if_neg isUpper]

theorem lower_trimStart
    (text : List Char) :
    lower (trimStart text) = trimStart (lower text) := by
  have sameBlanks : isBlank ∘ Char.toLower = isBlank := funext isBlank_toLower
  rw [trimStart, trimStart, lower, lower, List.dropWhile_map, sameBlanks]

theorem lower_trim
    (text : List Char) :
    lower (trim text) = trim (lower text) := by
  have lower_reverse : ∀ text, lower (List.reverse text) = (lower text).reverse :=
    fun text => List.map_reverse
  rw [trim, trim, trimEnd, trimEnd, lower_reverse, lower_trimStart, lower_reverse,
    lower_trimStart]

end Text

namespace Role

open TableBooking.Text

/-! ## Account types -/

/-- Is the text one of the three words for an owner, up to the case of ASCII letters and with
any blanks around it? -/
def AsksForOwner (text : String) : Prop :=
  ∃ before word after, text = before ++ word ++ after ∧ AllBlank before ∧ AllBlank after ∧
    (EqualUpToCase word "restaurant_owner" ∨ EqualUpToCase word "restaurant-owner" ∨
      EqualUpToCase word "restaurant")

theorem ofAccountType_eq_owner_iff
    (text : String) :
    ofAccountType (some text) = .restaurantOwner ↔
      ∃ account ∈ ownerAccounts, lower (trim text.toList) = account.toList := by
  rw [ofAccountType]
  split
  · rename_i asks
    obtain ⟨account, member, same⟩ := List.any_eq_true.1 asks
    exact iff_of_true rfl ⟨account, member, (beq_iff_eq.1 same).symm⟩
  · rename_i asksNot
    refine iff_of_false nofun ?_
    rintro ⟨account, member, same⟩
    exact asksNot (List.any_eq_true.2 ⟨account, member, beq_iff_eq.2 same.symm⟩)

theorem ofAccountType_eq_owner_or_customer
    (accountType : Option String) :
    ofAccountType accountType = .restaurantOwner ∨ ofAccountType accountType = .customer := by
  cases accountType with
  | none => exact Or.inr rfl
  | some text =>
      rw [ofAccountType]
      split
      · exact Or.inl rfl
      · exact Or.inr rfl

/-- The role depends on no more than the folded text without the blanks around it. -/
theorem ofAccountType_congr
    {text other : String}
    (same : lower (trim text.toList) = lower (trim other.toList)) :
    ofAccountType (some text) = ofAccountType (some other) := by
  rw [ofAccountType, ofAccountType, same]

theorem ofAccountType_around
    {before after : String}
    (blankBefore : AllBlank before) (blankAfter : AllBlank after) (text : String) :
    ofAccountType (some (before ++ text ++ after)) = ofAccountType (some text) :=
  ofAccountType_congr (congrArg lower (trim_toList_around blankBefore blankAfter text))

theorem ofAccountType_of_equalUpToCase
    {text other : String}
    (same : EqualUpToCase text other) :
    ofAccountType (some text) = ofAccountType (some other) := by
  apply ofAccountType_congr
  rw [lower_trim, lower_trim, (lower_eq_lower_iff text other).2 same]

theorem exists_account_iff
    (word : String) :
    (∃ account ∈ ownerAccounts, EqualUpToCase word account) ↔
      EqualUpToCase word "restaurant_owner" ∨ EqualUpToCase word "restaurant-owner" ∨
        EqualUpToCase word "restaurant" := by
  simp [ownerAccounts]

theorem lower_account
    {account : String}
    (member : account ∈ ownerAccounts) :
    lower account.toList = account.toList ∧
      ofAccountType (some account) = .restaurantOwner := by
  have all : (ownerAccounts.all fun account =>
      lower account.toList = account.toList ∧
        ofAccountType (some account) = .restaurantOwner) = true := by
    decide
  exact of_decide_eq_true (List.all_eq_true.1 all account member)

theorem ofAccountType_eq_owner_iff_asksForOwner
    (text : String) :
    ofAccountType (some text) = .restaurantOwner ↔ AsksForOwner text := by
  constructor
  · intro isOwner
    obtain ⟨account, member, same⟩ := (ofAccountType_eq_owner_iff text).1 isOwner
    obtain ⟨before, after, split, blankBefore, blankAfter⟩ := exists_around_trim text
    -- the word is what is left once the blanks are cut off
    refine ⟨before, String.ofList (trim text.toList), after, split, blankBefore, blankAfter, ?_⟩
    rw [← exists_account_iff]
    refine ⟨account, member, ?_⟩
    rw [← lower_eq_lower_iff, String.toList_ofList, (lower_account member).1, same]
  · rintro ⟨before, word, after, rfl, blankBefore, blankAfter, isWord⟩
    obtain ⟨account, member, same⟩ := (exists_account_iff word).2 isWord
    rw [ofAccountType_around blankBefore blankAfter, ofAccountType_of_equalUpToCase same]
    exact (lower_account member).2

/-- A role that a text names is also the one that it registers, unless it is the
administrator. -/
theorem ofAccountType_of_ofToken?
    {text : String} {role : Role}
    (converted : ofToken? (some text) = .ok (some role))
    (notAdmin : role ≠ .admin) :
    ofAccountType (some text) = role := by
  have named := (ofToken?_eq_ok_iff text role).1 converted
  have same : EqualUpToCase text role.token := by
    rw [← lower_eq_lower_iff, role.lower_token]
    exact named.2
  rw [ofAccountType_of_equalUpToCase same]
  cases role with
  | admin => exact absurd rfl notAdmin
  | customer => decide
  | restaurantOwner => decide

/-- An account type registers the owner of a restaurant if it asks for that, and a customer
otherwise. Blanks around it and the case of its ASCII letters make no difference, and it
registers the role that it is converted to, unless that is the administrator. -/
theorem ofAccountType_exact :
    (∀ accountType, ofAccountType accountType ≠ .admin) ∧
    (∀ accountType, ofAccountType accountType = .restaurantOwner ↔
      ∃ text, accountType = some text ∧ AsksForOwner text) ∧
    (∀ accountType, ofAccountType accountType = .customer ↔
      ¬ ∃ text, accountType = some text ∧ AsksForOwner text) ∧
    (∀ before text after, AllBlank before → AllBlank after →
      ofAccountType (some (before ++ text ++ after)) = ofAccountType (some text)) ∧
    (∀ text other, EqualUpToCase text other →
      ofAccountType (some text) = ofAccountType (some other)) ∧
    ∀ text role, ofToken? (some text) = .ok (some role) → role ≠ .admin →
      ofAccountType (some text) = role := by
  have isOwner : ∀ accountType, ofAccountType accountType = .restaurantOwner ↔
      ∃ text, accountType = some text ∧ AsksForOwner text := by
    intro accountType
    cases accountType with
    | none => exact iff_of_false nofun fun ⟨_, missing, _⟩ => nomatch missing
    | some text => simp [ofAccountType_eq_owner_iff_asksForOwner]
  refine ⟨?_, isOwner, ?_, ?_, ?_, ?_⟩
  · intro accountType
    rcases ofAccountType_eq_owner_or_customer accountType with registered | registered
    · simp [registered]
    · simp [registered]
  · intro accountType
    rw [← isOwner]
    rcases ofAccountType_eq_owner_or_customer accountType with registered | registered
    · simp [registered]
    · simp [registered]
  · intro before text after blankBefore blankAfter
    exact ofAccountType_around blankBefore blankAfter text
  · intro text other same
    exact ofAccountType_of_equalUpToCase same
  · intro text role converted notAdmin
    exact ofAccountType_of_ofToken? converted notAdmin

theorem ofAccountType_exact_padded :
    ofToken? (some "Restaurant_OWNER") = .ok (some .restaurantOwner) ∧
      ofAccountType (some ("\u2003" ++ "Restaurant_OWNER" ++ "\n")) = .restaurantOwner := by
  obtain ⟨_, _, _, around, _, registersConverted⟩ := ofAccountType_exact
  have converted : ofToken? (some "Restaurant_OWNER") = .ok (some .restaurantOwner) := rfl
  have sameInside := around "\u2003" "Restaurant_OWNER" "\n" (by decide) (by decide)
  exact ⟨converted, sameInside.trans (registersConverted _ _ converted (by decide))⟩

/-- A space without width is no blank, and the long s is no s. -/
example :
    ofAccountType (some "\u200Brestaurant") = .customer ∧
      ofAccountType (some "re\u017Ftaurant") = .customer ∧
      ofAccountType (some "admin") = .customer :=
  ⟨rfl, rfl, rfl⟩

end Role

end TableBooking
