import TableBooking.Json.Number.RoundTrip
import TableBooking.Json.Quoted.RoundTrip
import TableBooking.Json.Reader
import TableBooking.Json.Writer

/-!
# Reading JSON text that was written

The text of a value is read as that value, unless the value is nested too deeply
(`read?_write`). The scanner finds the tokens again, since every number and every word
is followed by a mark or by the end (`scan?_tokens`), the reader finds the document of
the tokens (`foldlM_tokens`), and its strings stand for the texts that were written
(`value?_document`).
-/

namespace TableBooking.Json

open TableBooking.Text

/-! ## Tokens -/

namespace Scanner

/-- Does a text not go on with a character of a number or of a word? -/
def EndsToken (rest : List Char) : Prop :=
  ∀ c ∈ rest.head?, isNumberChar c = false ∧ c.isAlpha = false

theorem endsToken_nil : EndsToken [] :=
  fun _ member => nomatch member

theorem endsToken_cons
    {c : Char} (rest : List Char)
    (noNumber : isNumberChar c = false) (noLetter : c.isAlpha = false) :
    EndsToken (c :: rest) := by
  intro first member
  obtain rfl : c = first := Option.some.inj member
  exact ⟨noNumber, noLetter⟩

theorem finishThen_some
    (token : Token) (c : Char) (rest : List Char) :
    (match finishThen (some token) (start? c) with
      | none => none
      | some (tokens, scanner) => (scan? scanner rest).map (tokens ++ ·)) =
      (scan? .between (c :: rest)).map (token :: ·) := by
  rw [scan?, step?]
  cases start? c with
  | none => rfl
  | some next =>
      obtain ⟨tokens, scanner⟩ := next
      simp only [finishThen, Option.bind_eq_bind, Option.bind_some, Option.pure_def,
        Option.map_map]
      rfl

/-- A number that is followed by something else is a token. -/
theorem scan?_inNumber
    {seen rest : List Char} {token : Token}
    (complete : number? seen = some token) (ends : EndsToken rest) :
    scan? (.inNumber seen) rest = (scan? .between rest).map (token :: ·) := by
  cases rest with
  | nil => rw [scan?, finish?, complete, Option.map_some, scan?, finish?, Option.map_some]
  | cons c rest =>
      have stop : isNumberChar c = false := (ends c rfl).1
      rw [scan?, step?, stop, complete]
      exact finishThen_some token c rest

/-- A word that is followed by something else is a token. -/
theorem scan?_inWord
    {seen rest : List Char} {token : Token}
    (complete : word? seen = some token) (ends : EndsToken rest) :
    scan? (.inWord seen) rest = (scan? .between rest).map (token :: ·) := by
  cases rest with
  | nil => rw [scan?, finish?, complete, Option.map_some, scan?, finish?, Option.map_some]
  | cons c rest =>
      have stop : c.isAlpha = false := (ends c rfl).2
      rw [scan?, step?, stop, complete]
      exact finishThen_some token c rest

theorem map_nil_append
    (tokens : Option (List Token)) :
    tokens.map ([] ++ ·) = tokens := by
  cases tokens <;> rfl

theorem scan?_of_step?
    {before after : Scanner} {c : Char}
    (step : before.step? c = some ([], after)) (rest : List Char) :
    scan? before (c :: rest) = scan? after rest := by
  rw [scan?, step]
  exact map_nil_append (scan? after rest)

theorem scan?_numberChars
    (seen text rest : List Char)
    (allNumber : ∀ c ∈ text, isNumberChar c = true) :
    scan? (.inNumber seen) (text ++ rest) = scan? (.inNumber (text.reverse ++ seen)) rest := by
  induction text generalizing seen with
  | nil => rfl
  | cons c text inductionHypothesis =>
      have step : (Scanner.inNumber seen).step? c = some ([], .inNumber (c :: seen)) := by
        rw [step?, if_pos (allNumber c List.mem_cons_self)]
      rw [List.cons_append, scan?_of_step? step,
        inductionHypothesis (c :: seen) fun other member =>
          allNumber other (List.mem_cons_of_mem c member),
        List.reverse_cons, List.append_assoc, List.singleton_append]

theorem scan?_letters
    (seen text rest : List Char)
    (allLetters : ∀ c ∈ text, c.isAlpha = true) :
    scan? (.inWord seen) (text ++ rest) = scan? (.inWord (text.reverse ++ seen)) rest := by
  induction text generalizing seen with
  | nil => rfl
  | cons c text inductionHypothesis =>
      have step : (Scanner.inWord seen).step? c = some ([], .inWord (c :: seen)) := by
        rw [step?, if_pos (allLetters c List.mem_cons_self)]
      rw [List.cons_append, scan?_of_step? step,
        inductionHypothesis (c :: seen) fun other member =>
          allLetters other (List.mem_cons_of_mem c member),
        List.reverse_cons, List.append_assoc, List.singleton_append]

/-! ## Single tokens -/

/-- A punctuation mark is a token by itself. -/
theorem scan?_mark
    {mark : Char} (token : Token)
    (start : start? mark = some ([token], .between)) (rest : List Char) :
    scan? .between (mark :: rest) = (scan? .between rest).map (token :: ·) := by
  rw [scan?, step?, start]
  rfl

theorem scan?_word
    {first : Char} {others : List Char} {token : Token} {rest : List Char}
    (start : start? first = some ([], .inWord [first]))
    (allLetters : others.all Char.isAlpha = true)
    (complete : Token.ofWord? (first :: others) = some token)
    (ends : EndsToken rest) :
    scan? .between (first :: others ++ rest) = (scan? .between rest).map (token :: ·) := by
  have word : word? (others.reverse ++ [first]) = some token := by
    rw [word?, List.reverse_append, List.reverse_reverse]
    exact complete
  have step : Scanner.between.step? first = some ([], .inWord [first]) := start
  rw [List.cons_append, scan?_of_step? step, scan?_letters _ _ _ (List.all_eq_true.1 allLetters),
    scan?_inWord word ends]

theorem isNumberChar_of_isDigit
    {c : Char}
    (digit : c.isDigit = true) :
    isNumberChar c = true := by
  simp only [isNumberChar, digit, Bool.true_or]

theorem isNumberChar_of_mem_intDigits
    {i : Int} {c : Char}
    (member : c ∈ intDigits i) :
    isNumberChar c = true := by
  by_cases negative : i < 0
  · rw [intDigits, if_pos negative] at member
    rcases List.mem_cons.1 member with rfl | member
    · decide
    · exact isNumberChar_of_isDigit (isDigit_of_mem_toDigits member)
  · rw [intDigits, if_neg negative] at member
    exact isNumberChar_of_isDigit (isDigit_of_mem_toDigits member)

theorem isNumberChar_of_mem_fractionText
    {digits : List (Fin 10)} {c : Char}
    (member : c ∈ Number.fractionText digits) :
    isNumberChar c = true := by
  cases digits with
  | nil => exact nomatch member
  | cons digit digits =>
      rcases List.mem_cons.1 member with rfl | member
      · decide
      · obtain ⟨value, _, rfl⟩ := List.mem_map.1 member
        exact isNumberChar_of_isDigit (Number.isDigit_fractionChar value)

theorem isNumberChar_of_mem_exponentText
    {exponent : Option Int} {c : Char}
    (member : c ∈ Number.exponentText exponent) :
    isNumberChar c = true := by
  cases exponent with
  | none => exact nomatch member
  | some exponent =>
      rcases List.mem_cons.1 member with rfl | member
      · decide
      · exact isNumberChar_of_mem_intDigits member

theorem isNumberChar_of_mem_text
    {n : Number} {c : Char}
    (member : c ∈ n.text) :
    isNumberChar c = true := by
  rw [Number.text, List.mem_append, List.mem_append, List.mem_append] at member
  rcases member with ((sign | whole) | fraction) | exponent
  · by_cases negative : n.negative = true
    · rw [if_pos negative, List.mem_singleton] at sign
      subst sign
      decide
    · rw [if_neg negative] at sign
      exact absurd sign List.not_mem_nil
  · exact isNumberChar_of_isDigit (isDigit_of_mem_toDigits whole)
  · exact isNumberChar_of_mem_fractionText fraction
  · exact isNumberChar_of_mem_exponentText exponent

theorem start?_of_startsNumber
    {c : Char}
    (starts : startsNumber c = true) :
    start? c = some ([], .inNumber [c]) := by
  have noSpace : ¬ isSpace c = true := by
    intro space
    simp only [isSpace, Bool.or_eq_true, beq_iff_eq] at space
    rcases space with ((rfl | rfl) | rfl) | rfl <;> exact absurd starts (by decide)
  have noMark : c ≠ '"' := by
    rintro rfl
    exact absurd starts (by decide)
  rw [start?, if_neg noSpace, if_neg noMark, if_pos starts]

theorem startsNumber_of_mem_head?_text
    {n : Number} {c : Char}
    (head : n.text.head? = some c) :
    startsNumber c = true := by
  cases negative : n.negative with
  | true =>
      rw [Number.text, negative] at head
      obtain rfl : '-' = c := Option.some.inj head
      decide
  | false =>
      cases digits : Nat.toDigits 10 n.whole with
      | nil => exact absurd digits Nat.toDigits_ne_nil
      | cons first others =>
          have digit : first.isDigit = true := by
            apply isDigit_of_mem_toDigits (n := n.whole)
            rw [digits]
            exact List.mem_cons_self
          rw [Number.text, negative, digits] at head
          obtain rfl : first = c := Option.some.inj head
          simp only [startsNumber, digit, Bool.true_or]

theorem text_ne_nil
    (n : Number) :
    n.text ≠ [] := by
  intro empty
  rw [Number.text, List.append_eq_nil_iff, List.append_eq_nil_iff,
    List.append_eq_nil_iff] at empty
  exact Nat.toDigits_ne_nil empty.1.1.2

theorem scan?_number
    (n : Number) {rest : List Char}
    (ends : EndsToken rest) :
    scan? .between (n.text ++ rest) = (scan? .between rest).map (.number n :: ·) := by
  have allNumber : ∀ c ∈ n.text, isNumberChar c = true :=
    fun _ member => isNumberChar_of_mem_text member
  have read := Number.ofText?_text n
  have head : ∀ c, n.text.head? = some c → startsNumber c = true :=
    fun _ => startsNumber_of_mem_head?_text
  cases text : n.text with
  | nil => exact absurd text (text_ne_nil n)
  | cons first others =>
      rw [text] at allNumber read head
      have step : Scanner.between.step? first = some ([], .inNumber [first]) :=
        start?_of_startsNumber (head first rfl)
      have number : number? (others.reverse ++ [first]) = some (.number n) := by
        rw [number?, List.reverse_append, List.reverse_reverse, List.reverse_singleton,
          List.singleton_append, read, Option.map_some]
      rw [List.cons_append, scan?_of_step? step,
        scan?_numberChars _ _ _ fun c member => allNumber c (List.mem_cons_of_mem first member),
        scan?_inNumber number ends]

/-- A character that is written between quotation marks does not end the string. -/
theorem scan?_encodeChar
    (seen : List Char) (c : Char) (rest : List Char) :
    scan? (.inString seen) (Quoted.encodeChar c ++ rest) =
      scan? (.inString ((Quoted.encodeChar c).reverse ++ seen)) rest := by
  have hexadecimal : ∀ value : Fin 16, hexChar value ≠ '"' ∧ hexChar value ≠ '\\' := by
    decide
  have escape (seen : List Char) (letter : Char) (rest : List Char) :
      scan? (.inString seen) ('\\' :: letter :: rest) =
        scan? (.inString (letter :: '\\' :: seen)) rest := by
    have enter : (Scanner.inString seen).step? '\\' = some ([], .inEscape ('\\' :: seen)) := rfl
    have leave :
        (Scanner.inEscape ('\\' :: seen)).step? letter =
          some ([], .inString (letter :: '\\' :: seen)) := rfl
    rw [scan?_of_step? enter, scan?_of_step? leave]
  have plain (seen : List Char) (c : Char) (rest : List Char) (noMark : c ≠ '"')
      (noBackslash : c ≠ '\\') :
      scan? (.inString seen) (c :: rest) = scan? (.inString (c :: seen)) rest := by
    apply scan?_of_step?
    rw [step?, if_neg noMark, if_neg noBackslash]
  unfold Quoted.encodeChar
  split
  iterate 7 exact escape _ _ _
  split
  · rw [Quoted.controlEscape]
    refine (escape _ _ _).trans ((plain _ _ _ (by decide) (by decide)).trans
      ((plain _ _ _ (by decide) (by decide)).trans ?_))
    exact (plain _ _ _ (hexadecimal _).1 (hexadecimal _).2).trans
      (plain _ _ _ (hexadecimal _).1 (hexadecimal _).2)
  · rename_i noMark noBackslash _ _ _ _ _ _
    exact plain _ _ _ noMark noBackslash

theorem scan?_encode
    (seen text rest : List Char) :
    scan? (.inString seen) (Quoted.encode text ++ rest) =
      scan? (.inString ((Quoted.encode text).reverse ++ seen)) rest := by
  induction text generalizing seen with
  | nil => rfl
  | cons c text inductionHypothesis =>
      have unfolded : Quoted.encode (c :: text) = Quoted.encodeChar c ++ Quoted.encode text :=
        List.flatMap_cons
      rw [unfolded, List.append_assoc, scan?_encodeChar, inductionHypothesis,
        List.reverse_append, List.append_assoc]

theorem scan?_string
    (text rest : List Char) :
    scan? .between ('"' :: Quoted.encode text ++ ['"'] ++ rest) =
      (scan? .between rest).map (.string (Quoted.encode text) :: ·) := by
  have string : string? (Quoted.encode text).reverse = some (.string (Quoted.encode text)) := by
    rw [string?, List.reverse_reverse, Quoted.isQuoted_encode, if_pos rfl]
  have enter : Scanner.between.step? '"' = some ([], .inString []) := rfl
  rw [List.append_assoc, List.cons_append, scan?_of_step? enter, scan?_encode,
    List.append_nil, List.singleton_append, scan?, step?, if_pos rfl, string]
  rfl

/-! ## Tokens of values -/

theorem endsToken_elementTokens
    (values : List Json) {rest : List Char}
    (ends : EndsToken rest) :
    EndsToken ((elementTokens values).flatMap Token.chars ++ rest) := by
  cases values with
  | nil => exact ends
  | cons value values => exact endsToken_cons _ (by decide) (by decide)

theorem endsToken_memberTokens
    (members : List (String × Json)) {rest : List Char}
    (ends : EndsToken rest) :
    EndsToken ((memberTokens members).flatMap Token.chars ++ rest) := by
  cases members with
  | nil => exact ends
  | cons member members => exact endsToken_cons _ (by decide) (by decide)

mutual

theorem scan?_tokens
    (value : Json) {rest : List Char}
    (ends : EndsToken rest) :
    scan? .between (value.tokens.flatMap Token.chars ++ rest) =
      (scan? .between rest).map (value.tokens ++ ·) := by
  match value with
  | .null =>
      rw [tokens, List.flatMap_singleton]
      exact scan?_word rfl rfl rfl ends
  | .bool true =>
      rw [tokens, List.flatMap_singleton]
      exact scan?_word rfl rfl rfl ends
  | .bool false =>
      rw [tokens, List.flatMap_singleton]
      exact scan?_word rfl rfl rfl ends
  | .number n =>
      rw [tokens, List.flatMap_singleton]
      exact scan?_number n ends
  | .string text =>
      rw [tokens, List.flatMap_singleton]
      exact scan?_string text.toList rest
  | .array [] =>
      rw [tokens, List.flatMap_cons, List.flatMap_singleton, List.append_assoc]
      refine (scan?_mark .leftBracket rfl _).trans ?_
      refine (congrArg _ (scan?_mark .rightBracket rfl rest)).trans ?_
      cases scan? .between rest <;> rfl
  | .array (value :: values) =>
      have written :
          (tokens (.array (value :: values))).flatMap Token.chars ++ rest =
            '[' :: ((tokens value).flatMap Token.chars ++
              ((elementTokens values).flatMap Token.chars ++ ']' :: rest)) := by
        simp [tokens, Token.chars]
      have endsHere : EndsToken (']' :: rest) := endsToken_cons rest (by decide) (by decide)
      rw [written, scan?_mark .leftBracket rfl,
        scan?_tokens value (endsToken_elementTokens values endsHere),
        scan?_elementTokens values endsHere, scan?_mark .rightBracket rfl]
      cases scan? .between rest <;> simp [tokens]
  | .object [] =>
      rw [tokens, List.flatMap_cons, List.flatMap_singleton, List.append_assoc]
      refine (scan?_mark .leftBrace rfl _).trans ?_
      refine (congrArg _ (scan?_mark .rightBrace rfl rest)).trans ?_
      cases scan? .between rest <;> rfl
  | .object ((name, value) :: members) =>
      have written :
          (tokens (.object ((name, value) :: members))).flatMap Token.chars ++ rest =
            '{' :: ('"' :: Quoted.encode name.toList ++ ['"'] ++
              (':' :: ((tokens value).flatMap Token.chars ++
                ((memberTokens members).flatMap Token.chars ++ '}' :: rest)))) := by
        simp [tokens, Token.chars]
      have endsHere : EndsToken ('}' :: rest) := endsToken_cons rest (by decide) (by decide)
      rw [written, scan?_mark .leftBrace rfl, scan?_string,
        scan?_mark .colon rfl,
        scan?_tokens value (endsToken_memberTokens members endsHere),
        scan?_memberTokens members endsHere, scan?_mark .rightBrace rfl]
      cases scan? .between rest <;> simp [tokens]

theorem scan?_elementTokens
    (values : List Json) {rest : List Char}
    (ends : EndsToken rest) :
    scan? .between ((elementTokens values).flatMap Token.chars ++ rest) =
      (scan? .between rest).map (elementTokens values ++ ·) := by
  match values with
  | [] => exact (map_nil_append _).symm
  | value :: values =>
      have written :
          (elementTokens (value :: values)).flatMap Token.chars ++ rest =
            ',' :: ((tokens value).flatMap Token.chars ++
              ((elementTokens values).flatMap Token.chars ++ rest)) := by
        simp [elementTokens, Token.chars]
      rw [written, scan?_mark .comma rfl,
        scan?_tokens value (endsToken_elementTokens values ends),
        scan?_elementTokens values ends]
      cases scan? .between rest <;> simp [elementTokens]

theorem scan?_memberTokens
    (members : List (String × Json)) {rest : List Char}
    (ends : EndsToken rest) :
    scan? .between ((memberTokens members).flatMap Token.chars ++ rest) =
      (scan? .between rest).map (memberTokens members ++ ·) := by
  match members with
  | [] => exact (map_nil_append _).symm
  | (name, value) :: members =>
      have written :
          (memberTokens ((name, value) :: members)).flatMap Token.chars ++ rest =
            ',' :: ('"' :: Quoted.encode name.toList ++ ['"'] ++
              (':' :: ((tokens value).flatMap Token.chars ++
                ((memberTokens members).flatMap Token.chars ++ rest)))) := by
        simp [memberTokens, Token.chars]
      rw [written, scan?_mark .comma rfl, scan?_string,
        scan?_mark .colon rfl,
        scan?_tokens value (endsToken_memberTokens members ends),
        scan?_memberTokens members ends]
      cases scan? .between rest <;> simp [memberTokens]

end

end Scanner

/-- The tokens of the text of a value are those of the value. -/
theorem ofText?_tokens
    (value : Json) :
    Token.ofText? (value.tokens.flatMap Token.chars) = some value.tokens := by
  have scanned := Scanner.scan?_tokens value Scanner.endsToken_nil
  rw [List.append_nil] at scanned
  rw [Token.ofText?, scanned, Scanner.scan?, Scanner.finish?, Option.map_some,
    List.append_nil]

/-! ## Documents of tokens -/

namespace Reader

/-- No document starts with the end of an array. -/
theorem foldlM_expectFirstElement
    (value : Json) (outer : List Frame) (more : List Token) :
    (value.tokens ++ more).foldlM step? (.expectFirstElement outer) =
      (value.tokens ++ more).foldlM step? (.expectDocument (.array [] :: outer)) := by
  match value with
  | .null => rfl
  | .bool _ => rfl
  | .number _ => rfl
  | .string _ => rfl
  | .array [] => rfl
  | .array (_ :: _) => rfl
  | .object [] => rfl
  | .object ((_, _) :: _) => rfl

mutual

/-- The tokens of a value complete its document. -/
theorem foldlM_tokens
    (value : Json) (outer : List Frame) (more : List Token) :
    (value.tokens ++ more).foldlM step? (.expectDocument outer) =
      more.foldlM step? (complete value.document outer) := by
  match value with
  | .null => rfl
  | .bool _ => rfl
  | .number _ => rfl
  | .string _ => rfl
  | .array [] => rfl
  | .array (value :: values) =>
      simp only [tokens, List.cons_append, List.append_assoc, List.foldlM_cons, step?,
        start?, Option.bind_eq_bind, Option.bind_some]
      rw [foldlM_expectFirstElement, foldlM_tokens value, complete,
        foldlM_elementTokens values]
      simp only [List.cons_append, List.nil_append, List.foldlM_cons, step?,
        Option.bind_eq_bind, Option.bind_some, List.reverse_append, List.reverse_reverse,
        List.reverse_singleton, document, elementDocuments]
  | .object [] => rfl
  | .object ((name, value) :: members) =>
      simp only [tokens, List.cons_append, List.append_assoc, List.foldlM_cons, step?,
        start?, Option.bind_eq_bind, Option.bind_some]
      rw [foldlM_tokens value, complete, foldlM_memberTokens members]
      simp only [List.cons_append, List.nil_append, List.foldlM_cons, step?,
        Option.bind_eq_bind, Option.bind_some, List.reverse_append, List.reverse_reverse,
        List.reverse_singleton, document, memberDocuments]

theorem foldlM_elementTokens
    (values : List Json) (before : List Document) (outer : List Frame) (more : List Token) :
    (elementTokens values ++ more).foldlM step? (.expectNextElement before outer) =
      more.foldlM step?
        (.expectNextElement ((elementDocuments values).reverse ++ before) outer) := by
  match values with
  | [] => rfl
  | value :: values =>
      simp only [elementTokens, List.cons_append, List.append_assoc, List.foldlM_cons, step?,
        Option.bind_eq_bind, Option.bind_some]
      rw [foldlM_tokens value, complete, foldlM_elementTokens values, elementDocuments,
        List.reverse_cons, List.append_assoc, List.singleton_append]

theorem foldlM_memberTokens
    (members : List (String × Json)) (before : List (List Char × Document))
    (outer : List Frame) (more : List Token) :
    (memberTokens members ++ more).foldlM step? (.expectNextMember before outer) =
      more.foldlM step?
        (.expectNextMember ((memberDocuments members).reverse ++ before) outer) := by
  match members with
  | [] => rfl
  | (name, value) :: members =>
      simp only [memberTokens, List.cons_append, List.append_assoc, List.foldlM_cons, step?,
        Option.bind_eq_bind, Option.bind_some]
      rw [foldlM_tokens value, complete, foldlM_memberTokens members, memberDocuments,
        List.reverse_cons, List.append_assoc, List.singleton_append]

end

end Reader

/-- The tokens of a value make up its document. -/
theorem ofTokens?_tokens
    (value : Json) :
    Document.ofTokens? value.tokens = some value.document := by
  have read := Reader.foldlM_tokens value [] []
  rw [List.append_nil] at read
  rw [Document.ofTokens?, read]
  rfl

/-- The text of a value makes up its document. -/
theorem ofText?_write
    (value : Json) :
    Document.ofText? value.write = some value.document := by
  rw [Document.ofText?, write, String.toList_ofList, ofText?_tokens]
  exact ofTokens?_tokens value

/-! ## Values of documents -/

namespace Document

mutual

/-- The document of a value stands for it. -/
theorem value?_document
    (value : Json) :
    value.document.value? = some value := by
  match value with
  | .null => rfl
  | .bool _ => rfl
  | .number _ => rfl
  | .string text => rw [document, value?, Quoted.text?_encode, Option.map_some]
  | .array elements => rw [document, value?, elementValues?_documents, Option.map_some]
  | .object members => rw [document, value?, memberValues?_documents, Option.map_some]

theorem elementValues?_documents
    (values : List Json) :
    elementValues? (elementDocuments values) = some values := by
  match values with
  | [] => rfl
  | value :: values =>
      rw [elementDocuments, elementValues?, value?_document, elementValues?_documents]
      rfl

theorem memberValues?_documents
    (members : List (String × Json)) :
    memberValues? (memberDocuments members) = some members := by
  match members with
  | [] => rfl
  | (name, value) :: members =>
      rw [memberDocuments, memberValues?, Quoted.text?_encode, value?_document,
        memberValues?_documents]
      rfl

end

end Document

/-- A value that is not nested too deeply is read from its text. -/
theorem read?_write
    {value : Json}
    (shallow : value.depth ≤ maxNesting) :
    read? value.write = some value := by
  rw [read?, ofText?_write]
  simp only [Option.bind_eq_bind, Option.bind_some, Document.value?_document, if_pos shallow]

end TableBooking.Json
