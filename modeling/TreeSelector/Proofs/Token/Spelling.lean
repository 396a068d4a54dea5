import TreeSelector.Proofs.Token.Emission

/-!
# How tokens are spelled

A token stands in a text as a run of characters: a blank as any run of white
space, every other token as its own text. This module says exactly when a text
is read as a given row of tokens (`tokenize_eq_ok_iff`): the tokens are spelled
one behind the other, each is one that the mode there gives (`Mode.Gives`), and
behind each stands no character that would have continued it
(`Token.continues`).

The proof is one statement about the front of a text, in both directions:
`lex_of_read` for a spelled token, `exists_read_of_lex_ok` for a token that the
scanner reads.
-/

set_option autoImplicit false

namespace TreeSelector

/-! ## Runs of characters -/

/-- The text does not go on with a character of the class. -/
def Stops (accept : Char → Bool) (rest : List Char) : Prop :=
  ∀ c ∈ rest.head?, accept c = false

theorem stops_nil (accept : Char → Bool) : Stops accept [] := by
  simp [Stops]

theorem stops_cons {accept : Char → Bool} {c : Char} {rest : List Char} :
    Stops accept (c :: rest) ↔ accept c = false := by
  simp [Stops]

theorem stops_dropWhile (accept : Char → Bool) (text : List Char) :
    Stops accept (text.dropWhile accept) := by
  intro c first
  have refused := List.head?_dropWhile_not accept text
  rw [Option.mem_def.mp first] at refused
  simpa using refused

theorem takeWhile_eq_nil_of_stops {accept : Char → Bool} {rest : List Char}
    (stops : Stops accept rest) : rest.takeWhile accept = [] := by
  cases rest with
  | nil => rfl
  | cons c rest => rw [List.takeWhile_cons, stops_cons.mp stops]; rfl

theorem dropWhile_eq_self_of_stops {accept : Char → Bool} {rest : List Char}
    (stops : Stops accept rest) : rest.dropWhile accept = rest := by
  cases rest with
  | nil => rfl
  | cons c rest => rw [List.dropWhile_cons, stops_cons.mp stops]; rfl

/-- A run of accepted characters that stops is taken as a whole. -/
theorem takeWhile_append_of_stops {accept : Char → Bool} {run rest : List Char}
    (accepted : ∀ c ∈ run, accept c = true) (stops : Stops accept rest) :
    (run ++ rest).takeWhile accept = run := by
  rw [List.takeWhile_append_of_pos accepted, takeWhile_eq_nil_of_stops stops, List.append_nil]

theorem accept_of_mem_takeWhile {accept : Char → Bool} {text : List Char} {c : Char}
    (member : c ∈ text.takeWhile accept) : accept c = true :=
  List.all_eq_true.mp List.all_takeWhile c member

/-! ## The texts of tokens -/

/-- A letter or underscore, and any number of identifier characters behind it. -/
def isIdentifier (name : String) : Bool :=
  match name.toList with
  | [] => false
  | c :: rest => isIdentifierStart c && rest.all isIdentifierCharacter

/-- Characters other than quotes and the closing bracket, the first of them no
white space. -/
def isLiteral (text : String) : Bool :=
  match text.toList with
  | [] => false
  | c :: rest => !Unicode.isWhiteSpace c && (c :: rest).all isLiteralCharacter

/-- A quote, any characters other than that quote, and the quote again. -/
def IsQuoted (text : String) : Prop :=
  ∃ quote body, isQuote quote = true ∧ quote ∉ body ∧ text.toList = quote :: body ++ [quote]

theorem isIdentifier_iff {name : String} :
    isIdentifier name = true ↔
      ∃ c rest, name.toList = c :: rest ∧ isIdentifierStart c = true ∧
        ∀ d ∈ rest, isIdentifierCharacter d = true := by
  unfold isIdentifier
  cases name.toList with
  | nil => simp
  | cons c rest => simp [and_assoc]

theorem isLiteral_iff {text : String} :
    isLiteral text = true ↔
      ∃ c rest, text.toList = c :: rest ∧ Unicode.isWhiteSpace c = false ∧
        ∀ d ∈ c :: rest, isLiteralCharacter d = true := by
  unfold isLiteral
  cases text.toList with
  | nil => simp
  | cons c rest => simp [and_assoc]

/-! ### Classes of characters that have nothing in common -/

theorem isWhiteSpace_char_eq_false (sign : Sign) : Unicode.isWhiteSpace sign.char = false := by
  cases sign <;> decide +kernel

theorem isIdentifierCharacter_char_eq_false (sign : Sign) :
    isIdentifierCharacter sign.char = false := by
  cases sign <;> decide +kernel

theorem isWhiteSpace_eq_false_of_isIdentifierStart {c : Char}
    (start : isIdentifierStart c = true) : Unicode.isWhiteSpace c = false := by
  rw [← Bool.not_eq_true]
  intro blank
  have other := isIdentifierCharacter_eq_false_of_isWhiteSpace blank
  rw [isIdentifierCharacter_of_isIdentifierStart start] at other
  cases other

theorem ofChar?_eq_none_of_isIdentifierStart {c : Char} (start : isIdentifierStart c = true) :
    Sign.ofChar? c = none := by
  cases sign : Sign.ofChar? c with
  | none => rfl
  | some sign' =>
      obtain rfl := Sign.ofChar?_eq_some_iff.mp sign
      have other := isIdentifierCharacter_char_eq_false sign'
      rw [isIdentifierCharacter_of_isIdentifierStart start] at other
      cases other

theorem isWhiteSpace_eq_false_of_isQuote {c : Char} (quote : isQuote c = true) :
    Unicode.isWhiteSpace c = false := by
  simp only [isQuote, Bool.or_eq_true, decide_eq_true_eq] at quote
  rcases quote with rfl | rfl <;> decide +kernel

theorem ne_rightBracket_of_isQuote {c : Char} (quote : isQuote c = true) : c ≠ ']' := by
  rintro rfl
  exact absurd quote (by decide)

theorem isLiteralCharacter_eq_false_of_isQuote {c : Char} (quote : isQuote c = true) :
    isLiteralCharacter c = false := by
  simp [isLiteralCharacter, quote]

/-! ## The tokens of a mode -/

/-- The mode behind a token. -/
def Mode.after : Mode → Token → Mode
  | _, .sign .equals => .value
  | _, .sign .rightBracket => .plain
  | mode, _ => mode

/-- The tokens that are read in a mode, with the texts that they can have. -/
def Mode.Gives : Mode → Token → Prop
  | _, .blank => True
  | .plain, .sign _ => True
  | .plain, .identifier name => isIdentifier name = true
  | .value, .sign mark => mark = .rightBracket
  | .value, .literal text => isLiteral text = true
  | .value, .quoted text => IsQuoted text
  | _, _ => False

theorem Mode.gives_identifier_iff {mode : Mode} {name : String} :
    mode.Gives (.identifier name) ↔ mode = .plain ∧ isIdentifier name = true := by
  cases mode <;> simp [Gives]

theorem Mode.gives_literal_iff {mode : Mode} {text : String} :
    mode.Gives (.literal text) ↔ mode = .value ∧ isLiteral text = true := by
  cases mode <;> simp [Gives]

theorem Mode.gives_quoted_iff {mode : Mode} {text : String} :
    mode.Gives (.quoted text) ↔ mode = .value ∧ IsQuoted text := by
  cases mode <;> simp [Gives]

/-- The end token is none of the tokens of a mode. -/
theorem Mode.not_gives_endOfInput (mode : Mode) : ¬ mode.Gives .endOfInput := by
  cases mode <;> exact id

namespace Token

/-- The characters that continue a token: in a text, none of them stands behind it. -/
def continues : Token → Char → Bool
  | .identifier _ => isIdentifierCharacter
  | .literal _ => isLiteralCharacter
  | .blank => Unicode.isWhiteSpace
  | _ => fun _ => false

/-- The text of a token. A blank is a single space. -/
def spelling : Token → List Char
  | .sign mark => [mark.char]
  | .identifier text | .literal text | .quoted text => text.toList
  | .blank => [' ']
  | .endOfInput => []

/-- Whether the characters are read as the token: for a blank, any run of white
space. -/
def SpelledBy (token : Token) (covered : List Char) : Prop :=
  match token with
  | .blank => covered ≠ [] ∧ ∀ c ∈ covered, Unicode.isWhiteSpace c = true
  | token => covered = token.spelling

end Token

/-- The covered characters spell a token of the mode, and nothing behind them
continues it. -/
structure Read (mode : Mode) (token : Token) (covered rest : List Char) : Prop where
  gives : mode.Gives token
  spelled : token.SpelledBy covered
  stops : Stops token.continues rest

/-- The spelling of a token other than a blank does not begin with white space. -/
theorem Mode.Gives.exists_spelling_eq_cons {mode : Mode} {token : Token} (gives : mode.Gives token)
    (notBlank : token ≠ .blank) :
    ∃ c run, token.spelling = c :: run ∧ Unicode.isWhiteSpace c = false := by
  cases token with
  | blank => exact absurd rfl notBlank
  | sign mark => exact ⟨mark.char, [], rfl, isWhiteSpace_char_eq_false mark⟩
  | identifier name =>
      obtain ⟨c, run, whole, start, -⟩ := isIdentifier_iff.mp (gives_identifier_iff.mp gives).2
      exact ⟨c, run, whole, isWhiteSpace_eq_false_of_isIdentifierStart start⟩
  | literal text =>
      obtain ⟨c, run, whole, first, -⟩ := isLiteral_iff.mp (gives_literal_iff.mp gives).2
      exact ⟨c, run, whole, first⟩
  | quoted text =>
      obtain ⟨quote, body, isQuote, -, whole⟩ := (gives_quoted_iff.mp gives).2
      exact ⟨quote, body ++ [quote], whole, isWhiteSpace_eq_false_of_isQuote isQuote⟩
  | endOfInput => exact absurd gives mode.not_gives_endOfInput

theorem Token.SpelledBy.eq_spelling {token : Token} {covered : List Char}
    (spelled : token.SpelledBy covered) (notBlank : token ≠ .blank) : covered = token.spelling := by
  cases token with
  | blank => exact absurd rfl notBlank
  | sign | identifier | literal | quoted | endOfInput => exact spelled

/-- No token of a mode is spelled by nothing. -/
theorem Read.covered_ne_nil {mode : Mode} {token : Token} {covered rest : List Char}
    (front : Read mode token covered rest) : covered ≠ [] := by
  by_cases blank : token = .blank
  · subst blank
    exact front.spelled.1
  · obtain ⟨c, run, whole, -⟩ := front.gives.exists_spelling_eq_cons blank
    rw [front.spelled.eq_spelling blank, whole]
    exact List.cons_ne_nil c run

/-! ## The front of a text -/

theorem lex_append_blank {mode : Mode} {covered rest : List Char}
    (spelled : Token.SpelledBy .blank covered) (stops : Stops Unicode.isWhiteSpace rest)
    (position : Nat) : lex mode position (covered ++ rest) = ⟨covered, .ok .blank, mode⟩ := by
  obtain ⟨some, blank⟩ := spelled
  obtain ⟨c, run, rfl⟩ := List.exists_cons_of_ne_nil some
  have taken : (run ++ rest).takeWhile Unicode.isWhiteSpace = run :=
    takeWhile_append_of_stops (fun d member => blank d (List.mem_cons_of_mem c member)) stops
  simp [lex, blank c List.mem_cons_self, taken]

theorem lex_plain_sign (sign : Sign) (rest : List Char) (position : Nat) :
    lex .plain position (sign.char :: rest) =
      ⟨[sign.char], .ok (.sign sign), Mode.plain.after (.sign sign)⟩ := by
  simp only [lex, isWhiteSpace_char_eq_false, lexPlain, Sign.ofChar?_char]
  cases sign <;> rfl

theorem lex_plain_identifier {name : String} {rest : List Char}
    (identifier : isIdentifier name = true) (stops : Stops isIdentifierCharacter rest)
    (position : Nat) :
    lex .plain position (name.toList ++ rest) = ⟨name.toList, .ok (.identifier name), .plain⟩ := by
  obtain ⟨c, run, whole, start, more⟩ := isIdentifier_iff.mp identifier
  have taken : (run ++ rest).takeWhile isIdentifierCharacter = run :=
    takeWhile_append_of_stops more stops
  have same : String.ofList (c :: run) = name := by rw [← whole, String.ofList_toList]
  simp [lex, whole, isWhiteSpace_eq_false_of_isIdentifierStart start, lexPlain,
    ofChar?_eq_none_of_isIdentifierStart start, start, taken, same]

theorem lex_value_rightBracket (rest : List Char) (position : Nat) :
    lex .value position (']' :: rest) = ⟨[']'], .ok (.sign .rightBracket), .plain⟩ := by
  have notBlank : Unicode.isWhiteSpace ']' = false := isWhiteSpace_char_eq_false .rightBracket
  simp [lex, notBlank, lexValue]

theorem lex_value_literal {text : String} {rest : List Char} (literal : isLiteral text = true)
    (stops : Stops isLiteralCharacter rest) (position : Nat) :
    lex .value position (text.toList ++ rest) = ⟨text.toList, .ok (.literal text), .value⟩ := by
  obtain ⟨c, run, whole, notBlank, plain⟩ := isLiteral_iff.mp literal
  have first : isLiteralCharacter c = true := plain c List.mem_cons_self
  have notQuote : isQuote c = false := by
    rw [← Bool.not_eq_true]
    intro quote
    rw [isLiteralCharacter_eq_false_of_isQuote quote] at first
    cases first
  have notBracket : c ≠ ']' := by
    rintro rfl
    exact absurd first (by decide)
  have taken : (run ++ rest).takeWhile isLiteralCharacter = run :=
    takeWhile_append_of_stops (fun d member => plain d (List.mem_cons_of_mem c member)) stops
  have same : String.ofList (c :: run) = text := by rw [← whole, String.ofList_toList]
  simp [lex, whole, notBlank, lexValue, notBracket, notQuote, taken, same]

theorem lex_value_quoted {text : String} (quoted : IsQuoted text) (rest : List Char)
    (position : Nat) :
    lex .value position (text.toList ++ rest) = ⟨text.toList, .ok (.quoted text), .value⟩ := by
  obtain ⟨quote, body, isQuote, closed, whole⟩ := quoted
  have other : ∀ c ∈ body, (c != quote) = true := by
    intro c member
    simp only [bne_iff_ne]
    rintro rfl
    exact closed member
  have taken : (body ++ quote :: rest).takeWhile (· != quote) = body :=
    takeWhile_append_of_stops other (stops_cons.mpr (by simp))
  have dropped : (body ++ quote :: rest).dropWhile (· != quote) = quote :: rest := by
    rw [List.dropWhile_append_of_pos other]
    exact dropWhile_eq_self_of_stops (stops_cons.mpr (by simp))
  have same : String.ofList (quote :: (body ++ [quote])) = text := by
    rw [← List.cons_append, ← whole, String.ofList_toList]
  simp [lex, whole, isWhiteSpace_eq_false_of_isQuote isQuote, lexValue,
    ne_rightBracket_of_isQuote isQuote, isQuote, lexQuoted, taken, dropped, same]

/-- **A spelled token is read.** Where a token of the mode is spelled and nothing
behind it continues it, it is the front of the text. -/
theorem lex_of_read {mode : Mode} {token : Token} {covered rest : List Char}
    (front : Read mode token covered rest) (position : Nat) :
    lex mode position (covered ++ rest) = ⟨covered, .ok token, mode.after token⟩ := by
  obtain ⟨gives, spelled, stops⟩ := front
  cases token with
  | blank => exact lex_append_blank spelled stops position
  | sign mark =>
      obtain rfl : covered = [mark.char] := spelled
      cases mode with
      | plain => exact lex_plain_sign mark rest position
      | value =>
          obtain rfl : mark = .rightBracket := gives
          exact lex_value_rightBracket rest position
  | identifier name =>
      obtain rfl : covered = name.toList := spelled
      obtain ⟨rfl, identifier⟩ := Mode.gives_identifier_iff.mp gives
      exact lex_plain_identifier identifier stops position
  | literal text =>
      obtain rfl : covered = text.toList := spelled
      obtain ⟨rfl, literal⟩ := Mode.gives_literal_iff.mp gives
      exact lex_value_literal literal stops position
  | quoted text =>
      obtain rfl : covered = text.toList := spelled
      obtain ⟨rfl, quoted⟩ := Mode.gives_quoted_iff.mp gives
      exact lex_value_quoted quoted rest position
  | endOfInput => exact absurd gives mode.not_gives_endOfInput

theorem exists_read_of_lexQuoted_ok {position : Nat} {quote : Char} {rest : List Char}
    {token : Token} (isQuote : isQuote quote = true)
    (read : (lexQuoted position quote rest).outcome = .ok token) :
    ∃ covered later, quote :: rest = covered ++ later ∧ Read .value token covered later := by
  unfold lexQuoted at read
  split at read
  · cases read
  · rename_i closing later found
    obtain rfl := Except.ok.inj read
    have same : closing = quote := by
      have refused := List.head?_dropWhile_not (· != quote) rest
      rw [found] at refused
      simpa using refused
    subst same
    have parts := List.takeWhile_append_dropWhile (p := (· != closing)) (l := rest)
    rw [found] at parts
    refine ⟨closing :: rest.takeWhile (· != closing) ++ [closing], later, ?_, ?_, ?_, ?_⟩
    · simp [parts]
    · refine ⟨closing, rest.takeWhile (· != closing), isQuote, fun member => ?_, by simp⟩
      simpa using accept_of_mem_takeWhile member
    · simp [Token.SpelledBy, Token.spelling]
    · intro c _
      rfl

/-- **A token that is read is spelled.** The front of a text is read as a token
only where a token of the mode is spelled and nothing behind it continues it. -/
theorem exists_read_of_lex_ok {mode : Mode} {position : Nat} {text : List Char} {token : Token}
    (more : text ≠ []) (read : (lex mode position text).outcome = .ok token) :
    ∃ covered rest, text = covered ++ rest ∧ Read mode token covered rest := by
  obtain ⟨c, rest, rfl⟩ := List.exists_cons_of_ne_nil more
  have parts (accept : Char → Bool) :
      c :: rest = (c :: rest.takeWhile accept) ++ rest.dropWhile accept := by simp
  simp only [lex] at read
  split at read
  next blank =>
    obtain rfl := Except.ok.inj read
    refine ⟨_, _, parts Unicode.isWhiteSpace, trivial, ⟨by simp, ?_⟩, stops_dropWhile _ _⟩
    intro d member
    rcases List.mem_cons.mp member with rfl | member
    · exact blank
    · exact accept_of_mem_takeWhile member
  next notBlank =>
    cases mode with
    | plain =>
        simp only [lexPlain] at read
        have signRead (sign : Sign) (found : Sign.ofChar? c = some sign) :
            ∃ covered later,
              c :: rest = covered ++ later ∧ Read .plain (.sign sign) covered later := by
          obtain rfl := Sign.ofChar?_eq_some_iff.mp found
          exact ⟨[sign.char], rest, rfl, trivial, rfl, fun _ _ => rfl⟩
        split at read
        next found =>
          obtain rfl := Except.ok.inj read
          exact signRead _ found
        next sign _ found =>
          obtain rfl := Except.ok.inj read
          exact signRead sign found
        next =>
          split at read
          next start =>
            obtain rfl := Except.ok.inj read
            refine ⟨_, _, parts isIdentifierCharacter, ?_, ?_, stops_dropWhile _ _⟩
            · exact isIdentifier_iff.mpr ⟨c, rest.takeWhile isIdentifierCharacter, by simp, start,
                fun d member => accept_of_mem_takeWhile member⟩
            · simp [Token.SpelledBy, Token.spelling]
          next => cases read
    | value =>
        simp only [lexValue] at read
        split at read
        next bracket =>
          obtain rfl := Except.ok.inj read
          subst bracket
          exact ⟨[']'], rest, rfl, rfl, rfl, fun _ _ => rfl⟩
        next notBracket =>
          split at read
          next quote => exact exists_read_of_lexQuoted_ok quote read
          next notQuote =>
            obtain rfl := Except.ok.inj read
            have first : isLiteralCharacter c = true := by
              simp [isLiteralCharacter, notQuote, notBracket]
            refine ⟨_, _, parts isLiteralCharacter, ?_, ?_, stops_dropWhile _ _⟩
            · refine isLiteral_iff.mpr ⟨c, rest.takeWhile isLiteralCharacter, by simp,
                by simpa using notBlank, fun d member => ?_⟩
              rcases List.mem_cons.mp member with rfl | member
              · exact first
              · exact accept_of_mem_takeWhile member
            · simp [Token.SpelledBy, Token.spelling]

/-! ## Spelled rows of tokens -/

/-- A text that spells a row of tokens, from a mode on. -/
inductive Spelled : Mode → List Token → List Char → Prop where
  | nil (mode : Mode) : Spelled mode [] []
  | cons {mode : Mode} {token : Token} {covered : List Char} {tokens : List Token}
      {rest : List Char} (front : Read mode token covered rest)
      (later : Spelled (mode.after token) tokens rest) :
      Spelled mode (token :: tokens) (covered ++ rest)

namespace Scanner

/-- The scanner behind a token that is read at its front. -/
theorem advance_of_read {mode : Mode} {token : Token} {covered rest : List Char}
    (front : Read mode token covered rest) (position : Nat) :
    (⟨covered ++ rest, position, mode⟩ : Scanner).advance =
      ⟨rest, position + covered.length, mode.after token⟩ := by
  simp [advance, lexeme, lex_of_read front]

theorem emission_of_read {mode : Mode} {token : Token} {covered rest : List Char}
    (front : Read mode token covered rest) (position : Nat) :
    (⟨covered ++ rest, position, mode⟩ : Scanner).emission =
      .cons token
        (⟨rest, position + covered.length, mode.after token⟩ : Scanner).emission := by
  have some : covered ≠ [] := front.covered_ne_nil
  have more : covered ++ rest ≠ [] := by simp [some]
  have read : (⟨covered ++ rest, position, mode⟩ : Scanner).lexeme.outcome = .ok token := by
    simp [lexeme, lex_of_read front]
  rw [emission_of_outcome_ok more read, advance_of_read front]

theorem emission_of_spelled {mode : Mode} {tokens : List Token} {text : List Char}
    (spelled : Spelled mode tokens text) (position : Nat) :
    (⟨text, position, mode⟩ : Scanner).emission = ⟨tokens ++ [.endOfInput], none⟩ := by
  induction spelled generalizing position with
  | nil mode => exact emission_of_rest_nil rfl
  | cons front later ih => rw [emission_of_read front, ih, Emission.cons, List.cons_append]

theorem spelled_of_emission {scanner : Scanner} {tokens : List Token}
    (emitted : scanner.emission = ⟨tokens ++ [.endOfInput], none⟩) :
    Spelled scanner.mode tokens scanner.rest := by
  induction scanner using emission_induction generalizing tokens with
  | ended scanner ended =>
      rw [emission_of_rest_nil ended] at emitted
      obtain rfl : tokens = [] := by simpa using congrArg Emission.tokens emitted
      rw [ended]
      exact .nil scanner.mode
  | failed scanner error failed =>
      rw [emission_of_outcome_error failed] at emitted
      cases congrArg Emission.failure emitted
  | read scanner token more read ih =>
      obtain ⟨covered, rest, whole, front⟩ := exists_read_of_lex_ok more read
      obtain ⟨text, position, mode⟩ := scanner
      simp only at whole front
      subst whole
      rw [advance_of_read front] at ih
      rw [emission_of_read front] at emitted
      cases tokens with
      | nil =>
          obtain rfl : token = .endOfInput := by
            simpa [Emission.cons] using congrArg (List.head? ∘ Emission.tokens) emitted
          exact absurd read (outcome_ne_endOfInput more)
      | cons first later =>
          simp only [Emission.cons, List.cons_append, Emission.mk.injEq, List.cons.injEq] at emitted
          obtain ⟨⟨rfl, tail⟩, none⟩ := emitted
          exact .cons front (ih (by rw [← tail, ← none]))

end Scanner

/-- **Exactly the spelled rows of tokens are read.** -/
theorem tokenize_eq_ok_iff {text : String} {tokens : List Token} :
    tokenize text = .ok (tokens ++ [.endOfInput]) ↔ Spelled .plain tokens text.toList := by
  rw [tokenize_eq_ok_iff_emission]
  constructor
  · intro emitted
    exact Scanner.spelled_of_emission emitted
  · intro spelled
    exact Scanner.emission_of_spelled spelled 0

end TreeSelector
