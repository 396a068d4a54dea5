import TreeSelector.Proofs.Token.Spelling

/-!
# Texts that stand one behind the other

For a text behind another one a scanner emits the tokens of the first and then what it
emits for the second (`Scanner.emission_append`), as long as the second does not continue
the last token of the first. The second is read in the mode that the first leaves.

It is also read at the positions behind the first. Positions stand in lexical errors
alone: where a scanner begins further on, the error moves along with it
(`Scanner.emission_shift`).
-/

set_option autoImplicit false

namespace TreeSelector

/-! ## Positions -/

/-- The same characters, so many positions further on. -/
def LexicalError.shift (offset : Nat) : LexicalError → LexicalError
  | .unexpectedCharacter character position => .unexpectedCharacter character (position + offset)
  | .unterminatedString text position => .unterminatedString text (position + offset)

/-- The same tokens, and the error so many positions further on. -/
def Emission.shift (offset : Nat) (emission : Emission) : Emission :=
  ⟨emission.tokens, emission.failure.map (LexicalError.shift offset)⟩

/-- Where the text begins plays a part in its errors alone. -/
theorem lex_add (mode : Mode) (position offset : Nat) (text : List Char) :
    lex mode (position + offset) text =
      ⟨(lex mode position text).covered,
        (lex mode position text).outcome.mapError (LexicalError.shift offset),
        (lex mode position text).mode⟩ := by
  cases text with
  | nil => rfl
  | cons c rest =>
      simp only [lex]
      split
      · rfl
      · cases mode with
        | plain =>
            simp only [lexPlain]
            split
            · rfl
            · rfl
            · split <;> rfl
        | value =>
            simp only [lexValue]
            split
            · rfl
            · split
              · simp only [lexQuoted]
                split <;> rfl
              · rfl

namespace Scanner

/-- The same scanner, so many positions further on. -/
def shift (offset : Nat) (scanner : Scanner) : Scanner :=
  ⟨scanner.rest, scanner.position + offset, scanner.mode⟩

theorem outcome_shift (scanner : Scanner) (offset : Nat) :
    (scanner.shift offset).lexeme.outcome =
      scanner.lexeme.outcome.mapError (LexicalError.shift offset) := by
  rw [lexeme, shift, lex_add, lexeme]

theorem advance_shift (scanner : Scanner) (offset : Nat) :
    (scanner.shift offset).advance = scanner.advance.shift offset := by
  simp only [advance, lexeme, shift, lex_add, Nat.add_right_comm]

/-- **The tokens stay the same further on**, and the error moves along. -/
theorem emission_shift (scanner : Scanner) (offset : Nat) :
    (scanner.shift offset).emission = scanner.emission.shift offset := by
  induction scanner using emission_induction with
  | ended scanner ended =>
      have same : (scanner.shift offset).rest = [] := ended
      rw [emission_of_rest_nil ended, emission_of_rest_nil same]
      rfl
  | failed scanner error failed =>
      have moved : (scanner.shift offset).lexeme.outcome = .error (error.shift offset) := by
        rw [outcome_shift, failed]
        rfl
      rw [emission_of_outcome_error failed, emission_of_outcome_error moved]
      rfl
  | read scanner token more read ih =>
      have moved : (scanner.shift offset).lexeme.outcome = .ok token := by
        rw [outcome_shift, read]
        rfl
      have same : (scanner.shift offset).rest ≠ [] := more
      rw [emission_of_outcome_ok more read, emission_of_outcome_ok same moved, advance_shift, ih]
      rfl

end Scanner

/-! ## Rows that are continued -/

/-- Where no white space stands, no blank is read. -/
theorem Scanner.head?_emission_ne_blank {rest : List Char}
    (stops : Stops Unicode.isWhiteSpace rest) (position : Nat) (mode : Mode) :
    (⟨rest, position, mode⟩ : Scanner).emission.tokens.head? ≠ some .blank := by
  by_cases more : rest = []
  · rw [emission_of_rest_nil more]
    exact nofun
  · cases outcome : (⟨rest, position, mode⟩ : Scanner).lexeme.outcome with
    | error error =>
        rw [emission_of_outcome_error outcome]
        exact nofun
    | ok token =>
        rw [emission_of_outcome_ok more outcome]
        intro blank
        obtain rfl : token = .blank := Option.some.inj blank
        obtain ⟨covered, later, rfl, front⟩ := exists_read_of_lex_ok more outcome
        obtain ⟨c, run, rfl⟩ := List.exists_cons_of_ne_nil front.covered_ne_nil
        rw [List.cons_append, stops_cons, front.spelled.2 c List.mem_cons_self] at stops
        cases stops

/-- The emission with more tokens before it. -/
def Emission.prepend (tokens : List Token) (later : Emission) : Emission :=
  ⟨tokens ++ later.tokens, later.failure⟩

/-- Only nothing spells a row without a token. -/
theorem Spelled.tokens_eq_nil {mode : Mode} {tokens : List Token}
    (spelled : Spelled mode tokens []) : tokens = [] := by
  generalize text : ([] : List Char) = whole at spelled
  cases spelled with
  | nil => rfl
  | cons front later => exact absurd (List.append_eq_nil_iff.mp text.symm).1 front.covered_ne_nil

/-- A token is read alike when the text goes on without continuing the last token. -/
theorem Read.append {mode next : Mode} {token : Token} {tokens : List Token}
    {covered text rest : List Char} (front : Read mode token covered text)
    (later : Spelled next tokens text)
    (stops : ∀ last ∈ (token :: tokens).getLast?, Stops last.continues rest) :
    Read mode token covered (text ++ rest) := by
  refine ⟨front.gives, front.spelled, ?_⟩
  cases text with
  | nil =>
      obtain rfl := later.tokens_eq_nil
      exact stops token rfl
  | cons c text => exact front.stops

namespace Scanner

variable {mode : Mode} {tokens : List Token} {text rest : List Char}

/-- **A text that goes on behind spelled tokens** is read as these tokens, and then as what
follows, in the mode behind the tokens. -/
theorem emission_append (spelled : Spelled mode tokens text)
    (stops : ∀ last ∈ tokens.getLast?, Stops last.continues rest) (position : Nat) :
    (⟨text ++ rest, position, mode⟩ : Scanner).emission =
      .prepend tokens
        (⟨rest, position + text.length, tokens.foldl Mode.after mode⟩ : Scanner).emission := by
  induction spelled generalizing position with
  | nil => rfl
  | @cons mode token covered tokens text front later ih =>
      have stopsLater : ∀ last ∈ tokens.getLast?, Stops last.continues rest := by
        intro last final
        refine stops last ?_
        cases tokens with
        | nil => cases final
        | cons next tokens => rw [List.getLast?_cons_cons]; exact final
      rw [List.append_assoc, emission_of_read (front.append later stops), ih stopsLater,
        Nat.add_assoc, ← List.length_append, List.foldl_cons]
      rfl

end Scanner

/-- Two texts, one behind the other, spell the two rows of tokens. -/
theorem Spelled.append {mode : Mode} {tokens later : List Token} {text rest : List Char}
    (spelled : Spelled mode tokens text)
    (spelledLater : Spelled (tokens.foldl Mode.after mode) later rest)
    (stops : ∀ last ∈ tokens.getLast?, Stops last.continues rest) :
    Spelled mode (tokens ++ later) (text ++ rest) := by
  have emitted := Scanner.emission_append spelled stops 0
  rw [Scanner.emission_of_spelled spelledLater, Emission.prepend, ← List.append_assoc] at emitted
  exact Scanner.spelled_of_emission emitted

end TreeSelector
