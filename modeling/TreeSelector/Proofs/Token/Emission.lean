import TreeSelector.Token.Scanner

/-!
# What a scanner emits

A scanner that is asked for tokens until the text is at its end, or until it
meets characters that are no token, emits a row of tokens and perhaps an error
(`Scanner.emission`). `Scanner.tokens` keeps the row only when there is no error
(`tokens_eq_emission`); an error in a selector, however, may stand among the
tokens before it.

The end token closes the row of a text without an error, and stands nowhere else
(`exists_emission_eq_append`).
-/

set_option autoImplicit false

namespace TreeSelector

/-- The tokens up to the end of a text or up to the first error, and that error. -/
structure Emission where
  tokens : List Token
  failure : Option LexicalError
  deriving DecidableEq

/-- The emission with one more token before it. -/
def Emission.cons (token : Token) (later : Emission) : Emission :=
  ⟨token :: later.tokens, later.failure⟩

/-! ## The end token -/

/-- Only the end of the text is read as the end token. -/
theorem lex_outcome_ne_endOfInput (mode : Mode) (position : Nat) (c : Char) (rest : List Char) :
    (lex mode position (c :: rest)).outcome ≠ .ok .endOfInput := by
  simp only [lex]
  split
  · simp
  · cases mode with
    | plain =>
        simp only [lexPlain]
        split
        · simp
        · simp
        · split <;> simp
    | value =>
        simp only [lexValue]
        split
        · simp
        · split
          · simp only [lexQuoted]
            split <;> simp
          · simp

namespace Scanner

theorem outcome_ne_endOfInput {scanner : Scanner} (more : scanner.rest ≠ []) :
    scanner.lexeme.outcome ≠ .ok .endOfInput := by
  obtain ⟨c, rest, whole⟩ := List.exists_cons_of_ne_nil more
  rw [lexeme, whole]
  exact lex_outcome_ne_endOfInput scanner.mode scanner.position c rest

theorem outcome_of_rest_nil {scanner : Scanner} (ended : scanner.rest = []) :
    scanner.lexeme.outcome = .ok .endOfInput := by
  rw [lexeme, ended]
  rfl

/-- Where there is an error, the text is not at its end. -/
theorem rest_ne_nil_of_outcome_error {scanner : Scanner} {error : LexicalError}
    (failed : scanner.lexeme.outcome = .error error) : scanner.rest ≠ [] := by
  intro ended
  rw [outcome_of_rest_nil ended] at failed
  cases failed

/-! ## The emission of a scanner -/

/-- What a scanner emits up to the end of its text or up to the first error. -/
def emission (scanner : Scanner) : Emission :=
  if _more : scanner.rest = [] then ⟨[.endOfInput], none⟩
  else
    match scanner.lexeme.outcome with
    | .error error => ⟨[], some error⟩
    | .ok token => .cons token scanner.advance.emission
  termination_by scanner.rest.length
  decreasing_by exact advance_rest_length_lt _more

theorem emission_of_rest_nil {scanner : Scanner} (ended : scanner.rest = []) :
    scanner.emission = ⟨[.endOfInput], none⟩ := by
  rw [emission, dif_pos ended]

theorem emission_of_outcome_error {scanner : Scanner} {error : LexicalError}
    (failed : scanner.lexeme.outcome = .error error) : scanner.emission = ⟨[], some error⟩ := by
  rw [emission, dif_neg (rest_ne_nil_of_outcome_error failed), failed]

theorem emission_of_outcome_ok {scanner : Scanner} {token : Token} (more : scanner.rest ≠ [])
    (read : scanner.lexeme.outcome = .ok token) :
    scanner.emission = .cons token scanner.advance.emission := by
  rw [emission, dif_neg more, read]

/-- **Induction along what a scanner emits**: the text is at its end, or its
front is an error, or its front is a token and the emission goes on behind it. -/
theorem emission_induction {motive : Scanner → Prop}
    (ended : ∀ scanner, scanner.rest = [] → motive scanner)
    (failed : ∀ scanner error, scanner.lexeme.outcome = .error error → motive scanner)
    (read : ∀ scanner token, scanner.rest ≠ [] → scanner.lexeme.outcome = .ok token →
      motive scanner.advance → motive scanner)
    (scanner : Scanner) : motive scanner := by
  by_cases more : scanner.rest = []
  · exact ended scanner more
  · cases outcome : scanner.lexeme.outcome with
    | error error => exact failed scanner error outcome
    | ok token =>
        exact read scanner token more outcome
          (emission_induction ended failed read scanner.advance)
  termination_by scanner.rest.length
  decreasing_by exact advance_rest_length_lt more

/-- The row of tokens is kept exactly when there is no error. -/
theorem tokens_eq_emission (scanner : Scanner) :
    scanner.tokens =
      match scanner.emission.failure with
      | some error => .error error
      | none => .ok scanner.emission.tokens := by
  induction scanner using emission_induction with
  | ended scanner ended => rw [tokens, dif_pos ended, emission_of_rest_nil ended]
  | failed scanner error failed =>
      rw [tokens, dif_neg (rest_ne_nil_of_outcome_error failed), emission_of_outcome_error failed,
        failed]
  | read scanner token more read ih =>
      rw [tokens, dif_neg more, emission_of_outcome_ok more read, read]
      simp only [ih, Emission.cons]
      cases scanner.advance.emission.failure <;> rfl

/-- The end token stands only at the end of the emission, and there exactly when
there is no error. -/
theorem exists_emission_eq_append (scanner : Scanner) :
    ∃ tokens, .endOfInput ∉ tokens ∧
      ((∃ error, scanner.emission = ⟨tokens, some error⟩) ∨
        scanner.emission = ⟨tokens ++ [.endOfInput], none⟩) := by
  induction scanner using emission_induction with
  | ended scanner ended => exact ⟨[], by simp, .inr (emission_of_rest_nil ended)⟩
  | failed scanner error failed =>
      exact ⟨[], by simp, .inl ⟨error, emission_of_outcome_error failed⟩⟩
  | read scanner token more read ih =>
      obtain ⟨later, absent, whole⟩ := ih
      have other : token ≠ .endOfInput := by
        rintro rfl
        exact outcome_ne_endOfInput more read
      refine ⟨token :: later, by simp [absent, Ne.symm other], ?_⟩
      rw [emission_of_outcome_ok more read]
      rcases whole with ⟨error, failed⟩ | complete
      · exact .inl ⟨error, by rw [failed, Emission.cons]⟩
      · exact .inr (by rw [complete, Emission.cons, List.cons_append])

end Scanner

/-- What the scanner emits for a text. -/
def emission (text : String) : Emission :=
  (Scanner.ofString text).emission

/-- A text has tokens when the scanner emits them without an error. -/
theorem tokenize_eq_ok_iff_emission {text : String} {tokens : List Token} :
    tokenize text = .ok tokens ↔ emission text = ⟨tokens, none⟩ := by
  rw [tokenize, Scanner.tokens_eq_emission, ← emission]
  cases whole : emission text with
  | mk emitted failure => cases failure <;> simp

/-- The end token only stands at the end. -/
theorem endOfInput_notMem_of_tokenize {text : String} {tokens : List Token}
    (read : tokenize text = .ok (tokens ++ [.endOfInput])) : .endOfInput ∉ tokens := by
  have emitted := tokenize_eq_ok_iff_emission.mp read
  obtain ⟨others, absent, ⟨error, whole⟩ | whole⟩ :=
    Scanner.exists_emission_eq_append (Scanner.ofString text)
  · rw [emission, whole] at emitted
    cases congrArg Emission.failure emitted
  · rw [emission, whole] at emitted
    have same := List.append_cancel_right (congrArg Emission.tokens emitted)
    rw [← same]
    exact absent

end TreeSelector
