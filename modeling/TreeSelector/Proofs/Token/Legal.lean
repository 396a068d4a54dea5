import Mathlib.Data.List.Chain
import TreeSelector.Proofs.Token.Squeeze

/-!
# Which rows of tokens a text can have

A row of tokens is legal when each of its tokens is one of the mode at its place and no two
neighbours run into each other: no identifier stands behind an identifier, neither a bare
value nor a blank behind a bare value, and no blank behind a blank (`Legal`). These are
exactly the rows that the scanner reads (`tokenize_spell_and_legal`): a legal row is read
back from its spelling, and every row that is read from a text is legal.

Each condition on neighbours stands for one way in which two tokens would be read as one.
The converse says that no other condition is missing: where the spelling of a token begins
with a character that continues the token before it, the two clash.
-/

set_option autoImplicit false

namespace TreeSelector

/-! ## Blanks apart -/

/-- The tokens do not follow each other as two blanks. -/
def Token.BlanksApart (token next : Token) : Prop :=
  token = .blank → next ≠ .blank

/-- Drawing the blanks together changes nothing when no blank follows another. -/
theorem squeeze_eq_self_iff {behindBlank : Bool} {tokens : List Token} :
    squeeze behindBlank tokens = tokens ↔
      (behindBlank = true → tokens.head? ≠ some .blank) ∧
        tokens.IsChain Token.BlanksApart := by
  induction tokens generalizing behindBlank with
  | nil => simp [squeeze]
  | cons token later ih =>
      constructor
      · intro squeezed
        obtain ⟨first, rest⟩ := of_squeeze_cons_eq squeezed
        obtain ⟨apart, chain⟩ := ih.mp rest
        refine ⟨?_, List.isChain_cons.mpr ⟨?_, chain⟩⟩
        · intro behind isBlank
          rw [first (Option.some.inj isBlank)] at behind
          cases behind
        · intro next isNext blank nextBlank
          refine apart (decide_eq_true blank) ?_
          rw [Option.mem_def.mp isNext, nextBlank]
      · rintro ⟨first, chain⟩
        obtain ⟨apart, chain⟩ := List.isChain_cons.mp chain
        have rest : squeeze (decide (token = .blank)) later = later := by
          refine ih.mpr ⟨?_, chain⟩
          intro blank next
          exact apart .blank next (of_decide_eq_true blank) rfl
        by_cases blank : token = .blank
        · subst blank
          cases behindBlank with
          | true => exact absurd rfl (first rfl)
          | false => simpa [squeeze] using rest
        · simpa [squeeze, blank] using rest

/-! ## Legal rows -/

/-- A row of tokens as a text can have it: each token is one of its mode, no two neighbours
clash, and no blank follows a blank. -/
structure Legal (tokens : List Token) : Prop where
  legible : Legible .plain tokens
  blanksApart : tokens.IsChain Token.BlanksApart

/-- White space may stand in a bare value. -/
theorem isLiteralCharacter_of_isWhiteSpace {c : Char} (blank : Unicode.isWhiteSpace c = true) :
    isLiteralCharacter c = true := by
  have notQuote : isQuote c = false := by
    rw [← Bool.not_eq_true]
    intro quote
    rw [isWhiteSpace_eq_false_of_isQuote quote] at blank
    cases blank
  have notBracket : c ≠ ']' := by
    rintro rfl
    have notBlank : Unicode.isWhiteSpace ']' = false := isWhiteSpace_char_eq_false .rightBracket
    rw [notBlank] at blank
    cases blank
  simp [isLiteralCharacter, notQuote, notBracket]

/-- A token that clashes with the one before it is spelled with a character in front that
continues that one. -/
theorem Read.exists_continues {mode : Mode} {token next : Token} {covered rest : List Char}
    (front : Read mode next covered rest) (clashes : token.Clashes next) :
    ∃ c run, covered = c :: run ∧ token.continues c = true := by
  cases next with
  | identifier name =>
      cases token with
      | identifier other =>
          obtain ⟨c, run, whole, start, -⟩ :=
            isIdentifier_iff.mp (Mode.gives_identifier_iff.mp front.gives).2
          have spelled : covered = name.toList := front.spelled
          exact ⟨c, run, spelled.trans whole, isIdentifierCharacter_of_isIdentifierStart start⟩
      | sign | literal | quoted | blank | endOfInput => exact absurd clashes id
  | literal text =>
      cases token with
      | literal other =>
          obtain ⟨c, run, whole, -, plain⟩ :=
            isLiteral_iff.mp (Mode.gives_literal_iff.mp front.gives).2
          have spelled : covered = text.toList := front.spelled
          exact ⟨c, run, spelled.trans whole, plain c List.mem_cons_self⟩
      | sign | identifier | quoted | blank | endOfInput => exact absurd clashes id
  | blank =>
      cases token with
      | literal other =>
          obtain ⟨some, white⟩ := front.spelled
          obtain ⟨c, run, rfl⟩ := List.exists_cons_of_ne_nil some
          exact ⟨c, run, rfl, isLiteralCharacter_of_isWhiteSpace (white c List.mem_cons_self)⟩
      | sign | identifier | quoted | blank | endOfInput => exact absurd clashes id
  | sign | quoted | endOfInput => cases token <;> exact absurd clashes id

/-- Tokens that are spelled one behind the other do not clash. -/
theorem Spelled.legible {mode : Mode} {tokens : List Token} {text : List Char}
    (spelled : Spelled mode tokens text) : Legible mode tokens := by
  induction spelled with
  | nil => trivial
  | @cons mode token covered tokens rest front later ih =>
      refine ⟨front.gives, ?_, ih⟩
      intro next isNext clashes
      cases later with
      | nil => cases isNext
      | cons behind _ =>
          cases isNext
          obtain ⟨c, run, rfl, continued⟩ := behind.exists_continues clashes
          have stopped := stops_cons.mp front.stops
          rw [continued] at stopped
          cases stopped

/-- **The legal rows of tokens are those of the texts.** A legal row is read back from its
spelling, with the end token behind it, and whatever row is read from a text, up to its end
token, is legal. -/
theorem tokenize_spell_and_legal :
    (∀ tokens, Legal tokens →
      tokenize (String.ofList (spell tokens)) = .ok (tokens ++ [.endOfInput])) ∧
    ∀ text tokens, tokenize text = .ok (tokens ++ [.endOfInput]) → Legal tokens := by
  constructor
  · intro tokens legal
    have squeezed : squeeze false tokens = tokens :=
      squeeze_eq_self_iff.mpr ⟨fun behind => absurd behind Bool.false_ne_true, legal.blanksApart⟩
    have spelled := (spelled_squeeze legal.legible).1
    rw [squeezed] at spelled
    rw [tokenize_eq_ok_iff, String.toList_ofList]
    exact spelled
  · intro text tokens read
    have spelled := tokenize_eq_ok_iff.mp read
    exact ⟨spelled.legible, (squeeze_eq_self_iff.mp spelled.squeeze_eq.1).2⟩

/-- A text with runs of white space and with all kinds of values, and the spelling of its
tokens. -/
theorem tokenize_spell_and_legal_of_values :
    let tokens : List Token := [.sign .leftBracket, .identifier "a", .sign .equals, .blank,
      .quoted "'] '", .literal "b, c ", .quoted "\"'\"", .sign .rightBracket, .blank,
      .sign .rightBracket, .identifier "d-1"]
    tokenize "[a=\t\n'] 'b, c \"'\"]  ]d-1" = .ok (tokens ++ [.endOfInput]) ∧ Legal tokens ∧
      tokenize "[a= '] 'b, c \"'\"] ]d-1" = .ok (tokens ++ [.endOfInput]) := by
  intro tokens
  obtain ⟨readBack, legal⟩ := tokenize_spell_and_legal
  have read : tokenize "[a=\t\n'] 'b, c \"'\"]  ]d-1" = .ok (tokens ++ [.endOfInput]) :=
    tokenize_eq_ok_iff_emission.mpr (by decide +kernel)
  have isLegal := legal _ tokens read
  have spelling : String.ofList (spell tokens) = "[a= '] 'b, c \"'\"] ]d-1" := by decide +kernel
  exact ⟨read, isLegal, spelling ▸ readBack tokens isLegal⟩

end TreeSelector
