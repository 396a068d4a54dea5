import TreeSelector.Proofs.Token.Calls
import TreeSelector.Proofs.Token.Seam

/-!
# Where a text breaks off

A text that has no tokens breaks off somewhere. Its front spells the tokens that the scanner
emits, and behind them stand characters that are refused (`Scanner.BreaksOff`). Where the text is
cut at that place, the same tokens are read, since nothing behind a token that has been read plays
a part in it but the first character, and that could only have continued it.

So an error is located exactly (`exists_locatedIn_of_tokenize`): it names the place behind the
tokens before it and the characters there, and the text up to it has these tokens. Where the error
is a string without its end, the closing quote alone is missing: with it the text has the same
tokens and the string.
-/

set_option autoImplicit false

namespace TreeSelector

/-! ## Behind the tokens -/

namespace Scanner

/-- The front of what is left spells the tokens, and the characters behind it are refused. They
do not continue the last token. -/
structure BreaksOff (scanner : Scanner) (tokens : List Token) (error : LexicalError)
    (front covered behind : List Char) : Prop where
  whole : scanner.rest = front ++ (covered ++ behind)
  spelled : Spelled scanner.mode tokens front
  stops : ∀ last ∈ tokens.getLast?, Stops last.continues (covered ++ behind)
  refused : Refused (scanner.position + front.length) (tokens.foldl Mode.after scanner.mode) error
    covered behind

variable {scanner : Scanner} {tokens : List Token} {error : LexicalError}
  {front covered behind : List Char}

/-- With a token before it, what breaks off does so behind the token. -/
theorem BreaksOff.cons {mode : Mode} {token : Token} {read rest : List Char} {position : Nat}
    (first : Read mode token read rest)
    (later : BreaksOff ⟨rest, position + read.length, mode.after token⟩ tokens error front
      covered behind) :
    BreaksOff ⟨read ++ rest, position, mode⟩ (token :: tokens) error (read ++ front) covered
      behind := by
  obtain ⟨whole, spelled, stops, refused⟩ := later
  obtain rfl : rest = front ++ (covered ++ behind) := whole
  refine ⟨(List.append_assoc ..).symm, .cons ⟨first.gives, first.spelled, ?_⟩ spelled, ?_, ?_⟩
  · -- The front that is left begins as the rest does, unless it is empty.
    intro c isHead
    refine first.stops c ?_
    cases front with
    | nil => cases isHead
    | cons d front => exact isHead
  · intro last isLast
    cases tokens with
    | nil =>
        cases isLast
        cases spelled
        exact first.stops
    | cons next tokens =>
        rw [List.getLast?_cons_cons] at isLast
        exact stops last isLast
  · rw [List.length_append, ← Nat.add_assoc]
    exact refused

/-- **A scanner that emits an error breaks off behind the tokens before it.** -/
theorem exists_breaksOff (emitted : scanner.emission = ⟨tokens, some error⟩) :
    ∃ front covered behind, scanner.BreaksOff tokens error front covered behind := by
  induction scanner using emission_induction generalizing tokens with
  | ended scanner ended =>
      rw [emission_of_rest_nil ended] at emitted
      cases emitted
  | failed scanner other failed =>
      rw [emission_of_outcome_error failed] at emitted
      cases emitted
      obtain ⟨covered, behind, whole, refused, -⟩ := exists_refused_of_lex_error failed
      exact ⟨[], covered, behind, whole, .nil scanner.mode, nofun, refused⟩
  | read scanner token more read ih =>
      rw [emission_of_outcome_ok more read] at emitted
      obtain ⟨rfl, failure⟩ := Emission.mk.inj emitted
      obtain ⟨first, rest, whole, front⟩ := exists_read_of_lex_ok more read
      obtain ⟨text, position, mode⟩ := scanner
      obtain rfl : text = first ++ rest := whole
      rw [advance_of_read front] at failure ih ⊢
      obtain ⟨later, covered, behind, breaksOff⟩ :=
        ih (congrArg (Emission.mk _) failure)
      exact ⟨first ++ later, covered, behind, .cons front breaksOff⟩

/-- The calls up to the first error come to the tokens and to the error. -/
theorem calls_of_emission_error (emitted : scanner.emission = ⟨tokens, some error⟩) :
    (scanner.calls (tokens.length + 1)).map Prod.fst = tokens.map .ok ++ [.error error] := by
  induction scanner using emission_induction generalizing tokens with
  | ended scanner ended =>
      rw [emission_of_rest_nil ended] at emitted
      cases emitted
  | failed scanner other failed =>
      rw [emission_of_outcome_error failed] at emitted
      cases emitted
      exact congrArg (fun outcome => [outcome]) failed
  | read scanner token more read ih =>
      rw [emission_of_outcome_ok more read] at emitted
      obtain ⟨rfl, failure⟩ := Emission.mk.inj emitted
      have later := ih (congrArg (Emission.mk scanner.advance.emission.tokens) failure)
      rw [List.length_cons, calls, List.map_cons, later]
      exact congrArg (· :: _) read

end Scanner

/-! ## The location of an error -/

/-- What the location of an error in a text comes to, behind the tokens that are read before it.
The character or the string stands at the position, and the text up to there has the tokens. A
character that is unexpected begins no token of plain mode. A string that is not terminated has
its quote nowhere but in front, and it is read when the quote is put behind the text. -/
def LexicalError.LocatedIn (text : String) (tokens : List Token) : LexicalError → Prop
  | .unexpectedCharacter c position =>
      position < text.length ∧ text.toList[position]? = some c ∧
      Unicode.isWhiteSpace c = false ∧
      c ∉ [',', '[', ']', '>', '+', '~', '#', '.', '^', '$', '*', '='] ∧
      isIdentifierStart c = false ∧
      tokenize (.ofList (text.toList.take position)) = .ok (tokens ++ [.endOfInput])
  | .unterminatedString string position =>
      position < text.length ∧ ∃ quote, text.toList[position]? = some quote ∧
      quote ∈ ['\'', '"'] ∧ string.toList = text.toList.drop position ∧
      (∃ body, string.toList = quote :: body ∧ quote ∉ body) ∧
      tokenize (.ofList (text.toList.take position)) = .ok (tokens ++ [.endOfInput]) ∧
      tokenize (text.push quote) = .ok (tokens ++ [.quoted (string.push quote), .endOfInput])

/-- A character that is no sign is none of the twelve. -/
theorem Sign.notMem_of_ofChar?_eq_none {c : Char} (notSign : Sign.ofChar? c = none) :
    c ∉ [',', '[', ']', '>', '+', '~', '#', '.', '^', '$', '*', '='] := by
  have signs : [',', '[', ']', '>', '+', '~', '#', '.', '^', '$', '*', '='].all
      (fun c => (Sign.ofChar? c).isSome) = true := by decide
  intro member
  have sign := List.all_eq_true.mp signs c member
  rw [notSign] at sign
  cases sign

theorem tokenize_eq_error_iff_emission {text : String} {error : LexicalError} :
    tokenize text = .error error ↔ ∃ tokens, emission text = ⟨tokens, some error⟩ := by
  rw [tokenize, Scanner.tokens_eq_emission, ← emission]
  cases whole : emission text with
  | mk emitted failure => cases failure <;> simp

/-- What is refused is not nothing. -/
theorem Refused.append_ne_nil {position : Nat} {mode : Mode} {error : LexicalError}
    {covered behind : List Char} (refused : Refused position mode error covered behind) :
    covered ++ behind ≠ [] := by
  cases refused <;> exact List.cons_ne_nil _ _

section BreaksOff

variable {text : String} {tokens : List Token} {error : LexicalError}
  {front covered behind : List Char}

/-- The text up to the error has the tokens before it. -/
theorem Scanner.BreaksOff.tokenize_take
    (breaksOff : (ofString text).BreaksOff tokens error front covered behind) :
    tokenize (.ofList (text.toList.take front.length)) = .ok (tokens ++ [.endOfInput]) := by
  have whole : text.toList = front ++ (covered ++ behind) := breaksOff.whole
  rw [tokenize_eq_ok_iff, String.toList_ofList, whole, List.take_left]
  exact breaksOff.spelled

/-- A string that is not terminated is read with its quote behind it. -/
theorem Scanner.BreaksOff.tokenize_push {quote : Char} {body : List Char}
    (breaksOff : (ofString text).BreaksOff tokens error front (quote :: body) [])
    (value : tokens.foldl Mode.after .plain = .value) (isQuote : isQuote quote = true)
    (unclosed : quote ∉ body) :
    tokenize (text.push quote) =
      .ok (tokens ++ [.quoted ((String.ofList (quote :: body)).push quote), .endOfInput]) := by
  have whole : text.toList = front ++ (quote :: body ++ []) := breaksOff.whole
  have gives : IsQuoted ((String.ofList (quote :: body)).push quote) :=
    ⟨quote, body, isQuote, unclosed, by simp⟩
  have string : Spelled .value [.quoted ((String.ofList (quote :: body)).push quote)]
      (quote :: body ++ [quote]) := by
    have closed : Read .value (.quoted ((String.ofList (quote :: body)).push quote))
        (quote :: body ++ [quote]) [] := by
      refine ⟨gives, ?_, stops_nil _⟩
      simp [Token.SpelledBy, Token.spelling]
    have row := Spelled.cons closed (.nil _)
    rwa [List.append_nil] at row
  rw [← List.singleton_append, ← List.append_assoc, tokenize_eq_ok_iff, String.toList_push, whole,
    List.append_nil, List.append_assoc]
  exact breaksOff.spelled.append (value.symm ▸ string) fun last isLast =>
    stops_cons.mpr (stops_cons.mp (breaksOff.stops last isLast))

end BreaksOff

/-- **Lexical errors are located exactly.** Where a text has no tokens, the calls up to the first
error come to some tokens and to this error, and the error is located in the text behind them. -/
theorem exists_locatedIn_of_tokenize {text : String} {error : LexicalError}
    (failed : tokenize text = .error error) :
    ∃ tokens, ((Scanner.ofString text).calls (tokens.length + 1)).map Prod.fst =
        tokens.map .ok ++ [.error error] ∧
      error.LocatedIn text tokens := by
  obtain ⟨tokens, emitted⟩ := tokenize_eq_error_iff_emission.mp failed
  obtain ⟨front, covered, behind, breaksOff⟩ := Scanner.exists_breaksOff emitted
  refine ⟨tokens, Scanner.calls_of_emission_error emitted, ?_⟩
  have whole : text.toList = front ++ (covered ++ behind) := breaksOff.whole
  have taken := breaksOff.tokenize_take
  have some : covered ++ behind ≠ [] := breaksOff.refused.append_ne_nil
  have inside : front.length < text.length := by
    rw [← String.length_toList, whole, List.length_append]
    exact Nat.lt_add_of_pos_right (List.length_pos_iff.mpr some)
  have refused := breaksOff.refused
  generalize mode : tokens.foldl Mode.after (Scanner.ofString text).mode = last at refused
  rw [show (Scanner.ofString text).position + front.length = front.length from Nat.zero_add _]
    at refused
  cases refused with
  | @character c rest notBlank notSign notStart =>
      refine ⟨inside, ?_, notBlank, Sign.notMem_of_ofChar?_eq_none notSign, notStart, taken⟩
      rw [whole, List.getElem?_append_right (Nat.le_refl _), Nat.sub_self]
      rfl
  | @string quote body isQuote unclosed =>
      refine ⟨inside, quote, ?_, ?_, ?_, ⟨body, String.toList_ofList, unclosed⟩, taken,
        breaksOff.tokenize_push mode isQuote unclosed⟩
      · rw [whole, List.getElem?_append_right (Nat.le_refl _), Nat.sub_self]
        rfl
      · simpa [TreeSelector.isQuote] using isQuote
      · rw [String.toList_ofList, whole, List.drop_left, List.append_nil]

/-- A character that is unexpected behind a value and a blank, and a string that the end of its
text cuts off. -/
theorem exists_locatedIn_of_tokenize_of_character_and_string :
    tokenize "é[b='!' ]\t!x" = .error (.unexpectedCharacter '!' 10) ∧
      (∃ tokens, (LexicalError.unexpectedCharacter '!' 10).LocatedIn "é[b='!' ]\t!x" tokens) ∧
      tokenize "a[b=c\"d'" = .error (.unterminatedString "\"d'" 5) ∧
      tokenize "a[b=c\"d'\"" = .ok [.identifier "a", .sign .leftBracket, .identifier "b",
        .sign .equals, .literal "c", .quoted "\"d'\"", .endOfInput] := by
  have character : tokenize "é[b='!' ]\t!x" = .error (.unexpectedCharacter '!' 10) :=
    tokenize_eq_error_iff_emission.mpr ⟨[.identifier "é", .sign .leftBracket, .identifier "b",
      .sign .equals, .quoted "'!'", .blank, .sign .rightBracket, .blank], by decide +kernel⟩
  have string : tokenize "a[b=c\"d'" = .error (.unterminatedString "\"d'" 5) :=
    tokenize_eq_error_iff_emission.mpr ⟨[.identifier "a", .sign .leftBracket, .identifier "b",
      .sign .equals, .literal "c"], by decide +kernel⟩
  obtain ⟨before, -, located⟩ := exists_locatedIn_of_tokenize character
  obtain ⟨tokens, -, -, quote, found, -, -, -, front, closed⟩ :=
    exists_locatedIn_of_tokenize string
  obtain rfl : '"' = quote := Option.some.inj found
  have same : tokenize (.ofList ("a[b=c\"d'".toList.take 5)) = .ok ([.identifier "a",
      .sign .leftBracket, .identifier "b", .sign .equals, .literal "c"] ++ [.endOfInput]) :=
    tokenize_eq_ok_iff_emission.mpr (by decide +kernel)
  obtain rfl := List.append_cancel_right (Except.ok.inj (front.symm.trans same))
  exact ⟨character, ⟨before, located⟩, string, closed⟩

end TreeSelector
