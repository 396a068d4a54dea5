import Mathlib.Data.List.Chain
import Mathlib.Data.List.TakeWhile
import TreeSelector.Proofs.Token.Spelling

/-!
# The calls of a scanner

A scanner can be asked for a token any number of times, also behind an error and behind the
end of the text. What a single call can come to is said once (`Scanner.Answers`): the text is
at its end, or a token is read, or the front of the text is refused. From this follows what
holds of every call in a history of calls (`Scanner.of_mem_history`).

No call loses a character (`history_lossless_and_slices`). The calls cover the text in slices
that begin where the one before ends, and every outcome is made of the characters of its
slice (`Covers`), an error as much as a token. The slices are taken from the whole text by
the positions that the scanner reports; that these positions agree with what is left of the
text is the invariant `Scanner.StandsIn`.
-/

set_option autoImplicit false

namespace TreeSelector

/-! ## What a call can come to -/

/-- The covered characters are no token of the mode, but an error. -/
inductive Refused (position : Nat) : Mode → LexicalError → List Char → List Char → Prop where
  /-- A character that begins no token in plain mode. -/
  | character {c : Char} (rest : List Char) (notBlank : Unicode.isWhiteSpace c = false)
      (notSign : Sign.ofChar? c = none) (notStart : isIdentifierStart c = false) :
      Refused position .plain (.unexpectedCharacter c position) [c] rest
  /-- A quote in value mode that no other quote closes, up to the end of the text. -/
  | string {quote : Char} {body : List Char} (isQuote : isQuote quote = true)
      (unclosed : quote ∉ body) :
      Refused position .value (.unterminatedString (String.ofList (quote :: body)) position)
        (quote :: body) []

theorem refused_of_lexQuoted_error {position : Nat} {quote : Char} {rest : List Char}
    {error : LexicalError} (isQuote : isQuote quote = true)
    (failed : (lexQuoted position quote rest).outcome = .error error) :
    Refused position .value error (quote :: rest) [] ∧
      lexQuoted position quote rest = ⟨quote :: rest, .error error, .value⟩ := by
  unfold lexQuoted at failed ⊢
  split at failed
  · rename_i none
    cases failed
    refine ⟨.string isQuote fun closed => ?_, rfl⟩
    have other := List.dropWhile_eq_nil_iff.mp none quote closed
    simp at other
  · cases failed

/-- **An error is a front that is refused.** It leaves the mode as it is. -/
theorem exists_refused_of_lex_error {mode : Mode} {position : Nat} {text : List Char}
    {error : LexicalError} (failed : (lex mode position text).outcome = .error error) :
    ∃ covered rest, text = covered ++ rest ∧ Refused position mode error covered rest ∧
      lex mode position text = ⟨covered, .error error, mode⟩ := by
  cases text with
  | nil => cases failed
  | cons c rest =>
      simp only [lex] at failed ⊢
      split at failed
      · cases failed
      · rename_i notBlank
        rw [if_neg notBlank]
        cases mode with
        | plain =>
            simp only [lexPlain] at failed ⊢
            split at failed
            · cases failed
            · cases failed
            · rename_i notSign
              split at failed
              · cases failed
              · rename_i notStart
                cases failed
                rw [if_neg notStart]
                refine ⟨[c], rest, rfl, .character rest ?_ notSign ?_, rfl⟩
                · exact Bool.eq_false_iff.mpr notBlank
                · exact Bool.eq_false_iff.mpr notStart
        | value =>
            simp only [lexValue] at failed ⊢
            split at failed
            · cases failed
            · rename_i notBracket
              rw [if_neg notBracket]
              split at failed
              · rename_i quote
                rw [if_pos quote]
                obtain ⟨refused, same⟩ := refused_of_lexQuoted_error quote failed
                exact ⟨c :: rest, [], (List.append_nil _).symm, refused, same⟩
              · cases failed

namespace Scanner

/-- **What a call can come to**, and the scanner behind it. -/
inductive Answers : Scanner → Except LexicalError Token → Scanner → Prop where
  | ended (position : Nat) (mode : Mode) :
      Answers ⟨[], position, mode⟩ (.ok .endOfInput) ⟨[], position, mode⟩
  | read {mode : Mode} {token : Token} {covered rest : List Char} (position : Nat)
      (front : Read mode token covered rest) :
      Answers ⟨covered ++ rest, position, mode⟩ (.ok token)
        ⟨rest, position + covered.length, mode.after token⟩
  | refused {mode : Mode} {error : LexicalError} {covered rest : List Char} {position : Nat}
      (front : Refused position mode error covered rest) :
      Answers ⟨covered ++ rest, position, mode⟩ (.error error)
        ⟨rest, position + covered.length, mode⟩

/-- Every call comes to one of these. -/
theorem answers (scanner : Scanner) :
    scanner.Answers scanner.lexeme.outcome scanner.advance := by
  obtain ⟨text, position, mode⟩ := scanner
  cases outcome : (⟨text, position, mode⟩ : Scanner).lexeme.outcome with
  | error error =>
      obtain ⟨covered, rest, rfl, front, whole⟩ := exists_refused_of_lex_error outcome
      have advanced : (⟨covered ++ rest, position, mode⟩ : Scanner).advance =
          ⟨rest, position + covered.length, mode⟩ := by
        simp [advance, lexeme, whole]
      rw [advanced]
      exact .refused front
  | ok token =>
      by_cases more : text = []
      · subst more
        cases outcome
        exact .ended position mode
      · obtain ⟨covered, rest, rfl, front⟩ := exists_read_of_lex_ok more outcome
        rw [advance_of_read front]
        exact .read position front

end Scanner

/-! ## Histories of calls -/

/-- A call: the scanner that is asked, what it comes to, and the scanner behind it. -/
structure Call where
  before : Scanner
  outcome : Except LexicalError Token
  behind : Scanner

namespace Call

/-- What a call hands out. -/
def result (call : Call) : Except LexicalError Token × Scanner :=
  (call.outcome, call.behind)

/-- The position before a call. -/
def start (call : Call) : Nat :=
  call.before.position

/-- The position behind a call. -/
def stop (call : Call) : Nat :=
  call.behind.position

/-- The characters of a text between the positions before and behind a call. -/
def slice (text : List Char) (call : Call) : List Char :=
  text.extract call.start call.stop

end Call

namespace Scanner

/-- The next call. -/
def call (scanner : Scanner) : Call :=
  ⟨scanner, scanner.next.1, scanner.next.2⟩

/-- A number of calls, each of the scanner that the one before leaves. -/
def history (scanner : Scanner) : Nat → List Call
  | 0 => []
  | count + 1 => scanner.call :: scanner.advance.history count

/-- The history hands out what the calls hand out. -/
theorem map_result_history (scanner : Scanner) (count : Nat) :
    (scanner.history count).map Call.result = scanner.calls count := by
  induction count generalizing scanner with
  | zero => rfl
  | succ count ih =>
      rw [history, List.map_cons, ih, calls]
      rfl

/-- **Induction along a history**: what holds of a scanner and is kept by its calls holds
before every call. -/
theorem of_mem_history {invariant : Scanner → Prop}
    (kept : ∀ scanner, invariant scanner → invariant scanner.advance) {scanner : Scanner}
    (holds : invariant scanner) {count : Nat} {call : Call}
    (member : call ∈ scanner.history count) :
    invariant call.before ∧ call.before.Answers call.outcome call.behind := by
  induction count generalizing scanner with
  | zero => cases member
  | succ count ih =>
      rcases List.mem_cons.mp member with rfl | later
      · exact ⟨holds, scanner.answers⟩
      · exact ih (kept scanner holds) later

/-! ## Scanners at a place of a text -/

/-- The scanner stands at its position in the text: what is left to it is what the text has
there. -/
structure StandsIn (text : List Char) (scanner : Scanner) : Prop where
  rest_eq : scanner.rest = text.drop scanner.position
  position_le : scanner.position ≤ text.length

theorem standsIn_ofList (text : List Char) : (ofList text).StandsIn text :=
  ⟨rfl, Nat.zero_le _⟩

/-- A call covers characters at the front of what is left, and goes on behind them. -/
theorem Answers.exists_covered {before behind : Scanner}
    {outcome : Except LexicalError Token} (answers : before.Answers outcome behind) :
    ∃ covered, before.rest = covered ++ behind.rest ∧
      behind.position = before.position + covered.length := by
  cases answers with
  | ended position mode => exact ⟨[], rfl, rfl⟩
  | @read mode token covered rest position front => exact ⟨covered, rfl, rfl⟩
  | @refused mode error covered rest position front => exact ⟨covered, rfl, rfl⟩

section StandsIn

variable {text : List Char} {before behind : Scanner} {outcome : Except LexicalError Token}

/-- The scanner behind a call stands in the text as well, at the end of the slice of the
call. -/
theorem StandsIn.of_answers (stands : before.StandsIn text)
    (answers : before.Answers outcome behind) :
    behind.StandsIn text ∧ before.position ≤ behind.position ∧
      before.rest = text.extract before.position behind.position ++ behind.rest := by
  obtain ⟨covered, whole, moved⟩ := answers.exists_covered
  have parts : text.drop before.position = covered ++ behind.rest := by
    rw [← stands.rest_eq, whole]
  have inside : before.position + covered.length ≤ text.length := by
    have lengths := congrArg List.length parts
    have atMost := stands.position_le
    rw [List.length_drop, List.length_append] at lengths
    omega
  have left : text.drop behind.position = behind.rest := by
    rw [moved, ← List.drop_drop, parts, List.drop_left]
  have slice : text.extract before.position behind.position = covered := by
    rw [List.extract_eq_take_drop, moved, Nat.add_sub_cancel_left, parts, List.take_left]
  refine ⟨⟨left.symm, ?_⟩, ?_, ?_⟩
  · rw [moved]
    exact inside
  · rw [moved]
    exact Nat.le_add_right _ _
  · rw [slice, whole]

/-- The end token is handed out at the end of the text. -/
theorem StandsIn.position_eq_length (stands : before.StandsIn text)
    (answers : before.Answers (.ok .endOfInput) behind) : before.position = text.length := by
  cases answers with
  | ended position mode =>
      have atEnd : text.length ≤ position := List.drop_eq_nil_iff.mp stands.rest_eq.symm
      exact Nat.le_antisymm stands.position_le atEnd
  | @read mode _ _ _ position front => exact absurd front.gives mode.not_gives_endOfInput

theorem StandsIn.advance {scanner : Scanner} (stands : scanner.StandsIn text) :
    scanner.advance.StandsIn text :=
  (stands.of_answers scanner.answers).1

end StandsIn

end Scanner

/-! ## What a call covers -/

/-- What the covered characters are, and what stands behind them, for each outcome: the text of
a token, and for a blank a run of white space; nothing for the end token, and nothing behind it;
the characters that an error names. Nothing behind a token continues it. -/
def Covers (outcome : Except LexicalError Token) (covered rest : List Char) : Prop :=
  match outcome with
  | .ok .endOfInput => covered = [] ∧ rest = []
  | .ok token => covered ≠ [] ∧ token.SpelledBy covered ∧ Stops token.continues rest
  | .error (.unexpectedCharacter c _) => covered = [c]
  | .error (.unterminatedString text _) => covered = text.toList ∧ covered ≠ [] ∧ rest = []

theorem Read.covers {mode : Mode} {token : Token} {covered rest : List Char}
    (front : Read mode token covered rest) : Covers (.ok token) covered rest := by
  have whole := And.intro front.covered_ne_nil (And.intro front.spelled front.stops)
  cases token with
  | endOfInput => exact absurd front.gives mode.not_gives_endOfInput
  | sign | identifier | literal | quoted | blank => exact whole

theorem Refused.covers {position : Nat} {mode : Mode} {error : LexicalError}
    {covered rest : List Char} (front : Refused position mode error covered rest) :
    Covers (.error error) covered rest := by
  cases front with
  | character rest => exact rfl
  | @string quote body => exact ⟨String.toList_ofList.symm, List.cons_ne_nil quote body, rfl⟩

/-- Only the end token covers nothing. -/
theorem Covers.eq_endOfInput {outcome : Except LexicalError Token} {rest : List Char}
    (covers : Covers outcome [] rest) : outcome = .ok .endOfInput := by
  cases outcome with
  | ok token =>
      cases token with
      | endOfInput => rfl
      | sign | identifier | literal | quoted | blank => exact absurd rfl covers.1
  | error error =>
      cases error with
      | unexpectedCharacter c position => exact absurd covers (List.cons_ne_nil c []).symm
      | unterminatedString text position => exact absurd rfl covers.2.1

/-- **A call covers its slice of the text.** -/
theorem Scanner.StandsIn.covers {text : List Char} {before behind : Scanner}
    {outcome : Except LexicalError Token} (stands : before.StandsIn text)
    (answers : before.Answers outcome behind) :
    Covers outcome (text.extract before.position behind.position)
      (text.drop behind.position) := by
  obtain ⟨standsBehind, -, whole⟩ := stands.of_answers answers
  rw [← standsBehind.rest_eq]
  cases answers with
  | ended position mode =>
      obtain ⟨nothing, -⟩ := List.append_eq_nil_iff.mp whole.symm
      exact ⟨nothing, rfl⟩
  | read position front =>
      rw [← List.append_cancel_right whole]
      exact front.covers
  | refused front =>
      rw [← List.append_cancel_right whole]
      exact front.covers

/-! ## Nothing is lost -/

/-- The calls cover the text from its beginning on and without a gap, each of them one slice
of it. -/
structure Lossless (text : List Char) (calls : List Call) : Prop where
  start : ∀ first ∈ calls.head?, first.start = 0
  contiguous : calls.IsChain fun call next => call.stop = next.start
  apart : calls.Pairwise fun call later => call.stop ≤ later.start
  inside : ∀ call ∈ calls, call.start ≤ call.stop ∧ call.stop ≤ text.length
  covers : ∀ call ∈ calls, Covers call.outcome (call.slice text) (text.drop call.stop)
  ended : ∀ call ∈ calls, call.outcome = .ok .endOfInput → call.start = text.length
  nothing : ∀ call ∈ calls, call.slice text = [] → call.outcome = .ok .endOfInput

namespace Scanner

variable {text : List Char} {scanner : Scanner}

theorem isChain_history (scanner : Scanner) (count : Nat) :
    (scanner.history count).IsChain fun call next => call.stop = next.start := by
  induction count generalizing scanner with
  | zero => exact .nil
  | succ count ih =>
      refine List.isChain_cons.mpr ⟨?_, ih scanner.advance⟩
      intro next isNext
      cases count with
      | zero => cases isNext
      | succ count =>
          cases isNext
          rfl

/-- The calls of a history begin at the position of the scanner or behind it. -/
theorem position_le_of_mem_history (stands : scanner.StandsIn text) {count : Nat} {call : Call}
    (member : call ∈ scanner.history count) : scanner.position ≤ call.start := by
  let invariant (other : Scanner) : Prop :=
    other.StandsIn text ∧ scanner.position ≤ other.position
  have kept (other : Scanner) (holds : invariant other) : invariant other.advance := by
    obtain ⟨standsOther, further⟩ := holds
    obtain ⟨standsBehind, forward, -⟩ := standsOther.of_answers other.answers
    exact ⟨standsBehind, Nat.le_trans further forward⟩
  exact (of_mem_history kept ⟨stands, Nat.le_refl _⟩ member).1.2

theorem pairwise_history (stands : scanner.StandsIn text) (count : Nat) :
    (scanner.history count).Pairwise fun call later => call.stop ≤ later.start := by
  induction count generalizing scanner with
  | zero => exact .nil
  | succ count ih =>
      refine List.pairwise_cons.mpr ⟨?_, ih stands.advance⟩
      intro later member
      exact position_le_of_mem_history stands.advance member

theorem lossless_history_ofList (text : List Char) (count : Nat) :
    Lossless text ((ofList text).history count) := by
  have stands := standsIn_ofList text
  have each {call : Call} (member : call ∈ (ofList text).history count) :
      call.before.StandsIn text ∧ call.before.Answers call.outcome call.behind :=
    of_mem_history (fun _ stands => stands.advance) stands member
  have covers {call : Call} (member : call ∈ (ofList text).history count) :
      Covers call.outcome (call.slice text) (text.drop call.stop) :=
    (each member).1.covers (each member).2
  have inside {call : Call} (member : call ∈ (ofList text).history count) :
      call.start ≤ call.stop ∧ call.stop ≤ text.length := by
    obtain ⟨standsBehind, forward, -⟩ := (each member).1.of_answers (each member).2
    exact ⟨forward, standsBehind.position_le⟩
  refine {
    start := ?_
    contiguous := isChain_history _ count
    apart := pairwise_history stands count
    inside := fun _ member => inside member
    covers := fun _ member => covers member
    ended := ?_
    nothing := ?_ }
  · intro first isFirst
    cases count with
    | zero => cases isFirst
    | succ count =>
        cases isFirst
        rfl
  · intro call member isEnd
    obtain ⟨standsBefore, answers⟩ := each member
    rw [isEnd] at answers
    exact standsBefore.position_eq_length answers
  · intro call member nothing
    have whole := covers member
    rw [nothing] at whole
    exact whole.eq_endOfInput

/-- Where all that is left has tokens, as many calls as there are tokens hand them out, and
their slices are all that is left. -/
theorem history_of_emission (stands : scanner.StandsIn text) {tokens : List Token}
    (emitted : scanner.emission = ⟨tokens, none⟩) :
    (scanner.history tokens.length).map Call.outcome = tokens.map .ok ∧
      (scanner.history tokens.length).flatMap (Call.slice text) = scanner.rest := by
  induction scanner using emission_induction generalizing tokens with
  | ended scanner ended =>
      rw [emission_of_rest_nil ended] at emitted
      cases emitted
      obtain ⟨-, -, whole⟩ := stands.of_answers scanner.answers
      rw [ended] at whole
      obtain ⟨nothing, -⟩ := List.append_eq_nil_iff.mp whole.symm
      constructor
      · exact congrArg (fun outcome => [outcome]) (outcome_of_rest_nil ended)
      · rw [ended]
        exact (List.append_nil _).trans nothing
  | failed scanner error failed =>
      rw [emission_of_outcome_error failed] at emitted
      cases congrArg Emission.failure emitted
  | read scanner token more read ih =>
      rw [emission_of_outcome_ok more read] at emitted
      obtain ⟨rfl, complete⟩ := Emission.mk.inj emitted
      obtain ⟨-, -, whole⟩ := stands.of_answers scanner.answers
      have tail : scanner.advance.emission = ⟨scanner.advance.emission.tokens, none⟩ :=
        congrArg (Emission.mk scanner.advance.emission.tokens) complete
      obtain ⟨outcomes, slices⟩ := ih stands.advance tail
      rw [List.length_cons, history, List.map_cons, List.map_cons, List.flatMap_cons, outcomes,
        slices]
      exact ⟨congrArg (· :: _) read, whole.symm⟩

end Scanner

/-- **Scanning loses nothing.** Whatever the number of calls on a text, errors among them or
not, they cover it without a gap and without an overlap, each call the characters of its
outcome. So where a text has tokens, their slices put together are the text. -/
theorem history_lossless_and_slices (text : String) :
    (∀ count,
      ((Scanner.ofString text).history count).map Call.result =
        (Scanner.ofString text).calls count ∧
      Lossless text.toList ((Scanner.ofString text).history count)) ∧
    ∀ tokens, tokenize text = .ok tokens →
      ((Scanner.ofString text).history tokens.length).map Call.outcome = tokens.map .ok ∧
      ((Scanner.ofString text).history tokens.length).flatMap (Call.slice text.toList) =
        text.toList := by
  refine ⟨fun count => ⟨?_, ?_⟩, fun tokens read => ?_⟩
  · exact Scanner.map_result_history _ count
  · exact Scanner.lossless_history_ofList text.toList count
  · exact Scanner.history_of_emission (Scanner.standsIn_ofList text.toList)
      (tokenize_eq_ok_iff_emission.mp read)

/-- A text with runs of white space in either mode, and a quote as its last character. -/
theorem history_lossless_and_slices_of_spaced_value :
    let text := "a \t[b= 'c'"
    let tokens : List Token := [.identifier "a", .blank, .sign .leftBracket, .identifier "b",
      .sign .equals, .blank, .quoted "'c'", .endOfInput]
    let calls := (Scanner.ofString text).history tokens.length
    tokenize text = .ok tokens ∧ Lossless text.toList calls ∧
      calls.map (Call.slice text.toList) =
        [['a'], [' ', '\t'], ['['], ['b'], ['='], [' '], ['\'', 'c', '\''], []] ∧
      calls.flatMap (Call.slice text.toList) = text.toList := by
  intro text tokens calls
  obtain ⟨lossless, whole⟩ := history_lossless_and_slices text
  have read : tokenize text = .ok tokens :=
    tokenize_eq_ok_iff_emission.mpr (by decide +kernel)
  exact ⟨read, (lossless tokens.length).2, by decide +kernel, (whole tokens read).2⟩

end TreeSelector
