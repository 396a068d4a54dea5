import TreeSelector.Proofs.Reading.Outcome
import TreeSelector.Proofs.Token.Seam

/-!
# Reading on behind a text

The phase of a draft knows the mode of the scanner (`Phase.mode`): behind the tokens that
have led to a draft the scanner is in that mode (`Draft.run_mode`). So a text whose front
has been read comes to what the draft there makes of the rest (`parse_append`), and only
the positions in the errors tell that the rest does not stand at the beginning
(`Draft.outcome_shift`).

A text is a selector when it leads to a draft whose compound may be closed
(`parse_eq_ok_iff_accepted`). There the scanner is in plain mode, and the characters are
known that do not continue the last token (`Accepted.stops_sign`,
`Accepted.stops_space`).
-/

set_option autoImplicit false

namespace TreeSelector

/-! ## The mode of a phase -/

namespace Phase

/-- The mode of the scanner when a phase has been reached. -/
def mode : Phase → Mode
  | .within _ (.attributeValue _ _) | .within _ (.attributeEnd _) => .value
  | _ => .plain

variable {phase : Phase} {token : Token} {move : Move}

theorem AtCompound.mode_eq {joint : Option Combinator} (here : phase.AtCompound joint) :
    phase.mode = .plain := by
  cases here with
  | opens opens => cases opens <;> rfl
  | behind => rfl

/-- The mode goes along with the phase. -/
theorem Transition.after_mode (moves : phase.Transition token move) :
    phase.mode.after token = move.phase.mode := by
  cases moves with
  | tag _ opens | anyTag opens | padding opens => rw [(AtCompound.opens opens).mode_eq]; rfl
  | hash here | dot here | leftBracket here | blank here | comma here | endOfInput here =>
      rw [here.mode_eq]; rfl
  | @combinator _ _ mark _ here _ is =>
      rw [here.mode_eq]
      cases mark <;> cases is <;> rfl
  | @combinatorAfterBlank mark _ is => cases mark <;> cases is <;> rfl
  | @operator _ _ mark _ begins => cases mark <;> cases begins <;> rfl
  | id | className | attributeName | present | equals | assign | quoted | literal | rightBracket
  | ended => rfl

/-- No bare value stands before a place where a compound may be closed. A sign therefore
does not continue the token there. -/
theorem Transition.stops_sign {joint : Option Combinator} (moves : phase.Transition token move)
    (here : move.phase.AtCompound joint) (mark : Sign) (rest : List Char) :
    Stops token.continues (mark.char :: rest) := by
  cases token with
  | sign | quoted | endOfInput => exact fun _ _ => rfl
  | identifier name => exact stops_cons.mpr (isIdentifierCharacter_char_eq_false mark)
  | blank => exact stops_cons.mpr (isWhiteSpace_char_eq_false mark)
  | literal text =>
      cases moves with
      | literal =>
          cases here with
          | opens opens => cases opens

/-- No blank stands before a place behind a predicate. A space therefore does not continue
the token there. -/
theorem Transition.stops_space {joint : Option Combinator} (moves : phase.Transition token move)
    (behind : move.phase = .within joint .behind) (rest : List Char) :
    Stops token.continues (' ' :: rest) := by
  cases token with
  | sign | quoted | endOfInput => exact fun _ _ => rfl
  | identifier name =>
      exact stops_cons.mpr (isIdentifierCharacter_eq_false_of_isWhiteSpace (by decide +kernel))
  | blank => cases moves <;> cases behind
  | literal text =>
      cases moves with
      | literal => cases behind

end Phase

/-! ## Going on behind a front -/

/-- The same error, so many positions further on. Only a lexical error has a position. -/
def ParseError.shift (offset : Nat) : ParseError → ParseError
  | .lexical error => .lexical (error.shift offset)
  | .unexpected expected found => .unexpected expected found
  | .malformed fault => .malformed fault

namespace Draft

variable {draft next : Draft} {tokens : List Token}

/-- **The mode of the scanner behind the tokens is that of the phase behind them.** -/
theorem run_mode (ran : draft.run tokens = .ok next) :
    tokens.foldl Mode.after draft.phase.mode = next.phase.mode := by
  induction tokens generalizing draft with
  | nil =>
      cases ran
      rfl
  | cons token tokens ih =>
      obtain ⟨move, moves, ranLater⟩ := run_cons_eq_ok_iff.mp ran
      rw [List.foldl_cons, moves.after_mode, ← draft.perform_phase move]
      exact ih ranLater

/-- The last token has led to the phase. -/
theorem exists_transition_of_getLast (ran : draft.run tokens = .ok next) {last : Token}
    (final : last ∈ tokens.getLast?) :
    ∃ phase move, Phase.Transition phase last move ∧ move.phase = next.phase := by
  obtain ⟨before, rfl⟩ := List.getLast?_eq_some_iff.mp final
  obtain ⟨reached, ranBefore⟩ := exists_run_of_append ran
  rw [run_append_of_ok ranBefore, run_singleton_eq_ok_iff] at ran
  obtain ⟨move, moves, rfl⟩ := ran
  exact ⟨reached.phase, move, moves, (reached.perform_phase move).symm⟩

theorem outcome_prepend (ran : draft.run tokens = .ok next) (later : Emission) :
    draft.outcome (.prepend tokens later) = next.outcome later := by
  rw [outcome, Emission.prepend, run_append_of_ok ran]
  rfl

/-- Further on, the outcome is the same but for the position of an error. -/
theorem outcome_shift (draft : Draft) (emission : Emission) (offset : Nat) :
    draft.outcome (emission.shift offset) =
      (draft.outcome emission).mapError (ParseError.shift offset) := by
  rw [outcome, outcome, Emission.shift]
  cases ran : draft.run emission.tokens with
  | error error =>
      obtain ⟨expected, found, rfl⟩ := exists_eq_unexpected_of_run ran
      rfl
  | ok last => cases emission.failure <;> rfl

end Draft

/-- **A text whose front has been read comes to what the draft there makes of the rest.** -/
theorem parse_append {tokens : List Token} {front rest : String} {draft : Draft}
    (spelled : Spelled .plain tokens front.toList) (ran : Draft.start.run tokens = .ok draft)
    (stops : ∀ last ∈ tokens.getLast?, Stops last.continues rest.toList) :
    parse (front ++ rest) =
      (draft.outcome (⟨rest.toList, 0, draft.phase.mode⟩ : Scanner).emission).mapError
        (ParseError.shift front.length) := by
  have mode : tokens.foldl Mode.after .plain = draft.phase.mode := Draft.run_mode ran
  have emitted := Scanner.emission_append spelled stops 0
  have moved := Scanner.emission_shift ⟨rest.toList, 0, draft.phase.mode⟩ front.toList.length
  rw [parse_eq_outcome, emission, Scanner.ofString, Scanner.ofList, String.toList_append]
  rw [mode] at emitted
  rw [Scanner.shift] at moved
  rw [Mode.initial, emitted, moved, Draft.outcome_prepend ran, Draft.outcome_shift,
    String.length_toList]

/-! ## Accepted texts -/

/-- The text spells tokens that lead to the draft, and there a compound may be closed. -/
structure Accepted (text : String) (tokens : List Token) (draft : Draft)
    (joint : Option Combinator) : Prop where
  spelled : Spelled .plain tokens text.toList
  reached : Draft.start.run tokens = .ok draft
  here : draft.phase.AtCompound joint

/-- **A text is a selector exactly when its last compound may be closed.** -/
theorem parse_eq_ok_iff_accepted {text : String} {selector : Selector} :
    parse text = .ok selector ↔
      ∃ tokens draft joint, Accepted text tokens draft joint ∧
        selector = ⟨(Draft.close joint ⟨draft.predicates⟩ draft.chains).reverse⟩ := by
  rw [parse_eq_ok_iff]
  constructor
  · rintro ⟨tokens, last, read, ran, rfl⟩
    obtain ⟨draft, reached⟩ := Draft.exists_run_of_append ran
    have live := Draft.phase_ne_ended_of_run (endOfInput_notMem_of_tokenize read) reached
    rw [Draft.run_append_of_ok reached, Draft.run_singleton_eq_ok_iff] at ran
    obtain ⟨move, moves, rfl⟩ := ran
    obtain ⟨phase, chains, predicates⟩ := draft
    cases moves with
    | @endOfInput _ joint here =>
        exact ⟨tokens, _, joint, ⟨tokenize_eq_ok_iff.mp read, reached, here⟩, rfl⟩
    | ended => exact absurd rfl live
  · rintro ⟨tokens, draft, joint, ⟨spelled, reached, here⟩, rfl⟩
    refine ⟨tokens, draft.perform ⟨.close joint, .ended⟩, tokenize_eq_ok_iff.mpr spelled, ?_, rfl⟩
    rw [Draft.run_append_of_ok reached, Draft.run_cons_of_transition (.endOfInput here)]
    rfl

namespace Accepted

variable {text : String} {tokens : List Token} {draft : Draft} {joint : Option Combinator}
  (accepted : Accepted text tokens draft joint)
include accepted

/-- Behind an accepted text the scanner is in plain mode. -/
theorem plain : tokens.foldl Mode.after .plain = .plain := by
  have mode : tokens.foldl Mode.after .plain = draft.phase.mode := Draft.run_mode accepted.reached
  rw [mode, accepted.here.mode_eq]

/-- A sign does not continue the last token. -/
theorem stops_sign (mark : Sign) (rest : List Char) {last : Token}
    (final : last ∈ tokens.getLast?) : Stops last.continues (mark.char :: rest) := by
  obtain ⟨phase, move, moves, same⟩ := Draft.exists_transition_of_getLast accepted.reached final
  exact moves.stops_sign (same ▸ accepted.here) mark rest

/-- A space does not continue the last token behind a predicate. -/
theorem stops_space (behind : draft.phase = .within joint .behind) (rest : List Char)
    {last : Token} (final : last ∈ tokens.getLast?) : Stops last.continues (' ' :: rest) := by
  obtain ⟨phase, move, moves, same⟩ := Draft.exists_transition_of_getLast accepted.reached final
  exact moves.stops_space (same.trans behind) rest

end Accepted

end TreeSelector
