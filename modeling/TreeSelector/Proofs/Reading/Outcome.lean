import TreeSelector.Proofs.Reading.Draft
import TreeSelector.Proofs.Token.Emission
import TreeSelector.Selector.Parse

/-!
# The outcome of reading a text

A parser takes its tokens one at a time from the scanner. Its result depends
only on what the scanner emits: the tokens are run through a draft, the first
refusal among them is the error, then an error of the scanner, and else the
closed chains are the selector (`parse_eq_outcome`). So there are three results
and no fault (`parse_eq_ok_iff`, `parse_eq_lexical_iff`, `parse_eq_unexpected_iff`,
`parse_ne_malformed`).
-/

set_option autoImplicit false

namespace TreeSelector

namespace Draft

/-! ## Refusals -/

/-- The first error of a run is a refusal: a token that its phase does not admit,
behind tokens that have been read. -/
theorem run_eq_error_iff {draft : Draft} {tokens : List Token} {error : ParseError} :
    draft.run tokens = .error error ↔
      ∃ before found after reached expected, tokens = before ++ found :: after ∧
        draft.run before = .ok reached ∧ reached.phase.step found = .error expected ∧
          error = .unexpected expected found := by
  constructor
  · intro failed
    induction tokens generalizing draft with
    | nil => cases failed
    | cons token tokens ih =>
        cases moves : draft.phase.step token with
        | error expected =>
            have refused : draft.step token = .error (.unexpected expected token) := by
              rw [step, moves]
            rw [run_cons_of_step_error refused] at failed
            cases failed
            exact ⟨[], token, tokens, draft, expected, rfl, rfl, moves, rfl⟩
        | ok move =>
            have stepped : draft.step token = .ok (draft.perform move) := by rw [step, moves]
            rw [run_cons_of_step_ok stepped] at failed
            obtain ⟨before, found, after, reached, expected, rfl, ran, refused, same⟩ := ih failed
            exact ⟨token :: before, found, after, reached, expected, rfl,
              by rw [run_cons_of_step_ok stepped, ran], refused, same⟩
  · rintro ⟨before, found, after, reached, expected, rfl, ran, refused, rfl⟩
    have stepped : reached.step found = .error (.unexpected expected found) := by
      rw [step, refused]
    rw [run_append_of_ok ran, run_cons_of_step_error stepped]

theorem exists_eq_unexpected_of_run {draft : Draft} {tokens : List Token} {error : ParseError}
    (failed : draft.run tokens = .error error) :
    ∃ expected found, error = .unexpected expected found := by
  obtain ⟨_, found, _, _, expected, _, _, _, same⟩ := run_eq_error_iff.mp failed
  exact ⟨expected, found, same⟩

end Draft

/-! ## Outcomes -/

/-- Results of reading can be compared by evaluation. -/
instance : DecidableEq (Except ParseError Selector)
  | .ok first, .ok second => decidable_of_iff (first = second) (by rw [Except.ok.injEq])
  | .error first, .error second => decidable_of_iff (first = second) (by rw [Except.error.injEq])
  | .ok _, .error _ => isFalse nofun
  | .error _, .ok _ => isFalse nofun

/-- The end token leads to the end. -/
theorem Phase.Transition.phase_eq_ended {phase : Phase} {move : Move}
    (moves : phase.Transition .endOfInput move) : move.phase = .ended := by
  cases moves <;> rfl

/-- Only the end token leads to the end. -/
theorem Phase.Transition.phase_ne_ended {phase : Phase} {token : Token} {move : Move}
    (moves : phase.Transition token move) (other : token ≠ .endOfInput) : move.phase ≠ .ended := by
  cases moves with
  | endOfInput | ended => exact absurd rfl other
  | _ => exact nofun

namespace Draft

/-- Before the end token, no run is at its end. -/
theorem phase_ne_ended_of_run {last : Draft} {tokens : List Token} (more : .endOfInput ∉ tokens)
    (ran : start.run tokens = .ok last) : last.phase ≠ .ended := by
  rcases List.eq_nil_or_concat tokens with rfl | ⟨before, token, rfl⟩
  · cases ran
    exact nofun
  · rw [List.concat_eq_append] at more ran
    have other : token ≠ .endOfInput := by
      rintro rfl
      exact more (by simp)
    obtain ⟨reached, ranBefore⟩ := exists_run_of_append ran
    rw [run_append_of_ok ranBefore, run_singleton_eq_ok_iff] at ran
    obtain ⟨move, moves, rfl⟩ := ran
    rw [perform_phase]
    exact moves.phase_ne_ended other

/-- What a draft and the tokens behind it come to: the first refusal, or the error
behind the tokens, or the closed chains. -/
def outcome (draft : Draft) (emission : Emission) : Except ParseError Selector :=
  match draft.run emission.tokens with
  | .error error => .error error
  | .ok last =>
      match emission.failure with
      | some error => .error (.lexical error)
      | none => .ok ⟨last.chains.reverse⟩

theorem outcome_cons_of_step_ok {draft next : Draft} {token : Token}
    (stepped : draft.step token = .ok next) (later : Emission) :
    draft.outcome (.cons token later) = next.outcome later := by
  rw [outcome, Emission.cons, run_cons_of_step_ok stepped]
  rfl

theorem outcome_cons_of_step_error {draft : Draft} {token : Token} {error : ParseError}
    (refused : draft.step token = .error error) (later : Emission) :
    draft.outcome (.cons token later) = .error error := by
  rw [outcome, Emission.cons, run_cons_of_step_error refused]

theorem phase_eq_ended_of_step_endOfInput {draft next : Draft}
    (stepped : draft.step .endOfInput = .ok next) : next.phase = .ended := by
  obtain ⟨move, moves, rfl⟩ := step_eq_ok_iff.mp stepped
  rw [perform_phase, moves.phase_eq_ended]

theorem outcome_eq_ok_iff {draft : Draft} {emission : Emission} {selector : Selector} :
    draft.outcome emission = .ok selector ↔
      emission.failure = none ∧
        ∃ last, draft.run emission.tokens = .ok last ∧ selector = ⟨last.chains.reverse⟩ := by
  unfold outcome
  cases draft.run emission.tokens with
  | error error => simp
  | ok last => cases emission.failure <;> simp [eq_comm]

theorem outcome_eq_lexical_iff {draft : Draft} {emission : Emission} {error : LexicalError} :
    draft.outcome emission = .error (.lexical error) ↔
      emission.failure = some error ∧ ∃ last, draft.run emission.tokens = .ok last := by
  unfold outcome
  cases ran : draft.run emission.tokens with
  | error other =>
      obtain ⟨expected, found, rfl⟩ := exists_eq_unexpected_of_run ran
      simp
  | ok last => cases emission.failure <;> simp

theorem outcome_eq_unexpected_iff {draft : Draft} {emission : Emission} {expected : List Kind}
    {found : Token} :
    draft.outcome emission = .error (.unexpected expected found) ↔
      draft.run emission.tokens = .error (.unexpected expected found) := by
  unfold outcome
  cases draft.run emission.tokens with
  | error other => simp
  | ok last => cases emission.failure <;> simp

theorem outcome_ne_malformed (draft : Draft) (emission : Emission) (fault : Construction.Fault) :
    draft.outcome emission ≠ .error (.malformed fault) := by
  unfold outcome
  cases ran : draft.run emission.tokens with
  | error other =>
      obtain ⟨expected, found, rfl⟩ := exists_eq_unexpected_of_run ran
      simp
  | ok last => cases emission.failure <;> simp

end Draft

namespace Parser

theorem run_of_result {parser : Parser} {result : Except ParseError Selector}
    (known : parser.result = some result) : parser.run = result := by
  rw [run]
  split
  · rename_i other found
    rw [known] at found
    cases found
    rfl
  · rename_i running
    rw [known] at running
    cases running

theorem run_of_running {parser : Parser} (running : parser.result = none) :
    parser.run =
      (parser.receive parser.scanner.advance parser.scanner.lexeme.outcome).run := by
  rw [run]
  split
  · rename_i found
    rw [running] at found
    cases found
  · rw [step, running]

/-- A parser comes to the outcome of its draft. -/
theorem run_eq_outcome {parser : Parser} {draft : Draft} (running : parser.result = none)
    (reads : parser.reading = draft.reading) (fits : draft.Fits) :
    parser.run = draft.outcome parser.scanner.emission := by
  obtain ⟨scanner, reading, result⟩ := parser
  simp only at running reads
  subst running reads
  -- The induction is on what the scanner emits. The draft changes with every token.
  induction scanner using Scanner.emission_induction generalizing draft with
  | ended scanner ended =>
      rw [run_of_running rfl, Scanner.outcome_of_rest_nil ended, Scanner.emission_of_rest_nil ended,
        receive, Draft.step_reading fits]
      cases stepped : draft.step .endOfInput with
      | error error =>
          rw [run_of_result rfl]
          exact (Draft.outcome_cons_of_step_error stepped ⟨[], none⟩).symm
      | ok next =>
          rw [run_of_result rfl, Draft.finish_reading (Draft.fits_step fits stepped)
            (Draft.phase_eq_ended_of_step_endOfInput stepped)]
          exact (Draft.outcome_cons_of_step_ok stepped ⟨[], none⟩).symm
  | failed scanner error failed =>
      rw [run_of_running rfl, failed, Scanner.emission_of_outcome_error failed, receive,
        run_of_result rfl]
      rfl
  | read scanner token more read ih =>
      have other : token ≠ .endOfInput := by
        rintro rfl
        exact Scanner.outcome_ne_endOfInput more read
      have goesOn : token.isEnd = false := by
        rw [← Bool.not_eq_true, Token.isEnd_iff]
        exact other
      rw [run_of_running rfl, read, Scanner.emission_of_outcome_ok more read, receive,
        Draft.step_reading fits]
      cases stepped : draft.step token with
      | error error =>
          rw [run_of_result rfl]
          exact (Draft.outcome_cons_of_step_error stepped _).symm
      | ok next =>
          simp only [Except.map, goesOn, Bool.false_eq_true, if_false]
          rw [ih (Draft.fits_step fits stepped), Draft.outcome_cons_of_step_ok stepped]

end Parser

/-! ## The results of reading a text -/

/-- **The result of a parser depends on the emission alone.** -/
theorem parse_eq_outcome (text : String) :
    parse text = Draft.start.outcome (emission text) :=
  Parser.run_eq_outcome rfl rfl Draft.fits_start

theorem parse_eq_ok_iff {text : String} {selector : Selector} :
    parse text = .ok selector ↔
      ∃ tokens last, tokenize text = .ok (tokens ++ [.endOfInput]) ∧
        Draft.start.run (tokens ++ [.endOfInput]) = .ok last ∧
          selector = ⟨last.chains.reverse⟩ := by
  rw [parse_eq_outcome, Draft.outcome_eq_ok_iff]
  constructor
  · rintro ⟨complete, last, ran, same⟩
    obtain ⟨tokens, -, ⟨error, whole⟩ | whole⟩ :=
      Scanner.exists_emission_eq_append (Scanner.ofString text)
    · rw [emission, whole] at complete
      cases complete
    · refine ⟨tokens, last, tokenize_eq_ok_iff_emission.mpr whole, ?_, same⟩
      rw [emission, whole] at ran
      exact ran
  · rintro ⟨tokens, last, read, ran, same⟩
    rw [tokenize_eq_ok_iff_emission.mp read]
    exact ⟨rfl, last, ran, same⟩

/-- An error of the scanner is the result when every token before it is admitted. -/
theorem parse_eq_lexical_iff {text : String} {error : LexicalError} :
    parse text = .error (.lexical error) ↔
      (emission text).failure = some error ∧
        ∃ last, Draft.start.run (emission text).tokens = .ok last := by
  rw [parse_eq_outcome, Draft.outcome_eq_lexical_iff]

/-- A refusal among the tokens is the result, whatever follows. -/
theorem parse_eq_unexpected_iff {text : String} {expected : List Kind} {found : Token} :
    parse text = .error (.unexpected expected found) ↔
      Draft.start.run (emission text).tokens = .error (.unexpected expected found) := by
  rw [parse_eq_outcome, Draft.outcome_eq_unexpected_iff]

/-- The construction stack is never malformed. -/
theorem parse_ne_malformed (text : String) (fault : Construction.Fault) :
    parse text ≠ .error (.malformed fault) := by
  rw [parse_eq_outcome]
  exact Draft.outcome_ne_malformed _ _ fault

end TreeSelector
