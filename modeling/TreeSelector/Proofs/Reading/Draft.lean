import TreeSelector.Proofs.Reading.Transition

/-!
# Drafts of a selector

A reading keeps its pieces on a stack, and the actions on the stack ask for a
certain shape. A draft (`Draft`) holds the same pieces in a form that has no
other shape: the chains that have been closed, the last of them first, and the
predicates of the compound that is being read.

`Draft.reading` puts the pieces on the stack: the closed chains, and above them
the predicates, of which exactly as many are pending. As long as a compound that
is to be linked has a chain before it and nothing is pending where a compound
begins (`Draft.Fits`), which every move preserves (`fits_perform`), the edits of
the stack succeed and do what is done to the draft (`apply_construction`). So a
reading never meets a fault: its steps are those of the draft (`step_reading`).
-/

set_option autoImplicit false

namespace TreeSelector

/-- What has been read of a selector: the closed chains, the last of them first,
and the predicates of the compound that is being read. -/
structure Draft where
  phase : Phase
  chains : List Chain
  predicates : List Predicate
  deriving DecidableEq

/-! ## Phases and the stack -/

namespace Phase

/-- How the compound that is being read, or is to be read next, stands to the
last closed chain. -/
def joint? : Phase → Option Combinator
  | .within joint _ => joint
  | .afterBlank => some .descendant
  | .afterCombinator combinator => some combinator
  | .afterComma => none
  | .ended => none

/-- Whether nothing has been read of a compound. -/
def fresh : Phase → Bool
  | .within _ .front => true
  | .within _ _ => false
  | .afterBlank | .afterCombinator _ | .afterComma | .ended => true

theorem Opens.joint?_eq {phase : Phase} {joint : Option Combinator} (opens : phase.Opens joint) :
    phase.joint? = joint := by
  cases opens <;> rfl

theorem Opens.fresh_eq {phase : Phase} {joint : Option Combinator} (opens : phase.Opens joint) :
    phase.fresh = true := by
  cases opens <;> rfl

theorem AtCompound.joint?_eq {phase : Phase} {joint : Option Combinator}
    (here : phase.AtCompound joint) : phase.joint? = joint := by
  cases here with
  | opens opens => exact opens.joint?_eq
  | behind joint => rfl

end Phase

namespace Draft

/-- Nothing has been read. -/
def start : Draft :=
  ⟨Phase.start, [], []⟩

/-! ## The stack of a draft -/

/-- The pieces on the stack: the closed chains, and the pending predicates above
them. -/
def construction (draft : Draft) : Construction where
  pieces := (draft.predicates.map Piece.predicate).reverse ++ draft.chains.map Piece.chain
  pending := draft.predicates.length

/-- The draft as a reading. -/
def reading (draft : Draft) : Reading :=
  ⟨draft.phase, draft.construction⟩

/-- The closed chains when the compound has been linked to the one before it, or
stands on its own. -/
def close (joint : Option Combinator) (compound : Compound) : List Chain → List Chain
  | [] => [.single compound]
  | before :: below =>
      match joint with
      | none => .single compound :: before :: below
      | some combinator => .link before combinator compound :: below

/-- The draft behind a move. -/
def perform (draft : Draft) (move : Move) : Draft :=
  match move.edit with
  | .keep => ⟨move.phase, draft.chains, draft.predicates⟩
  | .push predicate => ⟨move.phase, draft.chains, draft.predicates ++ [predicate]⟩
  | .close joint => ⟨move.phase, close joint ⟨draft.predicates⟩ draft.chains, []⟩

/-- A compound that is to be linked has a chain before it, and where nothing has
been read of a compound, nothing is pending. -/
structure Fits (draft : Draft) : Prop where
  linked : draft.phase.joint? ≠ none → draft.chains ≠ []
  fresh : draft.phase.fresh = true → draft.predicates = []

theorem close_ne_nil (joint : Option Combinator) (compound : Compound) (chains : List Chain) :
    close joint compound chains ≠ [] := by
  cases chains with
  | nil => simp [close]
  | cons before below => cases joint <;> simp [close]

theorem fits_start : start.Fits :=
  ⟨fun linked => absurd rfl linked, fun _ => rfl⟩

theorem perform_phase (draft : Draft) (move : Move) : (draft.perform move).phase = move.phase := by
  obtain ⟨edit, phase⟩ := move
  cases edit <;> rfl

/-- **Every move preserves the fit.** -/
theorem fits_perform {draft : Draft} {token : Token} {move : Move} (fits : draft.Fits)
    (moves : draft.phase.Transition token move) : (draft.perform move).Fits := by
  obtain ⟨phase, chains, predicates⟩ := draft
  obtain ⟨linked, fresh⟩ := fits
  simp only at linked fresh moves
  have closes (joint : Option Combinator) (next : Phase) :
      (perform ⟨phase, chains, predicates⟩ ⟨.close joint, next⟩).Fits :=
    ⟨fun _ => close_ne_nil joint _ chains, fun _ => rfl⟩
  cases moves with
  | tag name opens | anyTag opens =>
      exact ⟨fun joined => linked (opens.joint?_eq ▸ joined), nofun⟩
  | hash here | dot here | leftBracket here =>
      exact ⟨fun joined => linked (here.joint?_eq ▸ joined), nofun⟩
  | id | className | attributeName | present | equals | operator | assign | quoted | literal
  | rightBracket => exact ⟨linked, nofun⟩
  | padding opens =>
      exact ⟨fun joined => linked (opens.joint?_eq ▸ joined), fun _ => fresh opens.fresh_eq⟩
  | blank => exact closes _ _
  | combinator => exact closes _ _
  | combinatorAfterBlank => exact ⟨fun _ => linked nofun, fun _ => fresh rfl⟩
  | comma => exact closes _ _
  | endOfInput => exact closes _ _
  | ended => exact ⟨nofun, fresh⟩

/-! ## Edits of the stack -/

theorem mapM_predicate? (predicates : List Predicate) :
    (predicates.map Piece.predicate).mapM Piece.predicate? = some predicates := by
  induction predicates with
  | nil => rfl
  | cons predicate predicates ih => simp [Piece.predicate?, ih]

theorem mapM_chain? (chains : List Chain) :
    (chains.map Piece.chain).mapM Piece.chain? = some chains := by
  induction chains with
  | nil => rfl
  | cons chain chains ih => simp [Piece.chain?, ih]

/-- The pending predicates become a compound on its own. -/
theorem compound_construction (draft : Draft) :
    draft.construction.compound =
      .ok ⟨.chain (.single ⟨draft.predicates⟩) :: draft.chains.map Piece.chain, 0⟩ := by
  obtain ⟨phase, chains, predicates⟩ := draft
  have pending : (predicates.map Piece.predicate).reverse.length = predicates.length := by simp
  rw [Construction.compound, if_pos (by simp [construction])]
  simp only [construction, List.take_left' pending, List.drop_left' pending, List.reverse_reverse,
    mapM_predicate?]

theorem apply_construction_close (draft : Draft) {joint : Option Combinator}
    (linked : joint ≠ none → draft.chains ≠ []) (phase : Phase) :
    (Edit.close joint).apply draft.construction =
      .ok (draft.perform ⟨.close joint, phase⟩).construction := by
  obtain ⟨current, chains, predicates⟩ := draft
  cases joint with
  | none =>
      rw [Edit.apply, compound_construction]
      cases chains <;> rfl
  | some combinator =>
      obtain ⟨before, below, rfl⟩ := List.exists_cons_of_ne_nil (linked nofun)
      rw [Edit.apply, compound_construction]
      rfl

/-- **The edits of the stack succeed**, and do what is done to the draft. -/
theorem apply_construction {draft : Draft} {token : Token} {move : Move} (fits : draft.Fits)
    (moves : draft.phase.Transition token move) :
    move.edit.apply draft.construction = .ok (draft.perform move).construction := by
  obtain ⟨edit, next⟩ := move
  cases edit with
  | keep => rfl
  | push predicate => simp [Edit.apply, construction, Construction.push, perform]
  | close joint =>
      refine apply_construction_close draft (fun joined => fits.linked ?_) next
      rw [moves.atCompound_of_close.joint?_eq]
      exact joined

/-! ## Steps -/

/-- What a token makes of a draft. -/
def step (draft : Draft) (token : Token) : Except ParseError Draft :=
  match draft.phase.step token with
  | .error expected => .error (.unexpected expected token)
  | .ok move => .ok (draft.perform move)

theorem step_eq_ok_iff {draft next : Draft} {token : Token} :
    draft.step token = .ok next ↔
      ∃ move, draft.phase.Transition token move ∧ draft.perform move = next := by
  unfold step
  cases moves : draft.phase.step token with
  | error expected =>
      constructor
      · intro stepped
        cases stepped
      · rintro ⟨move, transition, -⟩
        rw [Phase.step_of_transition transition] at moves
        cases moves
  | ok move =>
      simp only [Except.ok.injEq]
      constructor
      · rintro rfl
        exact ⟨move, Phase.transition_of_step moves, rfl⟩
      · rintro ⟨other, transition, rfl⟩
        rw [Phase.step_of_transition transition] at moves
        cases moves
        rfl

theorem fits_step {draft next : Draft} {token : Token} (fits : draft.Fits)
    (stepped : draft.step token = .ok next) : next.Fits := by
  obtain ⟨move, moves, rfl⟩ := step_eq_ok_iff.mp stepped
  exact fits_perform fits moves

/-- **A reading takes the steps of its draft**, and no fault. -/
theorem step_reading {draft : Draft} (fits : draft.Fits) (token : Token) :
    draft.reading.step token = (draft.step token).map reading := by
  unfold Reading.step step
  cases moves : draft.phase.step token with
  | error expected => simp [reading, moves, Except.map]
  | ok move =>
      have edited := apply_construction fits (Phase.transition_of_step moves)
      simp [reading, moves, edited, Except.map, perform_phase]

/-- Where nothing is pending, the closed chains are gathered as the alternatives. -/
theorem selector_construction {draft : Draft} (none : draft.predicates = []) :
    draft.construction.selector = .ok ⟨[.selector ⟨draft.chains.reverse⟩], 0⟩ := by
  have taken : (draft.chains.map Piece.chain).reverse.mapM Piece.chain? =
      some draft.chains.reverse := by
    rw [← List.map_reverse, mapM_chain?]
  simp [construction, none, Construction.selector, taken]

/-- Behind the end token, the closed chains are the alternatives. -/
theorem finish_reading {draft : Draft} (fits : draft.Fits) (ended : draft.phase = .ended) :
    draft.reading.finish = .ok ⟨draft.chains.reverse⟩ := by
  have none : draft.predicates = [] := fits.fresh (by rw [ended]; rfl)
  have gathered : draft.reading.construction.selector =
      .ok ⟨[.selector ⟨draft.chains.reverse⟩], 0⟩ := selector_construction none
  rw [Reading.finish, gathered]
  rfl

/-! ## Runs -/

/-- What a row of tokens makes of a draft: the draft behind them, or the first
error. -/
def run (draft : Draft) (tokens : List Token) : Except ParseError Draft :=
  tokens.foldlM step draft

theorem run_nil (draft : Draft) : draft.run [] = .ok draft :=
  rfl

theorem run_cons_of_step_ok {draft next : Draft} {token : Token}
    (stepped : draft.step token = .ok next) (later : List Token) :
    draft.run (token :: later) = next.run later := by
  rw [run, List.foldlM_cons, stepped]
  rfl

theorem run_cons_of_step_error {draft : Draft} {token : Token} {error : ParseError}
    (refused : draft.step token = .error error) (later : List Token) :
    draft.run (token :: later) = .error error := by
  rw [run, List.foldlM_cons, refused]
  rfl

theorem run_cons_of_transition {draft : Draft} {token : Token} {move : Move}
    (moves : draft.phase.Transition token move) (later : List Token) :
    draft.run (token :: later) = (draft.perform move).run later :=
  run_cons_of_step_ok (step_eq_ok_iff.mpr ⟨move, moves, rfl⟩) later

/-- A run begins with an admitted token. -/
theorem run_cons_eq_ok_iff {draft last : Draft} {token : Token} {later : List Token} :
    draft.run (token :: later) = .ok last ↔
      ∃ move, draft.phase.Transition token move ∧ (draft.perform move).run later = .ok last := by
  constructor
  · intro ran
    cases stepped : draft.step token with
    | error error =>
        rw [run_cons_of_step_error stepped] at ran
        cases ran
    | ok next =>
        rw [run_cons_of_step_ok stepped] at ran
        obtain ⟨move, moves, rfl⟩ := step_eq_ok_iff.mp stepped
        exact ⟨move, moves, ran⟩
  · rintro ⟨move, moves, ran⟩
    rw [run_cons_of_transition moves, ran]

theorem run_singleton_eq_ok_iff {draft last : Draft} {token : Token} :
    draft.run [token] = .ok last ↔
      ∃ move, draft.phase.Transition token move ∧ draft.perform move = last := by
  simp only [run_cons_eq_ok_iff, run_nil, Except.ok.injEq]

theorem run_append (draft : Draft) (tokens later : List Token) :
    draft.run (tokens ++ later) = draft.run tokens >>= (run · later) :=
  List.foldlM_append

theorem run_append_of_ok {draft next : Draft} {tokens : List Token}
    (reached : draft.run tokens = .ok next) (later : List Token) :
    draft.run (tokens ++ later) = next.run later := by
  rw [run_append, reached]
  rfl

theorem exists_run_of_append {draft last : Draft} {tokens later : List Token}
    (ran : draft.run (tokens ++ later) = .ok last) : ∃ reached, draft.run tokens = .ok reached := by
  rw [run_append] at ran
  cases reached : draft.run tokens with
  | ok next => exact ⟨next, rfl⟩
  | error error =>
      rw [reached] at ran
      cases ran

theorem fits_run {draft last : Draft} {tokens : List Token} (fits : draft.Fits)
    (ran : draft.run tokens = .ok last) : last.Fits := by
  induction tokens generalizing draft with
  | nil =>
      cases ran
      exact fits
  | cons token tokens ih =>
      obtain ⟨move, moves, ranLater⟩ := run_cons_eq_ok_iff.mp ran
      exact ih (fits_perform fits moves) ranLater

end Draft

end TreeSelector
