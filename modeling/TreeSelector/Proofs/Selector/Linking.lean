import TreeSelector.Proofs.Reading.Seam
import TreeSelector.Proofs.Selector.RoundTrip

/-!
# Chains that are put together as texts

Where a combinator stands between the text of a chain and the text of a compound, the
compound is linked to the chain (`parse_spaced`).

The compound is read behind the combinator as it is on its own (`Draft.run_rejoin`),
because no move within a compound depends on how the compound is to be linked
(`Phase.Transition.rejoin`). The chain must not end in an empty compound: a blank behind
one could be read together with the blank of the combinator.
-/

set_option autoImplicit false

namespace TreeSelector

/-! ## Moves within a compound -/

namespace Phase

/-- A place within a compound with the joint has been reached. The front of a compound is
also where it may begin. -/
inductive At : Phase → Option Combinator → Place → Prop where
  | within (joint : Option Combinator) (place : Place) : At (.within joint place) joint place
  | opens {phase : Phase} {joint : Option Combinator} (opens : phase.Opens joint) :
      At phase joint .front

variable {phase : Phase} {joint other : Option Combinator} {place : Place} {token : Token}
  {move : Move}

theorem At.opens_of_front (there : phase.At joint .front) : phase.Opens joint := by
  cases there with
  | within => exact .front joint
  | opens opens => exact opens

theorem At.atCompound (there : phase.At joint place)
    (here : (Phase.within none place).AtCompound other) :
    phase.AtCompound joint := by
  cases here with
  | opens opens =>
      cases opens
      exact .opens there.opens_of_front
  | behind =>
      cases there
      exact .behind joint

/-- **A move that does not close a compound does not depend on how the compound is to be
linked.** -/
theorem Transition.rejoin (moves : (Phase.within none place).Transition token move)
    (remains : ∀ joint, move.edit ≠ .close joint) :
    ∃ next, move.phase = .within none next ∧ ∀ (phase : Phase) joint, phase.At joint place →
      phase.Transition token ⟨move.edit, .within joint next⟩ := by
  cases moves with
  | tag name opens =>
      cases opens
      exact ⟨_, rfl, fun phase joint there => .tag name there.opens_of_front⟩
  | anyTag opens =>
      cases opens
      exact ⟨_, rfl, fun phase joint there => .anyTag there.opens_of_front⟩
  | hash here =>
      obtain rfl := here.joint?_eq
      exact ⟨_, rfl, fun phase joint there => .hash (there.atCompound here)⟩
  | dot here =>
      obtain rfl := here.joint?_eq
      exact ⟨_, rfl, fun phase joint there => .dot (there.atCompound here)⟩
  | leftBracket here =>
      obtain rfl := here.joint?_eq
      exact ⟨_, rfl, fun phase joint there => .leftBracket (there.atCompound here)⟩
  | id _ name => exact ⟨_, rfl, fun | _, _, .within joint _ => .id joint name⟩
  | className _ name => exact ⟨_, rfl, fun | _, _, .within joint _ => .className joint name⟩
  | attributeName _ name =>
      exact ⟨_, rfl, fun | _, _, .within joint _ => .attributeName joint name⟩
  | present _ name => exact ⟨_, rfl, fun | _, _, .within joint _ => .present joint name⟩
  | equals _ name => exact ⟨_, rfl, fun | _, _, .within joint _ => .equals joint name⟩
  | operator _ name begins =>
      exact ⟨_, rfl, fun | _, _, .within joint _ => .operator joint name begins⟩
  | assign _ name test => exact ⟨_, rfl, fun | _, _, .within joint _ => .assign joint name test⟩
  | quoted _ name test text =>
      exact ⟨_, rfl, fun | _, _, .within joint _ => .quoted joint name test text⟩
  | literal _ name test text =>
      exact ⟨_, rfl, fun | _, _, .within joint _ => .literal joint name test text⟩
  | rightBracket _ predicate =>
      exact ⟨_, rfl, fun | _, _, .within joint _ => .rightBracket joint predicate⟩
  | padding opens padded =>
      cases opens
      cases padded
  | blank | combinator | comma | endOfInput => exact absurd rfl (remains _)

end Phase

namespace Draft

variable {draft last : Draft} {tokens : List Token}

theorem chains_ne_nil_of_run (some : draft.chains ≠ []) (ran : draft.run tokens = .ok last) :
    last.chains ≠ [] := by
  induction tokens generalizing draft with
  | nil =>
      cases ran
      exact some
  | cons token tokens ih =>
      obtain ⟨⟨edit, phase⟩, -, ranLater⟩ := run_cons_eq_ok_iff.mp ran
      refine ih ?_ ranLater
      cases edit with
      | keep | push predicate => exact some
      | close joint => exact close_ne_nil joint _ _

/-- As long as there is no closed chain, no compound has been closed. -/
theorem edit_ne_close_of_run {move : Move} (ran : (draft.perform move).run tokens = .ok last)
    (alone : last.chains = []) (joint : Option Combinator) : move.edit ≠ .close joint := by
  obtain ⟨edit, phase⟩ := move
  rintro rfl
  exact chains_ne_nil_of_run (close_ne_nil joint _ _) ran alone

/-- **A compound is read as on its own** wherever it is to be linked. -/
theorem run_rejoin {place : Place} {predicates : List Predicate}
    (ran : (Draft.mk (.within none place) [] predicates).run tokens = .ok last)
    (alone : last.chains = []) :
    ∃ next, last.phase = .within none next ∧ ∀ phase joint chains, Phase.At phase joint place →
      ∃ final, Phase.At final joint next ∧
        (Draft.mk phase chains predicates).run tokens = .ok ⟨final, chains, last.predicates⟩ := by
  induction tokens generalizing place predicates with
  | nil =>
      cases ran
      exact ⟨place, rfl, fun phase joint chains there => ⟨phase, there, rfl⟩⟩
  | cons token tokens ih =>
      obtain ⟨⟨edit, phase⟩, moves, ranLater⟩ := run_cons_eq_ok_iff.mp ran
      have remains := edit_ne_close_of_run ranLater alone
      obtain ⟨next, rfl, rejoined⟩ := moves.rejoin remains
      cases edit with
      | close joint => exact absurd rfl (remains joint)
      | keep | push predicate =>
          obtain ⟨final, same, rest⟩ := ih ranLater
          refine ⟨final, same, fun phase joint chains there => ?_⟩
          rw [run_cons_of_transition (rejoined phase joint there)]
          exact rest _ joint chains (.within joint next)

end Draft

/-! ## A compound behind a chain -/

/-- Where there is one chain when a compound has been closed, the compound is its last. -/
theorem Draft.eq_of_close_eq_singleton {joint : Option Combinator} {compound : Compound}
    {chains : List Chain} {chain : Chain} (linked : joint ≠ none → chains ≠ [])
    (closed : close joint compound chains = [chain]) :
    chain.joint? = joint ∧ chain.last = compound ∧ chain.onto [] = chains := by
  cases chains with
  | nil =>
      cases joint with
      | none =>
          cases closed
          exact ⟨rfl, rfl, rfl⟩
      | some combinator => exact absurd rfl (linked nofun)
  | cons before below =>
      cases joint with
      | none => cases closed
      | some combinator =>
          cases closed
          exact ⟨rfl, rfl, rfl⟩

/-- A text that is read as one chain leads to its last compound. -/
theorem exists_accepted_of_parse_singleton {text : String} {chain : Chain}
    (read : parse text = .ok ⟨[chain]⟩) :
    ∃ tokens phase,
      Accepted text tokens ⟨phase, chain.onto [], chain.last.predicates⟩ chain.joint? := by
  obtain ⟨tokens, ⟨phase, chains, predicates⟩, joint, accepted, same⟩ :=
    parse_eq_ok_iff_accepted.mp read
  have fits := Draft.fits_run Draft.fits_start accepted.reached
  have linked : joint ≠ none → chains ≠ [] := by
    rw [← accepted.here.joint?_eq]
    exact fits.linked
  have closed : Draft.close joint ⟨predicates⟩ chains = [chain] :=
    List.reverse_eq_iff.mp (congrArg Selector.alternatives same).symm
  obtain ⟨rfl, last, rfl⟩ := Draft.eq_of_close_eq_singleton linked closed
  rw [last]
  exact ⟨tokens, phase, accepted⟩

theorem Combinator.squeeze_tokens (combinator : Combinator) :
    squeeze false combinator.tokens = combinator.tokens := by
  cases combinator <;> rfl

theorem Combinator.getLast?_tokens (combinator : Combinator) :
    combinator.tokens.getLast? = some .blank := by
  cases combinator <;> rfl

theorem Combinator.exists_toList_spaced (combinator : Combinator) :
    ∃ rest, combinator.spaced.toList = ' ' :: rest := by
  cases combinator <;> exact ⟨_, rfl⟩

/-- A combinator is spelled with a blank on either side. -/
theorem Combinator.spelled_spaced (combinator : Combinator) :
    Spelled .plain combinator.tokens combinator.spaced.toList := by
  have spelled := (spelled_squeeze combinator.neat_tokens.legible).1
  rw [combinator.squeeze_tokens] at spelled
  rw [combinator.toList_spaced]
  exact spelled

namespace Accepted

section Front

variable {text : String} {tokens : List Token} {draft : Draft} {joint : Option Combinator}
  (accepted : Accepted text tokens draft joint)
include accepted

/-- Behind a compound that is not empty, a predicate has been read last. -/
theorem phase_eq_behind (full : (Compound.mk draft.predicates).isEmpty = false) :
    draft.phase = .within joint .behind := by
  have fits := Draft.fits_run Draft.fits_start accepted.reached
  obtain ⟨phase, chains, predicates⟩ := draft
  have here : phase.AtCompound joint := accepted.here
  cases here with
  | opens opens =>
      obtain rfl : predicates = [] := fits.fresh opens.fresh_eq
      cases full
  | behind => rfl

/-- Behind a predicate a combinator may be written. -/
theorem spelled_spaced (behind : draft.phase = .within joint .behind) (combinator : Combinator) :
    Spelled .plain (tokens ++ combinator.tokens) (text ++ combinator.spaced).toList := by
  obtain ⟨rest, space⟩ := combinator.exists_toList_spaced
  rw [String.toList_append]
  refine accepted.spelled.append ?_ fun last final => ?_
  · rw [accepted.plain]
    exact combinator.spelled_spaced
  · rw [space]
    exact accepted.stops_space behind rest final

/-- A text in which no compound is closed does not begin with white space. -/
theorem stops_isWhiteSpace (alone : draft.chains = []) :
    Stops Unicode.isWhiteSpace text.toList := by
  obtain ⟨spelled, reached, -⟩ := accepted
  generalize text.toList = whole at spelled
  cases spelled with
  | nil => exact stops_nil _
  | @cons _ token covered later rest front _ =>
      obtain ⟨move, moves, ran⟩ := Draft.run_cons_eq_ok_iff.mp reached
      have notBlank : token ≠ .blank := by
        rintro rfl
        have remains := Draft.edit_ne_close_of_run ran alone
        cases moves with
        | padding opens padded => cases padded
        | blank => exact remains _ rfl
      rw [front.spelled.eq_spelling notBlank]
      exact stops_isWhiteSpace_spelling front.gives notBlank rest

end Front

/-- A combinator behind a chain opens the next compound. -/
theorem run_combinator {text : String} {tokens : List Token} {phase : Phase} {chain : Chain}
    (accepted : Accepted text tokens ⟨phase, chain.onto [], chain.last.predicates⟩ chain.joint?)
    (full : chain.last.isEmpty = false) (combinator : Combinator) :
    Draft.start.run (tokens ++ combinator.tokens) =
      .ok (Draft.opened [] (.link chain combinator .empty)) := by
  have behind : phase = .within chain.joint? .behind := accepted.phase_eq_behind full
  have opened : Draft.mk phase (chain.onto []) chain.last.predicates = Draft.opened [] chain := by
    rw [behind, Draft.opened, Chain.phase, if_neg (by simp [full])]
  have ran : (Draft.opened [] chain).run
      (squeeze (chain.endsInBlank (!true)) combinator.tokens) =
        .ok (Draft.opened [] (.link chain combinator .empty)) :=
    Draft.run_combinator (fun _ => full) fun _ => .inl full
  rw [Chain.endsInBlank, full, Bool.false_and, combinator.squeeze_tokens] at ran
  rw [Draft.run_append_of_ok accepted.reached, opened, ran]

/-- A text that is a compound on its own is a compound behind a chain, where one begins. -/
theorem outcome_of_opens {text : String} {tokens : List Token} {phase : Phase}
    {predicates : List Predicate} (accepted : Accepted text tokens ⟨phase, [], predicates⟩ none)
    {opening : Phase} {combinator : Combinator} (opens : opening.Opens (some combinator))
    (chain : Chain) :
    (Draft.mk opening [chain] []).outcome ⟨tokens ++ [.endOfInput], none⟩ =
      .ok ⟨[.link chain combinator ⟨predicates⟩]⟩ := by
  obtain ⟨next, same, rejoined⟩ := Draft.run_rejoin accepted.reached rfl
  obtain ⟨final, there, ran⟩ := rejoined opening (some combinator) [chain] (.opens opens)
  have here : (Phase.within none next).AtCompound none := same ▸ accepted.here
  refine Draft.outcome_eq_ok_iff.mpr
    ⟨rfl, ⟨.ended, [.link chain combinator ⟨predicates⟩], []⟩, ?_, rfl⟩
  rw [Draft.run_append_of_ok ran,
    Draft.run_cons_of_transition (.endOfInput (there.atCompound here))]
  rfl

end Accepted

/-- **A combinator between two texts links the compound of the second to the chain of the
first.** -/
theorem parse_spaced {text later : String} {chain : Chain} {compound : Compound}
    (read : parse text = .ok ⟨[chain]⟩) (full : chain.last.isEmpty = false)
    (readLater : parse later = .ok ⟨[.single compound]⟩) (combinator : Combinator) :
    parse (text ++ combinator.spaced ++ later) = .ok ⟨[.link chain combinator compound]⟩ := by
  obtain ⟨tokens, phase, accepted⟩ := exists_accepted_of_parse_singleton read
  obtain ⟨tokensLater, phaseLater, acceptedLater⟩ := exists_accepted_of_parse_singleton readLater
  have spelled := accepted.spelled_spaced (accepted.phase_eq_behind full) combinator
  have stops : ∀ last ∈ (tokens ++ combinator.tokens).getLast?,
      Stops last.continues later.toList := by
    intro last final
    rw [List.getLast?_append, combinator.getLast?_tokens] at final
    cases final
    exact acceptedLater.stops_isWhiteSpace rfl
  have opens : (Chain.link chain combinator .empty).phase.Opens (some combinator) :=
    Chain.opens_phase rfl
  have mode : (Draft.opened [] (.link chain combinator .empty)).phase.mode = .plain :=
    (Phase.AtCompound.opens opens).mode_eq
  have outcome : (Draft.opened [] (.link chain combinator .empty)).outcome
      ⟨tokensLater ++ [.endOfInput], none⟩ = .ok ⟨[.link chain combinator compound]⟩ :=
    acceptedLater.outcome_of_opens opens chain
  rw [parse_append spelled (accepted.run_combinator full combinator) stops, mode,
    Scanner.emission_of_spelled acceptedLater.spelled, outcome]
  rfl

end TreeSelector
