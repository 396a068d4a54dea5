import TreeSelector.Proofs.Reading.Stopping

/-!
# The construction stack while a text is read

Each action on the construction stack asks for a certain shape of it (`Construction.Suits`). In
recursive descent the actions are called by the productions: a compound is made at the end of its
predicates, it is linked where a combinator stands before it, and the selector is made behind the
last chain. What they find is read off the moments of a `LookaheadParser`, which keep the stack,
and the actions that have been run on it with the stack that each of them found.

As long as there is no error, the stack is in two layers (`Construction.Layered`). At the bottom
are chains: one for each alternative that is finished, and above these the operands of the chain
that is being read, of which there are at most two (`LookaheadParser.Moment.Holds`). Above them
stand exactly the pending predicates. A production finds the operands of its chain in a certain
number and leaves them in another one (`LookaheadParser.Stands`), and that is a lemma for each of
them: a compound leaves one more, a link finds one and leaves one, and a comma that is taken behind
a chain counts its one operand as a finished alternative. Whether there is an error makes no
difference to these lemmas, for behind an error the number does not matter any more.

So every action finds the shape that it asks for, and no fault is ever reported
(`stack_layered_and_suits`).
-/

set_option autoImplicit false

namespace TreeSelector

/-! ## Shapes of the stack -/

namespace Construction

/-- The stack holds chains, so many of them, and above them exactly the pending
predicates. -/
def Layered (stack : Construction) (height : Nat) : Prop :=
  ∃ (chains : List Chain) (predicates : List Predicate),
    stack.pieces = (predicates.map Piece.predicate).reverse ++ chains.map Piece.chain ∧
      stack.pending = predicates.length ∧ chains.length = height

/-- The shape that an action asks for. A compound is made of the pending predicates on
top. A link joins the compound on top to the chain below it. A selector is made of
chains alone, and it is handed out when it is all that is left. -/
def Suits (stack : Construction) : Action → Prop
  | .compound => stack.pending ≤ stack.pieces.length ∧
      ∀ piece ∈ stack.pieces.take stack.pending, ∃ predicate, piece = .predicate predicate
  | .link => ∃ last before below,
      stack.pieces = .chain (.single last) :: .chain before :: below
  | .selector => (∀ piece ∈ stack.pieces, ∃ chain, piece = .chain chain) ∧ stack.pending = 0
  | .finish => ∃ selector, stack = ⟨[.selector selector], 0⟩

namespace Layered

variable {stack : Construction} {height : Nat} (layered : stack.Layered height)
include layered

theorem push (predicate : Predicate) : (stack.push predicate).Layered height := by
  obtain ⟨chains, predicates, pieces, pending, count⟩ := layered
  exact ⟨chains, predicates ++ [predicate], by simp [Construction.push, pieces],
    by simp [Construction.push, pending], count⟩

/-- On top of the chains stand the pending predicates. -/
theorem suits_compound : stack.Suits .compound := by
  obtain ⟨chains, predicates, pieces, pending, -⟩ := layered
  have above : (predicates.map Piece.predicate).reverse.length = stack.pending := by simp [pending]
  refine ⟨by simp [pieces, pending], fun piece member => ?_⟩
  rw [pieces, ← above, List.take_left, List.mem_reverse] at member
  obtain ⟨predicate, -, rfl⟩ := List.mem_map.mp member
  exact ⟨predicate, rfl⟩

/-- A compound is one chain more. -/
theorem exists_compound :
    ∃ last below, stack.compound = .ok ⟨.chain (.single last) :: below, 0⟩ ∧
      Layered ⟨.chain (.single last) :: below, 0⟩ (height + 1) := by
  obtain ⟨pieces, pending⟩ := stack
  obtain ⟨chains, predicates, rfl, rfl, rfl⟩ := layered
  exact ⟨_, _, Draft.compound_construction ⟨.ended, chains, predicates⟩,
    .single ⟨predicates⟩ :: chains, [], rfl, rfl, rfl⟩

/-- Where nothing is pending, there are chains alone. -/
theorem exists_chains (none : stack.pending = 0) :
    ∃ chains : List Chain, stack = ⟨chains.map Piece.chain, 0⟩ ∧ chains.length = height := by
  obtain ⟨pieces, pending⟩ := stack
  obtain ⟨chains, predicates, rfl, rfl, count⟩ := layered
  obtain rfl : predicates = [] := List.length_eq_zero_iff.mp none
  exact ⟨chains, rfl, count⟩

theorem suits_selector (none : stack.pending = 0) : stack.Suits .selector := by
  obtain ⟨chains, rfl, -⟩ := layered.exists_chains none
  refine ⟨fun piece member => ?_, rfl⟩
  obtain ⟨chain, -, rfl⟩ := List.mem_map.mp member
  exact ⟨chain, rfl⟩

/-- The chains become the selector. -/
theorem exists_selector (none : stack.pending = 0) :
    ∃ selector, stack.selector = .ok ⟨[.selector selector], 0⟩ := by
  obtain ⟨chains, rfl, -⟩ := layered.exists_chains none
  exact ⟨_, @Draft.selector_construction ⟨.ended, chains, []⟩ rfl⟩

end Layered

/-- A compound on top of two chains or more can be linked to the one below it, and they become one
chain. -/
theorem Layered.exists_link {last : Compound} {below : List Piece} {height : Nat}
    (layered : Layered ⟨.chain (.single last) :: below, 0⟩ (height + 2)) :
    Suits ⟨.chain (.single last) :: below, 0⟩ .link ∧
      ∀ combinator, ∃ stack, link ⟨.chain (.single last) :: below, 0⟩ combinator = .ok stack ∧
        stack.pending = 0 ∧ stack.Layered (height + 1) := by
  obtain ⟨chains, whole, count⟩ := layered.exists_chains rfl
  obtain ⟨top, before, rest, rfl⟩ : ∃ top before rest, chains = top :: before :: rest := by
    match chains, count with
    | top :: before :: rest, _ => exact ⟨top, before, rest, rfl⟩
  cases whole
  refine ⟨⟨last, before, _, rfl⟩, fun combinator => ⟨_, rfl, rfl, ?_⟩⟩
  exact ⟨.link before combinator last :: rest, [], rfl, rfl, Nat.succ.inj count⟩

/-- How many operands there may be of the chain that is being read when an action is called. A
compound is the first one of its chain, or comes behind the chain before it. A link joins two, and
where the selector is made, the last chain has been read. The selector is handed out behind all
chains. -/
def Action.operands : Action → List Nat
  | .compound => [0, 1]
  | .link => [2]
  | .selector => [1]
  | .finish => []

end Construction

namespace LookaheadParser

/-! ## Moments -/

/-- Whether a call has come to a comma. -/
def isComma : Except LexicalError Token → Bool
  | .ok (.sign .comma) => true
  | _ => false

theorem isComma_ok_iff {token : Token} : isComma (.ok token) = true ↔ token = .sign .comma := by
  unfold isComma
  split <;> simp_all

/-- How many alternatives are finished: as many as commas have been taken. The last call is for the
token ahead, which has not been taken. -/
def finished (calls : List (Except LexicalError Token)) : Nat :=
  calls.dropLast.countP isComma

/-- How often the action has been run in the alternative that is being read. -/
def Moment.count (moment : Moment) (action : Construction.Action) : Nat :=
  moment.reductions.countP fun reduction =>
    reduction.action == action && finished reduction.calls == finished moment.calls

/-- So many operands of the chain that is being read are on the stack: the compounds of the
alternative, where a link has made one of two. Below them is a chain for each finished alternative,
and above them are the pending predicates. -/
structure Moment.Holds (operands : Nat) (moment : Moment) : Prop where
  few : operands ≤ 2
  counted : moment.count .compound = moment.count .link + operands
  layered : moment.construction.Layered (finished moment.calls + operands)
  earlier : ∀ reduction ∈ moment.reductions, finished reduction.calls ≤ finished moment.calls

/-- The action has found the shape that it asks for, with a chain for each finished alternative and
the operands that it is called for. -/
def Reduction.Placed (reduction : Reduction) : Prop :=
  reduction.found.Suits reduction.action ∧ ∃ operands ∈ reduction.action.operands,
    reduction.found.Layered (finished reduction.calls + operands)

theorem Moment.holds_zero {moment : Moment} (fresh : moment.construction = Construction.empty)
    (none : moment.reductions = []) (first : finished moment.calls = 0) : moment.Holds 0 := by
  refine ⟨Nat.zero_le 2, ?_, ?_, ?_⟩
  · rw [Moment.count, Moment.count, none]
    rfl
  · rw [fresh, first]
    exact ⟨[], [], rfl, rfl, rfl⟩
  · rw [none]
    exact fun _ member => absurd member List.not_mem_nil

/-- The token ahead is taken with another call. -/
theorem finished_concat {calls : List (Except LexicalError Token)} {token : Token}
    (last : calls.getLast? = some (.ok token)) (call : Except LexicalError Token) :
    finished (calls ++ [call]) = finished calls + if token = .sign .comma then 1 else 0 := by
  obtain ⟨before, rfl⟩ := List.getLast?_eq_some_iff.mp last
  rw [finished, finished, List.dropLast_concat, List.dropLast_concat, List.countP_append,
    List.countP_singleton]
  simp only [isComma_ok_iff]

namespace Moment.Holds

variable {moment : Moment} {operands : Nat} (holds : moment.Holds operands)
include holds

theorem push (predicate : Predicate) :
    Moment.Holds operands { moment with construction := moment.construction.push predicate } :=
  ⟨holds.few, holds.counted, holds.layered.push predicate, holds.earlier⟩

/-- An error leaves the stack as it is. -/
theorem stop (error : Option ParseError) : Moment.Holds operands { moment with error } :=
  ⟨holds.few, holds.counted, holds.layered, holds.earlier⟩

/-- An action is run, and leaves another number of operands. -/
theorem calling {action : Construction.Action} {construction : Construction} {left : Nat}
    (few : left ≤ 2)
    (counted : operands + (if action = .compound then 1 else 0) =
      left + (if action = .link then 1 else 0))
    (layered : construction.Layered (finished moment.calls + left)) :
    Moment.Holds left { moment.calling action with construction } := by
  have counts (other : Construction.Action) :
      Moment.count { moment.calling action with construction } other =
        moment.count other + if action = other then 1 else 0 := by
    simp [Moment.count, Moment.calling, List.countP_append, List.countP_singleton]
  refine ⟨few, ?_, layered, fun reduction member => ?_⟩
  · have before := holds.counted
    rw [counts, counts]
    omega
  · rcases List.mem_append.mp member with earlier | here
    · exact holds.earlier reduction earlier
    · rw [List.mem_singleton.mp here]
      exact Nat.le_refl _

/-- A token other than a comma is taken. -/
theorem ask {token : Token} (last : moment.calls.getLast? = some (.ok token))
    (within : token ≠ .sign .comma) (scanner : Scanner) (call : Except LexicalError Token) :
    Moment.Holds operands { moment with scanner, calls := moment.calls ++ [call] } := by
  have same : finished (moment.calls ++ [call]) = finished moment.calls := by
    rw [finished_concat last, if_neg within]
    rfl
  refine ⟨holds.few, ?_, ?_, ?_⟩
  · simp only [Moment.count, same]
    exact holds.counted
  · rw [same]
    exact holds.layered
  · rw [same]
    exact holds.earlier

end Moment.Holds

/-- The comma behind a chain is taken. Its one operand is a finished alternative, and no action has
been run in the next one. -/
theorem Moment.Holds.ask_comma {moment : Moment} (holds : moment.Holds 1)
    (last : moment.calls.getLast? = some (.ok (.sign .comma))) (scanner : Scanner)
    (call : Except LexicalError Token) :
    Moment.Holds 0 { moment with scanner, calls := moment.calls ++ [call] } := by
  have more : finished (moment.calls ++ [call]) = finished moment.calls + 1 := by
    rw [finished_concat last, if_pos rfl]
  have none (action : Construction.Action) :
      Moment.count { moment with scanner, calls := moment.calls ++ [call] } action = 0 := by
    refine List.countP_eq_zero.mpr fun reduction member => ?_
    have before := holds.earlier reduction member
    simp only [more, Bool.and_eq_true, beq_iff_eq, not_and]
    omega
  refine ⟨Nat.zero_le 2, by rw [none, none], ?_, fun reduction member => ?_⟩
  · rw [more]
    exact holds.layered
  · rw [more]
    exact Nat.le_succ_of_le (holds.earlier reduction member)

/-! ## What the productions find and leave -/

/-- Where a production finds so many operands, or leaves them. Each moment holds some number of
operands, and that of now is this one, unless there is an error. -/
structure Stands (operands : Nat) (parser : LookaheadParser) : Prop where
  orderly : ∃ length, Orderly length parser
  now : ∃ held, parser.now.Holds held ∧ (parser.failed = false → held = operands)
  past : ∀ moment ∈ parser.past, ∃ held, moment.Holds held
  placed : ∀ reduction ∈ parser.now.reductions, reduction.Placed

/-- Behind a chain nothing is pending. -/
structure Rests (parser : LookaheadParser) : Prop extends Stands 1 parser where
  fresh : parser.failed = false → parser.now.construction.pending = 0

section

variable {operands : Nat} {parser next : LookaheadParser}

namespace Stands

/-- Behind an error the number of operands does not matter. -/
theorem of_failed (stands : Stands operands parser) (failed : parser.failed = true)
    (others : Nat) : Stands others parser := by
  obtain ⟨held, holds, -⟩ := stands.now
  refine ⟨stands.orderly, ⟨held, holds, fun unfailed => ?_⟩, stands.past, stands.placed⟩
  simp [failed] at unfailed

theorem holds (stands : Stands operands parser) (unfailed : parser.failed = false) :
    parser.now.Holds operands := by
  obtain ⟨held, holds, same⟩ := stands.now
  rwa [same unfailed] at holds

/-- The token ahead is the last one that was called for. -/
theorem ahead (stands : Stands operands parser) (unfailed : parser.failed = false) :
    parser.now.calls.getLast? = some (.ok parser.lookahead) := by
  obtain ⟨length, orderly⟩ := stands.orderly
  exact orderly.ahead unfailed

theorem past_of_now (stands : Stands operands parser) :
    ∀ moment ∈ parser.now :: parser.past, ∃ held, moment.Holds held := by
  obtain ⟨held, holds, -⟩ := stands.now
  exact List.forall_mem_cons.mpr ⟨⟨held, holds⟩, stands.past⟩

/-- The stack changes, or there is an error. -/
theorem turnTo (stands : Stands operands parser) (unfailed : parser.failed = false)
    {construction : Construction} {reductions : List Reduction} {error : Option ParseError}
    {left : Nat}
    (holds : Moment.Holds left { parser.now with construction, reductions, error })
    (placed : ∀ reduction ∈ reductions, reduction.Placed) :
    Stands left (parser.turnTo { parser.now with construction, reductions, error }) := by
  obtain ⟨length, orderly⟩ := stands.orderly
  exact ⟨⟨length, orderly.acts (.change unfailed construction reductions error)⟩,
    ⟨left, holds, fun _ => rfl⟩, stands.past_of_now, placed⟩

theorem fail (stands : Stands operands parser) (error : ParseError) :
    Stands operands (parser.fail error) := by
  unfold LookaheadParser.fail
  split
  · exact stands
  · rename_i unfailed
    have unfailed := Bool.eq_false_iff.mpr unfailed
    exact stands.turnTo unfailed ((stands.holds unfailed).stop _) stands.placed

theorem build (stands : Stands operands parser) (predicate : Predicate) :
    Stands operands (parser.build predicate) := by
  unfold LookaheadParser.build
  split
  · exact stands
  · rename_i unfailed
    have unfailed := Bool.eq_false_iff.mpr unfailed
    exact stands.turnTo unfailed ((stands.holds unfailed).push predicate) stands.placed

end Stands

/-- A call of the scanner, whatever it comes to. -/
theorem stands_of_advances {length : Nat} (advances : parser.Advances next)
    (unfailed : parser.failed = false) (orderly : Orderly length next)
    (holds : ∀ moment ∈ parser.ask.now :: parser.now :: parser.past, ∃ held, moment.Holds held)
    (asked : parser.ask.now.Holds operands)
    (placed : ∀ reduction ∈ parser.now.reductions, reduction.Placed) : Stands operands next := by
  cases advances with
  | failed failed => simp [unfailed] at failed
  | read =>
      have before := (List.forall_mem_cons.mp holds).2
      exact ⟨⟨length, orderly⟩, ⟨operands, asked, fun _ => rfl⟩, before, placed⟩
  | error => exact ⟨⟨length, orderly⟩, ⟨operands, asked.stop _, fun _ => rfl⟩, holds, placed⟩

namespace Stands

/-- The token ahead is taken. -/
theorem take_of_asked (stands : Stands operands parser) (more : parser.lookahead ≠ .endOfInput)
    {left : Nat} (asked : parser.failed = false → parser.ask.now.Holds left) :
    Stands left parser.take := by
  obtain ⟨length, orderly⟩ := stands.orderly
  have later := orderly.acts (.take more)
  cases failed : parser.failed with
  | true =>
      have same : parser.take = parser.clear := if_pos failed
      rw [same] at later ⊢
      have cleared : Stands operands parser.clear :=
        ⟨⟨length, later⟩, stands.now, stands.past, stands.placed⟩
      exact cleared.of_failed failed left
  | false =>
      have holds := asked failed
      exact stands_of_advances parser.clear.advances failed later
        (List.forall_mem_cons.mpr ⟨⟨left, holds⟩, stands.past_of_now⟩) holds stands.placed

theorem take (stands : Stands operands parser) (more : parser.lookahead ≠ .endOfInput)
    (within : parser.lookahead ≠ .sign .comma) : Stands operands parser.take :=
  stands.take_of_asked more fun unfailed =>
    (stands.holds unfailed).ask (stands.ahead unfailed) within _ _

/-- Behind the comma, the chain before it is finished. -/
theorem take_comma (stands : Stands 1 parser) (comma : parser.lookahead = .sign .comma) :
    Stands 0 parser.take := by
  have more : parser.lookahead ≠ .endOfInput := by
    rw [comma]
    decide
  exact stands.take_of_asked more fun unfailed =>
    (stands.holds unfailed).ask_comma (comma ▸ stands.ahead unfailed) _ _

/-- **Within a compound the number of operands stays as it is.** -/
theorem gathers (stands : Stands operands parser) (gathers : parser.Gathers next) :
    Stands operands next := by
  cases gathers with
  | take more within => exact stands.take more within
  | build predicate => exact stands.build predicate
  | fail error => exact stands.fail error

theorem collects (stands : Stands operands parser) (collects : parser.Collects next) :
    Stands operands next := by
  induction collects with
  | refl => exact stands
  | tail _ gathers ih => exact ih.gathers gathers

/-- Another action has been called. -/
theorem placed_calling (stands : Stands operands parser) {action : Construction.Action}
    (here : Reduction.Placed ⟨action, parser.now.calls, parser.now.construction⟩) :
    ∀ reduction ∈ (parser.now.calling action).reductions, reduction.Placed := by
  intro reduction member
  rcases List.mem_append.mp member with earlier | last
  · exact stands.placed reduction earlier
  · rwa [List.mem_singleton.mp last]

/-- An action that finds the shape that it asks for is run. -/
theorem reduce (stands : Stands operands parser) {action : Construction.Action}
    (run : Construction → Except Construction.Fault Construction) {construction : Construction}
    (unfailed : parser.failed = false) (runs : run parser.now.construction = .ok construction)
    (suits : parser.now.construction.Suits action) (called : operands ∈ action.operands)
    {left : Nat} (holds : Moment.Holds left { parser.now.calling action with construction }) :
    Stands left (parser.reduce action run) ∧
      (parser.reduce action run).now.construction = construction := by
  rw [reduce_of_ok unfailed runs]
  have placed := stands.placed_calling ⟨suits, operands, called, (stands.holds unfailed).layered⟩
  exact ⟨stands.turnTo unfailed holds placed, rfl⟩

/-- **A compound is one operand more.** There is at most one before it. -/
theorem compound (stands : Stands operands parser) (first : operands ≤ 1) :
    Stands (operands + 1) parser.compound ∧
      (parser.compound.failed = false → ∃ last below,
        parser.compound.now.construction = ⟨.chain (.single last) :: below, 0⟩) := by
  have gathered := stands.collects parser.collects_compound
  unfold LookaheadParser.compound
  generalize predicates.run parser.tag = behind at gathered ⊢
  cases failed : behind.failed with
  | true =>
      rw [reduce_of_failed failed]
      exact ⟨gathered.of_failed failed _, fun unfailed => by simp [failed] at unfailed⟩
  | false =>
      have holds := gathered.holds failed
      obtain ⟨last, below, taken, layered⟩ := holds.layered.exists_compound
      have called : operands ∈ Construction.Action.compound.operands := by
        simp only [Construction.Action.operands, List.mem_cons, List.not_mem_nil, or_false]
        omega
      obtain ⟨left, same⟩ := gathered.reduce Construction.compound failed taken
        holds.layered.suits_compound called (holds.calling (Nat.succ_le_succ first) rfl layered)
      exact ⟨left, fun _ => ⟨last, below, same⟩⟩

/-- **A compound that is linked becomes one operand with the one before it.** -/
theorem link (stands : Stands 1 parser) (combinator : Combinator) :
    Rests (parser.link combinator) := by
  obtain ⟨compounds, made⟩ := stands.compound (Nat.le_refl 1)
  unfold LookaheadParser.link
  generalize parser.compound = behind at compounds made ⊢
  cases failed : behind.failed with
  | true =>
      rw [reduce_of_failed failed]
      exact ⟨compounds.of_failed failed 1, fun unfailed => by simp [failed] at unfailed⟩
  | false =>
      have holds := compounds.holds failed
      obtain ⟨last, below, whole⟩ := made failed
      have layered := holds.layered
      rw [whole] at layered
      obtain ⟨suits, links⟩ := layered.exists_link
      obtain ⟨construction, linked, fresh, layered⟩ := links combinator
      rw [← whole] at suits linked
      obtain ⟨left, same⟩ := compounds.reduce (Construction.link · combinator) failed linked suits
        (List.mem_singleton_self 2) (holds.calling (Nat.le_succ 1) rfl layered)
      exact ⟨left, fun _ => same ▸ fresh⟩

end Stands

theorem Rests.unexpected (rests : Rests parser) (expected : List Kind) :
    Rests (parser.unexpected expected) := by
  refine ⟨rests.toStands.fail _, fun unfailed => ?_⟩
  rw [failed_unexpected] at unfailed
  cases unfailed

/-! ### Loops -/

/-- The turn is followed by another one: it links one compound. -/
theorem Rests.of_linksTurn_again (rests : Rests parser) (turned : parser.linksTurn = .again next) :
    Rests next := by
  unfold linksTurn at turned
  split at turned
  · cases turned
  · split at turned
    · rename_i ahead
      cases turned
      have taken : parser.Collects parser.take := collects_take ahead (by decide) (by decide)
      exact (rests.collects (taken.trans (collects_combinator _))).link _
    · split at turned
      · rename_i read
        cases turned
        have taken := rests.collects parser.collects_combinator
        rw [read] at taken
        exact taken.link _
      · split at turned
        all_goals cases turned

/-- The turn is the last one: the chain ends here, or there is an error. -/
theorem Rests.of_linksTurn_leave (rests : Rests parser) (turned : parser.linksTurn = .leave next) :
    Rests next := by
  unfold linksTurn at turned
  split at turned
  · cases turned
    exact rests
  · split at turned
    · cases turned
    · split at turned
      · cases turned
      · split at turned
        · cases turned
          exact rests
        · cases turned
          exact rests.unexpected _

theorem Rests.run_links (rests : Rests parser) : Rests (links.run parser) :=
  links.run_induction (motive := fun parser last => Rests parser → Rests last)
    (fun _ _ turned before => before.of_linksTurn_leave turned)
    (fun _ _ _ turned later before => later (before.of_linksTurn_again turned)) parser rests

/-- **A chain is one operand in the end.** -/
theorem Stands.chain (stands : Stands 0 parser) : Rests parser.chain := by
  obtain ⟨first, made⟩ := stands.compound (Nat.zero_le 1)
  refine Rests.run_links ⟨first, fun unfailed => ?_⟩
  obtain ⟨last, below, whole⟩ := made unfailed
  rw [whole]

/-- The turn is followed by another one: a chain and a comma have been read. -/
theorem Stands.of_alternativesTurn_again (stands : Stands 0 parser)
    (turned : parser.alternativesTurn = .again next) : Stands 0 next := by
  unfold alternativesTurn at turned
  split at turned
  · cases turned
  · split at turned
    all_goals cases turned
    rename_i ahead
    exact (stands.chain.take_comma ahead).collects (collects_blank _)

/-- The turn is the last one: the selector ends here, or there is an error. -/
theorem Stands.of_alternativesTurn_leave (stands : Stands 0 parser)
    (turned : parser.alternativesTurn = .leave next) : Rests next := by
  unfold alternativesTurn at turned
  split at turned
  · cases turned
    exact stands.chain
  · split at turned
    all_goals cases turned
    · exact stands.chain
    · exact stands.chain.unexpected _

theorem Stands.run_alternatives (stands : Stands 0 parser) : Rests (alternatives.run parser) :=
  alternatives.run_induction (motive := fun parser last => Stands 0 parser → Rests last)
    (fun _ _ turned before => before.of_alternativesTurn_leave turned)
    (fun _ _ _ turned later before => later (before.of_alternativesTurn_again turned)) parser stands

/-- How a parser stands behind the selector. -/
structure Concluded (parser : LookaheadParser) : Prop where
  past : ∀ moment ∈ parser.past, ∃ held, moment.Holds held
  placed : ∀ reduction ∈ parser.now.reductions, reduction.Placed
  whole : parser.failed = false → parser.now.construction.Suits .finish
  broken : parser.failed = true → ∃ held, parser.now.Holds held

/-- **The chains become the selector.** It is all that is left on the stack. -/
theorem Stands.selector (stands : Stands 0 parser) : Concluded parser.selector := by
  have rests := stands.run_alternatives
  unfold LookaheadParser.selector
  generalize LookaheadParser.alternatives.run parser = behind at rests ⊢
  cases failed : behind.failed with
  | true =>
      rw [reduce_of_failed failed]
      obtain ⟨held, holds, -⟩ := rests.now
      exact ⟨rests.past, rests.placed, fun unfailed => by simp [failed] at unfailed,
        fun _ => ⟨held, holds⟩⟩
  | false =>
      have layered := (rests.holds failed).layered
      have fresh := rests.fresh failed
      obtain ⟨selector, gathered⟩ := layered.exists_selector fresh
      have unfailed : behind.now.error = none := error_of_unfailed failed
      rw [reduce_of_ok failed gathered]
      have placed := rests.placed_calling
        ⟨layered.suits_selector fresh, 1, List.mem_singleton_self 1, layered⟩
      refine ⟨rests.past_of_now, placed, fun _ => ⟨selector, rfl⟩, fun broken => ?_⟩
      simp [LookaheadParser.failed, LookaheadParser.turnTo, Moment.calling, unfailed] at broken

end

/-! ## Texts -/

theorem stands_start (text : String) : Stands 0 (start text) := by
  have none : ∀ reduction ∈ ([] : List Reduction), reduction.Placed :=
    fun _ member => absurd member List.not_mem_nil
  have first : (empty text).now.Holds 0 := Moment.holds_zero rfl rfl rfl
  have asked : (empty text).ask.now.Holds 0 := Moment.holds_zero rfl rfl rfl
  have moments : ∀ moment ∈ [(empty text).ask.now, (empty text).now],
      ∃ held, moment.Holds held := by
    simp only [List.forall_mem_cons]
    exact ⟨⟨0, asked⟩, ⟨0, first⟩, fun _ member => absurd member List.not_mem_nil⟩
  exact stands_of_advances (empty text).advances rfl (orderly_start text) moments asked none

theorem concluded_ofString (text : String) : Concluded (ofString text) :=
  (stands_start text).selector

end LookaheadParser

/-- **The construction stack has the shape that is asked for.** At every moment before the first
error and the end of the selector it holds a chain for each finished alternative and the operands
of the chain that is being read, and above them exactly the pending predicates. An error leaves it
like that. Every action that is run has found the shape that it asks for, and without an error the
selector is all that is left. So a text is read as a selector or fails for a reason of its own. -/
theorem stack_layered_and_suits (text : String) :
    let parser := LookaheadParser.ofString text
    (∀ moment ∈ parser.past, moment.error = none ∧ ∃ operands, moment.Holds operands) ∧
      (∀ error, parser.now.error = some error → ∃ operands, parser.now.Holds operands) ∧
      (∀ reduction ∈ parser.now.reductions, reduction.Placed) ∧
      (parser.now.error = none → parser.now.construction.Suits .finish) ∧
      parser.result = parse text ∧
      ((∃ selector, parse text = .ok selector) ∨
        (∃ error, parse text = .error (.lexical error)) ∨
          ∃ expected found, parse text = .error (.unexpected expected found)) := by
  have concluded := LookaheadParser.concluded_ofString text
  have settled := (LookaheadParser.orderly_ofString text).settled
  refine ⟨fun moment member => ⟨settled moment member, concluded.past moment member⟩,
    fun error broken => ?_, concluded.placed, fun unbroken => ?_,
    congrArg Prod.snd (LookaheadParser.course_ofString text), ?_⟩
  · exact concluded.broken (Option.isSome_iff_exists.mpr ⟨error, broken⟩)
  · exact concluded.whole (Option.isSome_eq_false_iff.mpr (Option.isNone_iff_eq_none.mpr unbroken))
  · cases outcome : parse text with
    | ok selector => exact .inl ⟨selector, rfl⟩
    | error error =>
        cases error with
        | lexical error => exact .inr (.inl ⟨error, rfl⟩)
        | unexpected expected found => exact .inr (.inr ⟨expected, found, rfl⟩)
        | malformed fault => exact absurd outcome (parse_ne_malformed text fault)

/-- In the first text one alternative is finished while two predicates of its successor are
pending, and their compound is linked. In the second text the scanner fails behind `b`, which never
comes on the stack. -/
theorem stack_layered_and_suits_of_two_alternatives :
    let parser := LookaheadParser.ofString "a, b > c.d"
    let stopped := LookaheadParser.ofString "a, b!"
    let linked : Construction := ⟨[.chain (.single ⟨[.tag "c", .className "d"]⟩),
      .chain (.single ⟨[.tag "b"]⟩), .chain (.single ⟨[.tag "a"]⟩)], 0⟩
    (∃ moment ∈ parser.past, moment.construction.pending = 2 ∧ ∃ operands, moment.Holds operands) ∧
      (∃ reduction ∈ parser.now.reductions, reduction.action = .link ∧ reduction.found = linked ∧
        reduction.Placed) ∧
      (parser.now.error = none ∧ parser.now.construction.Suits .finish) ∧
      ∃ error, stopped.now.error = some error ∧
        stopped.now.construction = ⟨[.chain (.single ⟨[.tag "a"]⟩)], 0⟩ ∧
          ∃ operands, stopped.now.Holds operands := by
  intro parser stopped linked
  obtain ⟨layered, -, placed, whole, -⟩ := stack_layered_and_suits "a, b > c.d"
  obtain ⟨-, broken, -⟩ := stack_layered_and_suits "a, b!"
  have pending : ∃ moment ∈ parser.past, moment.construction.pending = 2 := by decide +kernel
  have links : ∃ reduction ∈ parser.now.reductions, reduction.action = .link ∧
      reduction.found = linked := by decide +kernel
  have unfailed : parser.now.error = none := by decide +kernel
  have failed : stopped.now.error.isSome := by decide +kernel
  obtain ⟨moment, before, two⟩ := pending
  obtain ⟨reduction, called, action, found⟩ := links
  obtain ⟨error, known⟩ := Option.isSome_iff_exists.mp failed
  exact ⟨⟨moment, before, two, (layered moment before).2⟩,
    ⟨reduction, called, action, found, placed reduction called⟩, ⟨unfailed, whole unfailed⟩,
    error, known, by decide +kernel, broken error known⟩

end TreeSelector
