import TreeSelector.Proofs.Reading.Outcome

/-!
# The grammar of selectors

The texts that are read as selectors are those whose tokens the following
grammar derives (`Derives`):

    selector        := chain ( ',' blank? selector )?
    chain           := compound chainTail
    chainTail       := blank combinatorTail
                     | ( '>' | '+' | '~' ) blank? compound chainTail
                     | nothing
    combinatorTail  := ( '>' | '+' | '~' ) blank? compound chainTail
                     | compound chainTail
    compound        := tag? adjunct*
    adjunct         := '#' identifier | '.' identifier
                     | '[' identifier attributeTest? ']'
    attributeTest   := ( '=' | '^' '=' | '$' '=' | '*' '=' ) ( quoted | literal )
    tag             := identifier | '*'

The grammar is ambiguous, since a compound may be empty: a blank may be padding,
a combinator, or both. A phase, on the other hand, decides at every token. What
it admits depends on nothing but the place in the compound (`step_place?`), and
all the phases in which a compound begins are the same place. So what a place
accepts can be compared with what the grammar leaves to be derived there:

* soundness, by induction on the tokens: what a place accepts is a rest of a
  sentence (`rest_of_accepts`);
* completeness, by induction on the derivation: a derived part leads from the
  place where it begins to the place behind it (`Derives.leads`).

Together they say that exactly the sentences are accepted (`accepts_iff_derives`),
and that a text is read as a selector exactly when its tokens are a sentence
(`parse_isOk_iff_derives`).
-/

set_option autoImplicit false

namespace TreeSelector

/-! ## Derivations -/

/-- The parts of a selector. -/
inductive Part where
  | selector
  | chain
  | chainTail
  | combinatorTail
  | compound
  | adjuncts
  | adjunct
  | attributeTest
  | tag
  deriving DecidableEq, Repr

/-- An optional blank. -/
inductive Padding : List Token → Prop where
  | none : Padding []
  | blank : Padding [.blank]

/-- The operators of attribute tests. -/
inductive Operator : List Token → Prop where
  | equals : Operator [.sign .equals]
  | startsWith : Operator [.sign .caret, .sign .equals]
  | endsWith : Operator [.sign .dollar, .sign .equals]
  | contains : Operator [.sign .star, .sign .equals]

/-- The values of attribute tests. -/
inductive Value : Token → Prop where
  | quoted (text : String) : Value (.quoted text)
  | literal (text : String) : Value (.literal text)

/-- The rows of tokens that are a part of a selector. -/
inductive Derives : Part → List Token → Prop where
  | tagName (name : String) : Derives .tag [.identifier name]
  | tagAny : Derives .tag [.sign .star]
  | attributeTest {operator : List Token} {value : Token} (is : Operator operator)
      (stands : Value value) : Derives .attributeTest (operator ++ [value])
  | id (name : String) : Derives .adjunct [.sign .hash, .identifier name]
  | className (name : String) : Derives .adjunct [.sign .dot, .identifier name]
  | plainAttribute (name : String) :
      Derives .adjunct [.sign .leftBracket, .identifier name, .sign .rightBracket]
  | testedAttribute (name : String) {test : List Token} (tested : Derives .attributeTest test) :
      Derives .adjunct (.sign .leftBracket :: .identifier name :: (test ++ [.sign .rightBracket]))
  | noAdjunct : Derives .adjuncts []
  | moreAdjuncts {adjunct adjuncts : List Token} (first : Derives .adjunct adjunct)
      (more : Derives .adjuncts adjuncts) : Derives .adjuncts (adjunct ++ adjuncts)
  | untagged {adjuncts : List Token} (more : Derives .adjuncts adjuncts) :
      Derives .compound adjuncts
  | tagged {tag adjuncts : List Token} (first : Derives .tag tag)
      (more : Derives .adjuncts adjuncts) : Derives .compound (tag ++ adjuncts)
  | tailBlank {tail : List Token} (more : Derives .combinatorTail tail) :
      Derives .chainTail (.blank :: tail)
  | tailCombinator {mark : Sign} {padding compound tail : List Token}
      (is : mark ∈ [Sign.greater, Sign.plus, Sign.tilde]) (padded : Padding padding)
      (next : Derives .compound compound) (more : Derives .chainTail tail) :
      Derives .chainTail (.sign mark :: (padding ++ (compound ++ tail)))
  | tailEmpty : Derives .chainTail []
  | combinatorTailCombinator {mark : Sign} {padding compound tail : List Token}
      (is : mark ∈ [Sign.greater, Sign.plus, Sign.tilde]) (padded : Padding padding)
      (next : Derives .compound compound) (more : Derives .chainTail tail) :
      Derives .combinatorTail (.sign mark :: (padding ++ (compound ++ tail)))
  | combinatorTailCompound {compound tail : List Token} (next : Derives .compound compound)
      (more : Derives .chainTail tail) : Derives .combinatorTail (compound ++ tail)
  | chain {compound tail : List Token} (first : Derives .compound compound)
      (more : Derives .chainTail tail) : Derives .chain (compound ++ tail)
  | selectorLast {chain : List Token} (only : Derives .chain chain) : Derives .selector chain
  | selectorMore {chain padding selector : List Token} (first : Derives .chain chain)
      (padded : Padding padding) (more : Derives .selector selector) :
      Derives .selector (chain ++ .sign .comma :: (padding ++ selector))

/-! ## What phases and places accept -/

/-- The tokens are read from the phase on, and the text may end behind them. -/
def Phase.Accepts : Phase → List Token → Prop
  | phase, [] => ∃ move, phase.step .endOfInput = .ok move
  | phase, token :: later => ∃ move, phase.step token = .ok move ∧ move.phase.Accepts later

/-- The place of a phase. Wherever a compound begins, the place is the front of
the compound. -/
def Phase.place? : Phase → Option Place
  | .within _ place => some place
  | .afterBlank | .afterCombinator _ | .afterComma => some .front
  | .ended => none

/-- The tokens are read from the place on. -/
def Place.Accepts (place : Place) (tokens : List Token) : Prop :=
  (Phase.within none place).Accepts tokens

namespace Phase

theorem stepBehind_place? (joint : Option Combinator) (token : Token) :
    (stepBehind joint token).map (·.phase.place?) =
      (stepBehind none token).map (·.phase.place?) := by
  cases token with
  | sign mark => cases mark <;> rfl
  | _ => rfl

theorem stepFront_place? (joint : Option Combinator) (token : Token) :
    (stepFront joint token).map (·.phase.place?) =
      (stepFront none token).map (·.phase.place?) := by
  cases token with
  | sign mark => cases mark <;> rfl
  | _ => rfl

theorem stepWithin_place? (joint : Option Combinator) (place : Place) (token : Token) :
    (stepWithin joint place token).map (·.phase.place?) =
      (stepWithin none place token).map (·.phase.place?) := by
  cases place with
  | front => exact stepFront_place? joint token
  | behind => exact stepBehind_place? joint token
  | idName | className | attributeName | attributeOperator | attributeAssign | attributeValue
  | attributeEnd =>
      cases token with
      | sign mark => cases mark <;> rfl
      | _ => rfl

/-- **What a phase admits depends on its place alone**, and so does the place
behind it. -/
theorem step_place? {phase : Phase} {place : Place} (here : phase.place? = some place)
    (token : Token) :
    (phase.step token).map (·.phase.place?) =
      ((Phase.within none place).step token).map (·.phase.place?) := by
  cases phase with
  | within joint other =>
      obtain rfl := Option.some.inj here
      exact stepWithin_place? joint other token
  | afterBlank | afterCombinator | afterComma =>
      cases here
      cases token with
      | sign mark => cases mark <;> rfl
      | _ => rfl
  | ended => cases here

theorem eq_ended_of_place?_eq_none {phase : Phase} (nowhere : phase.place? = none) :
    phase = .ended := by
  cases phase with
  | ended => rfl
  | within | afterBlank | afterCombinator | afterComma => cases nowhere

theorem exists_step_of_place?_eq {phase other : Phase} (same : phase.place? = other.place?)
    {token : Token} {move : Move} (moves : phase.step token = .ok move) :
    ∃ next, other.step token = .ok next ∧ move.phase.place? = next.phase.place? := by
  cases here : phase.place? with
  | none =>
      rw [here] at same
      obtain rfl := eq_ended_of_place?_eq_none here
      obtain rfl := eq_ended_of_place?_eq_none same.symm
      exact ⟨move, moves, rfl⟩
  | some place =>
      rw [here] at same
      have alike : (other.step token).map (·.phase.place?) = .ok move.phase.place? := by
        rw [step_place? same.symm, ← step_place? here, moves]
        rfl
      cases stepped : other.step token with
      | error expected =>
          rw [stepped] at alike
          cases alike
      | ok next =>
          rw [stepped] at alike
          exact ⟨next, rfl, (Except.ok.inj alike).symm⟩

/-- Phases at the same place accept the same tokens. -/
theorem Accepts.of_place?_eq {phase other : Phase} (same : phase.place? = other.place?)
    {tokens : List Token} (accepts : phase.Accepts tokens) : other.Accepts tokens := by
  induction tokens generalizing phase other with
  | nil =>
      obtain ⟨move, moves⟩ := accepts
      obtain ⟨next, stepped, -⟩ := exists_step_of_place?_eq same moves
      exact ⟨next, stepped⟩
  | cons token later ih =>
      obtain ⟨move, moves, accepts⟩ := accepts
      obtain ⟨next, stepped, alike⟩ := exists_step_of_place?_eq same moves
      exact ⟨next, stepped, ih alike accepts⟩

end Phase

namespace Place

/-- A place accepts a token and what the place behind it accepts. -/
theorem accepts_cons {place next : Place} {token : Token} {move : Move} {later : List Token}
    (moves : (Phase.within none place).step token = .ok move)
    (leads : (Phase.within none next).place? = move.phase.place?) (accepts : next.Accepts later) :
    place.Accepts (token :: later) :=
  ⟨move, moves, accepts.of_place?_eq leads⟩

/-- What is accepted behind a predicate is accepted where a compound begins. -/
theorem Accepts.front {tokens : List Token} (accepts : Place.Accepts .behind tokens) :
    Place.Accepts .front tokens := by
  have admitted {token : Token} {move : Move}
      (moves : (Phase.within none .behind).step token = .ok move) :
      (Phase.within none .front).step token = .ok move :=
    Phase.step_of_atCompound (.opens (.front none)) (.within none .front token) moves
  cases tokens with
  | nil =>
      obtain ⟨move, moves⟩ := accepts
      exact ⟨move, admitted moves⟩
  | cons token later =>
      obtain ⟨move, moves, accepts⟩ := accepts
      exact ⟨move, admitted moves, accepts⟩

end Place

/-! ## Completeness -/

/-- A part leads from the place where it begins to the place behind it: what is
accepted there is accepted, with the part before it, where the part begins. -/
def Part.Leads : Part → List Token → Prop
  | .selector, tokens => Place.Accepts .front tokens
  | .chain, tokens | .combinatorTail, tokens | .compound, tokens | .tag, tokens =>
      ∀ later, Place.Accepts .behind later → Place.Accepts .front (tokens ++ later)
  | .chainTail, tokens | .adjuncts, tokens | .adjunct, tokens =>
      ∀ later, Place.Accepts .behind later → Place.Accepts .behind (tokens ++ later)
  | .attributeTest, tokens =>
      ∀ name later, (∀ predicate, (Place.attributeEnd predicate).Accepts later) →
        (Place.attributeOperator name).Accepts (tokens ++ later)

/-- A blank is read behind a predicate and where a compound begins. -/
theorem Padding.accepts_front {padding later : List Token} (padded : Padding padding)
    (accepts : Place.Accepts .front later) : Place.Accepts .front (padding ++ later) := by
  cases padded with
  | none => exact accepts
  | blank => exact Place.accepts_cons rfl rfl accepts

theorem Value.accepts_attributeValue {value : Token} (stands : Value value) (name : String)
    (test : AttributeTest) {later : List Token}
    (accepts : ∀ predicate, (Place.attributeEnd predicate).Accepts later) :
    (Place.attributeValue name test).Accepts (value :: later) := by
  cases stands with
  | quoted text => exact Place.accepts_cons rfl rfl (accepts _)
  | literal text => exact Place.accepts_cons rfl rfl (accepts _)

theorem Operator.accepts_attributeOperator {operator : List Token} (is : Operator operator)
    (name : String) {later : List Token}
    (accepts : ∀ test, (Place.attributeValue name test).Accepts later) :
    (Place.attributeOperator name).Accepts (operator ++ later) := by
  cases is with
  | equals => exact Place.accepts_cons rfl rfl (accepts _)
  | startsWith | endsWith | contains =>
      exact Place.accepts_cons rfl rfl (Place.accepts_cons rfl rfl (accepts _))

theorem operator_of_attributeTest? {mark : Sign} {test : AttributeTest}
    (begins : mark.attributeTest? = some test) : Operator [.sign mark, .sign .equals] := by
  cases mark with
  | caret => exact .startsWith
  | dollar => exact .endsWith
  | star => exact .contains
  | _ => cases begins

theorem accepts_behind_combinator {mark : Sign}
    (is : mark ∈ [Sign.greater, Sign.plus, Sign.tilde]) {later : List Token}
    (accepts : Place.Accepts .front later) : Place.Accepts .behind (.sign mark :: later) := by
  simp only [List.mem_cons, List.not_mem_nil, or_false] at is
  rcases is with rfl | rfl | rfl <;> exact Place.accepts_cons rfl rfl accepts

/-- **Every derived part leads to the place behind it.** -/
theorem Derives.leads {part : Part} {tokens : List Token} (derives : Derives part tokens) :
    part.Leads tokens := by
  induction derives with
  | tagName name =>
      intro later accepts
      exact Place.accepts_cons rfl rfl accepts
  | tagAny =>
      intro later accepts
      exact Place.accepts_cons rfl rfl accepts
  | attributeTest is stands =>
      intro name later accepts
      rw [List.append_assoc]
      exact is.accepts_attributeOperator name fun test =>
        stands.accepts_attributeValue name test accepts
  | id name =>
      intro later accepts
      exact Place.accepts_cons rfl rfl (Place.accepts_cons rfl rfl accepts)
  | className name =>
      intro later accepts
      exact Place.accepts_cons rfl rfl (Place.accepts_cons rfl rfl accepts)
  | plainAttribute name =>
      intro later accepts
      exact Place.accepts_cons rfl rfl
        (Place.accepts_cons rfl rfl (Place.accepts_cons rfl rfl accepts))
  | testedAttribute name _ leads =>
      intro later accepts
      have closed (predicate : AttributePredicate) :
          (Place.attributeEnd predicate).Accepts (.sign .rightBracket :: later) :=
        Place.accepts_cons rfl rfl accepts
      have tested := leads name (.sign .rightBracket :: later) closed
      rw [List.cons_append, List.cons_append, List.append_assoc]
      exact Place.accepts_cons rfl rfl (Place.accepts_cons rfl rfl tested)
  | noAdjunct => exact fun later accepts => accepts
  | moreAdjuncts _ _ first more =>
      intro later accepts
      rw [List.append_assoc]
      exact first _ (more later accepts)
  | untagged _ more => exact fun later accepts => (more later accepts).front
  | tagged _ _ first more =>
      intro later accepts
      rw [List.append_assoc]
      exact first _ (more later accepts)
  | tailBlank _ more =>
      intro later accepts
      exact Place.accepts_cons rfl rfl (more later accepts)
  | tailCombinator is padded _ _ next more =>
      intro later accepts
      rw [List.cons_append, List.append_assoc, List.append_assoc]
      exact accepts_behind_combinator is (padded.accepts_front (next _ (more later accepts)))
  | tailEmpty => exact fun later accepts => accepts
  | combinatorTailCombinator is padded _ _ next more =>
      intro later accepts
      rw [List.cons_append, List.append_assoc, List.append_assoc]
      exact (accepts_behind_combinator is
        (padded.accepts_front (next _ (more later accepts)))).front
  | combinatorTailCompound _ _ next more =>
      intro later accepts
      rw [List.append_assoc]
      exact next _ (more later accepts)
  | chain _ _ first more =>
      intro later accepts
      rw [List.append_assoc]
      exact first _ (more later accepts)
  | selectorLast _ only =>
      have ended : Place.Accepts .behind [] := ⟨_, rfl⟩
      have whole := only [] ended
      rw [List.append_nil] at whole
      exact whole
  | selectorMore _ padded _ first more =>
      exact first _ (Place.accepts_cons rfl rfl (padded.accepts_front more))

/-! ## Soundness -/

/-- The end of a selector behind a chain: nothing, or a comma and more alternatives. -/
inductive Alternatives : List Token → Prop where
  | none : Alternatives []
  | more {padding selector : List Token} (padded : Padding padding)
      (more : Derives .selector selector) :
      Alternatives (.sign .comma :: (padding ++ selector))

/-- The rest of a selector behind a predicate: adjuncts, a tail of the chain and
more alternatives. -/
inductive BehindRest : List Token → Prop where
  | rest {adjuncts tail alternatives : List Token} (first : Derives .adjuncts adjuncts)
      (next : Derives .chainTail tail) (last : Alternatives alternatives) :
      BehindRest (adjuncts ++ (tail ++ alternatives))

theorem derives_selector_of_parts {compound tail alternatives : List Token}
    (first : Derives .compound compound) (next : Derives .chainTail tail)
    (last : Alternatives alternatives) :
    Derives .selector (compound ++ (tail ++ alternatives)) := by
  rw [← List.append_assoc]
  cases last with
  | none => simpa using Derives.selectorLast (.chain first next)
  | more padded more => exact .selectorMore (.chain first next) padded more

theorem exists_parts_of_derives_selector {tokens : List Token}
    (derives : Derives .selector tokens) :
    ∃ compound tail alternatives, tokens = compound ++ (tail ++ alternatives) ∧
      Derives .compound compound ∧ Derives .chainTail tail ∧ Alternatives alternatives := by
  cases derives with
  | selectorLast only =>
      cases only with
      | chain first next => exact ⟨_, _, [], by simp, first, next, .none⟩
  | selectorMore first padded more =>
      cases first with
      | chain first next => exact ⟨_, _, _, by simp, first, next, .more padded more⟩

namespace BehindRest

theorem of_tail {tail alternatives : List Token} (next : Derives .chainTail tail)
    (last : Alternatives alternatives) : BehindRest (tail ++ alternatives) :=
  .rest .noAdjunct next last

theorem nil : BehindRest [] :=
  of_tail .tailEmpty .none

theorem adjunct {adjunct later : List Token} (first : Derives .adjunct adjunct)
    (rest : BehindRest later) : BehindRest (adjunct ++ later) := by
  cases rest with
  | rest more next last =>
      rw [← List.append_assoc]
      exact .rest (.moreAdjuncts first more) next last

theorem selector {tokens : List Token} (rest : BehindRest tokens) : Derives .selector tokens := by
  cases rest with
  | rest more next last => exact derives_selector_of_parts (.untagged more) next last

theorem selector_of_tag {tag later : List Token} (first : Derives .tag tag)
    (rest : BehindRest later) : Derives .selector (tag ++ later) := by
  cases rest with
  | rest more next last =>
      rw [← List.append_assoc]
      exact derives_selector_of_parts (.tagged first more) next last

theorem blank {later : List Token} (derives : Derives .selector later) :
    BehindRest (.blank :: later) := by
  obtain ⟨compound, tail, alternatives, rfl, first, next, last⟩ :=
    exists_parts_of_derives_selector derives
  rw [← List.append_assoc, ← List.cons_append]
  exact of_tail (.tailBlank (.combinatorTailCompound first next)) last

theorem combinator {mark : Sign} {combinator : Combinator}
    (is : mark.combinator? = some combinator) {later : List Token}
    (derives : Derives .selector later) : BehindRest (.sign mark :: later) := by
  have listed : mark ∈ [Sign.greater, Sign.plus, Sign.tilde] := by
    cases mark <;> first | decide | cases is
  obtain ⟨compound, tail, alternatives, rfl, first, next, last⟩ :=
    exists_parts_of_derives_selector derives
  rw [← List.append_assoc, ← List.cons_append]
  exact of_tail (.tailCombinator listed .none first next) last

theorem comma {later : List Token} (derives : Derives .selector later) :
    BehindRest (.sign .comma :: later) :=
  of_tail .tailEmpty (.more .none derives)

end BehindRest

/-- What the grammar leaves to be derived at a place. -/
def Place.Rest : Place → List Token → Prop
  | .front, tokens => Derives .selector tokens
  | .behind, tokens => BehindRest tokens
  | .idName, tokens | .className, tokens =>
      ∃ name later, tokens = .identifier name :: later ∧ BehindRest later
  | .attributeName, tokens =>
      ∃ name test later, tokens = .identifier name :: (test ++ .sign .rightBracket :: later) ∧
        (test = [] ∨ Derives .attributeTest test) ∧ BehindRest later
  | .attributeOperator _, tokens =>
      ∃ test later, tokens = test ++ .sign .rightBracket :: later ∧
        (test = [] ∨ Derives .attributeTest test) ∧ BehindRest later
  | .attributeAssign _ _, tokens =>
      ∃ value later, tokens = .sign .equals :: value :: .sign .rightBracket :: later ∧
        Value value ∧ BehindRest later
  | .attributeValue _ _, tokens =>
      ∃ value later, tokens = value :: .sign .rightBracket :: later ∧
        Value value ∧ BehindRest later
  | .attributeEnd _, tokens =>
      ∃ later, tokens = .sign .rightBracket :: later ∧ BehindRest later

/-- The rest behind a predicate may be left wherever a compound goes on. -/
theorem rest_of_behindRest {place : Place} {joint : Option Combinator}
    (here : (Phase.within none place).AtCompound joint) {tokens : List Token}
    (rest : BehindRest tokens) : place.Rest tokens := by
  cases here with
  | behind => exact rest
  | opens opens =>
      cases opens with
      | front => exact rest.selector

theorem derives_adjunct_of_attributeTest (name : String) {test : List Token}
    (tested : test = [] ∨ Derives .attributeTest test) :
    Derives .adjunct
      (.sign .leftBracket :: .identifier name :: (test ++ [.sign .rightBracket])) := by
  rcases tested with rfl | tested
  · exact .plainAttribute name
  · exact .testedAttribute name tested

/-- **What a place accepts is a rest of a sentence.** -/
theorem rest_of_accepts {place : Place} {tokens : List Token} (accepts : place.Accepts tokens)
    (more : .endOfInput ∉ tokens) : place.Rest tokens := by
  induction tokens generalizing place with
  | nil =>
      obtain ⟨move, moves⟩ := accepts
      cases Phase.transition_of_step moves with
      | endOfInput here => exact rest_of_behindRest here .nil
  | cons token later ih =>
      obtain ⟨move, moves, accepts⟩ := accepts
      obtain ⟨notEnd, more⟩ := List.ne_and_not_mem_of_not_mem_cons more
      have rest {next : Place} (leads : move.phase.place? = some next) : next.Rest later :=
        ih (accepts.of_place?_eq leads) more
      cases Phase.transition_of_step moves with
      | tag name opens =>
          cases opens with
          | front => exact BehindRest.selector_of_tag (.tagName name) (rest rfl)
      | anyTag opens =>
          cases opens with
          | front => exact BehindRest.selector_of_tag .tagAny (rest rfl)
      | hash here =>
          obtain ⟨name, later, rfl, behind⟩ := rest rfl
          exact rest_of_behindRest here (.adjunct (.id name) behind)
      | dot here =>
          obtain ⟨name, later, rfl, behind⟩ := rest rfl
          exact rest_of_behindRest here (.adjunct (.className name) behind)
      | leftBracket here =>
          obtain ⟨name, test, later, rfl, tested, behind⟩ := rest rfl
          have whole := BehindRest.adjunct (derives_adjunct_of_attributeTest name tested) behind
          rw [List.cons_append, List.cons_append, List.append_assoc] at whole
          exact rest_of_behindRest here whole
      | id _ name => exact ⟨name, later, rfl, rest rfl⟩
      | className _ name => exact ⟨name, later, rfl, rest rfl⟩
      | attributeName _ name =>
          obtain ⟨test, later, rfl, tested, behind⟩ := rest rfl
          exact ⟨name, test, later, rfl, tested, behind⟩
      | present => exact ⟨[], later, rfl, .inl rfl, rest rfl⟩
      | equals =>
          obtain ⟨value, later, rfl, stands, behind⟩ := rest rfl
          exact ⟨_, later, rfl, .inr (.attributeTest .equals stands), behind⟩
      | operator _ name begins =>
          obtain ⟨value, later, rfl, stands, behind⟩ := rest rfl
          have is : Operator [.sign _, .sign .equals] := operator_of_attributeTest? begins
          exact ⟨_, later, rfl, .inr (.attributeTest is stands), behind⟩
      | assign =>
          obtain ⟨value, later, rfl, stands, behind⟩ := rest rfl
          exact ⟨value, later, rfl, stands, behind⟩
      | quoted _ _ _ text =>
          obtain ⟨later, rfl, behind⟩ := rest rfl
          exact ⟨_, later, rfl, .quoted text, behind⟩
      | literal _ _ _ text =>
          obtain ⟨later, rfl, behind⟩ := rest rfl
          exact ⟨_, later, rfl, .literal text, behind⟩
      | rightBracket => exact ⟨later, rfl, rest rfl⟩
      | padding _ padded => cases padded
      | blank here => exact rest_of_behindRest here (.blank (rest rfl))
      | combinator here _ is => exact rest_of_behindRest here (.combinator is (rest rfl))
      | comma here => exact rest_of_behindRest here (.comma (rest rfl))
      | endOfInput => exact absurd rfl notEnd

/-! ## Sentences -/

/-- **The front of a compound accepts exactly the sentences.** -/
theorem accepts_iff_derives {tokens : List Token} (more : .endOfInput ∉ tokens) :
    Phase.start.Accepts tokens ↔ Derives .selector tokens := by
  constructor
  · intro accepts
    have rest : Place.Rest .front tokens := rest_of_accepts accepts more
    exact rest
  · intro derives
    exact derives.leads

/-- A draft runs to the end of the text exactly when its phase accepts the tokens. -/
theorem Draft.exists_run_iff_accepts {draft : Draft} {tokens : List Token} :
    (∃ last, draft.run (tokens ++ [.endOfInput]) = .ok last) ↔ draft.phase.Accepts tokens := by
  induction tokens generalizing draft with
  | nil =>
      constructor
      · rintro ⟨last, ran⟩
        obtain ⟨move, moves, -⟩ := run_singleton_eq_ok_iff.mp ran
        exact ⟨move, Phase.step_of_transition moves⟩
      · rintro ⟨move, moves⟩
        exact ⟨draft.perform move,
          run_singleton_eq_ok_iff.mpr ⟨move, Phase.transition_of_step moves, rfl⟩⟩
  | cons token later ih =>
      constructor
      · rintro ⟨last, ran⟩
        obtain ⟨move, moves, ranLater⟩ := run_cons_eq_ok_iff.mp ran
        have accepts := ih.mp ⟨last, ranLater⟩
        rw [perform_phase] at accepts
        exact ⟨move, Phase.step_of_transition moves, accepts⟩
      · rintro ⟨move, moves, accepts⟩
        rw [← perform_phase draft move] at accepts
        obtain ⟨last, ran⟩ := ih.mpr accepts
        exact ⟨last, run_cons_eq_ok_iff.mpr ⟨move, Phase.transition_of_step moves, ran⟩⟩

/-- **Exactly the sentences of the grammar are read**: a text is read as a
selector when it has tokens, and these are derived from a selector. -/
theorem parse_isOk_iff_derives (text : String) :
    (∃ selector, parse text = .ok selector) ↔
      ∃ tokens, tokenize text = .ok (tokens ++ [.endOfInput]) ∧ Derives .selector tokens := by
  constructor
  · rintro ⟨selector, read⟩
    obtain ⟨tokens, last, whole, ran, -⟩ := parse_eq_ok_iff.mp read
    have accepts := Draft.exists_run_iff_accepts.mp ⟨last, ran⟩
    exact ⟨tokens, whole, (accepts_iff_derives (endOfInput_notMem_of_tokenize whole)).mp accepts⟩
  · rintro ⟨tokens, whole, derives⟩
    have accepts : Draft.start.phase.Accepts tokens := derives.leads
    obtain ⟨last, ran⟩ := Draft.exists_run_iff_accepts.mpr accepts
    exact ⟨_, parse_eq_ok_iff.mpr ⟨tokens, last, whole, ran, rfl⟩⟩

end TreeSelector
