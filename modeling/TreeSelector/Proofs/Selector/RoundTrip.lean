import TreeSelector.Proofs.Reading.Outcome
import TreeSelector.Proofs.Selector.Tokens

/-!
# Reading a selector back from its text

A well-formed selector is read back from the text that it is written as
(`parse_render`).

The tokens of a chain lead from the front of its first compound to a draft in
which all of the chain has been read but its last compound is still open
(`Draft.opened`). A combinator then closes this compound and opens the next one
(`run_combinator`). Where the last compound is empty, the blank before the
combinator has been drawn together with the one that stands before the compound.
The sign of the combinator is read all the same. A descendant combinator has no
sign, but it does not stand there in a well-spaced chain.
-/

set_option autoImplicit false

namespace TreeSelector

/-! ## Predicates and compounds -/

namespace Draft

variable {phase : Phase} {joint : Option Combinator} {chains : List Chain}
  {predicates : List Predicate}

/-- The tokens of an operator lead to the place of the value. -/
theorem run_operator (name : String) {test : AttributeTest} (tested : test ≠ .present)
    (later : List Token) :
    (Draft.mk (.within joint (.attributeOperator name)) chains predicates).run
        (test.tokens ++ later) =
      (Draft.mk (.within joint (.attributeValue name test)) chains predicates).run later := by
  cases test with
  | present => exact absurd rfl tested
  | equals | startsWith | endsWith | contains => rfl

/-- The tokens of an attribute test are read as the test. -/
theorem run_withAttribute {predicate : AttributePredicate} (wellFormed : predicate.WellFormed)
    (here : phase.AtCompound joint) :
    (Draft.mk phase chains predicates).run (Predicate.withAttribute predicate).tokens =
      .ok ⟨.within joint .behind, chains, predicates ++ [.withAttribute predicate]⟩ := by
  obtain ⟨name, test, expected⟩ := predicate
  rw [Predicate.tokens, run_cons_of_transition (.leftBracket here)]
  by_cases tested : test = .present
  · subst tested
    obtain rfl : expected = "" := wellFormed.unused rfl
    rfl
  · have written : (AttributePredicate.mk name test expected).testTokens =
        test.tokens ++ [.quoted (quotedFor expected)] := by
      cases test with
      | present => exact absurd rfl tested
      | equals | startsWith | endsWith | contains => rfl
    have named : (Draft.mk (.within joint .attributeName) chains predicates).run
        (.identifier name :: (test.tokens ++ [.quoted (quotedFor expected), .sign .rightBracket])) =
          (Draft.mk (.within joint (.attributeOperator name)) chains predicates).run
            (test.tokens ++ [.quoted (quotedFor expected), .sign .rightBracket]) := rfl
    have valued : (Draft.mk (.within joint (.attributeValue name test)) chains predicates).run
        [.quoted (quotedFor expected), .sign .rightBracket] =
          .ok ⟨.within joint .behind, chains,
            predicates ++ [.withAttribute ⟨name, test, unquoted (quotedFor expected)⟩]⟩ := rfl
    rw [unquoted_quotedFor] at valued
    rw [written, List.append_assoc, List.singleton_append]
    exact named.trans ((run_operator name tested _).trans valued)

/-- A predicate other than a tag is read wherever a compound goes on. -/
theorem run_predicate {predicate : Predicate} (wellFormed : predicate.WellFormed)
    (untagged : ∀ name, predicate ≠ .tag name) (here : phase.AtCompound joint) :
    (Draft.mk phase chains predicates).run predicate.tokens =
      .ok ⟨.within joint .behind, chains, predicates ++ [predicate]⟩ := by
  cases predicate with
  | tag name => exact absurd rfl (untagged name)
  | id name =>
      rw [Predicate.tokens, run_cons_of_transition (.hash here)]
      rfl
  | className name =>
      rw [Predicate.tokens, run_cons_of_transition (.dot here)]
      rfl
  | withAttribute predicate => exact run_withAttribute wellFormed here

/-- Any predicate is read where a compound begins. -/
theorem run_firstPredicate {predicate : Predicate} (wellFormed : predicate.WellFormed)
    (opens : phase.Opens joint) :
    (Draft.mk phase chains []).run predicate.tokens =
      .ok ⟨.within joint .behind, chains, [predicate]⟩ := by
  by_cases tagged : ∃ name, predicate = .tag name
  · obtain ⟨name, rfl⟩ := tagged
    by_cases any : name = "*"
    · rw [Predicate.tokens, if_pos any, any, run_cons_of_transition (.anyTag opens)]
      rfl
    · rw [Predicate.tokens, if_neg any, run_cons_of_transition (.tag name opens)]
      rfl
  · exact run_predicate wellFormed (fun name same => tagged ⟨name, same⟩) (.opens opens)

theorem run_predicates {later : List Predicate}
    (wellFormed : ∀ predicate ∈ later, predicate.WellFormed)
    (untagged : ∀ predicate ∈ later, ∀ name, predicate ≠ .tag name) :
    (Draft.mk (.within joint .behind) chains predicates).run (later.flatMap Predicate.tokens) =
      .ok ⟨.within joint .behind, chains, predicates ++ later⟩ := by
  induction later generalizing predicates with
  | nil => rw [List.append_nil]; rfl
  | cons predicate later ih =>
      have first : (Draft.mk (.within joint .behind) chains predicates).run predicate.tokens =
          .ok ⟨.within joint .behind, chains, predicates ++ [predicate]⟩ :=
        run_predicate (wellFormed predicate List.mem_cons_self)
          (untagged predicate List.mem_cons_self) (.behind joint)
      rw [List.flatMap_cons, run_append_of_ok first,
        ih (fun other member => wellFormed other (List.mem_cons_of_mem predicate member))
          (fun other member => untagged other (List.mem_cons_of_mem predicate member)),
        List.append_assoc, List.singleton_append]

end Draft

/-! ## Chains -/

/-- The phase when a chain has been read and its last compound is still open. -/
def Chain.phase (chain : Chain) : Phase :=
  if chain.last.isEmpty then
    if chain.joint? = some .descendant then .afterBlank else .within chain.joint? .front
  else .within chain.joint? .behind

/-- The closed chains when the last compound of a chain is still open. -/
def Chain.onto (chains : List Chain) : Chain → List Chain
  | .single _ => chains
  | .link before _ _ => before :: chains

/-- The draft when a chain has been read behind closed chains, and its last
compound is still open. -/
def Draft.opened (chains : List Chain) (chain : Chain) : Draft :=
  ⟨chain.phase, chain.onto chains, chain.last.predicates⟩

namespace Chain

/-- The last compound may still begin when nothing of it has been read. -/
theorem opens_phase {chain : Chain} (empty : chain.last.isEmpty = true) :
    chain.phase.Opens chain.joint? := by
  rw [phase, if_pos empty]
  by_cases blank : chain.joint? = some .descendant
  · rw [if_pos blank, blank]
    exact .afterBlank
  · rw [if_neg blank]
    exact .front chain.joint?

theorem atCompound_phase (chain : Chain) : chain.phase.AtCompound chain.joint? := by
  by_cases empty : chain.last.isEmpty = true
  · exact .opens (opens_phase empty)
  · rw [phase, if_neg empty]
    exact .behind chain.joint?

theorem padded_phase (chain : Chain) : chain.phase.padded = false := by
  unfold phase
  split
  · split <;> rfl
  · rfl

/-- The chain does not end behind a blank when a combinator may follow. -/
theorem Continues.phase_ne_afterBlank {chain : Chain} (continues : chain.Continues) :
    chain.phase ≠ .afterBlank := by
  unfold phase
  split
  · rename_i empty
    split
    · rename_i joined
      rw [continues joined] at empty
      cases empty
    · exact nofun
  · exact nofun

/-- The open compound is closed into the chain. -/
theorem close_onto (chain : Chain) (chains : List Chain) :
    Draft.close chain.joint? chain.last (chain.onto chains) = chain :: chains := by
  cases chain with
  | single compound => cases chains <;> rfl
  | link before combinator last => rfl

/-- Whether the tokens of a chain end in a blank. The flag tells whether a blank
stands before the chain. -/
def endsInBlank (behindBlank : Bool) (chain : Chain) : Bool :=
  chain.last.isEmpty && (behindBlank || chain.joint?.isSome)

/-- A descendant combinator stands only where no blank has been read. -/
theorem Anchors.endsInBlank_eq_false {first : Bool} {chain : Chain}
    (anchors : chain.Anchors first) : chain.endsInBlank (!first) = false := by
  unfold endsInBlank
  rcases anchors with full | ⟨alone, isFirst⟩
  · rw [full, Bool.false_and]
  · rw [alone, isFirst, Bool.not_true, Option.isSome_none, Bool.or_false, Bool.and_false]

end Chain

/-! ## Blanks in the tokens of a chain -/

theorem Predicate.blank_notMem_tokens (predicate : Predicate) : .blank ∉ predicate.tokens := by
  cases predicate with
  | tag name => by_cases any : name = "*" <;> simp [Predicate.tokens, any]
  | id | className => simp [Predicate.tokens]
  | withAttribute predicate =>
      obtain ⟨name, test, expected⟩ := predicate
      cases test <;>
        simp [Predicate.tokens, AttributePredicate.testTokens, AttributeTest.tokens]

theorem Compound.blank_notMem_tokens (compound : Compound) : .blank ∉ compound.tokens := by
  intro member
  obtain ⟨predicate, -, inside⟩ := List.mem_flatMap.mp member
  exact predicate.blank_notMem_tokens inside

theorem Compound.squeeze_tokens (compound : Compound) (behindBlank : Bool) :
    squeeze behindBlank compound.tokens = compound.tokens :=
  squeeze_of_blank_notMem compound.blank_notMem_tokens behindBlank

theorem Compound.endsBlank_tokens (compound : Compound) (behindBlank : Bool) :
    endsBlank behindBlank compound.tokens = (compound.isEmpty && behindBlank) := by
  obtain ⟨predicates⟩ := compound
  cases predicates with
  | nil => rfl
  | cons predicate later =>
      have some : (Compound.mk (predicate :: later)).tokens ≠ [] := by
        simp [Compound.tokens, predicate.tokens_ne_nil]
      rw [endsBlank_of_blank_notMem (Compound.blank_notMem_tokens _) some]
      rfl

theorem Combinator.endsBlank_tokens (combinator : Combinator) (behindBlank : Bool) :
    endsBlank behindBlank combinator.tokens = true := by
  cases combinator <;> rfl

theorem Chain.endsBlank_tokens (chain : Chain) (behindBlank : Bool) :
    endsBlank behindBlank chain.tokens = chain.endsInBlank behindBlank := by
  cases chain with
  | single compound =>
      rw [Chain.tokens, Compound.endsBlank_tokens, endsInBlank, joint?, Option.isSome_none,
        Bool.or_false]
      rfl
  | link before combinator last =>
      rw [Chain.tokens, endsBlank_append, endsBlank_append, Combinator.endsBlank_tokens,
        Compound.endsBlank_tokens, endsInBlank, joint?, Option.isSome_some, Bool.or_true]
      rfl

/-! ## Reading a chain back -/

/-- A combinator other than a blank is a sign with a blank on either side. -/
theorem Combinator.exists_sign {combinator : Combinator} (other : combinator ≠ .descendant) :
    ∃ mark : Sign, mark.combinator? = some combinator ∧
      combinator.tokens = [.blank, .sign mark, .blank] := by
  cases combinator with
  | descendant => exact absurd rfl other
  | child => exact ⟨.greater, rfl, rfl⟩
  | adjacentSibling => exact ⟨.plus, rfl, rfl⟩
  | generalSibling => exact ⟨.tilde, rfl, rfl⟩

namespace Draft

variable {chains : List Chain}

/-- The tokens of a compound are read where it begins. -/
theorem run_compound {draft : Draft} {joint : Option Combinator} {compound : Compound}
    (wellFormed : compound.WellFormed) (opens : draft.phase.Opens joint)
    (fresh : draft.predicates = []) :
    draft.run compound.tokens =
      .ok (if compound.isEmpty then draft
        else ⟨.within joint .behind, draft.chains, compound.predicates⟩) := by
  obtain ⟨phase, chains, predicates⟩ := draft
  obtain rfl : predicates = [] := fresh
  obtain ⟨predicates⟩ := compound
  cases predicates with
  | nil => rfl
  | cons predicate later =>
      have first : (Draft.mk phase chains []).run predicate.tokens =
          .ok ⟨.within joint .behind, chains, [predicate]⟩ :=
        run_firstPredicate (wellFormed.predicates predicate List.mem_cons_self) opens
      have rest : (Draft.mk (.within joint .behind) chains [predicate]).run
          (later.flatMap Predicate.tokens) =
            .ok ⟨.within joint .behind, chains, [predicate] ++ later⟩ :=
        run_predicates
          (fun other member => wellFormed.predicates other (List.mem_cons_of_mem predicate member))
          (fun other member => wellFormed.ne_tag_of_mem_tail member)
      rw [Compound.tokens, List.flatMap_cons, run_append_of_ok first, rest]
      rfl

/-- The last compound of a chain is read where it begins. -/
theorem run_last (opening chain : Chain) (empty : opening.last = .empty)
    (joint : opening.joint? = chain.joint?) (onto : opening.onto chains = chain.onto chains)
    (wellFormed : chain.last.WellFormed) :
    (opened chains opening).run chain.last.tokens = .ok (opened chains chain) := by
  have opens : (opened chains opening).phase.Opens chain.joint? := by
    rw [← joint]
    exact opening.opens_phase (by rw [empty]; rfl)
  rw [run_compound wellFormed opens (by rw [opened, empty]; rfl)]
  by_cases none : chain.last.isEmpty = true
  · have same : chain.last = .empty := congrArg Compound.mk (List.isEmpty_iff.mp none)
    rw [if_pos none, opened, opened, Chain.phase, Chain.phase, empty, joint, onto, same]
  · have behind : chain.phase = .within chain.joint? .behind := if_neg none
    rw [if_neg none]
    simp only [opened, behind, onto]

/-- At its end the open chain is closed. -/
theorem perform_close (chain : Chain) (phase : Phase) :
    (opened chains chain).perform ⟨.close chain.joint?, phase⟩ = ⟨phase, chain :: chains, []⟩ := by
  simp only [perform, opened, chain.close_onto chains]

/-- A combinator closes the last compound and opens the next one. -/
theorem run_combinator {first : Bool} {before : Chain} {combinator : Combinator}
    (continues : before.Continues) (anchors : combinator = .descendant → before.Anchors first) :
    (opened chains before).run (squeeze (before.endsInBlank (!first)) combinator.tokens) =
      .ok (opened chains (.link before combinator .empty)) := by
  have blank : (opened chains before).run [.blank] = .ok ⟨.afterBlank, before :: chains, []⟩ := by
    rw [run_cons_of_transition (.blank before.atCompound_phase before.padded_phase), perform_close]
    rfl
  by_cases isDescendant : combinator = .descendant
  · rw [(anchors isDescendant).endsInBlank_eq_false, isDescendant]
    exact blank
  · obtain ⟨mark, is, tokens⟩ := Combinator.exists_sign isDescendant
    have next : opened chains (.link before combinator .empty) =
        ⟨.within (some combinator) .front, before :: chains, []⟩ := by
      cases combinator with
      | descendant => exact absurd rfl isDescendant
      | child | adjacentSibling | generalSibling => rfl
    have padding : (Draft.mk (.afterCombinator combinator) (before :: chains) []).run [.blank] =
        .ok ⟨.within (some combinator) .front, before :: chains, []⟩ := rfl
    rw [tokens, next]
    cases before.endsInBlank (!first) with
    | true =>
        -- The blank before the sign has been read with the one before it.
        have squeezed : squeeze true [.blank, .sign mark, .blank] = [.sign mark, .blank] := by
          simp [squeeze]
        rw [squeezed, run_cons_of_transition
          (.combinator before.atCompound_phase continues.phase_ne_afterBlank is), perform_close]
        exact padding
    | false =>
        have squeezed : squeeze false [.blank, .sign mark, .blank] =
            [.blank] ++ [.sign mark, .blank] := by simp [squeeze]
        rw [squeezed, run_append_of_ok blank, run_cons_of_transition (.combinatorAfterBlank is)]
        exact padding

/-- **The tokens of a chain are read as the chain.** -/
theorem run_chain {first : Bool} {chain : Chain} (wellFormed : chain.WellFormed first) :
    (opened chains (.single .empty)).run (squeeze (!first) chain.tokens) =
      .ok (opened chains chain) := by
  induction chain with
  | single compound =>
      rw [Chain.tokens, Compound.squeeze_tokens]
      exact run_last (.single .empty) (.single compound) rfl rfl rfl
        (Chain.wellFormed_single_iff.mp wellFormed)
  | link before combinator last ih =>
      obtain ⟨whole, lastWhole, continues, anchors⟩ := Chain.wellFormed_link_iff.mp wellFormed
      have ranLast : (opened chains (.link before combinator .empty)).run last.tokens =
          .ok (opened chains (.link before combinator last)) :=
        run_last (.link before combinator .empty) (.link before combinator last) rfl rfl rfl
          lastWhole
      rw [Chain.tokens, squeeze_append, run_append_of_ok (ih whole), Chain.endsBlank_tokens,
        squeeze_append, run_append_of_ok (run_combinator continues anchors),
        Compound.squeeze_tokens]
      exact ranLast

/-! ## Reading a selector back -/

/-- The tokens of all alternatives are read, each behind the ones before it. -/
theorem run_alternatives {first : Bool} {chain : Chain} {later : List Chain} (chains : List Chain)
    (wellFormed : chain.WellFormed first) (others : ∀ other ∈ later, other.WellFormed false) :
    (opened chains (.single .empty)).run
        (squeeze (!first)
          ([.sign .comma, .blank].intercalate ((chain :: later).map Chain.tokens)) ++
            [.endOfInput]) =
      .ok ⟨.ended, (chain :: later).reverse ++ chains, []⟩ := by
  induction later generalizing first chain chains with
  | nil =>
      rw [List.map_singleton, List.intercalate_singleton, run_append_of_ok (run_chain wellFormed),
        run_cons_of_transition (.endOfInput chain.atCompound_phase), perform_close]
      rfl
  | cons next later ih =>
      -- The blank behind the comma is the one that stands before the next chain.
      have separated (behindBlank : Bool) (rest : List Token) :
          squeeze behindBlank ([.sign .comma, .blank] ++ rest) =
            .sign .comma :: .blank :: squeeze true rest := by simp [squeeze]
      have entered : (Draft.mk .afterComma (chain :: chains) []).perform
          ⟨.keep, .within none .front⟩ = opened (chain :: chains) (.single .empty) := rfl
      have nextRan := ih (chain :: chains) (others next List.mem_cons_self)
        fun other member => others other (List.mem_cons_of_mem next member)
      rw [List.map_cons, Bool.not_false] at nextRan
      rw [List.map_cons, List.map_cons, List.intercalate_cons_cons, List.append_assoc,
        squeeze_append, List.append_assoc, run_append_of_ok (run_chain wellFormed), separated,
        List.cons_append, run_cons_of_transition (.comma chain.atCompound_phase), perform_close,
        List.cons_append, run_cons_of_transition (.padding .afterComma rfl), entered, nextRan]
      simp

end Draft

/-- **A well-formed selector is read back from its text.** -/
theorem parse_render_of_wellFormed {selector : Selector} (wellFormed : selector.WellFormed) :
    parse selector.render = .ok selector := by
  obtain ⟨alternatives⟩ := selector
  obtain ⟨chain, later, rfl⟩ := List.exists_cons_of_ne_nil wellFormed.nonempty
  have first : chain.WellFormed true := wellFormed.alternatives 0 chain rfl
  have others : ∀ other ∈ later, other.WellFormed false := by
    intro other member
    obtain ⟨index, found⟩ := List.getElem?_of_mem member
    exact wellFormed.alternatives (index + 1) other found
  have ran := Draft.run_alternatives [] first others
  exact parse_eq_ok_iff.mpr ⟨_, _, tokenize_render wellFormed, ran, by simp⟩

end TreeSelector
