import TreeSelector.Proofs.Selector.RoundTrip

/-!
# Which selectors are read from a text

Exactly the well-formed selectors are read (`exists_parse_eq_ok_iff`), and each is
read back from the text that it is written as (`parse_render`).

That nothing else is read is an invariant of drafts (`Draft.Sound`), which says
what may have been read at each phase. It is kept by every token that the scanner
gives, as long as no blank follows another (`Draft.Sound.perform`). The invariant
keeps an eye on the blanks: at the front of a compound, a blank or nothing at all
has just been read, and the blank that could be a descendant combinator there has
been drawn together with the one before it.
-/

set_option autoImplicit false

namespace TreeSelector

/-! ## Sound drafts -/

/-- The closed chains, the last of them first, are well formed. -/
def SoundChains : List Chain → Prop
  | [] => True
  | chain :: below => chain.WellFormed below.isEmpty ∧ SoundChains below

/-- What has been read of an attribute test can be part of a well-formed one. -/
def Place.Sound : Place → Prop
  | .attributeOperator name => isIdentifier name = true
  | .attributeAssign name test | .attributeValue name test =>
      isIdentifier name = true ∧ test ≠ .present
  | .attributeEnd predicate => predicate.WellFormed
  | .front | .behind | .idName | .className | .attributeName => True

/-- What may have been read at a phase: nothing of a compound where it begins, and
something behind a predicate. -/
def Phase.Sound (behindBlank : Bool) (chains : List Chain) (predicates : List Predicate) :
    Phase → Prop
  | .within joint .front =>
      predicates = [] ∧ joint ≠ some .descendant ∧
        (behindBlank = true ∨ joint = none ∧ chains = [])
  | .within _ .behind => predicates ≠ []
  | .within _ place => place.Sound
  | .afterBlank => predicates = [] ∧ behindBlank = true
  | .afterCombinator combinator => predicates = [] ∧ combinator ≠ .descendant
  | .afterComma => predicates = []
  | .ended => False

/-- What has been read can become a well-formed selector. The flag tells whether
the last token was a blank. -/
structure Draft.Sound (draft : Draft) (behindBlank : Bool) : Prop where
  chains : SoundChains draft.chains
  pending : (Compound.mk draft.predicates).WellFormed
  joined : ∀ combinator, draft.phase.joint? = some combinator →
    ∃ before below, draft.chains = before :: below ∧ before.Continues ∧
      (combinator = .descendant → before.Anchors below.isEmpty)
  phase : draft.phase.Sound behindBlank draft.chains draft.predicates

theorem Compound.wellFormed_empty : Compound.empty.WellFormed :=
  ⟨nofun, nofun⟩

/-- A predicate other than a tag may follow any others. -/
theorem Compound.WellFormed.concat {predicates : List Predicate}
    (wellFormed : (Compound.mk predicates).WellFormed) {predicate : Predicate}
    (last : predicate.WellFormed) (untagged : ∀ name, predicate ≠ .tag name) :
    (Compound.mk (predicates ++ [predicate])).WellFormed where
  predicates other member := by
    rcases List.mem_append.mp member with member | member
    · exact wellFormed.predicates other member
    · obtain rfl := List.mem_singleton.mp member
      exact last
  tag_first index name found := by
    rcases getElem?_concat_eq_some_iff.mp found with found | ⟨-, same⟩
    · exact wellFormed.tag_first index name found
    · exact absurd same (untagged name)

/-- A tag may stand on its own. -/
theorem Compound.wellFormed_tag {name : String} (wellFormed : (Predicate.tag name).WellFormed) :
    (Compound.mk [.tag name]).WellFormed where
  predicates other member := by
    obtain rfl := List.mem_singleton.mp member
    exact wellFormed
  tag_first index name found := by
    cases index with
    | zero => rfl
    | succ index => cases found

/-! ### The values of tokens -/

/-- A bare value contains no quote. -/
theorem wellFormed_of_isLiteral {name text : String} {test : AttributeTest}
    (named : isIdentifier name = true) (tested : test ≠ .present)
    (literal : isLiteral text = true) :
    (AttributePredicate.mk name test text).WellFormed := by
  refine ⟨named, fun unused => absurd unused tested, fun _ both => ?_⟩
  obtain ⟨c, rest, whole, -, plain⟩ := isLiteral_iff.mp literal
  have quote : isLiteralCharacter '\'' = true := plain '\'' (by rw [← whole]; exact both.1)
  cases quote

/-- A quoted value does not contain its own quote. -/
theorem wellFormed_of_isQuoted {name text : String} {test : AttributeTest}
    (named : isIdentifier name = true) (tested : test ≠ .present) (quoted : IsQuoted text) :
    (AttributePredicate.mk name test (unquoted text)).WellFormed := by
  refine ⟨named, fun unused => absurd unused tested, fun _ both => ?_⟩
  obtain ⟨quote, body, is, closed, whole⟩ := quoted
  have inside : (unquoted text).toList = body := by simp [unquoted, whole]
  rw [inside] at both
  simp only [isQuote, Bool.or_eq_true, decide_eq_true_eq] at is
  rcases is with rfl | rfl
  · exact closed both.1
  · exact closed both.2

/-- The sign of a combinator is not that of a descendant combinator, which has none. -/
theorem Sign.ne_descendant_of_combinator? {mark : Sign} {combinator : Combinator}
    (is : mark.combinator? = some combinator) : combinator ≠ .descendant := by
  rintro rfl
  cases mark <;> cases is

namespace Draft

variable {draft : Draft} {behindBlank : Bool}

theorem sound_start : start.Sound false :=
  ⟨trivial, Compound.wellFormed_empty, nofun, rfl, nofun, .inr ⟨rfl, rfl⟩⟩

/-! ## The end of a compound -/

/-- The chain that the closing of a compound yields is well formed. -/
theorem Sound.exists_close_eq {joint : Option Combinator} (sound : draft.Sound behindBlank)
    (here : draft.phase.AtCompound joint) :
    ∃ chain below, close joint ⟨draft.predicates⟩ draft.chains = chain :: below ∧
      chain.last = ⟨draft.predicates⟩ ∧ chain.joint? = joint ∧ SoundChains (chain :: below) ∧
        (draft.chains = [] → below = []) := by
  have joined := sound.joined
  rw [here.joint?_eq] at joined
  cases joint with
  | none =>
      refine ⟨.single ⟨draft.predicates⟩, draft.chains, ?_, rfl, rfl,
        ⟨Chain.wellFormed_single_iff.mpr sound.pending, sound.chains⟩, id⟩
      cases draft.chains <;> rfl
  | some combinator =>
      obtain ⟨before, below, whole, continues, anchors⟩ := joined combinator rfl
      have chains := sound.chains
      rw [whole] at chains ⊢
      obtain ⟨beforeWhole, belowSound⟩ := chains
      exact ⟨.link before combinator ⟨draft.predicates⟩, below, rfl, rfl, rfl,
        ⟨Chain.wellFormed_link_iff.mpr ⟨beforeWhole, sound.pending, continues, anchors⟩,
          belowSound⟩, nofun⟩

theorem Sound.isEmpty_eq_false_of_behind {joint : Option Combinator}
    (sound : draft.Sound behindBlank) (behind : draft.phase = .within joint .behind) :
    (Compound.mk draft.predicates).isEmpty = false := by
  have some : draft.predicates ≠ [] := by
    have held := sound.phase
    rw [behind] at held
    exact held
  exact List.isEmpty_eq_false_iff.mpr some

/-- Where a sign is read as a combinator, one may follow the closed chain. -/
theorem Sound.continues_of_combinator {joint : Option Combinator} {chain : Chain}
    (sound : draft.Sound behindBlank) (here : draft.phase.AtCompound joint)
    (unblank : draft.phase ≠ .afterBlank) (last : chain.last = ⟨draft.predicates⟩)
    (joined : chain.joint? = joint) : chain.Continues := by
  intro isDescendant
  rw [joined] at isDescendant
  subst isDescendant
  rw [last]
  obtain ⟨phase, chains, predicates⟩ := draft
  -- A descendant combinator is followed by its compound or by another combinator,
  -- never by the front of a compound with nothing in it.
  cases here with
  | behind => exact sound.isEmpty_eq_false_of_behind rfl
  | opens opens =>
      cases opens with
      | front => exact absurd rfl sound.phase.2.1
      | afterBlank => exact absurd rfl unblank
      | afterCombinator => exact absurd rfl sound.phase.2

/-- Where a blank ends a compound, the closed chain anchors a descendant combinator. -/
theorem Sound.anchors_of_blank {joint : Option Combinator} {chain : Chain} {below : List Chain}
    (sound : draft.Sound false) (here : draft.phase.AtCompound joint)
    (unpadded : draft.phase.padded = false) (last : chain.last = ⟨draft.predicates⟩)
    (joined : chain.joint? = joint) (lowest : draft.chains = [] → below = []) :
    chain.Anchors below.isEmpty := by
  obtain ⟨phase, chains, predicates⟩ := draft
  cases here with
  | behind =>
      refine .inl ?_
      rw [last]
      exact sound.isEmpty_eq_false_of_behind rfl
  | opens opens =>
      cases opens with
      | front =>
          -- No blank has been read, so this is the front of the whole selector.
          obtain ⟨-, -, blank | ⟨alone, none⟩⟩ := sound.phase
          · cases blank
          · exact .inr ⟨joined.trans alone, List.isEmpty_iff.mpr (lowest none)⟩
      | afterBlank => cases sound.phase.2
      | afterCombinator | afterComma => cases unpadded

/-! ## Moves -/

theorem Sound.predicates_eq_nil {joint : Option Combinator} (sound : draft.Sound behindBlank)
    (opens : draft.phase.Opens joint) : draft.predicates = [] := by
  obtain ⟨phase, chains, predicates⟩ := draft
  cases opens with
  | front | afterBlank | afterCombinator => exact sound.phase.1
  | afterComma => exact sound.phase

/-- A move to another place of the same compound. -/
theorem Sound.moveTo {joint : Option Combinator} {place : Place} {nextBlank : Bool}
    (sound : draft.Sound behindBlank) (same : draft.phase.joint? = joint)
    (held : (Phase.within joint place).Sound nextBlank draft.chains draft.predicates) :
    (Draft.mk (.within joint place) draft.chains draft.predicates).Sound nextBlank where
  chains := sound.chains
  pending := sound.pending
  joined combinator joined := sound.joined combinator (same.trans joined)
  phase := held

/-- The first predicate of a compound, a tag. -/
theorem Sound.pushTag {joint : Option Combinator} {name : String}
    (sound : draft.Sound behindBlank) (opens : draft.phase.Opens joint)
    (wellFormed : (Predicate.tag name).WellFormed) :
    (Draft.mk (.within joint .behind) draft.chains (draft.predicates ++ [.tag name])).Sound
      false := by
  rw [sound.predicates_eq_nil opens, List.nil_append]
  exact ⟨sound.chains, Compound.wellFormed_tag wellFormed,
    fun combinator joined => sound.joined combinator (opens.joint?_eq.trans joined), nofun⟩

/-- One more predicate of a compound, other than a tag. -/
theorem Sound.push {joint : Option Combinator} {predicate : Predicate}
    (sound : draft.Sound behindBlank) (same : draft.phase.joint? = joint)
    (wellFormed : predicate.WellFormed) (untagged : ∀ name, predicate ≠ .tag name) :
    (Draft.mk (.within joint .behind) draft.chains (draft.predicates ++ [predicate])).Sound
      false where
  chains := sound.chains
  pending := sound.pending.concat wellFormed untagged
  joined combinator joined := sound.joined combinator (same.trans joined)
  phase := List.append_ne_nil_of_right_ne_nil draft.predicates (List.cons_ne_nil predicate [])

/-- The end of a compound, where a blank follows. -/
theorem Sound.closeBlank {joint : Option Combinator} (sound : draft.Sound false)
    (here : draft.phase.AtCompound joint) (unpadded : draft.phase.padded = false) :
    (Draft.mk .afterBlank (close joint ⟨draft.predicates⟩ draft.chains) []).Sound true := by
  obtain ⟨chain, below, closed, last, joined, sounds, lowest⟩ := sound.exists_close_eq here
  have anchors := sound.anchors_of_blank here unpadded last joined lowest
  rw [closed]
  refine ⟨sounds, Compound.wellFormed_empty, ?_, rfl, rfl⟩
  rintro combinator -
  exact ⟨chain, below, rfl, anchors.continues, fun _ => anchors⟩

/-- The end of a compound, where the sign of a combinator follows. -/
theorem Sound.closeCombinator {joint : Option Combinator} {combinator : Combinator}
    (sound : draft.Sound behindBlank) (here : draft.phase.AtCompound joint)
    (unblank : draft.phase ≠ .afterBlank) (signed : combinator ≠ .descendant) :
    (Draft.mk (.afterCombinator combinator) (close joint ⟨draft.predicates⟩ draft.chains) []).Sound
      false := by
  obtain ⟨chain, below, closed, last, joined, sounds, -⟩ := sound.exists_close_eq here
  have continues := sound.continues_of_combinator here unblank last joined
  rw [closed]
  refine ⟨sounds, Compound.wellFormed_empty, ?_, rfl, signed⟩
  rintro other same
  obtain rfl := Option.some.inj same
  exact ⟨chain, below, rfl, continues, fun isDescendant => absurd isDescendant signed⟩

/-- The end of a compound, where a comma follows. -/
theorem Sound.closeComma {joint : Option Combinator} (sound : draft.Sound behindBlank)
    (here : draft.phase.AtCompound joint) :
    (Draft.mk .afterComma (close joint ⟨draft.predicates⟩ draft.chains) []).Sound false := by
  obtain ⟨chain, below, closed, -, -, sounds, -⟩ := sound.exists_close_eq here
  rw [closed]
  exact ⟨sounds, Compound.wellFormed_empty, nofun, rfl⟩

/-- The sign of a combinator behind the blank that follows a compound. -/
theorem Sound.signBehindBlank {combinator : Combinator} (sound : draft.Sound behindBlank)
    (here : draft.phase = .afterBlank) (signed : combinator ≠ .descendant) :
    (Draft.mk (.afterCombinator combinator) draft.chains draft.predicates).Sound false := by
  obtain ⟨phase, chains, predicates⟩ := draft
  obtain rfl : phase = .afterBlank := here
  obtain ⟨before, below, whole, continues, -⟩ := sound.joined .descendant rfl
  refine ⟨sound.chains, sound.pending, ?_, sound.phase.1, signed⟩
  rintro other same
  obtain rfl := Option.some.inj same
  exact ⟨before, below, whole, continues, fun isDescendant => absurd isDescendant signed⟩

/-- **Every token of a mode keeps a draft sound**, unless it is a blank behind
another. -/
theorem Sound.perform {token : Token} {move : Move} (sound : draft.Sound behindBlank)
    (moves : draft.phase.Transition token move) (given : ∃ mode : Mode, mode.Gives token)
    (apart : token = .blank → behindBlank = false) :
    (draft.perform move).Sound (decide (token = .blank)) := by
  obtain ⟨mode, given⟩ := given
  obtain ⟨phase, chains, predicates⟩ := draft
  have held := sound.phase
  simp only at moves held
  cases moves with
  | tag name opens => exact sound.pushTag opens (.inr (Mode.gives_identifier_iff.mp given).2)
  | anyTag opens => exact sound.pushTag opens (.inl rfl)
  | hash here | dot here | leftBracket here => exact sound.moveTo here.joint?_eq trivial
  | id joint name | className joint name =>
      exact sound.push rfl (Mode.gives_identifier_iff.mp given).2 nofun
  | attributeName joint name => exact sound.moveTo rfl (Mode.gives_identifier_iff.mp given).2
  | present joint name =>
      exact sound.push rfl ⟨held, fun _ => rfl, fun tested => absurd rfl tested⟩ nofun
  | equals joint name => exact sound.moveTo rfl ⟨held, nofun⟩
  | @operator joint name mark test begins =>
      have tested : test ≠ .present := by
        rintro rfl
        cases mark <;> cases begins
      exact sound.moveTo rfl ⟨held, tested⟩
  | assign joint name test => exact sound.moveTo rfl held
  | quoted joint name test text =>
      have quoted : IsQuoted text := (Mode.gives_quoted_iff.mp given).2
      exact sound.moveTo rfl (wellFormed_of_isQuoted held.1 held.2 quoted)
  | literal joint name test text =>
      have literal : isLiteral text = true := (Mode.gives_literal_iff.mp given).2
      exact sound.moveTo rfl (wellFormed_of_isLiteral held.1 held.2 literal)
  | rightBracket joint predicate => exact sound.push rfl held nofun
  | padding opens padded =>
      refine sound.moveTo opens.joint?_eq ⟨sound.predicates_eq_nil opens, ?_, .inl rfl⟩
      cases opens with
      | front | afterBlank => cases padded
      | afterCombinator combinator => exact fun same => held.2 (Option.some.inj same)
      | afterComma => exact nofun
  | blank here unpadded =>
      obtain rfl := apart rfl
      exact sound.closeBlank here unpadded
  | combinator here unblank is =>
      exact sound.closeCombinator here unblank (Sign.ne_descendant_of_combinator? is)
  | combinatorAfterBlank is =>
      exact sound.signBehindBlank rfl (Sign.ne_descendant_of_combinator? is)
  | comma here => exact sound.closeComma here
  | endOfInput | ended =>
      -- The scanner gives the end token in no mode.
      exact absurd given mode.not_gives_endOfInput

/-- **A run keeps a draft sound.** -/
theorem Sound.run {last : Draft} {tokens : List Token} (sound : draft.Sound behindBlank)
    (given : ∀ token ∈ tokens, ∃ mode : Mode, mode.Gives token)
    (squeezed : squeeze behindBlank tokens = tokens) (ran : draft.run tokens = .ok last) :
    last.Sound (endsBlank behindBlank tokens) := by
  induction tokens generalizing draft behindBlank with
  | nil =>
      cases ran
      exact sound
  | cons token later ih =>
      obtain ⟨apart, rest⟩ := of_squeeze_cons_eq squeezed
      obtain ⟨move, moves, ranLater⟩ := run_cons_eq_ok_iff.mp ran
      have next := sound.perform moves (given token List.mem_cons_self) apart
      exact ih next (fun other member => given other (List.mem_cons_of_mem token member)) rest
        ranLater

end Draft

/-! ## The selectors that are read -/

/-- Sound chains are the alternatives of a well-formed selector. -/
theorem SoundChains.wellFormed {chains : List Chain} (sound : SoundChains chains)
    (nonempty : chains ≠ []) : (Selector.mk chains.reverse).WellFormed := by
  refine ⟨by simpa using nonempty, fun index chain found => ?_⟩
  simp only at found
  clear nonempty
  induction chains with
  | nil => cases found
  | cons top below ih =>
      rw [List.reverse_cons] at found
      rcases getElem?_concat_eq_some_iff.mp found with found | ⟨rfl, rfl⟩
      · exact ih sound.2 found
      · have lowest : below.isEmpty = (below.reverse.length == 0) := by cases below <;> simp
        rw [← lowest]
        exact sound.1

/-- At the end of the text, the closed chains of a sound draft are well formed. -/
theorem Draft.Sound.wellFormed_of_end {draft : Draft} {behindBlank : Bool} {move : Move}
    (sound : draft.Sound behindBlank) (moves : draft.phase.Transition .endOfInput move) :
    (Selector.mk (draft.perform move).chains.reverse).WellFormed := by
  obtain ⟨phase, chains, predicates⟩ := draft
  cases moves with
  | endOfInput here =>
      obtain ⟨chain, below, closed, -, -, sounds, -⟩ := sound.exists_close_eq here
      simp only at closed
      simp only [Draft.perform, closed]
      exact sounds.wellFormed (List.cons_ne_nil chain below)
  | ended => exact absurd sound.phase id

/-- **What is read is well formed.** -/
theorem wellFormed_of_parse {text : String} {selector : Selector}
    (read : parse text = .ok selector) : selector.WellFormed := by
  obtain ⟨tokens, last, whole, ran, rfl⟩ := parse_eq_ok_iff.mp read
  have spelled := tokenize_eq_ok_iff.mp whole
  obtain ⟨reached, ranBefore⟩ := Draft.exists_run_of_append ran
  have sound : reached.Sound (endsBlank false tokens) :=
    Draft.sound_start.run (fun _ => spelled.exists_gives) spelled.squeeze_eq.1 ranBefore
  rw [Draft.run_append_of_ok ranBefore, Draft.run_singleton_eq_ok_iff] at ran
  obtain ⟨move, moves, rfl⟩ := ran
  exact sound.wellFormed_of_end moves

/-- **Exactly the well-formed selectors are read.** -/
theorem exists_parse_eq_ok_iff (selector : Selector) :
    (∃ text, parse text = .ok selector) ↔ selector.WellFormed := by
  constructor
  · rintro ⟨text, read⟩
    exact wellFormed_of_parse read
  · intro wellFormed
    exact ⟨selector.render, parse_render_of_wellFormed wellFormed⟩

/-- **A selector that is read is read back from the text that it is written as.** -/
theorem parse_render {text : String} {selector : Selector} (read : parse text = .ok selector) :
    parse selector.render = .ok selector :=
  parse_render_of_wellFormed (wellFormed_of_parse read)

/-- Empty compounds beside combinators, and a value that changes its quotes. -/
theorem parse_render_of_empty_compounds :
    parse " >, +[a=\"]\"]" =
        .ok ⟨[.link (.single .empty) .child .empty,
          .link (.single .empty) .adjacentSibling ⟨[.withAttribute ⟨"a", .equals, "]"⟩]⟩]⟩ ∧
      parse " > ,  + [a=']']" =
        .ok ⟨[.link (.single .empty) .child .empty,
          .link (.single .empty) .adjacentSibling ⟨[.withAttribute ⟨"a", .equals, "]"⟩]⟩]⟩ := by
  have read : parse " >, +[a=\"]\"]" =
      .ok ⟨[.link (.single .empty) .child .empty,
        .link (.single .empty) .adjacentSibling ⟨[.withAttribute ⟨"a", .equals, "]"⟩]⟩]⟩ := by
    decide +kernel
  have written : Selector.render ⟨[.link (.single .empty) .child .empty,
      .link (.single .empty) .adjacentSibling ⟨[.withAttribute ⟨"a", .equals, "]"⟩]⟩]⟩ =
        " > ,  + [a=']']" := by decide
  have again := parse_render read
  rw [written] at again
  exact ⟨read, again⟩

end TreeSelector
