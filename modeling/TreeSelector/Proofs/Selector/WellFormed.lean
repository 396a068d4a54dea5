import TreeSelector.Proofs.Token.Spelling
import TreeSelector.Selector

/-!
# Well-formed selectors

Not every selector is read from a text. The names in it are identifiers, a tag
stands in front of the other predicates, and an attribute value can be quoted,
so not both quotes occur in it. Where compounds are empty, there is a condition
on their places as well: a blank is a combinator only when no other combinator
stands beside it, and the blank behind a comma is padding. So a compound behind a
descendant combinator is empty only at the end of its chain, and one before it
only at the front of the whole selector (`Chain.WellSpaced`).

`Chain.WellSpaced` is stated for the row of compounds. A chain, however, is read
link by link: whether a combinator may follow depends on the last link
(`Chain.Continues`), and a descendant combinator asks for more (`Chain.Anchors`).
`wellSpaced_link_iff` says the one in terms of the other.
-/

set_option autoImplicit false

namespace TreeSelector

/-! ## Predicates and compounds -/

/-- The name is an identifier, a value is there exactly where it is tested, and it
does not contain both quotes. -/
structure AttributePredicate.WellFormed (predicate : AttributePredicate) : Prop where
  name : isIdentifier predicate.name = true
  unused : predicate.test = .present → predicate.expected = ""
  quotable : predicate.test ≠ .present →
    ¬ ('\'' ∈ predicate.expected.toList ∧ '"' ∈ predicate.expected.toList)

/-- The names are identifiers. A tag may also be `*`. -/
def Predicate.WellFormed : Predicate → Prop
  | .tag name => name = "*" ∨ isIdentifier name = true
  | .id name | .className name => isIdentifier name = true
  | .withAttribute predicate => predicate.WellFormed

/-- The predicates are well formed, and a tag is the first of them. -/
structure Compound.WellFormed (compound : Compound) : Prop where
  predicates : ∀ predicate ∈ compound.predicates, predicate.WellFormed
  tag_first : ∀ index name, compound.predicates[index]? = some (.tag name) → index = 0

/-- Behind the first predicate there is no tag. -/
theorem Compound.WellFormed.ne_tag_of_mem_tail {compound : Compound}
    (wellFormed : compound.WellFormed) {predicate : Predicate}
    (member : predicate ∈ compound.predicates.tail) (name : String) : predicate ≠ .tag name := by
  rintro rfl
  obtain ⟨index, found⟩ := List.getElem?_of_mem member
  rw [List.getElem?_tail] at found
  exact Nat.succ_ne_zero index (wellFormed.tag_first (index + 1) name found)

/-! ## Chains -/

namespace Chain

/-- The compounds of a chain, from the left. -/
def compounds : Chain → List Compound
  | .single compound => [compound]
  | .link before _ last => before.compounds ++ [last]

/-- The combinators of a chain, from the left. The combinator at an index joins the
compound at this index to the next one. -/
def combinators : Chain → List Combinator
  | .single _ => []
  | .link before combinator _ => before.combinators ++ [combinator]

/-- Where empty compounds may stand beside a descendant combinator: before it only
at the front of the first alternative, and behind it only at the end of the chain. -/
structure WellSpaced (first : Bool) (chain : Chain) : Prop where
  before : ∀ index compound, chain.combinators[index]? = some .descendant →
    chain.compounds[index]? = some compound →
      compound.isEmpty = false ∨ index = 0 ∧ first = true
  behind : ∀ index compound, chain.combinators[index]? = some .descendant →
    chain.compounds[index + 1]? = some compound →
      compound.isEmpty = false ∨ index + 1 = chain.combinators.length

/-- The compounds are well formed and well spaced. -/
structure WellFormed (first : Bool) (chain : Chain) : Prop where
  compounds : ∀ compound ∈ chain.compounds, compound.WellFormed
  spaced : chain.WellSpaced first

end Chain

/-- There is an alternative, and all are well formed. -/
structure Selector.WellFormed (selector : Selector) : Prop where
  nonempty : selector.alternatives ≠ []
  alternatives : ∀ index (chain : Chain), selector.alternatives[index]? = some chain →
    chain.WellFormed (index == 0)

/-! ## Chains link by link -/

/-- What a row holds at an index when one more item stands at its end. -/
theorem getElem?_concat_eq_some_iff {α : Type} {items : List α} {last item : α} {index : Nat} :
    (items ++ [last])[index]? = some item ↔
      items[index]? = some item ∨ index = items.length ∧ last = item := by
  rcases Nat.lt_trichotomy index items.length with inside | rfl | outside
  · rw [List.getElem?_append_left inside]
    simp [Nat.ne_of_lt inside]
  · simp
  · rw [List.getElem?_eq_none (by simp; omega), List.getElem?_eq_none (Nat.le_of_lt outside)]
    simp [Nat.ne_of_gt outside]

namespace Chain

/-- The last compound of a chain. -/
def last : Chain → Compound
  | .single compound => compound
  | .link _ _ last => last

/-- The combinator before the last compound, if there is one. -/
def joint? : Chain → Option Combinator
  | .single _ => none
  | .link _ combinator _ => some combinator

/-- A combinator may follow: the chain does not end in a descendant combinator
with nothing behind it. -/
def Continues (chain : Chain) : Prop :=
  chain.joint? = some .descendant → chain.last.isEmpty = false

/-- A descendant combinator may follow: the chain does not end in an empty
compound, unless this stands at the front of the first alternative. -/
def Anchors (first : Bool) (chain : Chain) : Prop :=
  chain.last.isEmpty = false ∨ chain.joint? = none ∧ first = true

/-- What anchors a descendant combinator may be followed by any. -/
theorem Anchors.continues {first : Bool} {chain : Chain} (anchors : chain.Anchors first) :
    chain.Continues := by
  intro joined
  rcases anchors with full | ⟨alone, -⟩
  · exact full
  · rw [alone] at joined
    cases joined

theorem length_compounds (chain : Chain) :
    chain.compounds.length = chain.combinators.length + 1 := by
  induction chain with
  | single compound => rfl
  | link before combinator last ih => simp [compounds, combinators, ih]

/-- A chain is given by its combinators and its compounds. -/
theorem eq_of_parts {first second : Chain} (combinators : first.combinators = second.combinators)
    (compounds : first.compounds = second.compounds) : first = second := by
  induction first generalizing second with
  | single compound =>
      cases second with
      | single other => rw [List.singleton_inj.mp compounds]
      | link before combinator last => exact absurd combinators.symm (by simp [Chain.combinators])
  | link before combinator last ih =>
      cases second with
      | single compound => exact absurd combinators (by simp [Chain.combinators])
      | link other joint final =>
          obtain ⟨combinatorsBefore, sameCombinator⟩ := List.append_inj' combinators rfl
          obtain ⟨compoundsBefore, sameCompound⟩ := List.append_inj' compounds rfl
          rw [ih combinatorsBefore compoundsBefore, List.singleton_inj.mp sameCombinator,
            List.singleton_inj.mp sameCompound]

/-- The last compound stands behind all combinators. -/
theorem getElem?_compounds_last (chain : Chain) :
    chain.compounds[chain.combinators.length]? = some chain.last := by
  cases chain with
  | single compound => rfl
  | link before combinator last =>
      have whole := before.length_compounds
      simp [compounds, combinators, Chain.last, ← whole]

theorem combinators_length_eq_zero_iff {chain : Chain} :
    chain.combinators.length = 0 ↔ chain.joint? = none := by
  cases chain <;> simp [combinators, joint?]

/-- The last combinator stands at the end of the combinators. -/
theorem joint?_eq_of_getElem? {chain : Chain} {index : Nat} {combinator : Combinator}
    (found : chain.combinators[index]? = some combinator)
    (final : index + 1 = chain.combinators.length) : chain.joint? = some combinator := by
  cases chain with
  | single compound => cases found
  | link before joint last =>
      obtain rfl : index = before.combinators.length := by simpa [combinators] using final
      simpa [combinators, joint?] using found

theorem exists_getElem?_of_joint?_eq {chain : Chain} {combinator : Combinator}
    (joined : chain.joint? = some combinator) :
    ∃ index, index + 1 = chain.combinators.length ∧
      chain.combinators[index]? = some combinator := by
  cases chain with
  | single compound => cases joined
  | link before joint last =>
      cases joined
      exact ⟨before.combinators.length, by simp [combinators], by simp [combinators]⟩

theorem wellSpaced_single (first : Bool) (compound : Compound) :
    (single compound).WellSpaced first :=
  ⟨nofun, nofun⟩

section Link

variable {first : Bool} {before : Chain} {combinator : Combinator} {last : Compound}

theorem getElem?_combinators_link {index : Nat} {found : Combinator} :
    (link before combinator last).combinators[index]? = some found ↔
      before.combinators[index]? = some found ∨
        index = before.combinators.length ∧ combinator = found :=
  getElem?_concat_eq_some_iff

theorem getElem?_compounds_link {index : Nat} {found : Compound} :
    (link before combinator last).compounds[index]? = some found ↔
      before.compounds[index]? = some found ∨
        index = before.combinators.length + 1 ∧ last = found := by
  rw [← length_compounds]
  exact getElem?_concat_eq_some_iff

theorem WellSpaced.of_link (spaced : (link before combinator last).WellSpaced first) :
    before.WellSpaced first where
  before index compound joined placed :=
    spaced.before index compound (getElem?_combinators_link.mpr (.inl joined))
      (getElem?_compounds_link.mpr (.inl placed))
  behind index compound joined placed := by
    obtain ⟨inside, -⟩ := List.getElem?_eq_some_iff.mp joined
    have full := spaced.behind index compound (getElem?_combinators_link.mpr (.inl joined))
      (getElem?_compounds_link.mpr (.inl placed))
    -- This is not the last combinator of the longer chain.
    simp only [combinators, List.length_append, List.length_singleton] at full
    exact full.imp_right (by omega)

/-- Where a combinator follows, the chain before it continues. -/
theorem WellSpaced.continues (spaced : (link before combinator last).WellSpaced first) :
    before.Continues := by
  intro joined
  obtain ⟨index, final, found⟩ := exists_getElem?_of_joint?_eq joined
  have placed := before.getElem?_compounds_last
  rw [← final] at placed
  have full := spaced.behind index before.last (getElem?_combinators_link.mpr (.inl found))
    (getElem?_compounds_link.mpr (.inl placed))
  simp only [combinators, List.length_append, List.length_singleton] at full
  exact full.resolve_right (by omega)

/-- Where a descendant combinator follows, the chain before it anchors it. -/
theorem WellSpaced.anchors (spaced : (link before .descendant last).WellSpaced first) :
    before.Anchors first := by
  have full := spaced.before before.combinators.length before.last
    (getElem?_combinators_link.mpr (.inr ⟨rfl, rfl⟩))
    (getElem?_compounds_link.mpr (.inl before.getElem?_compounds_last))
  exact full.imp_right fun ⟨alone, isFirst⟩ =>
    ⟨combinators_length_eq_zero_iff.mp alone, isFirst⟩

theorem WellSpaced.link (spaced : before.WellSpaced first) (continues : before.Continues)
    (anchors : combinator = .descendant → before.Anchors first) :
    (link before combinator last).WellSpaced first where
  before index compound joined placed := by
    rcases getElem?_combinators_link.mp joined with joined | ⟨rfl, isDescendant⟩
    · obtain ⟨inside, -⟩ := List.getElem?_eq_some_iff.mp joined
      rcases getElem?_compounds_link.mp placed with placed | ⟨final, -⟩
      · exact spaced.before index compound joined placed
      · omega
    · rcases getElem?_compounds_link.mp placed with placed | ⟨final, -⟩
      · rw [before.getElem?_compounds_last] at placed
        cases placed
        exact (anchors isDescendant).imp_right fun ⟨alone, isFirst⟩ =>
          ⟨combinators_length_eq_zero_iff.mpr alone, isFirst⟩
      · omega
  behind index compound joined placed := by
    rcases getElem?_combinators_link.mp joined with joined | ⟨rfl, -⟩
    · obtain ⟨inside, -⟩ := List.getElem?_eq_some_iff.mp joined
      rcases getElem?_compounds_link.mp placed with placed | ⟨final, -⟩
      · refine .inl ?_
        rcases spaced.behind index compound joined placed with full | final
        · exact full
        · rw [final, before.getElem?_compounds_last] at placed
          cases placed
          exact continues (joint?_eq_of_getElem? joined final)
      · omega
    · exact .inr (by simp [combinators])

/-- **Chains are well spaced link by link.** -/
theorem wellSpaced_link_iff :
    (link before combinator last).WellSpaced first ↔
      before.WellSpaced first ∧ before.Continues ∧
        (combinator = .descendant → before.Anchors first) := by
  constructor
  · intro spaced
    refine ⟨spaced.of_link, spaced.continues, ?_⟩
    rintro rfl
    exact spaced.anchors
  · rintro ⟨spaced, continues, anchors⟩
    exact spaced.link continues anchors

/-- **Chains are well formed link by link.** -/
theorem wellFormed_link_iff :
    (link before combinator last).WellFormed first ↔
      before.WellFormed first ∧ last.WellFormed ∧ before.Continues ∧
        (combinator = .descendant → before.Anchors first) := by
  constructor
  · rintro ⟨compounds, spaced⟩
    obtain ⟨spaced, follows⟩ := wellSpaced_link_iff.mp spaced
    exact ⟨⟨fun compound member => compounds compound (List.mem_append_left _ member), spaced⟩,
      compounds last (List.mem_append_right _ List.mem_cons_self), follows⟩
  · rintro ⟨⟨compounds, spaced⟩, lastWellFormed, follows⟩
    refine ⟨fun compound member => ?_, wellSpaced_link_iff.mpr ⟨spaced, follows⟩⟩
    rcases List.mem_append.mp member with member | member
    · exact compounds compound member
    · obtain rfl := List.mem_singleton.mp member
      exact lastWellFormed

end Link

theorem wellFormed_single_iff {first : Bool} {compound : Compound} :
    (single compound).WellFormed first ↔ compound.WellFormed := by
  constructor
  · rintro ⟨compounds, -⟩
    exact compounds compound List.mem_cons_self
  · intro wellFormed
    refine ⟨fun other member => ?_, wellSpaced_single first compound⟩
    obtain rfl := List.mem_singleton.mp member
    exact wellFormed

end Chain

end TreeSelector
