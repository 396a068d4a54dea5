import TreeSelector.Proofs.Document.Walks
import TreeSelector.Proofs.Query.Contribution
import TreeSelector.Proofs.Query.Steps

/-!
# What the axis `not` leaves out

A node satisfies a selector when it satisfies one of the alternatives (`Selector.HoldsAt`). The
axis `not` is walked for every alternative by itself, and what it lists is put together. So it
lists the element children that fail some alternative, and leaves out those that satisfy all of
them (`Document.Grown.mem_related_not_iff`).

With a single alternative these are the element children that do not satisfy the selector. With
more they need not be. An element child that satisfies one alternative and fails another one is
listed although it satisfies the selector (`Selection.exists_holdsAt_and_mem_not`).
-/

set_option autoImplicit false

namespace TreeSelector

/-- The node satisfies one of the alternatives. A chain with a combinator is no condition on a
single node. -/
def Selector.HoldsAt (document : Document) (id : NodeId) (selector : Selector) : Prop :=
  ∃ compound, .single compound ∈ selector.alternatives ∧ compound.holdsAt document id = true

/-- To fail some alternative is not to satisfy the selector, exactly where all alternatives
agree. -/
theorem Selector.exists_fails_iff_iff {document : Document} {id : NodeId} {selector : Selector}
    (plain : ∃ compound, Chain.single compound ∈ selector.alternatives) :
    ((∃ compound, .single compound ∈ selector.alternatives ∧
        compound.holdsAt document id = false) ↔ ¬ selector.HoldsAt document id) ↔
      ∀ first second, .single first ∈ selector.alternatives →
        .single second ∈ selector.alternatives →
          first.holdsAt document id = second.holdsAt document id := by
  constructor
  · intro exact
    have apart {first second : Compound} (isFirst : .single first ∈ selector.alternatives)
        (isSecond : .single second ∈ selector.alternatives)
        (holds : first.holdsAt document id = true) : second.holdsAt document id = true := by
      by_contra fails
      exact exact.mp ⟨second, isSecond, Bool.eq_false_iff.mpr fails⟩ ⟨first, isFirst, holds⟩
    intro first second isFirst isSecond
    exact Bool.eq_iff_iff.mpr ⟨apart isFirst isSecond, apart isSecond isFirst⟩
  · intro agree
    constructor
    · rintro ⟨first, isFirst, fails⟩ ⟨second, isSecond, holds⟩
      rw [agree first second isFirst isSecond, holds] at fails
      cases fails
    · intro fails
      obtain ⟨compound, alternative⟩ := plain
      refine ⟨compound, alternative, Bool.eq_false_iff.mpr fun holds => ?_⟩
      exact fails ⟨compound, alternative, holds⟩

namespace Document

variable {document : Document} {starts : List NodeId} {selector : Selector}

/-- An axis other than `find` is walked under every alternative that is a plain condition. -/
theorem mem_related_iff {axis : Axis} (other : axis ≠ .find) {id : NodeId} :
    id ∈ document.related starts selector axis ↔
      ∃ compound, .single compound ∈ selector.alternatives ∧
        ∃ start ∈ starts, id ∈ axis.apply document start compound := by
  rw [related_eq_flatMap, List.mem_flatMap]
  constructor
  · rintro ⟨chain, listed, found⟩
    cases chain with
    | single compound =>
        rw [contribution_single] at found
        exact ⟨compound, listed, List.mem_flatMap.mp found⟩
    | link before combinator last =>
        rw [contribution_link other] at found
        cases found
  · rintro ⟨compound, listed, found⟩
    refine ⟨.single compound, listed, ?_⟩
    rw [contribution_single]
    exact List.mem_flatMap.mpr found

theorem WellLinked.mem_not_iff (linked : document.WellLinked) {start id : NodeId}
    {compound : Compound} :
    id ∈ document.not start compound ↔ id ∈ document.children start ∧
      document.isElement id = true ∧ compound.holdsAt document id = false := by
  rw [linked.not_eq, List.mem_filter, Bool.and_eq_true, Bool.not_eq_true']

/-- **The axis `not` lists the element children that fail some alternative.** This leaves out
those that satisfy the selector exactly where all alternatives agree. -/
theorem Grown.mem_related_not_iff (grown : document.Grown) (starts : List NodeId)
    (selector : Selector) (id : NodeId) :
    (id ∈ document.related starts selector .not ↔
      (document.isElement id = true ∧ ∃ start ∈ starts, id ∈ document.children start) ∧
      ∃ compound, .single compound ∈ selector.alternatives ∧
        compound.holdsAt document id = false) ∧
    (document.isElement id = true → (∃ start ∈ starts, id ∈ document.children start) →
      (∃ compound, .single compound ∈ selector.alternatives) →
      ((id ∈ document.related starts selector .not ↔ ¬ selector.HoldsAt document id) ↔
        ∀ first second, .single first ∈ selector.alternatives →
          .single second ∈ selector.alternatives →
            first.holdsAt document id = second.holdsAt document id)) := by
  have linked := grown.wellLinked
  have listed : id ∈ document.related starts selector .not ↔
      (document.isElement id = true ∧ ∃ start ∈ starts, id ∈ document.children start) ∧
      ∃ compound, .single compound ∈ selector.alternatives ∧
        compound.holdsAt document id = false := by
    rw [mem_related_iff (by decide)]
    constructor
    · rintro ⟨compound, alternative, start, member, found⟩
      obtain ⟨child, element, fails⟩ := linked.mem_not_iff.mp found
      exact ⟨⟨element, start, member, child⟩, compound, alternative, fails⟩
    · rintro ⟨⟨element, start, member, child⟩, compound, alternative, fails⟩
      exact ⟨compound, alternative, start, member, linked.mem_not_iff.mpr ⟨child, element, fails⟩⟩
  refine ⟨listed, fun element child plain => ?_⟩
  rw [listed, and_iff_right ⟨element, child⟩]
  exact Selector.exists_fails_iff_iff plain

/-- Of three children the axis `not` lists those that fail `a`, and then those that fail `b`.
The text is not listed, and the alternatives agree on the third element alone. -/
theorem Grown.mem_related_not_iff_of_two_alternatives :
    ∃ document : Document, ∃ selector : Selector, document.Grown ∧
      selector.alternatives = [.single ⟨[.tag "a"]⟩, .single ⟨[.tag "b"]⟩] ∧
      document.related [root] selector .not = [⟨2⟩, ⟨4⟩, ⟨1⟩, ⟨4⟩] ∧
      ⟨1⟩ ∈ document.related [root] selector .not ∧
      ⟨3⟩ ∉ document.related [root] selector .not ∧
      (⟨4⟩ ∈ document.related [root] selector .not ↔ ¬ selector.HoldsAt document ⟨4⟩) := by
  have first := @Grown.append _ .new root (by decide) (.element ⟨"a", []⟩)
  have second := @Grown.append _ first root (by decide) (.element ⟨"b", []⟩)
  have third := @Grown.append _ second root (by decide) (.text "c")
  have grown := @Grown.append _ third root (by decide) (.element ⟨"c", []⟩)
  let selector : Selector := ⟨[.single ⟨[.tag "a"]⟩, .single ⟨[.tag "b"]⟩]⟩
  obtain ⟨listed, -⟩ := grown.mem_related_not_iff [root] selector ⟨1⟩
  obtain ⟨text, -⟩ := grown.mem_related_not_iff [root] selector ⟨3⟩
  obtain ⟨-, agreed⟩ := grown.mem_related_not_iff [root] selector ⟨4⟩
  refine ⟨_, selector, grown, rfl, by decide, ?_, ?_, ?_⟩
  · exact listed.mpr ⟨⟨rfl, root, by simp, List.mem_cons_self⟩, ⟨[.tag "b"]⟩, by simp [selector], rfl⟩
  · intro member
    obtain ⟨⟨element, -⟩, -⟩ := text.mp member
    cases element
  · refine (agreed rfl ⟨root, by simp, by decide⟩ ⟨_, List.mem_cons_self⟩).mpr ?_
    intro first second isFirst isSecond
    simp only [selector, List.mem_cons, Chain.single.injEq, List.not_mem_nil, or_false]
      at isFirst isSecond
    rcases isFirst with rfl | rfl <;> rcases isSecond with rfl | rfl <;> rfl

end Document

/-- An element satisfies one of two alternatives and fails the other. The step `not` under both
leads to it. -/
theorem Selection.exists_holdsAt_and_mem_not :
    ∃ document : Document, ∃ selector : Selector, document.Grown ∧
      parse "a, b" = .ok selector ∧ selector.alternatives ≠ [] ∧
      (∀ chain ∈ selector.alternatives, ∃ compound, chain = .single compound) ∧
      selector.HoldsAt document ⟨1⟩ ∧
      ⟨1⟩ ∈ document.related [Document.root] selector .not ∧
      (ofDocument document).not "a, b" = pure ⟨document, [⟨1⟩]⟩ := by
  have grown := @Document.Grown.append _ .new Document.root (by decide) (.element ⟨"a", []⟩)
  have read : parse "a, b" = .ok ⟨[.single ⟨[.tag "a"]⟩, .single ⟨[.tag "b"]⟩]⟩ := by
    decide +kernel
  refine ⟨_, _, grown, read, by simp, by simp, ?_, by decide, ?_⟩
  · exact ⟨⟨[.tag "a"]⟩, List.mem_cons_self, rfl⟩
  · rw [not, step_of_parse read rfl]
    rfl

end TreeSelector
