import TreeSelector.Proofs.Document.Linked
import TreeSelector.Proofs.Query.Contribution
import Mathlib.Data.List.Perm.Basic

/-!
# Queries are additive

A query visits each starting node by itself and takes each alternative by itself. So what it
lists for two lists of starting nodes, or for two lists of alternatives, is what it lists for
the one and for the other (`Document.queries_additive`).

The alternatives are the outer loop and the starting nodes the inner one. Therefore the results
for more alternatives come one behind the other. So do the results of one chain for more
starting nodes (`Document.evaluate_append`), since each link of the chain takes the nodes in the
order in which the link before has left them. Under several alternatives the two lists of
starting nodes take turns instead. Each node is listed as often as before, but in another order
(`Document.related_append_perm`).

Nothing is assumed of the document. The argument is about the loops over nodes and alternatives,
wherever the walks from a single node may lead.
-/

set_option autoImplicit false

namespace TreeSelector

namespace Document

variable {document : Document} {first second : List NodeId}

/-! ## One alternative -/

theorem applyEach_append (axis : Axis) (compound : Compound) :
    document.applyEach axis (first ++ second) compound =
      document.applyEach axis first compound ++ document.applyEach axis second compound :=
  List.flatMap_append

/-- **A chain keeps two lists of starting nodes apart**, from one link to the next. -/
theorem evaluate_append (chain : Chain) :
    document.evaluate (first ++ second) chain =
      document.evaluate first chain ++ document.evaluate second chain := by
  induction chain with
  | single compound => exact applyEach_append .find compound
  | link before combinator last ih => rw [evaluate, ih, applyEach_append, evaluate, evaluate]

/-- The starting nodes in another order lead to the same nodes as often. -/
theorem evaluate_perm (same : first.Perm second) (chain : Chain) :
    (document.evaluate first chain).Perm (document.evaluate second chain) := by
  induction chain with
  | single compound => exact same.flatMap_right _
  | link before combinator last ih => exact ih.flatMap_right _

theorem contribution_append (axis : Axis) (chain : Chain) :
    document.contribution (first ++ second) axis chain =
      document.contribution first axis chain ++ document.contribution second axis chain := by
  by_cases find : axis = .find
  · subst find
    exact evaluate_append chain
  · cases chain with
    | single compound => simp only [contribution_single, applyEach_append]
    | link before combinator last => simp only [contribution_link find, List.append_nil]

theorem contribution_perm (same : first.Perm second) (axis : Axis) (chain : Chain) :
    (document.contribution first axis chain).Perm (document.contribution second axis chain) := by
  by_cases find : axis = .find
  · subst find
    exact evaluate_perm same chain
  · cases chain with
    | single compound =>
        rw [contribution_single, contribution_single]
        exact same.flatMap_right _
    | link before combinator last => rw [contribution_link find, contribution_link find]

/-! ## All alternatives -/

theorem related_alternatives_append (starts : List NodeId) (before behind : List Chain)
    (axis : Axis) :
    document.related starts ⟨before ++ behind⟩ axis =
      document.related starts ⟨before⟩ axis ++ document.related starts ⟨behind⟩ axis := by
  simp only [related_eq_flatMap, List.flatMap_append]

/-- Two lists of starting nodes take turns, one turn for each alternative. -/
theorem related_append_perm (selector : Selector) (axis : Axis) :
    (document.related (first ++ second) selector axis).Perm
      (document.related first selector axis ++ document.related second selector axis) := by
  have turns : selector.alternatives.flatMap (document.contribution (first ++ second) axis) =
      selector.alternatives.flatMap fun chain =>
        document.contribution first axis chain ++ document.contribution second axis chain :=
    List.flatMap_congr fun chain _ => contribution_append axis chain
  rw [related_eq_flatMap, related_eq_flatMap, related_eq_flatMap, turns]
  exact (List.flatMap_append_perm selector.alternatives _ _).symm

theorem related_perm (same : first.Perm second) (selector : Selector) (axis : Axis) :
    (document.related first selector axis).Perm (document.related second selector axis) := by
  rw [related_eq_flatMap, related_eq_flatMap]
  exact List.Perm.flatMap_left _ fun chain _ => contribution_perm same axis chain

end Document

theorem Selector.warnings_append (before behind : List Chain) (axis : Axis) :
    (Selector.mk (before ++ behind)).warnings axis =
      (Selector.mk before).warnings axis ++ (Selector.mk behind).warnings axis := by
  by_cases find : axis = .find
  · subst find
    rfl
  · simp only [Selector.warnings_eq_flatMap find, List.flatMap_append]

namespace Document

/-- A query under more alternatives is one query behind the other, the warnings included. -/
theorem relative_alternatives_append (document : Document) (starts : List NodeId)
    (before behind : List Chain) (axis : Axis) :
    document.relative starts ⟨before ++ behind⟩ axis = do
      let found ← document.relative starts ⟨before⟩ axis
      let more ← document.relative starts ⟨behind⟩ axis
      return found ++ more := by
  refine StateT.ext fun log => ?_
  rw [run_relative, related_alternatives_append, Selector.warnings_append, WarningLog.warnAll,
    List.foldl_append]
  rfl

/-- **Queries are additive in what they start from and in what they ask for.** A chain, and
every selector under more alternatives, gives one result behind the other. Under several
alternatives two lists of starting nodes give their results in turns, each node as often as
before, and their order decides on nothing but the order of the results. -/
theorem queries_additive (document : Document) :
    (∀ first second chain, document.evaluate (first ++ second) chain =
      document.evaluate first chain ++ document.evaluate second chain) ∧
    (∀ starts before behind,
      document.select starts ⟨before ++ behind⟩ =
        document.select starts ⟨before⟩ ++ document.select starts ⟨behind⟩ ∧
      ∀ axis, document.relative starts ⟨before ++ behind⟩ axis = do
        let found ← document.relative starts ⟨before⟩ axis
        let more ← document.relative starts ⟨behind⟩ axis
        return found ++ more) ∧
    (∀ first second selector axis log,
      ((document.relative (first ++ second) selector axis).run log).1.Perm
        (((document.relative first selector axis).run log).1 ++
          ((document.relative second selector axis).run log).1)) ∧
    ∀ first second, first.Perm second → ∀ selector,
      (document.select first selector).Perm (document.select second selector) ∧
      ∀ axis log, ((document.relative first selector axis).run log).1.Perm
        ((document.relative second selector axis).run log).1 := by
  refine ⟨fun first second chain => evaluate_append chain, fun starts before behind => ⟨?_, ?_⟩,
    ?_, fun first second same selector => ⟨?_, ?_⟩⟩
  · exact related_alternatives_append starts before behind .find
  · exact relative_alternatives_append document starts before behind
  · intro first second selector axis log
    exact related_append_perm selector axis
  · exact related_perm same selector .find
  · intro axis log
    exact related_perm same selector axis

/-- Under two alternatives the children of two elements are listed in turns, not those of the
one element first. In the other order of the elements each child is listed as often. -/
theorem queries_additive_of_two_elements :
    ∃ document : Document, ∃ selector : Selector, document.Grown ∧
      [NodeId.mk 1, ⟨2⟩].Perm [⟨2⟩, ⟨1⟩] ∧
      document.related [⟨1⟩] selector .child = [⟨3⟩, ⟨3⟩] ∧
      document.related [⟨2⟩] selector .child = [⟨4⟩, ⟨4⟩] ∧
      document.related [⟨1⟩, ⟨2⟩] selector .child = [⟨3⟩, ⟨4⟩, ⟨3⟩, ⟨4⟩] ∧
      ((document.relative ([⟨1⟩] ++ [⟨2⟩]) selector .child).run .empty).1.Perm
        (((document.relative [⟨1⟩] selector .child).run .empty).1 ++
          ((document.relative [⟨2⟩] selector .child).run .empty).1) ∧
      ((document.relative [⟨1⟩, ⟨2⟩] selector .child).run .empty).1.Perm
        ((document.relative [⟨2⟩, ⟨1⟩] selector .child).run .empty).1 := by
  have first := @Grown.append _ .new root (by decide) (.element ⟨"a", []⟩)
  have second := @Grown.append _ first root (by decide) (.element ⟨"a", []⟩)
  have third := @Grown.append _ second ⟨1⟩ (by decide) (.element ⟨"b", []⟩)
  have grown := @Grown.append _ third ⟨2⟩ (by decide) (.element ⟨"b", []⟩)
  let selector : Selector := ⟨[.single ⟨[.tag "b"]⟩, .single .empty]⟩
  have swapped : [NodeId.mk 1, ⟨2⟩].Perm [⟨2⟩, ⟨1⟩] := .swap _ _ _
  obtain ⟨-, -, apart, reordered⟩ := queries_additive _
  obtain ⟨-, same⟩ := reordered _ _ swapped selector
  exact ⟨_, selector, grown, swapped, rfl, rfl, rfl, apart [⟨1⟩] [⟨2⟩] selector .child .empty,
    same .child .empty⟩

end Document

end TreeSelector
