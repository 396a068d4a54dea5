import TreeSelector.Query

/-!
# What one alternative contributes to a query

A query puts together what its alternatives contribute, one behind the other
(`Document.related_eq_flatMap`). On the axis `find` an alternative contributes what its chain
leads to. On any other axis a compound by itself contributes what the axis lists under it, and a
chain with a combinator contributes nothing. Either way each node has been listed by an axis, in
one last walk (`Document.exists_walk_of_mem_related`).
-/

set_option autoImplicit false

namespace TreeSelector

namespace Document

variable {document : Document} {starts : List NodeId}

/-- What one alternative contributes to a query along an axis. -/
def contribution (document : Document) (starts : List NodeId) (axis : Axis) :
    Chain → List NodeId :=
  match axis with
  | .find => document.evaluate starts
  | axis => document.relatedBy starts axis

@[simp]
theorem contribution_single (axis : Axis) (compound : Compound) :
    document.contribution starts axis (.single compound) =
      document.applyEach axis starts compound := by
  cases axis <;> rfl

theorem contribution_link {axis : Axis} (other : axis ≠ .find) (before : Chain)
    (combinator : Combinator) (last : Compound) :
    document.contribution starts axis (.link before combinator last) = [] := by
  cases axis with
  | find => exact absurd rfl other
  | child | not | next | nextAll | prev | prevAll | parent | parents => rfl

/-- **A query puts together what its alternatives contribute.** -/
theorem related_eq_flatMap (starts : List NodeId) (selector : Selector) (axis : Axis) :
    document.related starts selector axis =
      selector.alternatives.flatMap (document.contribution starts axis) := by
  cases axis <;> rfl

/-- A query lists what its last walk along an axis has listed. -/
theorem exists_walk_of_mem_related {selector : Selector} {axis : Axis} {id : NodeId}
    (listed : id ∈ document.related starts selector axis) :
    ∃ walked start compound, id ∈ Axis.apply walked document start compound := by
  have walks {axis : Axis} {starts : List NodeId} {compound : Compound}
      (found : id ∈ document.applyEach axis starts compound) :
      ∃ walked start compound, id ∈ Axis.apply walked document start compound := by
    obtain ⟨start, -, found⟩ := List.mem_flatMap.mp found
    exact ⟨axis, start, compound, found⟩
  rw [related_eq_flatMap] at listed
  obtain ⟨chain, -, contributed⟩ := List.mem_flatMap.mp listed
  cases chain with
  | single compound =>
      rw [contribution_single] at contributed
      exact walks contributed
  | link before combinator last =>
      by_cases find : axis = .find
      · subst find
        exact walks contributed
      · rw [contribution_link find] at contributed
        cases contributed

/-- What a query lists does not depend on the warnings given before. -/
theorem run_relative (starts : List NodeId) (selector : Selector) (axis : Axis)
    (log : WarningLog) :
    (document.relative starts selector axis).run log =
      (document.related starts selector axis, log.warnAll (selector.warnings axis)) :=
  rfl

end Document

/-- The warnings of a query are put together alternative by alternative as well. -/
theorem Selector.warnings_eq_flatMap {axis : Axis} (other : axis ≠ .find) (selector : Selector) :
    selector.warnings axis = selector.alternatives.flatMap (Chain.warningOn axis) := by
  cases axis with
  | find => exact absurd rfl other
  | child | not | next | nextAll | prev | prevAll | parent | parents => rfl

end TreeSelector
