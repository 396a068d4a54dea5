import TreeSelector.Proofs.Query.Axes

/-!
# Queries stay below the nodes that they start from

A combinator may lead to a sibling, and so sideways. But siblings have their parent in
common, so below a node the siblings of a node are below as well
(`WellLinked.descends_of_siblings`). Whatever combinators a chain has, each of its steps
stays below the nodes that the query starts from
(`WellLinked.descends_of_mem_evaluate`). So a query never comes back to the node that it
starts from, nor to a sibling of this (`Grown.descends_of_mem_select`).
-/

set_option autoImplicit false

namespace TreeSelector

namespace Document

variable {document : Document}

namespace Descends

variable {upper middle lower : NodeId}

/-- Below an element that lies below a node. -/
theorem trans (above : document.Descends upper middle) (element : document.isElement middle = true)
    (below : document.Descends middle lower) : document.Descends upper lower := by
  induction above with
  | child listed => exact .through listed element below
  | through listed between _ ih => exact .through listed between (ih element below)

/-- The parent of a node below is the upper node, or an element below it. -/
theorem exists_parent (descends : document.Descends upper lower) :
    ∃ parent, lower ∈ document.children parent ∧
      (parent = upper ∨ document.isElement parent = true ∧ document.Descends upper parent) := by
  induction descends with
  | @child upper _ listed => exact ⟨upper, listed, .inl rfl⟩
  | @through _ between _ listed element _ ih =>
      obtain ⟨parent, listedLower, rfl | ⟨elementParent, below⟩⟩ := ih
      · exact ⟨parent, listedLower, .inr ⟨element, .child listed⟩⟩
      · exact ⟨parent, listedLower, .inr ⟨elementParent, .through listed element below⟩⟩

end Descends

namespace WellLinked

variable (linked : document.WellLinked)
include linked

/-! ## Sideways -/

/-- **The siblings of a node below lie below as well.** -/
theorem descends_of_siblings {upper parent first second : NodeId}
    (listed : first ∈ document.children parent) (listed' : second ∈ document.children parent)
    (descends : document.Descends upper first) : document.Descends upper second := by
  obtain ⟨other, listedOther, above⟩ := descends.exists_parent
  obtain rfl : other = parent := linked.parent_unique listedOther listed
  rcases above with rfl | ⟨element, below⟩
  · exact .child listed'
  · exact below.trans element (.child listed')

/-- No node lies below a sibling. -/
theorem not_descends_of_siblings {parent first second : NodeId}
    (listed : first ∈ document.children parent) (listed' : second ∈ document.children parent) :
    ¬ document.Descends first second := by
  intro descends
  obtain ⟨passed, upwards⟩ := linked.exists_ancestors_eq descends
  rw [linked.ancestors_eq_cons listed, linked.ancestors_eq_cons listed'] at upwards
  have lengths := congrArg List.length upwards
  simp only [List.length_append, List.length_cons] at lengths
  omega

/-! ## Along a chain -/

/-- A combinator leads from an element below a node to nodes below it. -/
theorem descends_of_joins {combinator : Combinator} {upper first second : NodeId}
    (descends : document.Descends upper first) (element : document.isElement first = true)
    (joins : combinator.Joins document first second) : document.Descends upper second := by
  have sideways {between : List NodeId} (follows : document.Follows first between second) :
      document.Descends upper second := by
    obtain ⟨parent, before, behind, siblings⟩ := follows
    have listed : first ∈ document.children parent := by simp [siblings]
    have listed' : second ∈ document.children parent := by simp [siblings]
    exact linked.descends_of_siblings listed listed' descends
  cases combinator with
  | descendant => exact descends.trans element joins
  | child => exact descends.trans element (.child joins)
  | adjacentSibling =>
      obtain ⟨-, between, follows, -⟩ := joins
      exact sideways follows
  | generalSibling =>
      obtain ⟨-, between, follows⟩ := joins
      exact sideways follows

/-- **A chain leads to elements below the starting nodes.** -/
theorem descends_of_mem_evaluate {starts : List NodeId} {chain : Chain} {id : NodeId}
    (listed : id ∈ document.evaluate starts chain) :
    document.isElement id = true ∧ ∃ start ∈ starts, document.Descends start id := by
  induction chain generalizing id with
  | single compound =>
      obtain ⟨start, member, found⟩ := List.mem_flatMap.mp listed
      obtain ⟨descends, holds⟩ := linked.mem_find_iff.mp found
      exact ⟨Compound.isElement_of_holdsAt holds, start, member, descends⟩
  | link before combinator last ih =>
      obtain ⟨passed, member, found⟩ := List.mem_flatMap.mp listed
      obtain ⟨element, start, there, descends⟩ := ih member
      obtain ⟨joins, holds⟩ := linked.mem_apply_axis_iff.mp found
      exact ⟨Compound.isElement_of_holdsAt holds, start, there,
        linked.descends_of_joins descends element joins⟩

end WellLinked

/-- **In a grown document a query stays below the nodes that it starts from.** What it lists
is an element that lies below one of them, with elements alone between the two. So from a
single node it leads neither to this node nor to a sibling of it. -/
theorem Grown.descends_of_mem_select (grown : document.Grown) :
    (∀ starts selector id, id ∈ document.select starts selector →
      document.isElement id = true ∧ ∃ start ∈ starts, document.Descends start id) ∧
    ∀ start selector, start ∉ document.select [start] selector ∧
      ∀ parent sibling, start ∈ document.children parent → sibling ∈ document.children parent →
        sibling ∉ document.select [start] selector := by
  have linked := grown.wellLinked
  have below (starts : List NodeId) (selector : Selector) (id : NodeId)
      (listed : id ∈ document.select starts selector) :
      document.isElement id = true ∧ ∃ start ∈ starts, document.Descends start id := by
    obtain ⟨chain, -, found⟩ := List.mem_flatMap.mp listed
    exact linked.descends_of_mem_evaluate found
  have belowStart {start id : NodeId} {selector : Selector}
      (listed : id ∈ document.select [start] selector) : document.Descends start id := by
    obtain ⟨-, other, member, descends⟩ := below _ _ _ listed
    rwa [List.mem_singleton.mp member] at descends
  refine ⟨below, fun start selector => ⟨fun listed => ?_, ?_⟩⟩
  · exact linked.not_descends_self start (belowStart listed)
  · intro parent sibling listed listed' found
    exact linked.not_descends_of_siblings listed listed' (belowStart found)

/-- An element has two children and a sibling behind it. From the element, sideways steps
lead to its second child, and not to its sibling. -/
theorem Grown.descends_of_mem_select_of_sibling_steps :
    ∃ document : Document, ∃ selector : Selector, document.Grown ∧
      document.children root = [⟨1⟩, ⟨4⟩] ∧
      document.select [⟨1⟩] selector = [⟨3⟩, ⟨3⟩] ∧ document.Descends ⟨1⟩ ⟨3⟩ ∧
      ⟨1⟩ ∉ document.select [⟨1⟩] selector ∧ ⟨4⟩ ∉ document.select [⟨1⟩] selector := by
  have outer := @Grown.append _ .new root (by decide) (.element ⟨"a", []⟩)
  have first := @Grown.append _ outer ⟨1⟩ (by decide) (.element ⟨"b", []⟩)
  have second := @Grown.append _ first ⟨1⟩ (by decide) (.element ⟨"b", []⟩)
  have grown := @Grown.append _ second root (by decide) (.element ⟨"a", []⟩)
  let selector : Selector :=
    ⟨[.link (.single ⟨[]⟩) .adjacentSibling ⟨[]⟩, .link (.single ⟨[]⟩) .generalSibling ⟨[]⟩]⟩
  obtain ⟨below, apart⟩ := grown.descends_of_mem_select
  obtain ⟨-, start, member, descends⟩ := below [⟨1⟩] selector ⟨3⟩ List.mem_cons_self
  rw [List.mem_singleton.mp member] at descends
  obtain ⟨notStart, notSibling⟩ := apart ⟨1⟩ selector
  have skipped := notSibling root ⟨4⟩ List.mem_cons_self
    (List.mem_cons_of_mem _ List.mem_cons_self)
  exact ⟨_, selector, grown, rfl, rfl, descends, notStart, skipped⟩

end Document

end TreeSelector
