import TreeSelector.Proofs.Query.Containment

/-!
# Axes that lead back

The axes come in pairs, one that leads away from a node and one that leads back to it: `child`
and `parent`, `next` and `prev`, `nextAll` and `prevAll`. Between elements and with no
condition the one leads from a first node to a second exactly when the other leads from the
second to the first (`Document.Grown.axes_lead_back`). Each pair walks different links. What
makes them agree is that both are read off one relation of the two nodes, which is that of a
combinator (`Document.WellLinked.mem_prev_iff`, `Document.WellLinked.mem_prevAll_iff`).

The axes `find` and `parents` are no such pair. The walk upwards climbs past any node and the
descent enters elements only, so `find` leads to a node from those above it that have elements
alone between (`Document.WellLinked.descends_iff_elements_between`).
-/

set_option autoImplicit false

namespace TreeSelector

namespace Document

variable {document : Document}

namespace WellLinked

variable (linked : document.WellLinked)
include linked

/-! ## Backwards -/

/-- A later sibling has the node before it on the walk back along the siblings. -/
theorem follows_iff_preceding {first second : NodeId} {between : List NodeId} :
    document.Follows first between second ↔
      ∃ before, document.preceding second = between.reverse ++ first :: before := by
  constructor
  · rintro ⟨parent, before, behind, siblings⟩
    have split : document.children parent =
        (before ++ first :: between) ++ second :: behind := by simpa using siblings
    exact ⟨before.reverse, by simp [linked.preceding_eq split]⟩
  · rintro ⟨before, walk⟩
    rcases linked.free_or_exists_siblings second with free | ⟨parent, earlier, behind, siblings⟩
    · rw [(linked.siblings_eq_nil free).2] at walk
      simp at walk
    · rw [linked.preceding_eq siblings, List.reverse_eq_iff] at walk
      exact ⟨parent, before.reverse, behind, by simp [siblings, walk]⟩

theorem mem_prev_iff {first second : NodeId} {compound : Compound} :
    first ∈ document.prev second compound ↔
      (∃ between, document.Follows first between second ∧
        ∀ id ∈ between, document.isElement id = false) ∧
        compound.holdsAt document first = true := by
  rw [prev, nearest, List.mem_filter, Option.mem_toList, List.find?_eq_some_iff_append]
  refine and_congr_left fun holds => ?_
  constructor
  · rintro ⟨-, between, before, walk, skipped⟩
    refine ⟨between.reverse, linked.follows_iff_preceding.mpr ⟨before, by simpa using walk⟩, ?_⟩
    simpa using skipped
  · rintro ⟨between, follows, skipped⟩
    obtain ⟨before, walk⟩ := linked.follows_iff_preceding.mp follows
    exact ⟨Compound.isElement_of_holdsAt holds, between.reverse, before, walk,
      by simpa using skipped⟩

theorem mem_prevAll_iff {first second : NodeId} {compound : Compound} :
    first ∈ document.prevAll second compound ↔
      (∃ between, document.Follows first between second) ∧
        compound.holdsAt document first = true := by
  rw [prevAll, List.mem_filter]
  refine and_congr_left fun _ => ?_
  constructor
  · intro listed
    obtain ⟨between, before, walk⟩ := List.append_of_mem listed
    exact ⟨between.reverse, linked.follows_iff_preceding.mpr ⟨before, by simpa using walk⟩⟩
  · rintro ⟨between, follows⟩
    obtain ⟨before, walk⟩ := linked.follows_iff_preceding.mp follows
    simp [walk]

/-! ## Upwards -/

theorem mem_parent_iff {upper lower : NodeId} {compound : Compound} :
    upper ∈ document.parent lower compound ↔
      lower ∈ document.children upper ∧ compound.holdsAt document upper = true := by
  rw [Document.parent, List.mem_filter, Option.mem_toList, linked.mem_children_iff]

/-- The walk upwards begins with the parent and goes on from there. -/
theorem listed_of_ancestors_eq_cons {id parent : NodeId} {above : List NodeId}
    (upwards : document.ancestors id = parent :: above) :
    id ∈ document.children parent ∧ document.ancestors parent = above := by
  have trail := linked.trail_ancestors id
  rw [upwards] at trail
  cases attached : document.parent? id with
  | none =>
      rw [attached] at trail
      cases trail
  | some other =>
      rw [attached] at trail
      cases trail with
      | cons rest =>
          have listed := (linked.mem_children_iff parent id).mpr attached
          rw [linked.ancestors_eq_cons listed] at upwards
          exact ⟨listed, (List.cons.inj upwards).2⟩

/-- Where the walk upwards passes elements only before it comes to a node, this node is one that
the descent leads down from. -/
theorem descends_of_ancestors_eq {upper lower : NodeId} {between above : List NodeId}
    (upwards : document.ancestors lower = between ++ upper :: above)
    (elements : ∀ id ∈ between, document.isElement id = true) :
    document.Descends upper lower := by
  induction between generalizing lower with
  | nil => exact .child (linked.listed_of_ancestors_eq_cons upwards).1
  | cons parent between ih =>
      obtain ⟨listed, further⟩ := linked.listed_of_ancestors_eq_cons upwards
      obtain ⟨element, elements⟩ := List.forall_mem_cons.mp elements
      exact (ih further elements).trans element (.child listed)

/-- **The descent turned round**: a node lies below those on its walk upwards before which the
walk passes elements only. -/
theorem descends_iff_elements_between {upper lower : NodeId} :
    document.Descends upper lower ↔ upper ∈ document.ancestors lower ∧
      ∀ between above, document.ancestors lower = between ++ upper :: above →
        ∀ id ∈ between, document.isElement id = true := by
  constructor
  · intro descends
    obtain ⟨passed, upwards, elements⟩ := linked.exists_elements_between descends
    refine ⟨by simp [upwards], fun between above split => ?_⟩
    -- The walk upwards comes to the upper node once, so there is one way to split it there.
    have once : upper ∉ passed ∧ upper ∉ document.ancestors upper := by
      have nodup := (List.nodup_cons.mp (linked.nodup_cons_ancestors lower)).2
      rw [upwards, List.nodup_middle, List.nodup_cons, List.mem_append] at nodup
      exact not_or.mp nodup.1
    have same := (List.append_cons_inj_of_notMem once.1 once.2).mp (upwards.symm.trans split)
    rw [← same.1]
    exact elements
  · rintro ⟨member, elements⟩
    obtain ⟨between, above, upwards⟩ := List.append_of_mem member
    exact linked.descends_of_ancestors_eq upwards (elements between above upwards)

end WellLinked

/-- **Axes that lead back.** Between two elements of a grown document, `parent` leads back where
`child` leads, `prev` where `next` does, and `prevAll` where `nextAll` does. The axis `parents`
leads back where `find` leads, and elsewhere only past a node that is no element. -/
theorem Grown.axes_lead_back (grown : document.Grown) {first second : NodeId}
    (element : document.isElement first = true) (element' : document.isElement second = true) :
    (second ∈ document.child first .empty ↔ first ∈ document.parent second .empty) ∧
    (second ∈ document.next first .empty ↔ first ∈ document.prev second .empty) ∧
    (second ∈ document.nextAll first .empty ↔ first ∈ document.prevAll second .empty) ∧
    (second ∈ document.find first .empty ↔
      first ∈ document.parents second .empty ∧
      ∀ between above, document.ancestors second = between ++ first :: above →
        ∀ id ∈ between, document.isElement id = true) := by
  have linked := grown.wellLinked
  refine ⟨?_, ?_, ?_, ?_⟩
  · rw [linked.child_eq, List.mem_filter, linked.mem_parent_iff]
    simp [element, element']
  · rw [linked.mem_next_iff, linked.mem_prev_iff]
    simp [Combinator.Joins, element, element']
  · rw [linked.mem_nextAll_iff, linked.mem_prevAll_iff]
    simp [Combinator.Joins, element, element']
  · rw [linked.mem_find_iff, linked.descends_iff_elements_between, parents, List.mem_filter]
    simp [element, element']

/-- Of two elements below an element the second lies inside a comment. The walk upwards from it
comes to the outer element, and the descent from there does not come back. -/
theorem Grown.axes_lead_back_of_comment :
    ∃ document : Document, document.Grown ∧ document.isElement ⟨1⟩ = true ∧
      document.isElement ⟨2⟩ = true ∧ document.isElement ⟨4⟩ = true ∧
      ⟨1⟩ ∈ document.parent ⟨2⟩ .empty ∧ ⟨1⟩ ∈ document.parents ⟨2⟩ .empty ∧
      ⟨1⟩ ∈ document.parents ⟨4⟩ .empty ∧ ⟨4⟩ ∉ document.find ⟨1⟩ .empty := by
  have outer := @Grown.append _ .new root (by decide) (.element ⟨"a", []⟩)
  have inner := @Grown.append _ outer ⟨1⟩ (by decide) (.element ⟨"b", []⟩)
  have comment := @Grown.append _ inner ⟨1⟩ (by decide) (.comment "c")
  have grown := @Grown.append _ comment ⟨3⟩ (by decide) (.element ⟨"b", []⟩)
  obtain ⟨child, -, -, find⟩ := @Grown.axes_lead_back _ grown ⟨1⟩ ⟨2⟩ rfl rfl
  obtain ⟨-, -, -, apart⟩ := @Grown.axes_lead_back _ grown ⟨1⟩ ⟨4⟩ rfl rfl
  have back := child.mp List.mem_cons_self
  obtain ⟨above, -⟩ := find.mp List.mem_cons_self
  refine ⟨_, grown, rfl, rfl, rfl, back, above, List.mem_cons_self, fun found => ?_⟩
  have element := (apart.mp found).2 [⟨3⟩] [root] rfl ⟨3⟩ (List.mem_singleton_self _)
  cases element

end Document

end TreeSelector
