import TreeSelector.Proofs.Document.Walks

/-!
# Walks along links agree with the lists of children

A node has its siblings twice, by the links that lead from each to the next one and by its
place in the list of children of its parent. In a grown document both tell the same
(`Document.Grown.link_walks_agree`). Every walk along links comes to an end, on fewer nodes
than the document has (`Document.Ends`). The walks to the next and to the previous siblings
list what stands behind and before the node among the children of its parent, so the axes
along siblings are read off the list of children.

A walk is short because the node that it starts from is not on it: together they repeat no
node, and all of them are there (`Document.WellLinked.ends_walk`).
-/

set_option autoImplicit false

namespace TreeSelector

namespace Document

variable {document : Document}

/-- The walk from a link on comes to an end. These are the nodes on it, fewer than the document
has. -/
structure Ends (document : Document) (link : Link) (start : Option NodeId) (row : List NodeId) :
    Prop where
  trail : document.Trail link start row
  short : row.length < document.size

/-! ## The first element of a row -/

/-- The first element of a row decides what is listed: the element itself, if it satisfies the
compound, and otherwise nothing. -/
structure FirstDecides (document : Document) (compound : Compound) (row listed : List NodeId) :
    Prop where
  decided : ∀ passed id behind, row = passed ++ id :: behind →
    (∀ other ∈ passed, document.isElement other = false) → document.isElement id = true →
      listed = if compound.holdsAt document id then [id] else []
  missed : (∀ id ∈ row, document.isElement id = false) → listed = []

theorem firstDecides_nearest (compound : Compound) (row : List NodeId) :
    document.FirstDecides compound row (document.nearest compound row) where
  decided passed id behind split skipped element := by
    have first : row.find? document.isElement = some id := by
      rw [List.find?_eq_some_iff_append]
      exact ⟨element, passed, behind, split, by simpa using skipped⟩
    rw [nearest, first, Option.toList_some, List.filter_cons, List.filter_nil]
  missed noElement := by
    have none : row.find? document.isElement = none := by
      rw [List.find?_eq_none]
      exact fun id member => by simp [noElement id member]
    rw [nearest, none]
    rfl

namespace WellLinked

variable (linked : document.WellLinked)
include linked

/-! ## Along siblings -/

section Siblings

variable {parent id : NodeId} {before behind : List NodeId}
  (siblings : document.children parent = before ++ id :: behind)
include siblings

theorem trail_following : document.Trail .next (document.next? id) behind := by
  have split : document.children parent = (before ++ [id]) ++ behind := by simpa using siblings
  rw [linked.next parent before id behind siblings]
  exact linked.trail_next split

theorem trail_preceding : document.Trail .previous (document.previous? id) before.reverse := by
  rw [linked.previous parent before id behind siblings]
  exact linked.trail_previous siblings

end Siblings

/-- **The walk along any link is not cut off.** -/
theorem trail_walk (link : Link) (id : NodeId) :
    document.Trail link (document.linked link id) (document.walk link id) := by
  have of_row {link : Link} {row : List NodeId} (listed : document.walk link id = row)
      (trail : document.Trail link (document.linked link id) row) :
      document.Trail link (document.linked link id) (document.walk link id) := by
    rw [listed]
    exact trail
  have unlinked {link : Link} (none : document.linked link id = none) :
      document.Trail link (document.linked link id) [] := by
    rw [none]
    exact .nil
  rcases linked.free_or_exists_siblings id with free | ⟨parent, before, behind, siblings⟩
  · obtain ⟨next, previous⟩ := linked.alone id free
    obtain ⟨following, preceding⟩ := linked.siblings_eq_nil free
    cases link with
    | parent => exact linked.trail_ancestors id
    | next => exact of_row following (unlinked next)
    | previous => exact of_row preceding (unlinked previous)
  · cases link with
    | parent => exact linked.trail_ancestors id
    | next => exact of_row (linked.following_eq siblings) (linked.trail_following siblings)
    | previous => exact of_row (linked.preceding_eq siblings) (linked.trail_preceding siblings)

/-! ## Walks are short -/

/-- The siblings of a node are children of one parent. -/
theorem exists_parent_of_mem_siblings {id other : NodeId}
    (beside : other ∈ document.following id ∨ other ∈ document.preceding id) :
    ∃ parent, other ∈ document.children parent := by
  rcases linked.free_or_exists_siblings id with free | ⟨parent, before, behind, siblings⟩
  · obtain ⟨following, preceding⟩ := linked.siblings_eq_nil free
    simp [following, preceding] at beside
  · rw [linked.following_eq siblings, linked.preceding_eq siblings, List.mem_reverse] at beside
    refine ⟨parent, ?_⟩
    rw [siblings, List.mem_append, List.mem_cons]
    rcases beside with isBehind | isBefore
    · exact .inr (.inr isBehind)
    · exact .inl isBefore

/-- The nodes on a walk are there. -/
theorem has_of_mem_walk {link : Link} {id other : NodeId} (member : other ∈ document.walk link id) :
    document.Has other := by
  cases link with
  | parent => exact linked.has_of_mem_trail (linked.trail_ancestors id) member
  | next =>
      obtain ⟨parent, listed⟩ := linked.exists_parent_of_mem_siblings (.inl member)
      exact linked.has_child listed
  | previous =>
      obtain ⟨parent, listed⟩ := linked.exists_parent_of_mem_siblings (.inr member)
      exact linked.has_child listed

/-- **The walk along any link comes to an end**, on fewer nodes than the document has. -/
theorem ends_walk (nonempty : 0 < document.size) (link : Link) (id : NodeId) :
    document.Ends link (document.linked link id) (document.walk link id) where
  trail := linked.trail_walk link id
  short := by
    by_cases there : document.Has id
    · have nodup := (Trail.cons (linked.trail_walk link id)).nodup
      exact length_lt_size there nodup fun _ => linked.has_of_mem_walk
    · have trail := linked.trail_walk link id
      rw [linked_eq_none_of_not_has there link] at trail
      rw [trail.unique .nil]
      exact nonempty

/-- The walk along the children comes to an end likewise. -/
theorem ends_children (nonempty : 0 < document.size) (id : NodeId) :
    document.Ends .next (document.firstChild? id) (document.children id) where
  trail := linked.trail_next (List.nil_append (document.children id)).symm
  short := by
    by_cases there : document.Has id
    · have notChild : id ∉ document.children id := by
        intro listed
        have above := linked.ancestors_eq_cons listed
        exact linked.notMem_ancestors_self id (above ▸ List.mem_cons_self)
      have nodup := List.nodup_cons.mpr ⟨notChild, linked.nodup_children id⟩
      exact length_lt_size there nodup fun _ => linked.has_child
    · rw [children_eq_nil_of_not_has there]
      exact nonempty

/-- The axes along siblings, read off the list of children. -/
theorem axes_of_siblings {parent id : NodeId} {before behind : List NodeId}
    (siblings : document.children parent = before ++ id :: behind) (compound : Compound) :
    document.nextAll id compound = behind.filter (compound.holdsAt document) ∧
      document.prevAll id compound = before.reverse.filter (compound.holdsAt document) ∧
      document.FirstDecides compound behind (document.next id compound) ∧
      document.FirstDecides compound before.reverse (document.prev id compound) := by
  have following := linked.following_eq siblings
  have preceding := linked.preceding_eq siblings
  refine ⟨by rw [nextAll, following], by rw [prevAll, preceding], ?_, ?_⟩
  · rw [Document.next, following]
    exact firstDecides_nearest compound behind
  · rw [prev, preceding]
    exact firstDecides_nearest compound before.reverse

/-- Sideways and upwards a node with no parent leads nowhere. -/
theorem apply_eq_nil_of_free {id : NodeId} (free : document.parent? id = none) {axis : Axis}
    (outwards : axis ∈ [Axis.next, .nextAll, .prev, .prevAll, .parent, .parents])
    (compound : Compound) : axis.apply document id compound = [] := by
  obtain ⟨following, preceding⟩ := linked.siblings_eq_nil free
  have above := linked.ancestors_eq_nil free
  have axes : axis = .next ∨ axis = .nextAll ∨ axis = .prev ∨ axis = .prevAll ∨
      axis = .parent ∨ axis = .parents := by simpa using outwards
  rcases axes with rfl | rfl | rfl | rfl | rfl | rfl
  · simp [Axis.apply, Document.next, nearest, following]
  · simp [Axis.apply, nextAll, following]
  · simp [Axis.apply, prev, nearest, preceding]
  · simp [Axis.apply, prevAll, preceding]
  · simp [Axis.apply, Document.parent, free]
  · simp [Axis.apply, parents, above]

end WellLinked

/-- **In a grown document the walks along links agree with the lists of children.** Every walk
comes to an end on fewer nodes than the document has, also the walk along the children of a
node. Of these and of the nodes above the axes `child` and `parents` list those that satisfy the
compound. A node with a parent stands among the children of this. The children behind it and
those before it, the nearest first, are its siblings, and the axes along siblings are read off
them. A node with no parent has no siblings and nothing above it. -/
theorem Grown.link_walks_agree (grown : document.Grown) (id : NodeId) (compound : Compound) :
    (∀ link, document.Ends link (document.linked link id) (document.walk link id)) ∧
    document.Ends .next (document.firstChild? id) (document.children id) ∧
    document.child id compound = (document.children id).filter (compound.holdsAt document) ∧
    (∀ above, document.Trail .parent (document.parent? id) above →
      document.ancestors id = above ∧
      document.parents id compound = above.filter (compound.holdsAt document)) ∧
    (∀ parent, document.parent? id = some parent →
      (∃ before behind, document.children parent = before ++ id :: behind) ∧
      ∀ before behind, document.children parent = before ++ id :: behind →
        document.following id = behind ∧ document.preceding id = before.reverse ∧
        document.nextAll id compound = behind.filter (compound.holdsAt document) ∧
        document.prevAll id compound = before.reverse.filter (compound.holdsAt document) ∧
        document.FirstDecides compound behind (document.next id compound) ∧
        document.FirstDecides compound before.reverse (document.prev id compound)) ∧
    (document.parent? id = none →
      document.following id = [] ∧ document.preceding id = [] ∧ document.ancestors id = [] ∧
      ∀ axis ∈ [Axis.next, .nextAll, .prev, .prevAll, .parent, .parents],
        axis.apply document id compound = []) := by
  have linked := grown.wellLinked
  have nonempty : 0 < document.size := grown.has_root
  refine ⟨fun link => linked.ends_walk nonempty link id, linked.ends_children nonempty id,
    linked.child_eq id compound, ?_, ?_, ?_⟩
  · intro above trail
    have same := (linked.trail_ancestors id).unique trail
    exact ⟨same, by rw [parents, same]⟩
  · intro parent attached
    have listed := (linked.mem_children_iff parent id).mpr attached
    refine ⟨List.append_of_mem listed, fun before behind siblings => ?_⟩
    exact ⟨linked.following_eq siblings, linked.preceding_eq siblings,
      linked.axes_of_siblings siblings compound⟩
  · intro free
    obtain ⟨following, preceding⟩ := linked.siblings_eq_nil free
    exact ⟨following, preceding, linked.ancestors_eq_nil free,
      fun _ outwards => linked.apply_eq_nil_of_free free outwards compound⟩

/-- Before an element stand an element and a text, behind it a comment and two elements. The
nearest element behind it does not satisfy the compound, and ends the search. -/
theorem Grown.link_walks_agree_of_mixed_siblings :
    ∃ document : Document, document.Grown ∧
      document.children root = [⟨1⟩, ⟨2⟩, ⟨3⟩, ⟨4⟩, ⟨5⟩, ⟨6⟩] ∧
      document.preceding ⟨3⟩ = [⟨2⟩, ⟨1⟩] ∧
      document.Ends .next (document.next? ⟨3⟩) [⟨4⟩, ⟨5⟩, ⟨6⟩] ∧
      document.prev ⟨3⟩ ⟨[.tag "a"]⟩ = [⟨1⟩] ∧ document.next ⟨3⟩ ⟨[.tag "a"]⟩ = [] ∧
      document.nextAll ⟨3⟩ ⟨[.tag "a"]⟩ = [⟨6⟩] ∧ document.nextAll root ⟨[]⟩ = [] := by
  have first := @Grown.append _ .new root (by decide) (.element ⟨"a", []⟩)
  have second := @Grown.append _ first root (by decide) (.text "t")
  have third := @Grown.append _ second root (by decide) (.element ⟨"a", []⟩)
  have fourth := @Grown.append _ third root (by decide) (.comment "c")
  have fifth := @Grown.append _ fourth root (by decide) (.element ⟨"b", []⟩)
  have grown := @Grown.append _ fifth root (by decide) (.element ⟨"a", []⟩)
  obtain ⟨ends, -, -, -, attached, -⟩ := grown.link_walks_agree ⟨3⟩ ⟨[.tag "a"]⟩
  obtain ⟨-, siblings⟩ := attached root rfl
  obtain ⟨following, preceding, nextAll, -, next, prev⟩ :=
    siblings [⟨1⟩, ⟨2⟩] [⟨4⟩, ⟨5⟩, ⟨6⟩] rfl
  obtain ⟨-, -, -, -, -, free⟩ := grown.link_walks_agree root ⟨[]⟩
  obtain ⟨-, -, -, outwards⟩ := free rfl
  refine ⟨_, grown, rfl, preceding, following ▸ ends .next, ?_, ?_, nextAll, ?_⟩
  · exact prev.decided [⟨2⟩] ⟨1⟩ [] rfl (by decide) rfl
  · exact next.decided [⟨4⟩] ⟨5⟩ [⟨6⟩] rfl (by decide) rfl
  · exact outwards .nextAll (by decide)

end Document

end TreeSelector
