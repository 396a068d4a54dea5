import TreeSelector.Proofs.Query.Links
import TreeSelector.Proofs.Query.Search

/-!
# An axis walks the same way under every compound

A compound says which of the nodes on its way an axis lists. It has no say in where the axis
goes. So an axis lists under a compound what it lists under the compound without conditions, in
the same order and less what does not satisfy the compound
(`Document.apply_eq_filter_apply_empty`). Of `next` and `prev` this says that the nearest
element is looked for first and tested then, and of `find` that the descent goes on below the
elements that satisfy the compound and below those that do not. The axis `not` is the other
half of `child`: each element child is listed by one of the two.

Nothing is assumed of the document. The walks are cut off after as many steps as it has nodes,
and where a walk comes to an end it does so before (`Document.Trail.walk_eq`).
-/

set_option autoImplicit false

namespace TreeSelector

namespace Document

variable {document : Document}

/-- A walk that comes to an end is not cut off. -/
theorem Trail.walk_eq {link : Link} {id : NodeId} {row : List NodeId}
    (whole : document.Trail link (document.linked link id) row) : document.walk link id = row := by
  refine whole.follow_eq ?_
  rcases List.eq_nil_or_concat row with rfl | ⟨front, last, rfl⟩
  · exact Nat.zero_le _
  · -- All but the last node are there, and the one that the walk starts from is.
    have trail := Trail.cons whole
    rw [List.concat_eq_append, ← List.cons_append] at trail
    have inside := trail.has_of_mem_append
    have nodup := (List.nodup_append.mp trail.nodup).1
    rw [List.length_concat]
    exact length_le_size nodup inside

/-- What satisfies a compound may be chosen from the elements. -/
theorem filter_filter_holdsAt (compound : Compound) (row : List NodeId) :
    (row.filter (Compound.empty.holdsAt document)).filter (compound.holdsAt document) =
      row.filter (compound.holdsAt document) := by
  rw [List.filter_filter]
  refine List.filter_congr fun id _ => ?_
  rw [Compound.holdsAt_empty, Bool.and_comm, compound.isElement_and_holdsAt]

theorem apply_eq_filter {axis : Axis} (other : axis ≠ .not) (id : NodeId) (compound : Compound) :
    axis.apply document id compound =
      (axis.apply document id .empty).filter (compound.holdsAt document) := by
  cases axis with
  | find => exact find_eq_filter id compound
  | not => exact absurd rfl other
  | child | next | nextAll | prev | prevAll | parent | parents =>
      exact (filter_filter_holdsAt compound _).symm

theorem not_eq_filter_child (id : NodeId) (compound : Compound) :
    document.not id compound =
      (document.child id .empty).filter fun child => !compound.holdsAt document child := by
  rw [child, List.filter_filter, Document.not]
  refine List.filter_congr fun child _ => ?_
  rw [Compound.holdsAt_empty, Bool.and_comm]

/-- **The walk of an axis does not depend on the compound.** Under a compound an axis other than
`not` lists what it lists without conditions, in the same order and less what does not satisfy
the compound. The axis `not` lists the rest of what `child` lists without conditions. So the two
share out the element children between them. Where the walks come to an end they are not cut
off, and the descent goes on below each element child, whether this satisfies the compound or
not. -/
theorem apply_eq_filter_apply_empty (document : Document) (id : NodeId) (compound : Compound) :
    (∀ axis : Axis, axis ≠ .not → axis.apply document id compound =
      (axis.apply document id .empty).filter (compound.holdsAt document)) ∧
    Axis.not.apply document id compound =
      (Axis.child.apply document id .empty).filter
        (fun child => !compound.holdsAt document child) ∧
    (Axis.child.apply document id compound ++ Axis.not.apply document id compound).Perm
      ((document.childWalk id).filter document.isElement) ∧
    (∀ child ∈ Axis.child.apply document id compound,
      child ∉ Axis.not.apply document id compound) ∧
    (∀ link row, document.Trail link (document.linked link id) row →
      document.walk link id = row) ∧
    (∀ row, document.Trail .next (document.firstChild? id) row →
      (document.childWalk id).filter document.isElement = row.filter document.isElement) ∧
    ∀ found, document.Search .empty (document.firstChild? id) found →
      document.Search compound (document.firstChild? id) (document.find id compound) ∧
      document.find id compound =
        ((document.childWalk id).filter document.isElement).flatMap fun child =>
          (if compound.holdsAt document child then [child] else []) ++
            document.find child compound := by
  have holds : Axis.child.apply document id compound =
      (document.child id .empty).filter (compound.holdsAt document) :=
    apply_eq_filter (by decide) id compound
  have fails : Axis.not.apply document id compound =
      (document.child id .empty).filter fun child => !compound.holdsAt document child :=
    not_eq_filter_child id compound
  have elements : document.child id .empty =
      (document.childWalk id).filter document.isElement :=
    List.filter_congr fun child _ => Compound.holdsAt_empty document child
  refine ⟨fun axis other => apply_eq_filter other id compound, fails, ?_, ?_,
    fun link row trail => trail.walk_eq, fun row trail => trail.filter_follow, ?_⟩
  · rw [holds, fails, ← elements]
    exact List.filter_append_perm _ _
  · intro child listed excluded
    rw [holds] at listed
    rw [fails] at excluded
    have satisfied := (List.mem_filter.mp listed).2
    have missed := (List.mem_filter.mp excluded).2
    rw [satisfied] at missed
    cases missed
  · intro found search
    refine ⟨?_, search.find_eq_flatMap compound⟩
    rw [search.find_eq_filter_found]
    exact search.filter compound

/-- Below an element stand an element that does not satisfy the compound, with one below it that
does, and one more that does. -/
theorem apply_eq_filter_apply_empty_of_nested :
    ∃ document : Document, document.Grown ∧ document.children ⟨1⟩ = [⟨2⟩, ⟨4⟩] ∧
      document.walk .next ⟨2⟩ = [⟨4⟩] ∧
      document.prev ⟨4⟩ ⟨[.tag "a"]⟩ =
        (document.prev ⟨4⟩ .empty).filter (Compound.holdsAt document · ⟨[.tag "a"]⟩) ∧
      document.prev ⟨4⟩ .empty = [⟨2⟩] ∧ ⟨4⟩ ∉ document.not ⟨1⟩ ⟨[.tag "a"]⟩ ∧
      document.Search ⟨[.tag "a"]⟩ (document.firstChild? root) [⟨1⟩, ⟨3⟩, ⟨4⟩] := by
  have outer := @Grown.append _ .new root (by decide) (.element ⟨"a", []⟩)
  have first := @Grown.append _ outer ⟨1⟩ (by decide) (.element ⟨"b", []⟩)
  have inner := @Grown.append _ first ⟨2⟩ (by decide) (.element ⟨"a", []⟩)
  have grown := @Grown.append _ inner ⟨1⟩ (by decide) (.element ⟨"a", []⟩)
  have linked := grown.wellLinked
  obtain ⟨axes, -⟩ := apply_eq_filter_apply_empty _ ⟨4⟩ ⟨[.tag "a"]⟩
  obtain ⟨-, -, -, apart, -⟩ := apply_eq_filter_apply_empty _ ⟨1⟩ ⟨[.tag "a"]⟩
  obtain ⟨-, -, -, -, walks, -⟩ := apply_eq_filter_apply_empty _ ⟨2⟩ ⟨[.tag "a"]⟩
  obtain ⟨-, -, -, -, -, -, below⟩ := apply_eq_filter_apply_empty _ root ⟨[.tag "a"]⟩
  have whole := @WellLinked.trail_following _ linked ⟨1⟩ ⟨2⟩ [] [⟨4⟩] rfl
  obtain ⟨search, -⟩ := below _ (linked.search_iff.mpr rfl)
  exact ⟨_, grown, rfl, walks .next [⟨4⟩] whole, axes .prev (by decide), rfl,
    apart ⟨4⟩ List.mem_cons_self, search⟩

end Document

end TreeSelector
