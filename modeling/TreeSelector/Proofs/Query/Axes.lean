import TreeSelector.Proofs.Document.Walks
import TreeSelector.Proofs.Query.Contribution

/-!
# Where a combinator leads

A combinator stands for a relation between two nodes of a document
(`Combinator.Joins`): the second lies below the first with only elements between them
(`Document.Descends`), is a child of the first, or follows it among the children of
their parent (`Document.Follows`). In a well-linked document the axis of a combinator
lists exactly the nodes in this relation that satisfy the compound
(`Document.WellLinked.mem_apply_axis_iff`), and each of them once
(`Document.WellLinked.nodup_apply_axis`).

That the descent comes to a node once only is seen from above. The walk upwards from
the node comes back to the one that the descent started from, so of the children of
that one it passes a single one (`Document.WellLinked.exists_ancestors_eq`).
-/

set_option autoImplicit false

namespace TreeSelector

variable {document : Document}

/-- A compound holds of elements only. -/
theorem Compound.isElement_of_holdsAt {compound : Compound} {id : NodeId}
    (holds : compound.holdsAt document id = true) : document.isElement id = true :=
  (Bool.and_eq_true_iff.mp holds).1

/-- The compound without conditions holds of every element, and of nothing else. -/
@[simp]
theorem Compound.holdsAt_empty (document : Document) (id : NodeId) :
    Compound.empty.holdsAt document id = document.isElement id := by
  simp [Compound.holdsAt, Compound.empty]

theorem Compound.isElement_and_holdsAt (compound : Compound) (document : Document) (id : NodeId) :
    (document.isElement id && compound.holdsAt document id) = compound.holdsAt document id := by
  rw [Compound.holdsAt, Bool.and_self_left]

/-- Whether a compound holds of a node is seen from its element. -/
theorem Compound.holdsAt_eq_of_element? {document next : Document} {id : NodeId}
    (same : next.element? id = document.element? id) (compound : Compound) :
    compound.holdsAt next id = compound.holdsAt document id := by
  have predicates (predicate : Predicate) :
      predicate.holdsAt next id = predicate.holdsAt document id := by
    cases predicate <;> simp only [Predicate.holdsAt, Document.attribute?, same]
  simp only [Compound.holdsAt, Document.isElement, same, predicates]

namespace Document

/-! ## Only elements are listed -/

/-- A descent lists what is accepted. -/
theorem accept_of_mem_descend {accept : NodeId → Bool} {depth : Nat} {start id : NodeId}
    (listed : id ∈ document.descend accept depth start) : accept id = true := by
  induction depth generalizing start with
  | zero => cases listed
  | succ depth ih =>
      obtain ⟨child, -, found⟩ := List.mem_flatMap.mp listed
      rcases List.mem_append.mp found with here | below
      · split at here
        · rename_i accepted
          rw [List.mem_singleton.mp here]
          exact accepted
        · cases here
      · exact ih below

/-- An axis lists elements only. -/
theorem isElement_of_mem_apply {axis : Axis} {start id : NodeId} {compound : Compound}
    (listed : id ∈ axis.apply document start compound) : document.isElement id = true := by
  cases axis with
  | find => exact Compound.isElement_of_holdsAt (accept_of_mem_descend listed)
  | not =>
      obtain ⟨-, excluded⟩ := List.mem_filter.mp listed
      exact (Bool.and_eq_true_iff.mp excluded).1
  | child | next | nextAll | prev | prevAll | parent | parents =>
      obtain ⟨-, holds⟩ := List.mem_filter.mp listed
      exact Compound.isElement_of_holdsAt holds

/-- A query lists elements only. -/
theorem isElement_of_mem_related {starts : List NodeId} {selector : Selector} {axis : Axis}
    {id : NodeId} (listed : id ∈ document.related starts selector axis) :
    document.isElement id = true := by
  obtain ⟨_, _, _, found⟩ := exists_walk_of_mem_related listed
  exact isElement_of_mem_apply found

/-! ## What a combinator means -/

/-- The second node lies below the first, at any depth, and the nodes between them are
elements. -/
inductive Descends (document : Document) : NodeId → NodeId → Prop where
  | child {upper lower : NodeId} (listed : lower ∈ document.children upper) :
      Descends document upper lower
  | through {upper between lower : NodeId} (listed : between ∈ document.children upper)
      (element : document.isElement between = true) (rest : Descends document between lower) :
      Descends document upper lower

/-- The second node is a later sibling of the first, with these nodes between them. -/
def Follows (document : Document) (first : NodeId) (between : List NodeId) (second : NodeId) :
    Prop :=
  ∃ parent before behind,
    document.children parent = before ++ first :: (between ++ second :: behind)

end Document

/-- How two nodes stand to each other that a combinator joins. -/
def Combinator.Joins (document : Document) : Combinator → NodeId → NodeId → Prop
  | .descendant, upper, lower => document.Descends upper lower
  | .child, upper, lower => lower ∈ document.children upper
  | .adjacentSibling, first, second => document.isElement second = true ∧
      ∃ between, document.Follows first between second ∧
        ∀ id ∈ between, document.isElement id = false
  | .generalSibling, first, second => document.isElement second = true ∧
      ∃ between, document.Follows first between second

namespace Document

theorem descends_iff {upper lower : NodeId} :
    document.Descends upper lower ↔ lower ∈ document.children upper ∨
      ∃ between ∈ document.children upper,
        document.isElement between = true ∧ document.Descends between lower := by
  constructor
  · rintro (listed | ⟨listed, element, rest⟩)
    · exact .inl listed
    · exact .inr ⟨_, listed, element, rest⟩
  · rintro (listed | ⟨between, listed, element, rest⟩)
    · exact .child listed
    · exact .through listed element rest

namespace WellLinked

variable (linked : document.WellLinked)
include linked

/-! ## Below a node -/

/-- **What is found below a node.** -/
theorem mem_find_iff {upper lower : NodeId} {compound : Compound} :
    lower ∈ document.find upper compound ↔
      document.Descends upper lower ∧ compound.holdsAt document lower = true := by
  induction upper using linked.induction_below with
  | step upper ih =>
      rw [linked.find_eq, List.mem_flatMap, descends_iff]
      constructor
      · rintro ⟨child, member, found⟩
        obtain ⟨listed, element⟩ := List.mem_filter.mp member
        rcases List.mem_append.mp found with here | below
        · by_cases holds : compound.holdsAt document child = true
          · rw [if_pos holds, List.mem_singleton] at here
            exact ⟨.inl (here ▸ listed), here ▸ holds⟩
          · rw [if_neg holds] at here
            cases here
        · obtain ⟨descends, holds⟩ := (ih child listed).mp below
          exact ⟨.inr ⟨child, listed, element, descends⟩, holds⟩
      · rintro ⟨listed | ⟨between, listed, element, rest⟩, holds⟩
        · refine ⟨lower, List.mem_filter.mpr ⟨listed, Compound.isElement_of_holdsAt holds⟩, ?_⟩
          rw [if_pos holds]
          exact List.mem_append_left _ (List.mem_singleton_self lower)
        · refine ⟨between, List.mem_filter.mpr ⟨listed, element⟩, ?_⟩
          exact List.mem_append_right _ ((ih between listed).mpr ⟨rest, holds⟩)

/-- The walk upwards from a node comes to every node that it lies below, and passes elements
only before it does. -/
theorem exists_elements_between {upper lower : NodeId}
    (descends : document.Descends upper lower) :
    ∃ passed, document.ancestors lower = passed ++ upper :: document.ancestors upper ∧
      ∀ between ∈ passed, document.isElement between = true := by
  induction descends with
  | child listed =>
      exact ⟨[], linked.ancestors_eq_cons listed, fun _ member => absurd member List.not_mem_nil⟩
  | @through upper between lower listed element _ ih =>
      obtain ⟨passed, upwards, elements⟩ := ih
      rw [linked.ancestors_eq_cons listed] at upwards
      refine ⟨passed ++ [between], by simpa using upwards, ?_⟩
      intro id member
      rcases List.mem_append.mp member with member | isBetween
      · exact elements id member
      · rw [List.mem_singleton.mp isBetween]
        exact element

theorem exists_ancestors_eq {upper lower : NodeId} (descends : document.Descends upper lower) :
    ∃ passed, document.ancestors lower = passed ++ upper :: document.ancestors upper := by
  obtain ⟨passed, upwards, -⟩ := linked.exists_elements_between descends
  exact ⟨passed, upwards⟩

/-- No node lies below itself. -/
theorem not_descends_self (id : NodeId) : ¬ document.Descends id id := by
  intro descends
  obtain ⟨passed, upwards⟩ := linked.exists_ancestors_eq descends
  have nodup := linked.nodup_cons_ancestors id
  rw [upwards] at nodup
  simp at nodup

/-- A node lies at or below one child only. -/
theorem child_unique {parent first second id : NodeId}
    (listed : first ∈ document.children parent) (listed' : second ∈ document.children parent)
    (inFirst : id = first ∨ document.Descends first id)
    (inSecond : id = second ∨ document.Descends second id) : first = second := by
  have above {child : NodeId} (inside : id = child ∨ document.Descends child id) :
      child ∈ id :: document.ancestors id := by
    rcases inside with rfl | below
    · exact List.mem_cons_self
    · obtain ⟨passed, upwards⟩ := linked.exists_ancestors_eq below
      simp [upwards]
  exact linked.sibling_unique listed listed' (above inFirst) (above inSecond)

/-- What lies below a node is listed once. -/
theorem nodup_find (upper : NodeId) (compound : Compound) :
    (document.find upper compound).Nodup := by
  induction upper using linked.induction_below with
  | step upper ih =>
      have inside {child id : NodeId}
          (found : id ∈ (if compound.holdsAt document child then [child] else []) ++
            document.find child compound) : id = child ∨ document.Descends child id := by
        rcases List.mem_append.mp found with here | below
        · split at here
          · exact .inl (List.mem_singleton.mp here)
          · cases here
        · exact .inr (linked.mem_find_iff.mp below).1
      have nodup : ((document.children upper).filter document.isElement).Nodup :=
        (linked.nodup_children upper).filter _
      rw [linked.find_eq, List.nodup_flatMap]
      constructor
      · intro child member
        have below := ih child (List.mem_of_mem_filter member)
        split
        · refine List.nodup_cons.mpr ⟨fun again => ?_, below⟩
          exact linked.not_descends_self child (linked.mem_find_iff.mp again).1
        · exact below
      · refine nodup.imp_of_mem fun {first second} member member' other => ?_
        intro id inFirst inSecond
        exact other (linked.child_unique (List.mem_of_mem_filter member)
          (List.mem_of_mem_filter member') (inside inFirst) (inside inSecond))

/-! ## Behind a node -/

/-- A later sibling is one behind the node on the walk along the siblings. -/
theorem follows_iff {first second : NodeId} {between : List NodeId} :
    document.Follows first between second ↔
      ∃ behind, document.following first = between ++ second :: behind := by
  constructor
  · rintro ⟨parent, before, behind, siblings⟩
    exact ⟨behind, linked.following_eq siblings⟩
  · rintro ⟨behind, walk⟩
    rcases linked.free_or_exists_siblings first with free | ⟨parent, before, later, siblings⟩
    · rw [(linked.siblings_eq_nil free).1] at walk
      simp at walk
    · rw [linked.following_eq siblings] at walk
      exact ⟨parent, before, behind, by rw [siblings, walk]⟩

/-- The siblings behind a node are listed once. -/
theorem nodup_following (id : NodeId) : (document.following id).Nodup := by
  rcases linked.free_or_exists_siblings id with free | ⟨parent, before, behind, siblings⟩
  · rw [(linked.siblings_eq_nil free).1]
    exact List.nodup_nil
  · have nodup := linked.nodup_children parent
    rw [siblings] at nodup
    rw [linked.following_eq siblings]
    exact (List.nodup_cons.mp nodup.of_append_right).2

theorem mem_next_iff {first second : NodeId} {compound : Compound} :
    second ∈ document.next first compound ↔
      Combinator.adjacentSibling.Joins document first second ∧
        compound.holdsAt document second = true := by
  rw [Document.next, nearest, List.mem_filter, Option.mem_toList,
    List.find?_eq_some_iff_append]
  refine and_congr_left fun _ => and_congr_right fun _ => ?_
  constructor
  · rintro ⟨between, behind, walk, skipped⟩
    exact ⟨between, linked.follows_iff.mpr ⟨behind, walk⟩, by simpa using skipped⟩
  · rintro ⟨between, follows, skipped⟩
    obtain ⟨behind, walk⟩ := linked.follows_iff.mp follows
    exact ⟨between, behind, walk, by simpa using skipped⟩

theorem mem_nextAll_iff {first second : NodeId} {compound : Compound} :
    second ∈ document.nextAll first compound ↔
      Combinator.generalSibling.Joins document first second ∧
        compound.holdsAt document second = true := by
  rw [nextAll, List.mem_filter]
  constructor
  · rintro ⟨listed, holds⟩
    obtain ⟨between, behind, walk⟩ := List.append_of_mem listed
    exact ⟨⟨Compound.isElement_of_holdsAt holds, between,
      linked.follows_iff.mpr ⟨behind, walk⟩⟩, holds⟩
  · rintro ⟨⟨-, between, follows⟩, holds⟩
    obtain ⟨behind, walk⟩ := linked.follows_iff.mp follows
    exact ⟨by simp [walk], holds⟩

/-! ## Along a combinator -/

/-- **What the axis of a combinator lists.** -/
theorem mem_apply_axis_iff {combinator : Combinator} {first second : NodeId}
    {compound : Compound} :
    second ∈ combinator.axis.apply document first compound ↔
      combinator.Joins document first second ∧ compound.holdsAt document second = true := by
  cases combinator with
  | descendant => exact linked.mem_find_iff
  | child =>
      show second ∈ document.child first compound ↔ _
      rw [linked.child_eq, List.mem_filter]
      rfl
  | adjacentSibling => exact linked.mem_next_iff
  | generalSibling => exact linked.mem_nextAll_iff

/-- **The axis of a combinator lists no node twice.** -/
theorem nodup_apply_axis (combinator : Combinator) (id : NodeId) (compound : Compound) :
    (combinator.axis.apply document id compound).Nodup := by
  cases combinator with
  | descendant => exact linked.nodup_find id compound
  | child =>
      show (document.child id compound).Nodup
      rw [linked.child_eq]
      exact (linked.nodup_children id).filter _
  | adjacentSibling =>
      show (document.next id compound).Nodup
      rw [Document.next, nearest]
      cases (document.following id).find? document.isElement with
      | none => exact List.nodup_nil
      | some sibling => exact (List.nodup_singleton sibling).filter _
  | generalSibling => exact (linked.nodup_following id).filter _

end WellLinked

end Document

end TreeSelector
