import Mathlib.Data.List.Induction
import Mathlib.Data.List.Perm.Subperm
import TreeSelector.Axis
import TreeSelector.Proofs.Document.Linked

/-!
# Walks through a well-linked document

A walk is cut off after as many steps as the document has nodes, and the descent at
that depth. Where the links agree this cuts off nothing. The walks along siblings
list what stands beside a node among the children of its parent
(`Document.WellLinked.childWalk_eq`, `following_eq`, `preceding_eq`), and the walk
upwards goes on from the parent (`ancestors_eq_cons`). A step downwards makes the
walk upwards longer by one node, and this walk repeats no node. So what is below a
node can be reasoned about by induction (`Document.WellLinked.induction_below`), and
the descent satisfies its equation with no bound (`Document.WellLinked.find_eq`).
-/

set_option autoImplicit false

namespace TreeSelector

namespace Document

variable {document : Document}

/-- A row of nodes that are there, with no repetition, is no longer than the document. -/
theorem length_le_size {nodes : List NodeId} (nodup : nodes.Nodup)
    (there : ∀ id ∈ nodes, document.Has id) : nodes.length ≤ document.size := by
  have listed : nodes ⊆ document.ids := by
    intro id member
    exact List.mem_map.mpr ⟨id.index, List.mem_range.mpr (there id member), rfl⟩
  calc nodes.length ≤ document.ids.length := (List.Nodup.subperm nodup listed).length_le
    _ = document.size := by rw [ids, List.length_map, List.length_range]

/-- A row that repeats no node and does not come back to a node that is there is shorter than
the document. -/
theorem length_lt_size {id : NodeId} {row : List NodeId} (there : document.Has id)
    (nodup : (id :: row).Nodup) (others : ∀ other ∈ row, document.Has other) :
    row.length < document.size :=
  length_le_size nodup (List.forall_mem_cons.mpr ⟨there, others⟩)

namespace WellLinked

variable (linked : document.WellLinked)
include linked

/-! ## Upwards -/

/-- The nodes above a node are there. -/
theorem has_of_mem_trail {id upper : NodeId} {above : List NodeId}
    (whole : document.Trail .parent (document.parent? id) above) (member : upper ∈ above) :
    document.Has upper := by
  obtain ⟨lower, found, higher⟩ := whole.exists_atOrAbove_of_mem member
  rcases higher.eq_or_exists_child with rfl | ⟨child, below⟩
  · exact has_of_mem_children ((linked.mem_children_iff upper id).mpr found)
  · exact has_of_mem_children ((linked.mem_children_iff upper child).mpr below)

/-- The walk upwards is not cut off. -/
theorem trail_ancestors (id : NodeId) :
    document.Trail .parent (document.parent? id) (document.ancestors id) := by
  obtain ⟨above, whole, nodup⟩ := linked.chain id
  cases whole with
  | cons rest =>
      have enough := length_le_size nodup.of_cons fun _ => linked.has_of_mem_trail rest
      have same : document.ancestors id = above := rest.follow_eq enough
      rw [same]
      exact rest

theorem nodup_cons_ancestors (id : NodeId) : (id :: document.ancestors id).Nodup :=
  (Trail.cons (linked.trail_ancestors id)).nodup

theorem ancestors_eq_nil {id : NodeId} (free : document.parent? id = none) :
    document.ancestors id = [] := by
  have whole := linked.trail_ancestors id
  rw [free] at whole
  exact whole.unique .nil

theorem ancestors_eq_cons {parent child : NodeId} (listed : child ∈ document.children parent) :
    document.ancestors child = parent :: document.ancestors parent := by
  have whole := linked.trail_ancestors child
  rw [(linked.mem_children_iff parent child).mp listed] at whole
  exact whole.unique (.cons (linked.trail_ancestors parent))

/-- From a node at or above another one the walk upwards goes on as from there. -/
theorem exists_eq_append_of_mem {upper lower : NodeId}
    (above : upper ∈ lower :: document.ancestors lower) :
    ∃ passed, lower :: document.ancestors lower = passed ++ upper :: document.ancestors upper := by
  obtain ⟨passed, behind, whole⟩ := List.append_of_mem above
  have trail := Trail.cons (linked.trail_ancestors lower)
  rw [whole] at trail
  have same := trail.of_append.unique (.cons (linked.trail_ancestors upper))
  exact ⟨passed, by rw [whole, same]⟩

theorem mem_ancestors_trans {upper middle lower : NodeId}
    (above : upper ∈ document.ancestors middle) (below : middle ∈ document.ancestors lower) :
    upper ∈ document.ancestors lower := by
  obtain ⟨passed, whole⟩ := linked.exists_eq_append_of_mem (List.mem_cons_of_mem lower below)
  cases passed with
  | nil =>
      obtain ⟨rfl, -⟩ := List.cons.inj whole
      exact above
  | cons first passed =>
      obtain ⟨-, whole⟩ := List.cons.inj whole
      rw [whole]
      exact List.mem_append_right _ (List.mem_cons_of_mem _ above)

/-- No node stands above itself. -/
theorem notMem_ancestors_self (id : NodeId) : id ∉ document.ancestors id :=
  (List.nodup_cons.mp (linked.nodup_cons_ancestors id)).1

/-- A node stands at or below one of its siblings only. -/
theorem sibling_unique {parent first second id : NodeId}
    (listed : first ∈ document.children parent) (listed' : second ∈ document.children parent)
    (above : first ∈ id :: document.ancestors id) (above' : second ∈ id :: document.ancestors id) :
    first = second := by
  obtain ⟨passed, whole⟩ := linked.exists_eq_append_of_mem above
  obtain ⟨passed', whole'⟩ := linked.exists_eq_append_of_mem above'
  rw [linked.ancestors_eq_cons listed] at whole
  rw [linked.ancestors_eq_cons listed'] at whole'
  obtain ⟨-, same⟩ := List.append_inj' (whole.symm.trans whole') rfl
  exact (List.cons.inj same).1

/-- Above a node there is one node fewer than the document has. -/
theorem length_ancestors_lt {id : NodeId} (there : document.Has id) :
    (document.ancestors id).length < document.size :=
  length_lt_size there (linked.nodup_cons_ancestors id)
    fun _ => linked.has_of_mem_trail (linked.trail_ancestors id)

/-- **Induction over what is below a node**: a property that a node takes over from its
children holds of every node. -/
theorem induction_below {motive : NodeId → Prop}
    (step : ∀ id, (∀ child ∈ document.children id, motive child) → motive id) (id : NodeId) :
    motive id := by
  induction left : document.size - (document.ancestors id).length using Nat.strongRecOn
    generalizing id with
  | ind left ih =>
      refine step id fun child listed => ih _ ?_ child rfl
      have deeper := congrArg List.length (linked.ancestors_eq_cons listed)
      have inside := linked.length_ancestors_lt (linked.has_child listed)
      rw [List.length_cons] at deeper
      omega

/-! ## Along siblings -/

/-- From a child on, the links to the next sibling lead through the children behind it. -/
theorem trail_next {parent : NodeId} {before behind : List NodeId}
    (siblings : document.children parent = before ++ behind) :
    document.Trail .next behind.head? behind := by
  induction behind generalizing before with
  | nil => exact .nil
  | cons id behind ih =>
      have rest := @ih (before ++ [id]) (by simpa using siblings)
      rw [← linked.next parent before id behind siblings] at rest
      exact .cons rest

/-- From a child on, the links to the previous sibling lead back through the children
before it. -/
theorem trail_previous {parent : NodeId} {before behind : List NodeId}
    (siblings : document.children parent = before ++ behind) :
    document.Trail .previous before.getLast? before.reverse := by
  induction before using List.reverseRecOn generalizing behind with
  | nil => exact .nil
  | append_singleton before id ih =>
      have rest := @ih (id :: behind) (by simpa using siblings)
      rw [← linked.previous parent before id behind (by simpa using siblings)] at rest
      simpa using Trail.cons rest

theorem length_children_le (parent : NodeId) :
    (document.children parent).length ≤ document.size :=
  length_le_size (linked.nodup_children parent) fun _ => linked.has_child

theorem childWalk_eq (id : NodeId) : document.childWalk id = document.children id :=
  (linked.trail_next (List.nil_append (document.children id)).symm).follow_eq
    (linked.length_children_le id)

/-- The axis `child` without the walk. -/
theorem child_eq (id : NodeId) (compound : Compound) :
    document.child id compound = (document.children id).filter (compound.holdsAt document) := by
  rw [Document.child, linked.childWalk_eq]

/-- The axis `not` without the walk. -/
theorem not_eq (id : NodeId) (compound : Compound) :
    document.not id compound = (document.children id).filter fun child =>
      document.isElement child && !compound.holdsAt document child := by
  rw [Document.not, linked.childWalk_eq]

section Siblings

variable {parent id : NodeId} {before behind : List NodeId}
  (siblings : document.children parent = before ++ id :: behind)
include siblings

theorem following_eq : document.following id = behind := by
  cases linked.trail_next siblings with
  | cons rest =>
      refine rest.follow_eq (Nat.le_trans ?_ (linked.length_children_le parent))
      simp [siblings]
      omega

theorem preceding_eq : document.preceding id = before.reverse := by
  have rest := linked.trail_previous siblings
  rw [← linked.previous parent before id behind siblings] at rest
  refine rest.follow_eq (Nat.le_trans ?_ (linked.length_children_le parent))
  simp [siblings]

end Siblings

/-- A node with no parent has no siblings. -/
theorem siblings_eq_nil {id : NodeId} (free : document.parent? id = none) :
    document.following id = [] ∧ document.preceding id = [] := by
  obtain ⟨next, previous⟩ := linked.alone id free
  have unlinked {link : Link} (none : document.linked link id = none) :
      document.walk link id = [] := by
    rw [walk, none]
    cases document.size <;> rfl
  exact ⟨unlinked next, unlinked previous⟩

/-- A node has no parent, or stands somewhere among the children of its parent. -/
theorem free_or_exists_siblings (id : NodeId) :
    document.parent? id = none ∨
      ∃ parent before behind, document.children parent = before ++ id :: behind := by
  cases attached : document.parent? id with
  | none => exact .inl rfl
  | some parent =>
      have listed := (linked.mem_children_iff parent id).mpr attached
      obtain ⟨before, behind, siblings⟩ := List.append_of_mem listed
      exact .inr ⟨parent, before, behind, siblings⟩

/-! ## Downwards -/

/-- A node that leaves no room below it is not there, so nothing is found below it. -/
theorem descend_eq_nil (accept : NodeId → Bool) {id : NodeId}
    (full : document.size ≤ (document.ancestors id).length) (depth : Nat) :
    document.descend accept depth id = [] := by
  have children : document.children id = [] := by
    refine List.eq_nil_iff_forall_not_mem.mpr fun child listed => ?_
    exact Nat.not_lt.mpr full (linked.length_ancestors_lt (has_of_mem_children listed))
  cases depth with
  | zero => rfl
  | succ depth => rw [descend, linked.childWalk_eq, children]; rfl

/-- Two descents that are deep enough find the same. -/
theorem descend_eq_descend (accept : NodeId → Bool) {id : NodeId} {depth other : Nat}
    (enough : document.size ≤ (document.ancestors id).length + depth)
    (enough' : document.size ≤ (document.ancestors id).length + other) :
    document.descend accept depth id = document.descend accept other id := by
  induction depth generalizing id other with
  | zero => rw [linked.descend_eq_nil accept enough, linked.descend_eq_nil accept enough]
  | succ depth ih =>
      cases other with
      | zero => rw [linked.descend_eq_nil accept enough', linked.descend_eq_nil accept enough']
      | succ other =>
          rw [descend, descend, linked.childWalk_eq]
          refine List.flatMap_congr fun child member => ?_
          have deeper := linked.ancestors_eq_cons (List.mem_of_mem_filter member)
          have longer := congrArg List.length deeper
          rw [List.length_cons] at longer
          rw [@ih child other (by omega) (by omega)]

/-- **The descent without a bound**: each element child, if it satisfies the compound, and
what is found below it. -/
theorem find_eq (id : NodeId) (compound : Compound) :
    document.find id compound =
      ((document.children id).filter document.isElement).flatMap fun child =>
        (if compound.holdsAt document child then [child] else []) ++
          document.find child compound := by
  have deeper : document.find id compound =
      document.descend (compound.holdsAt document) (document.size + 1) id :=
    linked.descend_eq_descend _ (Nat.le_add_left _ _) (by omega)
  rw [deeper, descend, linked.childWalk_eq]
  rfl

end WellLinked

end Document

end TreeSelector
