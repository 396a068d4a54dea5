import TreeSelector.Proofs.Document.Walks

/-!
# Documents in pre-order

The pre-order of a row of trees takes each tree in turn, its root before what lies below it
(`Document.Preorder`). It is read off the lists of children alone and follows no other link.

In a well-linked document every row of trees has a pre-order
(`Document.WellLinked.exists_preorder`), since what lies below a node comes to an end, and
the pre-order of siblings repeats no node (`Document.WellLinked.nodup_preorder`). The second
is seen from below: the walk upwards from a node that is listed comes to one of the roots
(`Document.WellLinked.exists_root_of_mem`), and it passes a single one of the siblings.
-/

set_option autoImplicit false

namespace TreeSelector

namespace Document

variable {document : Document}

/-- The row takes the trees below the roots in pre-order: a root, what lies below it, and then
the trees behind it. -/
inductive Preorder (document : Document) : List NodeId → List NodeId → Prop where
  | nil : Preorder document [] []
  | cons {root : NodeId} {later below behind : List NodeId}
      (down : Preorder document (document.children root) below)
      (along : Preorder document later behind) :
      Preorder document (root :: later) (root :: (below ++ behind))

/-- Where there is a pre-order of what lies below each root, there is one of the trees. -/
theorem Preorder.exists_of_below {roots : List NodeId}
    (below : ∀ root ∈ roots, ∃ row, document.Preorder (document.children root) row) :
    ∃ row, document.Preorder roots row := by
  induction roots with
  | nil => exact ⟨[], .nil⟩
  | cons root later ih =>
      obtain ⟨inside, down⟩ := below root List.mem_cons_self
      obtain ⟨behind, along⟩ :=
        ih fun other member => below other (List.mem_cons_of_mem root member)
      exact ⟨_, .cons down along⟩

namespace WellLinked

variable (linked : document.WellLinked)
include linked

/-- **Every row of trees has a pre-order.** -/
theorem exists_preorder (roots : List NodeId) : ∃ row, document.Preorder roots row := by
  have below (root : NodeId) : ∃ row, document.Preorder (document.children root) row := by
    induction root using linked.induction_below with
    | step root ih => exact Preorder.exists_of_below ih
  exact Preorder.exists_of_below fun root _ => below root

/-- What lies below the children of a node lies below the node. -/
theorem mem_ancestors_of_mem_preorder {roots row : List NodeId} {upper : NodeId}
    (whole : document.Preorder roots row)
    (under : ∀ root ∈ roots, upper ∈ document.ancestors root) :
    ∀ id ∈ row, upper ∈ document.ancestors id := by
  induction whole with
  | nil => exact fun _ member => absurd member List.not_mem_nil
  | @cons root later below behind _ _ down along =>
      have above := under root List.mem_cons_self
      intro id member
      rcases List.mem_cons.mp member with rfl | member
      · exact above
      · rcases List.mem_append.mp member with inside | outside
        · refine down ?_ id inside
          intro child listed
          rw [linked.ancestors_eq_cons listed]
          exact List.mem_cons_of_mem root above
        · exact along (fun other listed => under other (List.mem_cons_of_mem root listed)) id outside

theorem mem_ancestors_of_mem_below {upper : NodeId} {below : List NodeId}
    (whole : document.Preorder (document.children upper) below) :
    ∀ id ∈ below, upper ∈ document.ancestors id := by
  refine linked.mem_ancestors_of_mem_preorder whole ?_
  intro child listed
  rw [linked.ancestors_eq_cons listed]
  exact List.mem_cons_self

/-- Each node stands at or below one of the roots. -/
theorem exists_root_of_mem {roots row : List NodeId} (whole : document.Preorder roots row) :
    ∀ id ∈ row, ∃ root ∈ roots, root ∈ id :: document.ancestors id := by
  induction whole with
  | nil => exact fun _ member => absurd member List.not_mem_nil
  | @cons root later below behind inner _ _ along =>
      intro id member
      rcases List.mem_cons.mp member with rfl | member
      · exact ⟨id, List.mem_cons_self, List.mem_cons_self⟩
      · rcases List.mem_append.mp member with inside | outside
        · have above := linked.mem_ancestors_of_mem_below inner id inside
          exact ⟨root, List.mem_cons_self, List.mem_cons_of_mem id above⟩
        · obtain ⟨other, listed, above⟩ := along id outside
          exact ⟨other, List.mem_cons_of_mem root listed, above⟩

/-- **The pre-order of siblings repeats no node.** -/
theorem nodup_preorder {roots row : List NodeId} (whole : document.Preorder roots row)
    (nodup : roots.Nodup) {parent : NodeId}
    (siblings : ∀ root ∈ roots, root ∈ document.children parent) : row.Nodup := by
  induction whole generalizing parent with
  | nil => exact List.nodup_nil
  | @cons root later below behind inner outer down along =>
      obtain ⟨absent, nodupLater⟩ := List.nodup_cons.mp nodup
      have nodupBelow : below.Nodup :=
        down (linked.nodup_children root) fun _ member => member
      have nodupBehind : behind.Nodup :=
        along nodupLater fun other member => siblings other (List.mem_cons_of_mem root member)
      have notBelow : root ∉ below := fun member =>
        linked.notMem_ancestors_self root (linked.mem_ancestors_of_mem_below inner root member)
      -- A node behind stands at or below a later root, and so not at or below this one.
      have notBehind {id : NodeId} (above : root ∈ id :: document.ancestors id) :
          id ∉ behind := by
        intro member
        obtain ⟨other, listed, above'⟩ := linked.exists_root_of_mem outer id member
        have same := linked.sibling_unique (siblings root List.mem_cons_self)
          (siblings other (List.mem_cons_of_mem root listed)) above above'
        exact absent (same ▸ listed)
      refine List.nodup_cons.mpr ⟨?_, List.nodup_append'.mpr ⟨nodupBelow, nodupBehind, ?_⟩⟩
      · intro member
        rcases List.mem_append.mp member with inside | outside
        · exact notBelow inside
        · exact notBehind List.mem_cons_self outside
      · intro id inside outside
        have above := linked.mem_ancestors_of_mem_below inner id inside
        exact notBehind (List.mem_cons_of_mem id above) outside

theorem nodup_below {upper : NodeId} {below : List NodeId}
    (whole : document.Preorder (document.children upper) below) : below.Nodup :=
  linked.nodup_preorder whole (linked.nodup_children upper) fun _ member => member

end WellLinked

end Document

end TreeSelector
