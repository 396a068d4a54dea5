import Mathlib.Data.List.Nodup
import TreeSelector.Proofs.Document.Preorder

/-!
# When the order of ids is document order

A document that is built by appending new elements and texts alone (`Document.build`) has all
its nodes below the root. Ids count the nodes in the order in which they were added, and the
pre-order takes them as they stand in the tree. The two orders agree exactly if every new node
came below the last one before it, or below a node above that one: the tree was built along its
last branch (`Document.OnLastBranch`).

A new leaf comes into the pre-order behind all that lies below its parent
(`Document.WellLinked.exists_preorder_withLeaf`). Nothing else moves, so two nodes that stand in
the wrong order do so for good. And the leaf, which has the greatest id of all, comes to stand at
the end exactly if the node that stands there so far, which has the greatest id of the others, is
its parent or lies below its parent.
-/

set_option autoImplicit false

namespace TreeSelector

/-- The ids become greater from each node to the next. -/
def Ascending (row : List NodeId) : Prop :=
  row.Pairwise fun first second => first.index < second.index

instance (row : List NodeId) : Decidable (Ascending row) :=
  inferInstanceAs (Decidable (row.Pairwise fun first second => first.index < second.index))

/-- The parent of the new element or text that a step appends. -/
def Growth.leafParent? : Growth → Option NodeId
  | .appendElement parent _ => some parent
  | .appendText parent _ => some parent
  | .allocate _ => none
  | .appendChild _ _ => none

namespace Document

variable {document next : Document}

/-- The document that steps lead to, one after the other, from a root alone. -/
def build (steps : List Growth) : Except OutOfRange Document :=
  steps.foldlM grow new

/-- The node that was added last. -/
def newest (document : Document) : NodeId :=
  ⟨document.size - 1⟩

/-- Whenever a step appends a new element or text, its parent and the document so far stand in
the relation. -/
def EachLeaf (relation : Document → NodeId → Prop) (steps : List Growth) : Prop :=
  ∀ before growth behind parent document, steps = before ++ growth :: behind →
    growth.leafParent? = some parent → build before = .ok document → relation document parent

/-- Each new element or text comes under the node that was added last at that moment, or under
one of the nodes above this one. -/
def OnLastBranch (steps : List Growth) : Prop :=
  EachLeaf (fun document parent => document.AtOrAbove parent document.newest) steps

/-! ## Pre-orders -/

namespace Preorder

variable {roots row : List NodeId}

/-- There is only one pre-order. -/
theorem unique {other : List NodeId} (first : document.Preorder roots row)
    (second : document.Preorder roots other) : row = other := by
  induction first generalizing other with
  | nil => cases second; rfl
  | @cons root later below behind _ _ inner outer =>
      cases second with
      | cons down along => rw [inner down, outer along]

theorem append {others row' : List NodeId} (first : document.Preorder roots row)
    (second : document.Preorder others row') :
    document.Preorder (roots ++ others) (row ++ row') := by
  induction first with
  | nil => exact second
  | @cons root later below behind down _ _ ih =>
      rw [List.cons_append, List.cons_append, List.append_assoc]
      exact .cons down ih

theorem mem_of_mem_roots (whole : document.Preorder roots row) : ∀ id ∈ roots, id ∈ row := by
  induction whole with
  | nil => exact fun _ member => member
  | @cons root later below behind _ _ _ ih =>
      refine List.forall_mem_cons.mpr ⟨List.mem_cons_self, fun id member => ?_⟩
      exact List.mem_cons_of_mem root (List.mem_append_right below (ih id member))

/-- The children of a node that is listed are listed as well. -/
theorem mem_of_mem_children (whole : document.Preorder roots row) {id child : NodeId}
    (member : id ∈ row) (listed : child ∈ document.children id) : child ∈ row := by
  induction whole with
  | nil => cases member
  | @cons root later below behind down _ inner outer =>
      refine List.mem_cons_of_mem root (List.mem_append.mpr ?_)
      rcases List.mem_cons.mp member with rfl | member
      · exact .inl (down.mem_of_mem_roots child listed)
      · rcases List.mem_append.mp member with inside | outside
        · exact .inl (inner inside)
        · exact .inr (outer outside)

/-- A document with the same children has the same pre-order. -/
theorem of_same_children (next : Document) (whole : document.Preorder roots row)
    (same : ∀ id ∈ row, next.children id = document.children id) :
    next.Preorder roots row := by
  induction whole with
  | nil => exact .nil
  | @cons root later below behind _ _ inner outer =>
      obtain ⟨here, others⟩ := List.forall_mem_cons.mp same
      obtain ⟨within, outside⟩ := List.forall_mem_append.mp others
      refine .cons ?_ (outer outside)
      rw [here]
      exact inner within

/-- **A node stands in front of what lies below it**, and where a document differs in what lies
below this node alone, its pre-order differs in this part alone. -/
theorem exists_split (next : Document) (whole : document.Preorder roots row) (nodup : row.Nodup)
    {id : NodeId} (member : id ∈ row)
    (same : ∀ other ∈ row, other ≠ id → next.children other = document.children other) :
    ∃ before below behind, row = before ++ id :: (below ++ behind) ∧
      document.Preorder (document.children id) below ∧
      ∀ changed, next.Preorder (next.children id) changed →
        next.Preorder roots (before ++ id :: (changed ++ behind)) := by
  induction whole with
  | nil => cases member
  | @cons root later below behind down along inner outer =>
      obtain ⟨absent, nodup⟩ := List.nodup_cons.mp nodup
      obtain ⟨nodupBelow, nodupBehind, apart⟩ := List.nodup_append'.mp nodup
      obtain ⟨here, others⟩ := List.forall_mem_cons.mp same
      obtain ⟨within, outside⟩ := List.forall_mem_append.mp others
      -- Where the node is not listed, all stays as it is.
      have keeps {roots row : List NodeId} (part : document.Preorder roots row)
          (notListed : id ∉ row)
          (same : ∀ other ∈ row, other ≠ id → next.children other = document.children other) :
          next.Preorder roots row :=
        part.of_same_children next fun other listed =>
          same other listed fun isNode => notListed (isNode ▸ listed)
      rcases List.mem_cons.mp member with rfl | member
      · have notBehind : id ∉ behind := fun listed => absent (List.mem_append_right below listed)
        exact ⟨[], below, behind, rfl, down, fun changed part =>
          .cons part (keeps along notBehind outside)⟩
      · have other : root ≠ id := by
          rintro rfl
          exact absent member
        rcases List.mem_append.mp member with inside | member
        · obtain ⟨front, inBelow, back, rfl, part, replace⟩ := inner nodupBelow inside within
          refine ⟨root :: front, inBelow, back ++ behind, by simp, part, fun changed part => ?_⟩
          have changedBelow := replace changed part
          rw [← here other] at changedBelow
          have whole := Preorder.cons changedBelow (keeps along (apart inside) outside)
          simpa using whole
        · obtain ⟨front, inBelow, back, rfl, part, replace⟩ := outer nodupBehind member outside
          have notBelow : id ∉ below := fun inside => apart inside member
          have below' := keeps down notBelow within
          rw [← here other] at below'
          refine ⟨root :: (below ++ front), inBelow, back, by simp, part, fun changed part => ?_⟩
          have whole := Preorder.cons below' (replace changed part)
          simpa using whole

end Preorder

/-- What stands at or below a node is this node and what its pre-order lists below it. -/
theorem WellLinked.atOrAbove_iff_mem (linked : document.WellLinked) {upper lower : NodeId}
    {below : List NodeId} (whole : document.Preorder (document.children upper) below) :
    document.AtOrAbove upper lower ↔ lower ∈ upper :: below := by
  constructor
  · intro above
    induction above with
    | here => exact List.mem_cons_self
    | @above lower parent child _ ih =>
        have listed := (linked.mem_children_iff parent lower).mpr child
        refine List.mem_cons_of_mem upper ?_
        rcases List.mem_cons.mp ih with rfl | inside
        · exact whole.mem_of_mem_roots lower listed
        · exact whole.mem_of_mem_children inside listed
  · intro member
    rcases List.mem_cons.mp member with rfl | inside
    · exact .here
    · have above := linked.mem_ancestors_of_mem_below whole lower inside
      have trail := Trail.cons (linked.trail_ancestors lower)
      obtain ⟨_, same, atOrAbove⟩ :=
        trail.exists_atOrAbove_of_mem (List.mem_cons_of_mem lower above)
      cases same
      exact atOrAbove

/-! ## The ids in order -/

theorem mem_ids_iff {id : NodeId} : id ∈ document.ids ↔ document.Has id := by
  obtain ⟨index⟩ := id
  simp [ids, Has]

theorem ascending_ids (document : Document) : Ascending document.ids :=
  List.pairwise_map.mpr (List.pairwise_lt_range)

theorem nodup_ids (document : Document) : document.ids.Nodup :=
  document.ascending_ids.imp fun first same => absurd (same ▸ first) (Nat.lt_irrefl _)

/-- The only ascending row of all ids is the one in which they stand in order. -/
theorem ascending_iff_eq_ids {row : List NodeId} (all : row.Perm document.ids) :
    Ascending row ↔ row = document.ids := by
  constructor
  · intro ascending
    refine all.eq_of_pairwise (fun first second _ _ below above => ?_) ascending
      document.ascending_ids
    exact absurd below (Nat.lt_asymm above)
  · rintro rfl
    exact document.ascending_ids

theorem getLast?_ids (there : 0 < document.size) :
    document.ids.getLast? = some document.newest := by
  obtain ⟨last, size⟩ := Nat.exists_eq_add_one.mpr there
  rw [ids, newest, size, List.range_succ, List.map_append, List.map_singleton,
    List.getLast?_concat]
  rfl

theorem size_attach (parent child : NodeId) :
    (document.attach parent child).size = document.size := by
  unfold attach
  cases (document.children parent).getLast? <;> simp [size, update]

/-- A new leaf has the greatest id. -/
theorem ids_withLeaf (parent : NodeId) (content : Content) :
    (document.withLeaf parent content).ids = document.ids ++ [document.nextId] := by
  rw [ids, withLeaf, size_attach, size_allocate, List.range_succ, List.map_append]
  rfl

/-! ## A new leaf in the pre-order -/

/-- In a row that repeats nothing, the last item stands in a part exactly if the part is at the
end. -/
theorem mem_iff_eq_nil_of_getLast? {α : Type} {before part behind : List α} {last : α}
    (nodup : (before ++ part ++ behind).Nodup)
    (isLast : (before ++ part ++ behind).getLast? = some last) (nonempty : part ≠ []) :
    last ∈ part ↔ behind = [] := by
  constructor
  · intro member
    rcases List.eq_nil_or_concat behind with rfl | ⟨front, final, rfl⟩
    · rfl
    · rw [List.concat_eq_append, ← List.append_assoc, List.getLast?_concat] at isLast
      cases isLast
      have apart := (List.nodup_append'.mp nodup).2.2
      exact absurd (by simp) (apart (List.mem_append_right before member))
  · rintro rfl
    rw [List.append_nil, List.getLast?_append_of_ne_nil before nonempty] at isLast
    exact List.mem_of_getLast? isLast

/-- **A new leaf comes behind all that lies below its parent.** Where all nodes are listed so far,
all are listed again, and they are listed in order if and only if they have been so far and the
leaf comes below the newest node or a node above this one. -/
theorem WellLinked.exists_preorder_withLeaf (linked : document.WellLinked) {parent : NodeId}
    (old : document.Has parent) (content : Content) {roots row : List NodeId}
    (whole : document.Preorder roots row) (all : row.Perm document.ids) :
    ∃ longer, (document.withLeaf parent content).Preorder roots longer ∧
      longer.Perm (document.withLeaf parent content).ids ∧
      (longer = (document.withLeaf parent content).ids ↔
        row = document.ids ∧ document.AtOrAbove parent document.newest) := by
  have nodup : row.Nodup := all.nodup_iff.mpr document.nodup_ids
  obtain ⟨before, below, behind, rfl, part, replace⟩ :=
    whole.exists_split (document.withLeaf parent content) nodup
      (all.mem_iff.mpr (mem_ids_iff.mpr old))
      fun other _ isOther => by rw [children_withLeaf old, if_neg isOther]
  have leafPart : (document.withLeaf parent content).Preorder
      ((document.withLeaf parent content).children parent) (below ++ [document.nextId]) := by
    have kept := part.of_same_children (document.withLeaf parent content)
      fun other inside => by
        rw [children_withLeaf old, if_neg]
        rintro rfl
        exact linked.notMem_ancestors_self other
          (linked.mem_ancestors_of_mem_below part other inside)
    rw [children_withLeaf old, if_pos rfl]
    refine kept.append (@Preorder.cons _ document.nextId [] [] [] ?_ .nil)
    rw [children_leaf old]
    exact .nil
  have split : before ++ parent :: (below ++ behind) = (before ++ parent :: below) ++ behind := by
    simp
  have splitLonger : before ++ parent :: ((below ++ [document.nextId]) ++ behind) =
      (before ++ parent :: below) ++ document.nextId :: behind := by simp
  rw [split] at all nodup
  refine ⟨_, replace _ leafPart, ?_, ?_⟩ <;> rw [splitLonger, ids_withLeaf]
  · exact List.perm_middle.trans ((all.cons _).trans (List.perm_append_singleton _ _).symm)
  · have isNew : document.nextId ∉ document.ids :=
      fun member => document.not_has_nextId (mem_ids_iff.mp member)
    have last := document.getLast?_ids (Nat.zero_lt_of_lt old)
    rw [split, linked.atOrAbove_iff_mem part, eq_comm,
      List.append_cons_inj_of_notMem isNew List.not_mem_nil]
    constructor
    · rintro ⟨inOrder, -, rfl⟩
      rw [inOrder, ← List.append_nil (before ++ parent :: below)] at last
      refine ⟨by rw [inOrder, List.append_nil], ?_⟩
      exact (mem_iff_eq_nil_of_getLast? nodup last (List.cons_ne_nil _ _)).mpr rfl
    · rintro ⟨inOrder, atOrBelow⟩
      rw [← inOrder] at last
      obtain rfl := (mem_iff_eq_nil_of_getLast? nodup last (List.cons_ne_nil _ _)).mp atOrBelow
      exact ⟨by rw [← inOrder, List.append_nil], rfl, rfl⟩

/-! ## Building along the last branch -/

theorem build_concat (steps : List Growth) (growth : Growth) :
    build (steps ++ [growth]) = build steps >>= fun document => document.grow growth := by
  simp [build]

theorem eachLeaf_concat_iff {relation : Document → NodeId → Prop} {steps : List Growth}
    {growth : Growth} {parent : NodeId} (leaf : growth.leafParent? = some parent)
    (built : build steps = .ok document) :
    EachLeaf relation (steps ++ [growth]) ↔ EachLeaf relation steps ∧ relation document parent := by
  constructor
  · intro each
    refine ⟨fun before other behind parent document split => ?_,
      each steps growth [] parent document rfl leaf built⟩
    exact each before other (behind ++ [growth]) parent document (by simp [split])
  · rintro ⟨each, last⟩ before other behind otherParent beforeDocument split otherLeaf otherBuilt
    rcases List.eq_nil_or_concat behind with rfl | ⟨front, final, rfl⟩
    · obtain ⟨rfl, same⟩ := List.append_inj' split rfl
      cases same
      cases leaf.symm.trans otherLeaf
      cases built.symm.trans otherBuilt
      exact last
    · have split : steps ++ [growth] = (before ++ other :: front) ++ [final] := by simpa using split
      exact each before other front otherParent beforeDocument (List.append_inj' split rfl).1
        otherLeaf otherBuilt

/-- The last of the steps has appended a leaf to what the others have built. -/
theorem exists_of_build_concat {steps : List Growth} {growth : Growth}
    (built : build (steps ++ [growth]) = .ok document) (appends : growth.leafParent? ≠ none) :
    ∃ before parent content, build steps = .ok before ∧ growth.leafParent? = some parent ∧
      before.append parent content = .ok document := by
  rw [build_concat] at built
  cases builtBefore : build steps with
  | error error =>
      rw [builtBefore] at built
      cases built
  | ok before =>
      rw [builtBefore] at built
      cases growth with
      | allocate content => exact absurd rfl appends
      | appendElement parent element => exact ⟨before, parent, .element element, rfl, rfl, built⟩
      | appendText parent text => exact ⟨before, parent, .text text, rfl, rfl, built⟩
      | appendChild parent child => exact absurd rfl appends

theorem Preorder.notMem_of_mem_children_self {roots row : List NodeId}
    (whole : document.Preorder roots row) {id : NodeId} (loop : id ∈ document.children id) :
    id ∉ row := by
  induction whole with
  | nil => exact List.not_mem_nil
  | @cons root later below behind down _ inner outer =>
      intro member
      rcases List.mem_cons.mp member with rfl | member
      · exact inner (down.mem_of_mem_roots id loop)
      · rcases List.mem_append.mp member with inside | outside
        · exact inner inside
        · exact outer outside

/-- A leaf can be appended to nothing but a node that is there and itself. In the second case it
comes to stand among its own children. -/
theorem has_or_mem_children_self {parent : NodeId} {content : Content}
    (appended : document.append parent content = .ok next) :
    document.Has parent ∨ parent ∈ next.children parent := by
  obtain ⟨hasParent, -, -, rfl⟩ := appendChild_eq_ok_iff.mp appended
  by_cases old : document.Has parent
  · exact .inl old
  · have isNew : parent = document.nextId := by
      rw [Has, size_allocate] at hasParent
      exact congrArg NodeId.mk (Nat.eq_of_lt_succ_of_not_lt hasParent old)
    refine .inr ?_
    rw [children_attach parent hasParent, if_pos rfl, isNew]
    exact List.mem_concat_self

/-- A node that stands among its own children does so for good. -/
theorem mem_children_append {parent id other : NodeId} {content : Content}
    (appended : document.append parent content = .ok next) (listed : other ∈ document.children id) :
    other ∈ next.children id := by
  obtain ⟨hasParent, -, -, rfl⟩ := appendChild_eq_ok_iff.mp appended
  refine (children_prefix_attach id hasParent).subset ?_
  rwa [children_allocate]

/-- **Building along the last branch is building in document order.** Either each leaf has come
under a node that was there. Then the pre-order of the root lists all nodes, and it does so in
the order of their ids exactly if each leaf has come on the last branch. Or a leaf has come
under itself, and this was not on the last branch. -/
theorem exists_preorder_or_loop {steps : List Growth} (built : build steps = .ok document)
    (appends : ∀ growth ∈ steps, growth.leafParent? ≠ none) :
    (EachLeaf Has steps ∧ document.Grown ∧ ∃ row, document.Preorder [root] row ∧
      row.Perm document.ids ∧ (row = document.ids ↔ OnLastBranch steps)) ∨
    (¬ EachLeaf Has steps ∧ ¬ OnLastBranch steps ∧ ∃ id, id ∈ document.children id) := by
  induction steps using List.reverseRecOn generalizing document with
  | nil =>
      cases built
      have nothing {relation : Document → NodeId → Prop} : EachLeaf relation [] := by
        intro before growth behind parent document split
        simp at split
      have alone : Document.new.Preorder [root] [root] := @Preorder.cons _ root [] [] [] .nil .nil
      exact .inl ⟨nothing, .new, [root], alone, .refl _, fun _ => nothing, fun _ => rfl⟩
  | append_singleton steps growth ih =>
      obtain ⟨appendsBefore, appendsLast⟩ := List.forall_mem_append.mp appends
      obtain ⟨before, parent, content, builtBefore, leaf, appended⟩ :=
        exists_of_build_concat built (appendsLast growth List.mem_cons_self)
      rw [OnLastBranch, eachLeaf_concat_iff leaf builtBefore, eachLeaf_concat_iff leaf builtBefore]
      rcases ih builtBefore appendsBefore with
        ⟨known, grown, row, whole, all, ordered⟩ | ⟨unknown, offBranch, id, loop⟩
      · by_cases old : before.Has parent
        · have linked := grown.wellLinked
          cases appended.symm.trans (linked.append_eq_ok old content)
          obtain ⟨longer, wholeLonger, allLonger, orderedLonger⟩ :=
            linked.exists_preorder_withLeaf old content whole all
          refine .inl ⟨⟨known, old⟩, grown.append old content, longer, wholeLonger, allLonger, ?_⟩
          rw [orderedLonger, ordered]
          rfl
        · refine .inr ⟨fun each => old each.2, fun each => old ?_, parent,
            (has_or_mem_children_self appended).resolve_left old⟩
          rcases each.2.eq_or_exists_child with rfl | ⟨child, above⟩
          · exact mem_ids_iff.mp (List.mem_of_getLast? (before.getLast?_ids grown.has_root))
          · exact has_of_mem_children ((grown.wellLinked.mem_children_iff parent child).mpr above)
      · exact .inr ⟨fun each => unknown each.1, fun each => offBranch each.1, id,
          mem_children_append appended loop⟩

end Document

end TreeSelector
