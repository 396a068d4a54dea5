import Mathlib.Data.List.Nodup
import TreeSelector.Proofs.Document.Growth

/-!
# The links of a grown document

The nodes of a document are linked three times over: by their parents, by the lists
of children and by the siblings next to them. In a document that has grown by
admitted steps the three agree, and no node stands above itself
(`Document.WellLinked`, `Document.Grown.wellLinked`).

Most of this is a matter of looking at the nodes that a step writes to. That no
node comes to stand above itself is seen from the trail that leads upwards from it
(`Document.Trail`): where a child is attached, the trail of the child becomes that of
the new parent, which does not come across the child. A trail that comes to an end
repeats no node, since behind a node it goes on in one way only (`Document.Trail.nodup`).
-/

set_option autoImplicit false

namespace TreeSelector

namespace Document

variable {document : Document}

/-! ## Trails -/

/-- The nodes along a link until there is no further one. -/
inductive Trail (document : Document) (link : Link) : Option NodeId → List NodeId → Prop where
  | nil : Trail document link none []
  | cons {id : NodeId} {later : List NodeId}
      (rest : Trail document link (document.linked link id) later) :
      Trail document link (some id) (id :: later)

namespace Trail

variable {link : Link} {start : Option NodeId} {trail : List NodeId}

/-- There is only one trail. -/
theorem unique {other : List NodeId} (first : document.Trail link start trail)
    (second : document.Trail link start other) : trail = other := by
  induction first generalizing other with
  | nil => cases second; rfl
  | @cons id later _ ih =>
      cases second with
      | cons rest => rw [ih rest]

theorem of_same_links {next : Document}
    (same : ∀ id, next.linked link id = document.linked link id)
    (whole : document.Trail link start trail) : next.Trail link start trail := by
  induction whole with
  | nil => exact .nil
  | @cons id later _ ih => exact .cons (by rw [same id]; exact ih)

/-- The trail from a node on the trail is what is left of it. -/
theorem of_append {before behind : List NodeId} {id : NodeId}
    (whole : document.Trail link start (before ++ id :: behind)) :
    document.Trail link (some id) (id :: behind) := by
  induction before generalizing start with
  | nil =>
      cases whole with
      | cons rest => exact .cons rest
  | cons _ before ih =>
      cases whole with
      | cons rest => exact ih rest

/-- **A trail that comes to an end repeats no node.** -/
theorem nodup (whole : document.Trail link start trail) : trail.Nodup := by
  induction whole with
  | nil => exact List.nodup_nil
  | @cons id later rest ih =>
      refine List.nodup_cons.mpr ⟨fun again => ?_, ih⟩
      obtain ⟨before, behind, rfl⟩ := List.append_of_mem again
      have same := (Trail.cons rest).unique rest.of_append
      have length := congrArg List.length same
      simp at length
      omega

/-- A walk takes the front of the trail that the bound admits. -/
theorem follow_eq_take (whole : document.Trail link start trail) (bound : Nat) :
    document.follow link bound start = trail.take bound := by
  induction whole generalizing bound with
  | nil => cases bound <;> rfl
  | @cons id later _ ih =>
      cases bound with
      | zero => rfl
      | succ bound => rw [follow, ih bound, List.take_succ_cons]

/-- A walk that is long enough takes the whole trail. -/
theorem follow_eq (whole : document.Trail link start trail) {bound : Nat}
    (enough : trail.length ≤ bound) : document.follow link bound start = trail := by
  rw [whole.follow_eq_take, List.take_of_length_le enough]

/-- The nodes on a trail upwards stand at or above the one that it starts from. -/
theorem exists_atOrAbove_of_mem {upper : NodeId} (whole : document.Trail .parent start trail)
    (member : upper ∈ trail) : ∃ lower, start = some lower ∧ document.AtOrAbove upper lower := by
  induction whole with
  | nil => cases member
  | @cons id later rest ih =>
      rcases List.mem_cons.mp member with rfl | member
      · exact ⟨_, rfl, .here⟩
      · obtain ⟨parent, linked, above⟩ := ih member
        exact ⟨id, rfl, .above linked above⟩

end Trail

/-! ## Well-linked documents -/

/-- Parents, lists of children and siblings agree, and upwards from every node there
is an end. -/
structure WellLinked (document : Document) : Prop where
  mem_children_iff : ∀ parent child,
    child ∈ document.children parent ↔ document.parent? child = some parent
  nodup_children : ∀ parent, (document.children parent).Nodup
  firstChild : ∀ parent, document.firstChild? parent = (document.children parent).head?
  next : ∀ parent before child behind, document.children parent = before ++ child :: behind →
    document.next? child = behind.head?
  previous : ∀ parent before child behind, document.children parent = before ++ child :: behind →
    document.previous? child = before.getLast?
  alone : ∀ id, document.parent? id = none →
    document.next? id = none ∧ document.previous? id = none
  chain : ∀ id, ∃ above, document.Trail .parent (some id) (id :: above) ∧ (id :: above).Nodup

/-! ## Nodes that are linked are there -/

theorem has_of_parent?_eq_some {id parent : NodeId} (linked : document.parent? id = some parent) :
    document.Has id := by
  obtain ⟨node, found, -⟩ := Option.bind_eq_some_iff.mp linked
  exact has_iff_exists_get?.mpr ⟨node, found⟩

/-- A node that is not there has no links. -/
theorem linked_eq_none_of_not_has {id : NodeId} (absent : ¬ document.Has id) (link : Link) :
    document.linked link id = none := by
  have unknown : document.get? id = none := get?_eq_none_iff.mpr absent
  cases link <;> simp only [linked, parent?, previous?, next?, unknown] <;> rfl

theorem has_of_mem_children {parent child : NodeId} (listed : child ∈ document.children parent) :
    document.Has parent := by
  cases found : document.get? parent with
  | none => simp [children, found] at listed
  | some node => exact has_iff_exists_get?.mpr ⟨node, found⟩

theorem children_eq_nil_of_not_has {id : NodeId} (absent : ¬ document.Has id) :
    document.children id = [] :=
  List.eq_nil_iff_forall_not_mem.mpr fun _ listed => absent (has_of_mem_children listed)

namespace WellLinked

/-- The children of a node are there. -/
theorem has_child (linked : document.WellLinked) {parent child : NodeId}
    (listed : child ∈ document.children parent) : document.Has child :=
  has_of_parent?_eq_some ((linked.mem_children_iff parent child).mp listed)

theorem has_last (linked : document.WellLinked) (parent : NodeId) :
    ∀ last ∈ (document.children parent).getLast?, document.Has last :=
  fun _ isLast => linked.has_child (List.mem_of_getLast? isLast)

/-! ## Links behind a step -/

theorem new : Document.new.WellLinked where
  mem_children_iff parent id := by
    have top : Document.new.parent? id = none := linked_new .parent id
    simp [children_new, top]
  nodup_children := by simp [children_new]
  firstChild := by simp [Document.firstChild?, children_new]
  next := by simp [children_new]
  previous := by simp [children_new]
  alone id _ := ⟨linked_new .next id, linked_new .previous id⟩
  chain id := ⟨[], .cons (by rw [linked_new]; exact .nil), by simp⟩

/-- A node that is allocated is not linked. -/
theorem allocate (linked : document.WellLinked) (content : Content) :
    (document.allocate content).WellLinked := by
  have chain (id : NodeId) : ∃ above, (document.allocate content).Trail .parent (some id)
      (id :: above) ∧ (id :: above).Nodup := by
    obtain ⟨above, trail, nodup⟩ := linked.chain id
    exact ⟨above, trail.of_same_links (linked_allocate document content .parent), nodup⟩
  refine ⟨?_, ?_, ?_, ?_, ?_, ?_, chain⟩
  all_goals
    simp only [firstChild?, children_allocate, parent?_allocate, next?_allocate, previous?_allocate]
  · exact linked.mem_children_iff
  · exact linked.nodup_children
  · exact fun _ => trivial
  · exact linked.next
  · exact linked.previous
  · exact linked.alone

/-! ### Attaching a child -/

/-- A node that is not attached is in no list of children. -/
theorem notMem_children_of_free (linked : document.WellLinked) {id : NodeId}
    (free : document.parent? id = none) (parent : NodeId) : id ∉ document.children parent := by
  intro listed
  rw [linked.mem_children_iff, free] at listed
  cases listed

/-- A node has one parent. -/
theorem parent_unique (linked : document.WellLinked) {first second id : NodeId}
    (listed : id ∈ document.children first) (again : id ∈ document.children second) :
    first = second := by
  have ofFirst := (linked.mem_children_iff first id).mp listed
  have ofSecond := (linked.mem_children_iff second id).mp again
  exact Option.some.inj (ofFirst.symm.trans ofSecond)

section Attach

variable {parent child : NodeId} (linked : document.WellLinked)
  (attaches : document.Attaches parent child)
include linked attaches

theorem mem_children_attach_iff (other id : NodeId) :
    id ∈ (document.attach parent child).children other ↔
      (document.attach parent child).parent? id = some other := by
  rw [children_attach other attaches.has_parent, parent?_attach id attaches.has_child]
  have known := linked.mem_children_iff other id
  by_cases isChild : id = child
  · subst isChild
    have absent := linked.notMem_children_of_free attaches.free other
    by_cases isParent : other = parent
    · simp [isParent]
    · simp [isParent, absent, Ne.symm isParent]
  · by_cases isParent : other = parent
    · subst isParent
      simp [isChild, known]
    · simp [isParent, isChild, known]

theorem nodup_children_attach (other : NodeId) :
    ((document.attach parent child).children other).Nodup := by
  rw [children_attach other attaches.has_parent]
  split
  · rw [← List.concat_eq_append]
    exact (linked.nodup_children other).concat (linked.notMem_children_of_free attaches.free other)
  · exact linked.nodup_children other

omit linked in
/-- A node in a list of children is the new child, or has the siblings that it had, where
the new child has come behind the children of its parent. -/
theorem siblings_attach {other id : NodeId} {before behind : List NodeId}
    (siblings : (document.attach parent child).children other = before ++ id :: behind) :
    (id = child ∧ document.children parent = before ∧ behind = []) ∨
      ∃ old, document.children other = before ++ id :: old ∧
        behind = if other = parent then old ++ [child] else old := by
  rw [children_attach other attaches.has_parent] at siblings
  by_cases isParent : other = parent
  · subst isParent
    rw [if_pos rfl] at siblings
    rcases List.eq_nil_or_concat behind with rfl | ⟨old, last, rfl⟩
    · obtain ⟨same, isChild⟩ := List.append_inj' siblings rfl
      exact .inl ⟨(List.singleton_inj.mp isChild).symm, same, rfl⟩
    · rw [List.concat_eq_append, ← List.cons_append, ← List.append_assoc] at siblings
      obtain ⟨same, isChild⟩ := List.append_inj' siblings rfl
      exact .inr ⟨old, same, by simp [List.singleton_inj.mp isChild]⟩
  · rw [if_neg isParent] at siblings
    exact .inr ⟨behind, siblings, (if_neg isParent).symm⟩

/-- The last child of the parent is the one with nothing behind it. -/
theorem getLast?_children_eq_some_iff {other id : NodeId} {before old : List NodeId}
    (siblings : document.children other = before ++ id :: old) :
    (document.children parent).getLast? = some id ↔ other = parent ∧ old = [] := by
  have listed : id ∈ document.children other := by rw [siblings]; simp
  constructor
  · intro isLast
    obtain rfl := linked.parent_unique listed (List.mem_of_getLast? isLast)
    refine ⟨rfl, ?_⟩
    have nodup := linked.nodup_children other
    rw [siblings, List.nodup_append, List.nodup_cons] at nodup
    rcases List.eq_nil_or_concat old with none | ⟨init, last, rfl⟩
    · exact none
    · rw [siblings, List.concat_eq_append, ← List.cons_append, ← List.append_assoc,
        List.getLast?_concat] at isLast
      exact absurd (by simp [Option.some.inj isLast]) nodup.2.1.1
  · rintro ⟨rfl, rfl⟩
    rw [siblings]
    simp

/-- The sibling behind a node. -/
theorem next?_attach_of_siblings {other id : NodeId} {before behind : List NodeId}
    (siblings : (document.attach parent child).children other = before ++ id :: behind) :
    (document.attach parent child).next? id = behind.head? := by
  rw [next?_attach id (linked.has_last parent)]
  obtain ⟨rfl, -, rfl⟩ | ⟨old, known, rfl⟩ := siblings_attach attaches siblings
  · have absent := linked.notMem_children_of_free attaches.free parent
    rw [if_neg (fun isLast => absent (List.mem_of_getLast? isLast))]
    exact (linked.alone id attaches.free).1
  · rw [linked.next other before id old known]
    have isLast := linked.getLast?_children_eq_some_iff attaches known
    by_cases isParent : other = parent
    · cases old with
      | nil => rw [if_pos (isLast.mpr ⟨isParent, rfl⟩), if_pos isParent]; rfl
      | cons next later =>
          rw [if_neg (fun last => List.cons_ne_nil next later (isLast.mp last).2), if_pos isParent]
          rfl
    · rw [if_neg (fun last => isParent (isLast.mp last).1), if_neg isParent]

/-- The sibling before a node. -/
theorem previous?_attach_of_siblings {other id : NodeId} {before behind : List NodeId}
    (siblings : (document.attach parent child).children other = before ++ id :: behind) :
    (document.attach parent child).previous? id = before.getLast? := by
  rw [previous?_attach id attaches.has_child]
  obtain ⟨rfl, same, -⟩ | ⟨old, known, rfl⟩ := siblings_attach attaches siblings
  · rw [if_pos rfl, same]
  · have notChild : id ≠ child := by
      rintro rfl
      exact linked.notMem_children_of_free attaches.free other (by rw [known]; simp)
    rw [if_neg notChild]
    exact linked.previous other before id old known

theorem alone_attach {id : NodeId} (top : (document.attach parent child).parent? id = none) :
    (document.attach parent child).next? id = none ∧
      (document.attach parent child).previous? id = none := by
  rw [parent?_attach id attaches.has_child] at top
  have other : id ≠ child := by
    rintro rfl
    rw [if_pos rfl] at top
    cases top
  rw [if_neg other] at top
  have notLast : (document.children parent).getLast? ≠ some id := fun isLast =>
    linked.notMem_children_of_free top parent (List.mem_of_getLast? isLast)
  rw [next?_attach id (linked.has_last parent), previous?_attach id attaches.has_child,
    if_neg other, if_neg notLast]
  exact linked.alone id top

omit linked in
/-- A trail upwards that does not come across the child stays as it is. -/
theorem trail_attach_of_notMem {start : Option NodeId} {trail : List NodeId}
    (whole : document.Trail .parent start trail) (absent : child ∉ trail) :
    (document.attach parent child).Trail .parent start trail := by
  induction whole with
  | nil => exact .nil
  | @cons id later rest ih =>
      obtain ⟨other, absent⟩ := List.ne_and_not_mem_of_not_mem_cons absent
      have same : (document.attach parent child).linked .parent id = document.linked .parent id :=
        (parent?_attach id attaches.has_child).trans (if_neg (Ne.symm other))
      refine .cons ?_
      rw [same]
      exact ih absent

/-- Upwards from every node there is still an end. -/
theorem exists_trail_attach {start : Option NodeId} {trail : List NodeId}
    (whole : document.Trail .parent start trail) :
    ∃ upwards, (document.attach parent child).Trail .parent start upwards := by
  induction whole with
  | nil => exact ⟨[], .nil⟩
  | @cons id later rest ih =>
      have step : (document.attach parent child).linked .parent id =
          if id = child then some parent else document.parent? id :=
        parent?_attach id attaches.has_child
      by_cases isChild : id = child
      · -- The trail goes on as that of the parent, which does not come across the child.
        obtain ⟨above, trail, -⟩ := linked.chain parent
        have absent : child ∉ parent :: above := by
          intro member
          obtain ⟨lower, same, below⟩ := trail.exists_atOrAbove_of_mem member
          cases same
          exact attaches.apart below
        refine ⟨id :: parent :: above, .cons ?_⟩
        rw [step, if_pos isChild]
        exact trail_attach_of_notMem attaches trail absent
      · obtain ⟨upwards, trail⟩ := ih
        refine ⟨id :: upwards, .cons ?_⟩
        rw [step, if_neg isChild]
        exact trail

/-- **Attaching keeps the links in agreement.** -/
theorem attach : (document.attach parent child).WellLinked where
  mem_children_iff := linked.mem_children_attach_iff attaches
  nodup_children := linked.nodup_children_attach attaches
  firstChild _ := rfl
  next _ _ _ _ := linked.next?_attach_of_siblings attaches
  previous _ _ _ _ := linked.previous?_attach_of_siblings attaches
  alone _ := linked.alone_attach attaches
  chain id := by
    obtain ⟨above, trail, -⟩ := linked.chain id
    obtain ⟨upwards, trail⟩ := linked.exists_trail_attach attaches trail
    cases trail with
    | cons rest => exact ⟨_, .cons rest, (Trail.cons rest).nodup⟩

end Attach

/-! ### Appending a new node -/

/-- A new node may be attached to any node that is there. -/
theorem attaches_nextId (linked : document.WellLinked) {parent : NodeId}
    (old : document.Has parent) (content : Content) :
    (document.allocate content).Attaches parent document.nextId := by
  have unlinked : document.parent? document.nextId = none := by rw [parent?, get?_nextId]; rfl
  refine ⟨has_allocate old content, has_nextId_allocate document content, ?_, ?_⟩
  · exact (parent?_allocate document content document.nextId).trans unlinked
  · intro above
    rcases above.eq_or_exists_child with rfl | ⟨child, below⟩
    · exact Nat.lt_irrefl _ old
    · have known : document.parent? child = some document.nextId :=
        (parent?_allocate document content child).symm.trans below
      have listed := (linked.mem_children_iff document.nextId child).mpr known
      exact Nat.lt_irrefl _ (has_of_mem_children listed)

/-- Appending a child that may be attached succeeds. -/
theorem appendChild_eq_ok (linked : document.WellLinked) {parent child : NodeId}
    (attaches : document.Attaches parent child) :
    document.appendChild parent child = .ok (document.attach parent child) :=
  appendChild_eq_ok_iff.mpr
    ⟨attaches.has_parent, attaches.has_child, linked.has_last parent, rfl⟩

/-- Appending a new node to one that is there succeeds. -/
theorem append_eq_ok (linked : document.WellLinked) {parent : NodeId}
    (old : document.Has parent) (content : Content) :
    document.append parent content = .ok (document.withLeaf parent content) :=
  (linked.allocate content).appendChild_eq_ok (linked.attaches_nextId old content)

theorem withLeaf (linked : document.WellLinked) {parent : NodeId} (old : document.Has parent)
    (content : Content) : (document.withLeaf parent content).WellLinked :=
  (linked.allocate content).attach (linked.attaches_nextId old content)

/-- **An admitted step succeeds**, and keeps the links in agreement. -/
theorem exists_grow_eq_ok (linked : document.WellLinked) {growth : Growth}
    (admitted : document.Admits growth) :
    ∃ next, document.grow growth = .ok next ∧ next.WellLinked := by
  have append {parent : NodeId} (old : document.Has parent) (content : Content) :
      ∃ next, document.append parent content = .ok next ∧ next.WellLinked :=
    ⟨_, linked.append_eq_ok old content, linked.withLeaf old content⟩
  cases growth with
  | allocate content => exact ⟨_, rfl, linked.allocate content⟩
  | appendElement parent element => exact append admitted (.element element)
  | appendText parent text => exact append admitted (.text text)
  | appendChild parent child => exact ⟨_, linked.appendChild_eq_ok admitted, linked.attach admitted⟩

end WellLinked

/-! ## Grown documents -/

namespace Grown

/-- **In a grown document the links agree.** -/
theorem wellLinked (grown : document.Grown) : document.WellLinked := by
  induction grown with
  | new => exact .new
  | step growth _ admitted grew linked =>
      obtain ⟨reached, same, linkedNext⟩ := linked.exists_grow_eq_ok admitted
      rw [grew] at same
      cases same
      exact linkedNext

/-- A document stays grown when a new node is appended to one that is there. -/
theorem append (grown : document.Grown) {parent : NodeId} (old : document.Has parent)
    (content : Content) : (document.withLeaf parent content).Grown := by
  have allocated : (document.allocate content).Grown :=
    .step (.allocate content) grown trivial rfl
  have attaches := grown.wellLinked.attaches_nextId old content
  exact .step (.appendChild parent document.nextId) allocated attaches
    (allocated.wellLinked.appendChild_eq_ok attaches)

/-- **In every grown document the links agree, and every admitted step succeeds.** -/
theorem wellLinked_and_exists_grow (grown : document.Grown) :
    document.WellLinked ∧
      ∀ growth, document.Admits growth → ∃ next, document.grow growth = .ok next := by
  have linked := grown.wellLinked
  refine ⟨linked, fun growth admitted => ?_⟩
  obtain ⟨next, grew, -⟩ := linked.exists_grow_eq_ok admitted
  exact ⟨next, grew⟩

/-- A text is appended to a new element, and then the root of the document. -/
theorem wellLinked_and_exists_grow_of_attached_root :
    ∃ document : Document, document.children ⟨1⟩ = [⟨2⟩, root] ∧ document.Grown ∧
      document.WellLinked ∧
        ∀ growth, document.Admits growth → ∃ next, document.grow growth = .ok next := by
  have allocated : Grown (Document.new.allocate (.element ⟨"a", []⟩)) :=
    .step (.allocate (.element ⟨"a", []⟩)) .new trivial rfl
  have appended : Grown ⟨#[⟨.document, none, [], none, none⟩,
      ⟨.element ⟨"a", []⟩, none, [⟨2⟩], none, none⟩, ⟨.text "b", some ⟨1⟩, [], none, none⟩]⟩ :=
    .step (.appendText ⟨1⟩ "b") allocated (show Has _ _ by decide) rfl
  have attached : Grown ⟨#[⟨.document, some ⟨1⟩, [], none, some ⟨2⟩⟩,
      ⟨.element ⟨"a", []⟩, none, [⟨2⟩, root], none, none⟩,
      ⟨.text "b", some ⟨1⟩, [], some root, none⟩]⟩ := by
    refine .step (.appendChild ⟨1⟩ root) appended ⟨by decide, by decide, rfl, ?_⟩ rfl
    intro above
    cases above with
    | above linked => cases linked
  exact ⟨_, rfl, attached, attached.wellLinked_and_exists_grow⟩

end Grown

end Document

end TreeSelector
