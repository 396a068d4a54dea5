import TreeSelector.Document.Walk

/-!
# How documents grow

A document grows by single steps (`Growth`): a node is allocated, a new element or
text is appended, or a node that is there is made the last child of another. The
last step asks for care. A node that is attached already, or that stands above its
new parent, would leave the links of the document at odds with each other. The
steps that give no such trouble are admitted (`Document.Admits`), and the documents
that they lead to are the grown ones (`Document.Grown`).

What a step does to the nodes is said once, for all of them
(`Document.get?_allocate`, `Document.get?_attach`), and from this for each
kind of link.
-/

set_option autoImplicit false

namespace TreeSelector

/-- A step in the growth of a document. -/
inductive Growth where
  | allocate (content : Content)
  | appendElement (parent : NodeId) (element : ElementData)
  | appendText (parent : NodeId) (text : String)
  | appendChild (parent child : NodeId)
  deriving DecidableEq, Repr

namespace Document

/-- The document behind a step. -/
def grow (document : Document) : Growth → Except OutOfRange Document
  | .allocate content => .ok (document.allocate content)
  | .appendElement parent element => document.appendElement parent element
  | .appendText parent text => document.appendText parent text
  | .appendChild parent child => document.appendChild parent child

/-- There is a node with the id. -/
def Has (document : Document) (id : NodeId) : Prop :=
  id.index < document.size

instance (document : Document) (id : NodeId) : Decidable (document.Has id) :=
  inferInstanceAs (Decidable (id.index < document.size))

/-- The first node is the second one, or the parent of this one, and so on. -/
inductive AtOrAbove (document : Document) (upper : NodeId) : NodeId → Prop where
  | here : AtOrAbove document upper upper
  | above {lower parent : NodeId} (linked : document.parent? lower = some parent)
      (rest : AtOrAbove document upper parent) : AtOrAbove document upper lower

/-- A child may be attached to a parent: both are there, and the child is not attached
yet and does not stand at or above the parent. -/
structure Attaches (document : Document) (parent child : NodeId) : Prop where
  has_parent : document.Has parent
  has_child : document.Has child
  free : document.parent? child = none
  apart : ¬ document.AtOrAbove child parent

/-- The step is about nodes that are there, and attaches only what may be attached. -/
def Admits (document : Document) : Growth → Prop
  | .allocate _ => True
  | .appendElement parent _ => document.Has parent
  | .appendText parent _ => document.Has parent
  | .appendChild parent child => document.Attaches parent child

/-- The documents that grow from a root alone by admitted steps. -/
inductive Grown : Document → Prop where
  | new : Grown new
  | step {document next : Document} (growth : Growth) (grown : Grown document)
      (admitted : document.Admits growth) (grew : document.grow growth = .ok next) : Grown next

variable {document next : Document}

/-- Above a node stands only what is the parent of some node. -/
theorem AtOrAbove.eq_or_exists_child {upper lower : NodeId}
    (above : document.AtOrAbove upper lower) :
    upper = lower ∨ ∃ child, document.parent? child = some upper := by
  induction above with
  | here => exact .inl rfl
  | @above lower parent linked _ ih =>
      rcases ih with rfl | further
      · exact .inr ⟨lower, linked⟩
      · exact .inr further

/-! ## The nodes behind a step -/

theorem has_iff_exists_get? {id : NodeId} :
    document.Has id ↔ ∃ node, document.get? id = some node := by
  rw [← Option.isSome_iff_exists, get?, isSome_getElem?]
  rfl

theorem get?_eq_none_iff {id : NodeId} : document.get? id = none ↔ ¬ document.Has id := by
  rw [has_iff_exists_get?, ← Option.isSome_iff_exists, Option.not_isSome_iff_eq_none]

theorem get?_allocate (document : Document) (content : Content) (id : NodeId) :
    (document.allocate content).get? id =
      if id = document.nextId then some (Node.detached content) else document.get? id := by
  obtain ⟨index⟩ := id
  simp only [get?, allocate, nextId, size, NodeId.mk.injEq]
  exact Array.getElem?_push

theorem size_allocate (document : Document) (content : Content) :
    (document.allocate content).size = document.size + 1 :=
  Array.size_push _

theorem get?_update (document : Document) (target : NodeId) (change : Node → Node) (id : NodeId) :
    (document.update target change).get? id =
      if id = target then (document.get? id).map change else document.get? id := by
  obtain ⟨index⟩ := id
  obtain ⟨place⟩ := target
  simp only [get?, update, NodeId.mk.injEq, Array.getElem?_modify, eq_comm]

/-- What a node becomes when a child is appended to a parent. -/
def relinked (document : Document) (parent child id : NodeId) (node : Node) : Node where
  content := node.content
  parent := if id = child then some parent else node.parent
  children := if id = parent then node.children ++ [child] else node.children
  next := if (document.children parent).getLast? = some id then some child else node.next
  previous := if id = child then (document.children parent).getLast? else node.previous

/-- The document with a child appended, where all nodes that are written to are there. -/
def attach (document : Document) (parent child : NodeId) : Document :=
  let attached := (document.update parent fun node =>
      { node with children := node.children ++ [child] }).update child fun node =>
      { node with parent := some parent, previous := (document.children parent).getLast? }
  match (document.children parent).getLast? with
  | none => attached
  | some last => attached.update last fun node => { node with next := some child }

/-- The document with a new node as the last child of a parent. -/
def withLeaf (document : Document) (parent : NodeId) (content : Content) : Document :=
  (document.allocate content).attach parent document.nextId

theorem get?_attach (parent child id : NodeId) :
    (document.attach parent child).get? id =
      (document.get? id).map (document.relinked parent child id) := by
  unfold attach relinked
  cases (document.children parent).getLast? with
  | none =>
      simp only [get?_update]
      cases document.get? id with
      | none => simp
      | some node => by_cases isChild : id = child <;> by_cases isParent : id = parent <;> simp_all
  | some last =>
      simp only [get?_update, Option.some.injEq, @eq_comm NodeId last]
      cases document.get? id with
      | none => simp
      | some node =>
          by_cases isLast : id = last <;> by_cases isChild : id = child <;>
            by_cases isParent : id = parent <;> simp_all

/-- **When appending succeeds, and what it leads to.** -/
theorem appendChild_eq_ok_iff {parent child : NodeId} :
    document.appendChild parent child = .ok next ↔
      document.Has parent ∧ document.Has child ∧
        (∀ last ∈ (document.children parent).getLast?, document.Has last) ∧
          document.attach parent child = next := by
  unfold appendChild attach
  cases found : document.get? parent with
  | none => simp [get?_eq_none_iff.mp found]
  | some node =>
      have hasParent : document.Has parent := has_iff_exists_get?.mpr ⟨node, found⟩
      have children : document.children parent = node.children := by simp [Document.children, found]
      rw [children]
      by_cases hasChild : document.Has child
      · simp only [if_pos (show child.index < document.size from hasChild), hasParent, hasChild]
        cases last : node.children.getLast? with
        | none => simp
        | some last' => by_cases hasLast : last'.index < document.size <;> simp [Has, hasLast]
      · simp [if_neg (show ¬ child.index < document.size from hasChild), hasChild]

/-! ## The links behind a step -/

/-- There is no node yet at the id of the next one. -/
theorem get?_nextId (document : Document) : document.get? document.nextId = none :=
  get?_eq_none_iff.mpr (Nat.lt_irrefl document.size)

/-- A new node is not linked, and the links of the others stay. -/
theorem linked_allocate (document : Document) (content : Content) (link : Link) (id : NodeId) :
    (document.allocate content).linked link id = document.linked link id := by
  have unlinked {field : Node → Option NodeId} (none : field (Node.detached content) = none) :
      ((document.allocate content).get? id >>= field) = (document.get? id >>= field) := by
    rw [get?_allocate]
    split
    · rename_i isNew
      rw [isNew, get?_nextId]
      exact none
    · rfl
  cases link <;> exact unlinked rfl

theorem children_allocate (document : Document) (content : Content) (id : NodeId) :
    (document.allocate content).children id = document.children id := by
  rw [children, children, get?_allocate]
  split
  · rename_i isNew
    rw [isNew, get?_nextId]
    rfl
  · rfl

theorem parent?_allocate (document : Document) (content : Content) (id : NodeId) :
    (document.allocate content).parent? id = document.parent? id :=
  linked_allocate document content .parent id

theorem next?_allocate (document : Document) (content : Content) (id : NodeId) :
    (document.allocate content).next? id = document.next? id :=
  linked_allocate document content .next id

theorem previous?_allocate (document : Document) (content : Content) (id : NodeId) :
    (document.allocate content).previous? id = document.previous? id :=
  linked_allocate document content .previous id

/-- A root alone is not linked. -/
theorem linked_new (link : Link) (id : NodeId) : new.linked link id = none := by
  obtain ⟨_ | index⟩ := id <;> cases link <;> rfl

theorem children_new (id : NodeId) : new.children id = [] := by
  obtain ⟨_ | index⟩ := id <;> rfl

section Attach

variable {parent child : NodeId} (id : NodeId)

theorem parent?_attach (hasChild : document.Has child) :
    (document.attach parent child).parent? id =
      if id = child then some parent else document.parent? id := by
  rw [parent?, parent?, get?_attach]
  split
  · rename_i isChild
    obtain ⟨node, found⟩ := has_iff_exists_get?.mp hasChild
    simp [isChild, found, relinked]
  · rename_i other
    cases document.get? id <;> simp [relinked, other]

theorem children_attach (hasParent : document.Has parent) :
    (document.attach parent child).children id =
      if id = parent then document.children id ++ [child] else document.children id := by
  rw [children, children, get?_attach]
  split
  · rename_i isParent
    obtain ⟨node, found⟩ := has_iff_exists_get?.mp hasParent
    simp [isParent, found, relinked]
  · rename_i other
    cases document.get? id <;> simp [relinked, other]

/-- A list of children keeps its items, and they stay at its front. -/
theorem children_prefix_attach (hasParent : document.Has parent) :
    document.children id <+: (document.attach parent child).children id := by
  rw [children_attach id hasParent]
  split
  · exact List.prefix_append _ _
  · exact List.prefix_rfl

theorem next?_attach (hasLast : ∀ last ∈ (document.children parent).getLast?, document.Has last) :
    (document.attach parent child).next? id =
      if (document.children parent).getLast? = some id then some child else document.next? id := by
  rw [next?, next?, get?_attach]
  split
  · rename_i isLast
    obtain ⟨node, found⟩ := has_iff_exists_get?.mp (hasLast id isLast)
    simp [isLast, found, relinked]
  · rename_i other
    cases document.get? id <;> simp [relinked, other]

theorem previous?_attach (hasChild : document.Has child) :
    (document.attach parent child).previous? id =
      if id = child then (document.children parent).getLast? else document.previous? id := by
  rw [previous?, previous?, get?_attach]
  split
  · rename_i isChild
    obtain ⟨node, found⟩ := has_iff_exists_get?.mp hasChild
    simp [isChild, found, relinked]
  · rename_i other
    cases document.get? id <;> simp [relinked, other]

end Attach

/-! ## The nodes that are there -/

theorem has_allocate {id : NodeId} (there : document.Has id) (content : Content) :
    (document.allocate content).Has id := by
  rw [Has, size_allocate]
  exact Nat.lt_succ_of_lt there

/-- The new node is there. -/
theorem has_nextId_allocate (document : Document) (content : Content) :
    (document.allocate content).Has document.nextId := by
  rw [Has, size_allocate]
  exact Nat.lt_succ_self document.size

theorem not_has_nextId (document : Document) : ¬ document.Has document.nextId :=
  Nat.lt_irrefl document.size

theorem has_attach_iff (parent child id : NodeId) :
    (document.attach parent child).Has id ↔ document.Has id := by
  simp only [has_iff_exists_get?, get?_attach, Option.map_eq_some_iff]
  constructor
  · rintro ⟨_, node, found, -⟩
    exact ⟨node, found⟩
  · rintro ⟨node, found⟩
    exact ⟨_, node, found, rfl⟩

section Leaf

variable {parent : NodeId} (old : document.Has parent) (content : Content)
include old

/-- A new leaf comes behind the children of its parent. -/
theorem children_withLeaf (id : NodeId) :
    (document.withLeaf parent content).children id =
      if id = parent then document.children id ++ [document.nextId]
      else document.children id := by
  rw [withLeaf, children_attach id (has_allocate old content), children_allocate]

/-- A new leaf has no children. -/
theorem children_leaf :
    (document.withLeaf parent content).children document.nextId = [] := by
  have other : document.nextId ≠ parent := by
    rintro rfl
    exact document.not_has_nextId old
  rw [children_withLeaf old, if_neg other, children, get?_nextId]
  rfl

end Leaf

/-- What is there is there behind a step as well. -/
theorem has_grow {growth : Growth} (grew : document.grow growth = .ok next) {id : NodeId}
    (there : document.Has id) : next.Has id := by
  have appended {before : Document} {parent child : NodeId} (there : before.Has id)
      (grew : before.appendChild parent child = .ok next) : next.Has id := by
    obtain ⟨-, -, -, rfl⟩ := appendChild_eq_ok_iff.mp grew
    exact (has_attach_iff parent child id).mpr there
  cases growth with
  | allocate content =>
      cases grew
      exact has_allocate there content
  | appendElement parent element => exact appended (has_allocate there (.element element)) grew
  | appendText parent text => exact appended (has_allocate there (.text text)) grew
  | appendChild parent child => exact appended there grew

/-- The root of a grown document is there. -/
theorem Grown.has_root (grown : document.Grown) : document.Has root := by
  induction grown with
  | new => decide
  | step _ _ _ grew there => exact has_grow grew there

/-! ## The contents behind a step -/

theorem element?_allocate_of_ne {id : NodeId} (other : id ≠ document.nextId) (content : Content) :
    (document.allocate content).element? id = document.element? id := by
  rw [element?, element?, get?_allocate, if_neg other]

theorem element?_attach (parent child id : NodeId) :
    (document.attach parent child).element? id = document.element? id := by
  rw [element?, element?, get?_attach]
  cases document.get? id <;> rfl

end Document

end TreeSelector
