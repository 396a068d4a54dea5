import TreeSelector.Proofs.Document.Linked

/-!
# Links under any use

Appending a child does not ask where the child is attached. A node that is there may be
appended twice, under another parent, under itself or under a node below it
(`Document.Assembled`). The links then no longer agree: a list of children repeats nodes or
keeps one that has gone to another parent, and the way upwards need not come to an end.

What is left is read off the lists of children. They only ever become longer, at their end. A
link to a parent or to a sibling was written when a child was put into such a list, and the
place in the list is there for good (`Document.SoundlyLinked`). So no link leads to a node
that is not there (`Document.SoundlyLinked.has_linked`). Appending writes to the last child so
far, which is therefore there as well, and it fails for a parent or a child that is not there
and for no other reason (`Document.SoundlyLinked.appendChild_eq_error_iff`).
-/

set_option autoImplicit false

namespace TreeSelector

namespace Document

variable {document next : Document}

/-! ## Any use -/

/-- The step is about nodes that are there. Nothing is asked of their links. -/
def Knows (document : Document) : Growth → Prop
  | .allocate _ => True
  | .appendElement parent _ => document.Has parent
  | .appendText parent _ => document.Has parent
  | .appendChild parent child => document.Has parent ∧ document.Has child

instance (document : Document) : (growth : Growth) → Decidable (document.Knows growth)
  | .allocate _ => inferInstanceAs (Decidable True)
  | .appendElement parent _ => inferInstanceAs (Decidable (document.Has parent))
  | .appendText parent _ => inferInstanceAs (Decidable (document.Has parent))
  | .appendChild parent child =>
      inferInstanceAs (Decidable (document.Has parent ∧ document.Has child))

/-- The documents that come from a root alone by any steps about nodes that are there. -/
inductive Assembled : Document → Prop where
  | new : Assembled new
  | step {document next : Document} (growth : Growth) (assembled : Assembled document)
      (known : document.Knows growth) (grew : document.grow growth = .ok next) : Assembled next

/-- Children are there, and every other link has a place in a list of children. -/
structure SoundlyLinked (document : Document) : Prop where
  has_child : ∀ parent, ∀ child ∈ document.children parent, document.Has child
  parent : ∀ child parent, document.parent? child = some parent →
    child ∈ document.children parent
  previous : ∀ child before, document.previous? child = some before →
    ∃ parent, document.parent? child = some parent ∧
      [before, child] <:+: document.children parent
  first : ∀ child parent, document.parent? child = some parent →
    document.previous? child = none → (document.children parent).head? = some child
  next : ∀ child behind, document.next? child = some behind →
    ∃ parent, [child, behind] <:+: document.children parent

namespace SoundlyLinked

/-! ## What a step keeps -/

theorem new : Document.new.SoundlyLinked := by
  have unlinked {link : Link} {id other : NodeId} :
      Document.new.linked link id ≠ some other := by simp [linked_new]
  exact {
    has_child := by simp [children_new]
    parent := fun _ _ above => absurd above (@unlinked .parent _ _)
    previous := fun _ _ before => absurd before (@unlinked .previous _ _)
    first := fun _ _ above => absurd above (@unlinked .parent _ _)
    next := fun _ _ behind => absurd behind (@unlinked .next _ _) }

variable (sound : document.SoundlyLinked)
include sound

/-- No link leads to a node that is not there. -/
theorem has_linked {link : Link} {id other : NodeId}
    (linked : document.linked link id = some other) : document.Has other := by
  have beside {parent first second : NodeId}
      (siblings : [first, second] <:+: document.children parent) :
      document.Has first ∧ document.Has second :=
    ⟨sound.has_child parent first (siblings.subset (by simp)),
      sound.has_child parent second (siblings.subset (by simp))⟩
  cases link with
  | parent => exact has_of_mem_children (sound.parent id other linked)
  | previous =>
      obtain ⟨parent, -, siblings⟩ := sound.previous id other linked
      exact (beside siblings).1
  | next =>
      obtain ⟨parent, siblings⟩ := sound.next id other linked
      exact (beside siblings).2

/-- A node that is allocated has no links, and those of the others stay. -/
theorem allocate (content : Content) : (document.allocate content).SoundlyLinked := by
  refine ⟨fun parent child listed => ?_, ?_, ?_, ?_, ?_⟩
  · rw [children_allocate] at listed
    exact has_allocate (sound.has_child parent child listed) content
  all_goals simp only [children_allocate, parent?_allocate, next?_allocate, previous?_allocate]
  · exact sound.parent
  · exact sound.previous
  · exact sound.first
  · exact sound.next

theorem has_last (parent : NodeId) :
    ∀ last ∈ (document.children parent).getLast?, document.Has last :=
  fun last isLast => sound.has_child parent last (List.mem_of_getLast? isLast)

section Attach

variable {parent child : NodeId} (hasParent : document.Has parent) (hasChild : document.Has child)
include hasParent

omit sound in
theorem children_attach_parent :
    (document.attach parent child).children parent = document.children parent ++ [child] := by
  rw [children_attach parent hasParent, if_pos rfl]

include hasChild

/-- **Attaching keeps every link on a place in a list of children**, wherever the child has been
before. -/
theorem attach : (document.attach parent child).SoundlyLinked where
  has_child other id listed := by
    rw [has_attach_iff]
    rw [children_attach other hasParent] at listed
    split at listed
    · rcases List.mem_append.mp listed with old | new
      · exact sound.has_child other id old
      · rwa [List.mem_singleton.mp new]
    · exact sound.has_child other id listed
  parent id other above := by
    rw [parent?_attach id hasChild] at above
    split at above
    · rename_i isChild
      cases above
      rw [isChild, children_attach_parent hasParent]
      exact List.mem_concat_self
    · exact (children_prefix_attach other hasParent).subset (sound.parent id other above)
  previous id before linked := by
    rw [previous?_attach id hasChild] at linked
    rw [parent?_attach id hasChild]
    split at linked
    · -- The child has come to stand behind the last one so far.
      rename_i isChild
      obtain ⟨front, siblings⟩ := List.getLast?_eq_some_iff.mp linked
      refine ⟨parent, if_pos isChild, front, [], ?_⟩
      rw [children_attach_parent hasParent, siblings, isChild]
      simp
    · rename_i other
      obtain ⟨above, isParent, beside⟩ := sound.previous id before linked
      rw [if_neg other]
      exact ⟨above, isParent, beside.trans (children_prefix_attach above hasParent).isInfix⟩
  first id other above alone := by
    rw [parent?_attach id hasChild] at above
    rw [previous?_attach id hasChild] at alone
    split at above
    · rename_i isChild
      cases above
      rw [if_pos isChild] at alone
      rw [children_attach_parent hasParent, List.getLast?_eq_none_iff.mp alone, isChild]
      rfl
    · rename_i isOther
      rw [if_neg isOther] at alone
      obtain ⟨later, longer⟩ := children_prefix_attach other hasParent
      rw [← longer, List.head?_append, sound.first id other above alone]
      rfl
  next id behind linked := by
    rw [next?_attach id (sound.has_last parent)] at linked
    split at linked
    · rename_i isLast
      cases linked
      obtain ⟨front, siblings⟩ := List.getLast?_eq_some_iff.mp isLast
      refine ⟨parent, front, [], ?_⟩
      rw [children_attach_parent hasParent, siblings]
      simp
    · obtain ⟨above, beside⟩ := sound.next id behind linked
      exact ⟨above, beside.trans (children_prefix_attach above hasParent).isInfix⟩

end Attach

/-! ## When appending fails -/

/-- **Appending fails for a parent or a child that is not there**, and for no other reason. The
parent is looked for first. -/
theorem appendChild_eq_error_iff {parent child : NodeId} {error : OutOfRange} :
    document.appendChild parent child = .error error ↔
      (¬ document.Has parent ∧ error = ⟨document.size, parent.index⟩) ∨
        (document.Has parent ∧ ¬ document.Has child ∧ error = ⟨document.size, child.index⟩) := by
  by_cases hasParent : document.Has parent
  · by_cases hasChild : document.Has child
    · have appended := appendChild_eq_ok_iff.mpr
        ⟨hasParent, hasChild, sound.has_last parent, rfl⟩
      simp [appended, hasParent, hasChild]
    · obtain ⟨node, found⟩ := has_iff_exists_get?.mp hasParent
      have absent : ¬ child.index < document.size := hasChild
      simp [appendChild, found, absent, hasParent, hasChild, eq_comm]
  · simp [appendChild, get?_eq_none_iff.mpr hasParent, hasParent, eq_comm]

/-- A step about nodes that are there succeeds, and keeps the links sound. -/
theorem exists_grow_eq_ok {growth : Growth} (known : document.Knows growth) :
    ∃ next, document.grow growth = .ok next ∧ next.SoundlyLinked := by
  have appended {before : Document} (sound : before.SoundlyLinked) {parent child : NodeId}
      (hasParent : before.Has parent) (hasChild : before.Has child) :
      ∃ next, before.appendChild parent child = .ok next ∧ next.SoundlyLinked :=
    ⟨_, appendChild_eq_ok_iff.mpr ⟨hasParent, hasChild, sound.has_last parent, rfl⟩,
      sound.attach hasParent hasChild⟩
  have leaf {parent : NodeId} (hasParent : document.Has parent) (content : Content) :
      ∃ next, document.append parent content = .ok next ∧ next.SoundlyLinked :=
    appended (sound.allocate content) (has_allocate hasParent content)
      (has_nextId_allocate document content)
  cases growth with
  | allocate content => exact ⟨_, rfl, sound.allocate content⟩
  | appendElement parent element => exact leaf known (.element element)
  | appendText parent text => exact leaf known (.text text)
  | appendChild parent child => exact appended sound known.1 known.2

end SoundlyLinked

/-! ## Assembled documents -/

namespace Assembled

/-- **In an assembled document the links are sound.** -/
theorem soundlyLinked (assembled : document.Assembled) : document.SoundlyLinked := by
  induction assembled with
  | new => exact .new
  | step growth _ known grew sound =>
      obtain ⟨reached, same, soundNext⟩ := sound.exists_grow_eq_ok known
      rw [grew] at same
      cases same
      exact soundNext

/-- **Links stay sound under any use.** In every document that comes from a root alone by steps
about nodes that are there, wherever these nodes have been attached before, every link leads to
a node that is there. A parent lists the child, siblings that are linked stand side by side in a
list of children, and a child with no sibling before it is the first of its parent. Every
further step of this kind succeeds, and appending fails exactly if the parent or the child is
not there. -/
theorem links_stay_sound (assembled : document.Assembled) :
    document.SoundlyLinked ∧
    (∀ link id other, document.linked link id = some other → document.Has other) ∧
    (∀ growth, document.Knows growth → ∃ next, document.grow growth = .ok next) ∧
    ∀ parent child, (∃ error, document.appendChild parent child = .error error) ↔
      ¬ document.Has parent ∨ ¬ document.Has child := by
  have sound := assembled.soundlyLinked
  refine ⟨sound, fun link id other => sound.has_linked, fun growth known => ?_,
    fun parent child => ⟨?_, ?_⟩⟩
  · obtain ⟨next, grew, -⟩ := sound.exists_grow_eq_ok known
    exact ⟨next, grew⟩
  · rintro ⟨error, failed⟩
    rcases sound.appendChild_eq_error_iff.mp failed with ⟨absent, -⟩ | ⟨-, absent, -⟩
    · exact .inl absent
    · exact .inr absent
  · intro absent
    by_cases hasParent : document.Has parent
    · have noChild := absent.resolve_left (not_not_intro hasParent)
      exact ⟨_, sound.appendChild_eq_error_iff.mpr (.inr ⟨hasParent, noChild, rfl⟩)⟩
    · exact ⟨_, sound.appendChild_eq_error_iff.mpr (.inl ⟨hasParent, rfl⟩)⟩

/-- An element is appended under itself, the root below the element, and a text twice under the
root, after it had another parent. -/
theorem links_stay_sound_of_cycle :
    ∃ document : Document, document.Assembled ∧
      document.children root = [⟨1⟩, ⟨2⟩, ⟨2⟩] ∧
      document.children ⟨1⟩ = [⟨2⟩, ⟨1⟩, root] ∧
      document.parent? root = some ⟨1⟩ ∧ document.parent? ⟨1⟩ = some ⟨1⟩ ∧
      document.previous? ⟨2⟩ = some ⟨2⟩ ∧
      document.SoundlyLinked ∧
      ∃ error, document.appendChild ⟨1⟩ ⟨3⟩ = .error error := by
  have element : Assembled _ := .step (.appendElement root ⟨"a", []⟩) .new (by decide) rfl
  have text : Assembled _ := .step (.appendText ⟨1⟩ "b") element (by decide) rfl
  have itself : Assembled _ := .step (.appendChild ⟨1⟩ ⟨1⟩) text (by decide) rfl
  have below : Assembled _ := .step (.appendChild ⟨1⟩ root) itself (by decide) rfl
  have moved : Assembled _ := .step (.appendChild root ⟨2⟩) below (by decide) rfl
  have again : Assembled _ := .step (.appendChild root ⟨2⟩) moved (by decide) rfl
  obtain ⟨sound, -, -, fails⟩ := again.links_stay_sound
  exact ⟨_, again, rfl, rfl, rfl, rfl, rfl, sound, (fails ⟨1⟩ ⟨3⟩).mpr (.inr (by decide))⟩

end Assembled

end Document

end TreeSelector
