import TreeSelector.Proofs.Document.Order
import TreeSelector.Proofs.Query.Descent
import TreeSelector.Query

/-!
# Results in the order of their ids

What is found below a node is found in pre-order. In a document that has been built along its
last branch this is the order of the ids, so the ids that are found become greater from each to
the next, and sorting them changes nothing. In a document that has been built in another way the
pre-order of all nodes is not the order of their ids
(`Document.document_order_iff_onLastBranch`).
-/

set_option autoImplicit false

namespace TreeSelector

namespace Document

variable {document : Document}

/-- What is found below a node is a part of the pre-order of all nodes, in the same order. -/
theorem WellLinked.find_sublist (linked : document.WellLinked) {roots row : List NodeId}
    (whole : document.Preorder roots row) (all : row.Perm document.ids) (id : NodeId)
    (compound : Compound) : (document.find id compound).Sublist row := by
  rw [linked.find_eq]
  by_cases there : document.Has id
  · obtain ⟨before, below, behind, rfl, part, -⟩ :=
      whole.exists_split document (all.nodup_iff.mpr document.nodup_ids)
        (all.mem_iff.mpr (mem_ids_iff.mpr there)) fun _ _ _ => rfl
    have inside : below.Sublist (before ++ id :: (below ++ behind)) :=
      ((List.sublist_append_left below behind).cons id).trans (List.sublist_append_right before _)
    exact (linked.sublist_preorder part).trans inside
  · rw [children_eq_nil_of_not_has there]
    exact List.nil_sublist row

theorem select_single (id : NodeId) (compound : Compound) :
    document.select [id] ⟨[.single compound]⟩ = document.find id compound := by
  simp [select, evaluate, applyEach, Axis.apply]

/-- **When the order of ids is document order.** A document is built by appending elements and
texts alone. The pre-order of its root lists all nodes and their ids become greater from each to
the next if and only if each node has come under the node added last at that moment, or under a
node above this one. As long as each node has come under one that was there, the root has one
pre-order and it lists all nodes, so all depends on whether the ids become greater. And where
they do, so do the ids that are found below any node. -/
theorem document_order_iff_onLastBranch {steps : List Growth}
    (built : build steps = .ok document)
    (appends : ∀ growth ∈ steps, growth.leafParent? ≠ none) :
    ((∃ row, document.Preorder [root] row ∧ (∀ id, id ∈ row ↔ document.Has id) ∧
      Ascending row) ↔ OnLastBranch steps) ∧
    (EachLeaf Has steps → ∃ row, (∀ other, document.Preorder [root] other ↔ other = row) ∧
      (∀ id, id ∈ row ↔ document.Has id) ∧ (Ascending row ↔ OnLastBranch steps)) ∧
    (OnLastBranch steps → ∀ id compound, Ascending (document.find id compound) ∧
      Ascending (document.select [id] ⟨[.single compound]⟩)) := by
  rcases exists_preorder_or_loop built appends with
    ⟨-, grown, row, whole, all, ordered⟩ | ⟨unknown, offBranch, id, loop⟩
  · have lists (id : NodeId) : id ∈ row ↔ document.Has id := all.mem_iff.trans mem_ids_iff
    have ascending : Ascending row ↔ OnLastBranch steps :=
      (ascending_iff_eq_ids all).trans ordered
    refine ⟨⟨?_, fun onBranch => ⟨row, whole, lists, ascending.mpr onBranch⟩⟩,
      fun _ => ⟨row, fun other => ⟨fun otherWhole => otherWhole.unique whole, ?_⟩, lists,
        ascending⟩, fun onBranch id compound => ?_⟩
    · rintro ⟨other, otherWhole, -, otherAscending⟩
      rw [otherWhole.unique whole] at otherAscending
      exact ascending.mp otherAscending
    · rintro rfl
      exact whole
    · rw [select_single, and_self]
      exact (ascending.mpr onBranch).sublist
        (grown.wellLinked.find_sublist whole all id compound)
  · refine ⟨⟨?_, fun onBranch => absurd onBranch offBranch⟩, fun known => absurd known unknown,
      fun onBranch => absurd onBranch offBranch⟩
    rintro ⟨row, whole, lists, -⟩
    exact absurd ((lists id).mpr (has_of_mem_children loop))
      (whole.notMem_of_mem_children_self loop)

/-- A tree is built along its last branch, and the ids of the elements `b` in it become greater.
Then one more element `b` comes under the first element again, and is found before one with a
smaller id. -/
theorem document_order_iff_onLastBranch_of_late_leaf :
    ∃ document later : Document, ∃ steps : List Growth, ∃ late : Growth,
      build steps = .ok document ∧ build (steps ++ [late]) = .ok later ∧
      OnLastBranch steps ∧ Ascending (document.find root ⟨[.tag "b"]⟩) ∧
      document.find root ⟨[.tag "b"]⟩ = [⟨2⟩, ⟨4⟩] ∧
      ¬ OnLastBranch (steps ++ [late]) ∧
      later.find root ⟨[.tag "b"]⟩ = [⟨2⟩, ⟨5⟩, ⟨4⟩] := by
  let steps : List Growth := [.appendElement root ⟨"a", []⟩, .appendElement ⟨1⟩ ⟨"b", []⟩,
    .appendText ⟨2⟩ "c", .appendElement root ⟨"b", []⟩]
  let late : Growth := .appendElement ⟨1⟩ ⟨"b", []⟩
  have appends : ∀ growth ∈ steps ++ [late], growth.leafParent? ≠ none := by decide
  obtain ⟨inOrder, -, results⟩ := @document_order_iff_onLastBranch _ steps rfl
    fun growth member => appends growth (List.mem_append_left _ member)
  obtain ⟨inOrderLater, -, -⟩ := @document_order_iff_onLastBranch _ (steps ++ [late]) rfl appends
  have onBranch : OnLastBranch steps := by
    refine inOrder.mp ⟨_, ?_, fun id => mem_ids_iff, ascending_ids _⟩
    exact @Preorder.cons _ root [] [⟨1⟩, ⟨2⟩, ⟨3⟩, ⟨4⟩] []
      (@Preorder.cons _ ⟨1⟩ [⟨4⟩] [⟨2⟩, ⟨3⟩] [⟨4⟩]
        (@Preorder.cons _ ⟨2⟩ [] [⟨3⟩] [] (@Preorder.cons _ ⟨3⟩ [] [] [] .nil .nil) .nil)
        (@Preorder.cons _ ⟨4⟩ [] [] [] .nil .nil)) .nil
  refine ⟨_, _, steps, late, rfl, rfl, onBranch, (results onBranch root ⟨[.tag "b"]⟩).1, rfl, ?_,
    rfl⟩
  intro offBranch
  obtain ⟨row, whole, -, ascending⟩ := inOrderLater.mpr offBranch
  have row_eq := whole.unique (@Preorder.cons _ root [] [⟨1⟩, ⟨2⟩, ⟨3⟩, ⟨5⟩, ⟨4⟩] []
      (@Preorder.cons _ ⟨1⟩ [⟨4⟩] [⟨2⟩, ⟨3⟩, ⟨5⟩] [⟨4⟩]
        (@Preorder.cons _ ⟨2⟩ [⟨5⟩] [⟨3⟩] [⟨5⟩] (@Preorder.cons _ ⟨3⟩ [] [] [] .nil .nil)
          (@Preorder.cons _ ⟨5⟩ [] [] [] .nil .nil))
        (@Preorder.cons _ ⟨4⟩ [] [] [] .nil .nil)) .nil)
  rw [row_eq] at ascending
  revert ascending
  decide

end Document

end TreeSelector
