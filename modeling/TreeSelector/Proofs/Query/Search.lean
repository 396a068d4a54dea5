import TreeSelector.Proofs.Query.Descent

/-!
# Where the search below a node ends

The descent goes down as many levels as the document has nodes, and along as many siblings.
This cuts off nothing wherever the search without a bound comes to its end, in any document at
all: what the descent lists is what the search has listed (`Document.Search.find_eq_filter_found`),
and it can be taken up below each element child again (`Document.Search.find_eq_flatMap`).
Whether the search ends does not depend on the compound (`Document.Search.filter`).

No agreement of links is assumed here. That the search ends is enough, since it does not come
back to an element that it goes down from: below this element it would list all that it lists
there and the element besides. So the elements on its way down repeat none, and they are no
more than the document has (`Document.Search.flatMap_descend`).
-/

set_option autoImplicit false

namespace TreeSelector

namespace Document

variable {document : Document}

theorem has_of_isElement {id : NodeId} (element : document.isElement id = true) :
    document.Has id := by
  by_contra absent
  simp [isElement, element?, get?_eq_none_iff.mpr absent] at element

/-! ## Along siblings -/

namespace Trail

variable {link : Link} {start : Option NodeId} {row : List NodeId}

/-- A node that the trail goes on from is there. -/
theorem has_of_mem_append {before behind : List NodeId} {other : NodeId}
    (whole : document.Trail link start (before ++ other :: behind)) :
    ∀ id ∈ before, document.Has id := by
  induction before generalizing start with
  | nil => exact fun _ member => absurd member List.not_mem_nil
  | cons first before ih =>
      cases whole with
      | cons rest =>
          refine List.forall_mem_cons.mpr ⟨?_, ih rest⟩
          by_contra absent
          rw [linked_eq_none_of_not_has absent link] at rest
          cases before <;> cases rest

/-- No element of a trail is cut off. -/
theorem filter_follow (whole : document.Trail link start row) :
    (document.follow link document.size start).filter document.isElement =
      row.filter document.isElement := by
  have rest : (row.drop document.size).filter document.isElement = [] := by
    refine List.filter_eq_nil_iff.mpr fun id member element => ?_
    obtain ⟨before, behind, split⟩ := List.append_of_mem member
    have cut : row = (row.take document.size ++ before) ++ id :: behind := by
      rw [List.append_assoc, ← split, List.take_append_drop]
    have nodup := whole.nodup
    rw [cut] at whole nodup
    have front := (List.nodup_middle.mp nodup).sublist
      ((List.sublist_append_left _ behind).cons_cons id)
    have short := length_lt_size (has_of_isElement element) front whole.has_of_mem_append
    have longer := List.length_pos_of_mem member
    simp only [List.length_append, List.length_take, List.length_drop] at short longer
    omega
  rw [whole.follow_eq_take]
  conv_rhs => rw [← List.take_append_drop document.size row, List.filter_append, rest,
    List.append_nil]

end Trail

/-! ## The search and the compound -/

/-- Of one node, what satisfies the compound. -/
theorem filter_ite_holdsAt_empty (id : NodeId) (compound : Compound) :
    (if Compound.empty.holdsAt document id then [id] else []).filter (compound.holdsAt document) =
      if compound.holdsAt document id then [id] else [] := by
  by_cases element : document.isElement id = true
  · rw [Compound.holdsAt_empty, if_pos element, List.filter_cons, List.filter_nil]
  · have fails : ¬ compound.holdsAt document id = true := fun holds =>
      element (Compound.isElement_of_holdsAt holds)
    rw [Compound.holdsAt_empty, if_neg element, if_neg fails, List.filter_nil]

/-- A descent that accepts less lists a part of what is listed. -/
theorem filter_descend (accept keep : NodeId → Bool) (depth : Nat) (id : NodeId) :
    (document.descend accept depth id).filter keep =
      document.descend (fun id => accept id && keep id) depth id := by
  induction depth generalizing id with
  | zero => rfl
  | succ depth ih =>
      rw [descend, descend, List.filter_flatMap]
      refine List.flatMap_congr fun child _ => ?_
      rw [List.filter_append, ih]
      cases accept child <;> simp [List.filter_cons]

/-- **The descent does not depend on the compound.** -/
theorem find_eq_filter (id : NodeId) (compound : Compound) :
    document.find id compound =
      (document.find id .empty).filter (compound.holdsAt document) := by
  have same : (fun id => Compound.empty.holdsAt document id && compound.holdsAt document id) =
      compound.holdsAt document := by
    funext id
    rw [Compound.holdsAt_empty, compound.isElement_and_holdsAt]
  rw [find, find, filter_descend, same]

namespace Search

variable {start : Option NodeId} {found : List NodeId}

/-- A search that ends goes along a row of siblings that does. -/
theorem exists_trail {compound : Compound} (search : document.Search compound start found) :
    ∃ row, document.Trail .next start row := by
  induction search with
  | ended => exact ⟨[], .nil⟩
  | pass _ _ ih =>
      obtain ⟨row, trail⟩ := ih
      exact ⟨_, .cons trail⟩
  | enter _ _ _ _ ih =>
      obtain ⟨row, trail⟩ := ih
      exact ⟨_, .cons trail⟩

/-- **A search that ends does so under any compound**, and has listed what satisfies it. -/
theorem filter (search : document.Search .empty start found) (compound : Compound) :
    document.Search compound start (found.filter (compound.holdsAt document)) := by
  induction search with
  | ended => exact .ended
  | pass other _ ih => exact .pass other ih
  | @enter id below behind element _ _ inner outer =>
      rw [List.filter_append, List.filter_append, filter_ite_holdsAt_empty]
      exact .enter element inner outer

/-- **What the search lists is listed level by level.** The elements above are those that the
search has gone down from on its way. It lists less than below each of them, so it does not come
back to one of these, and there are levels left as long as there are elements to go down from. -/
theorem flatMap_descend (search : document.Search .empty start found) {row above : List NodeId}
    {depth : Nat} (along : document.Trail .next start row) (nodup : above.Nodup)
    (there : ∀ id ∈ above, document.Has id)
    (inside : ∀ id ∈ above, ∃ all, document.Search .empty (document.firstChild? id) all ∧
      found.length ≤ all.length)
    (enough : document.size ≤ above.length + depth) :
    ((row.filter document.isElement).flatMap fun child =>
      (if Compound.empty.holdsAt document child then [child] else []) ++
        document.descend (Compound.empty.holdsAt document) depth child) = found := by
  induction search generalizing row above depth with
  | ended =>
      cases along
      rfl
  | @pass id behind other _ ih =>
      cases along with
      | cons rest =>
          rw [List.filter_cons_of_neg (by simp [other])]
          exact ih rest nodup there inside enough
  | @enter id below behind element down _ inner outer =>
      have listed : ((if Compound.empty.holdsAt document id then [id] else []) ++ below ++
          behind).length = 1 + below.length + behind.length := by simp [element]; omega
      have within {part : List NodeId} (shorter : part.length ≤ below.length + behind.length) :
          ∀ other ∈ above, ∃ all, document.Search .empty (document.firstChild? other) all ∧
            part.length ≤ all.length := by
        intro other member
        obtain ⟨all, search, longer⟩ := inside other member
        exact ⟨all, search, by omega⟩
      have absent : id ∉ above := by
        intro member
        obtain ⟨all, search, longer⟩ := inside id member
        rw [search.unique down] at longer
        omega
      have nodup' := List.nodup_cons.mpr ⟨absent, nodup⟩
      have here := has_of_isElement element
      have room := length_lt_size here nodup' there
      obtain ⟨depth, rfl⟩ : ∃ left, depth = left + 1 := ⟨depth - 1, by omega⟩
      have levels : document.descend (Compound.empty.holdsAt document) (depth + 1) id = below := by
        obtain ⟨children, trail⟩ := down.exists_trail
        rw [descend, childWalk, trail.filter_follow]
        refine inner trail nodup' (List.forall_mem_cons.mpr ⟨here, there⟩)
          (List.forall_mem_cons.mpr ⟨⟨below, down, Nat.le_refl _⟩, within (by omega)⟩) ?_
        rw [List.length_cons]
        omega
      cases along with
      | cons rest =>
          rw [List.filter_cons_of_pos element, List.flatMap_cons, levels,
            outer rest nodup there (within (by omega)) enough]

/-- The descent below a node is not cut off where the search ends, also if it is taken up
again at each child. -/
theorem find_empty_eq {id : NodeId} (search : document.Search .empty (document.firstChild? id) found) :
    document.find id .empty = found ∧
      ((document.childWalk id).filter document.isElement).flatMap (fun child =>
        (if Compound.empty.holdsAt document child then [child] else []) ++
          document.find child .empty) = found := by
  by_cases there : document.Has id
  · obtain ⟨row, trail⟩ := search.exists_trail
    have levels {depth : Nat} (enough : document.size ≤ 1 + depth) :
        ((document.childWalk id).filter document.isElement).flatMap (fun child =>
          (if Compound.empty.holdsAt document child then [child] else []) ++
            document.descend (Compound.empty.holdsAt document) depth child) = found := by
      rw [childWalk, trail.filter_follow]
      exact search.flatMap_descend trail (List.nodup_singleton id) (by simpa using there)
        (by simpa using ⟨found, search, Nat.le_refl _⟩) enough
    have positive : 0 < document.size := Nat.zero_lt_of_lt there
    obtain ⟨depth, size⟩ : ∃ depth, document.size = depth + 1 := ⟨document.size - 1, by omega⟩
    refine ⟨?_, levels (by omega)⟩
    rw [find, size, descend]
    exact levels (by omega)
  · have unlinked : document.firstChild? id = none := by
      rw [firstChild?, children_eq_nil_of_not_has there]
      rfl
    have nothing : document.childWalk id = [] := by
      rw [childWalk, unlinked, Trail.nil.follow_eq_take, List.take_nil]
    rw [unlinked] at search
    cases search
    refine ⟨?_, by rw [nothing]; rfl⟩
    rw [find]
    cases document.size with
    | zero => rfl
    | succ depth => rw [descend, nothing]; rfl

variable {id : NodeId} (search : document.Search .empty (document.firstChild? id) found)
include search

/-- **Where the search ends, the descent lists what it has found**, under any compound. -/
theorem find_eq_filter_found (compound : Compound) :
    document.find id compound = found.filter (compound.holdsAt document) := by
  rw [find_eq_filter, search.find_empty_eq.1]

/-- Where the search ends, the descent goes on below each element child, whether this satisfies
the compound or not. -/
theorem find_eq_flatMap (compound : Compound) :
    document.find id compound =
      ((document.childWalk id).filter document.isElement).flatMap fun child =>
        (if compound.holdsAt document child then [child] else []) ++
          document.find child compound := by
  rw [search.find_eq_filter_found, ← search.find_empty_eq.2, List.filter_flatMap]
  refine List.flatMap_congr fun child _ => ?_
  rw [List.filter_append, filter_ite_holdsAt_empty, ← find_eq_filter]

end Search

end Document

end TreeSelector
