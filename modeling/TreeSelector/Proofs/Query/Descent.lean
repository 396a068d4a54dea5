import TreeSelector.Proofs.Document.Preorder
import TreeSelector.Proofs.Query.Axes

/-!
# The descent in pre-order

The descent below a node is a search along siblings inside a search along first children. It
is described here without a bound (`Document.Search`), as far as such a search comes to an
end. In a well-linked document it does, with what `Document.find` lists
(`Document.WellLinked.search_iff`): the bound there cuts off nothing.

What is listed is a part of the pre-order of all that lies below the node, in the same order
(`Document.WellLinked.sublist_preorder`). The descent enters elements only. So a node is
missed below which no path of elements leads, however deep below another node it lies
(`Document.WellLinked.not_descends_of_not_element`).
-/

set_option autoImplicit false

namespace TreeSelector

namespace Document

variable {document : Document} {compound : Compound}

/-! ## The search without a bound -/

/-- A search from a link on that has come to its end, and what it has listed: an element, if it
satisfies the compound, then what is found from its first child on, then what is found from
its next sibling on. A node that is no element is passed over. -/
inductive Search (document : Document) (compound : Compound) :
    Option NodeId → List NodeId → Prop where
  | ended : Search document compound none []
  | pass {id : NodeId} {behind : List NodeId} (other : document.isElement id = false)
      (along : Search document compound (document.next? id) behind) :
      Search document compound (some id) behind
  | enter {id : NodeId} {below behind : List NodeId} (element : document.isElement id = true)
      (down : Search document compound (document.firstChild? id) below)
      (along : Search document compound (document.next? id) behind) :
      Search document compound (some id)
        ((if compound.holdsAt document id then [id] else []) ++ below ++ behind)

/-- A search comes to one end only. -/
theorem Search.unique {start : Option NodeId} {found other : List NodeId}
    (first : document.Search compound start found)
    (second : document.Search compound start other) : found = other := by
  induction first generalizing other with
  | ended => cases second; rfl
  | @pass id behind notElement _ ih =>
      cases second with
      | pass _ along => exact ih along
      | enter element _ _ => rw [notElement] at element; cases element
  | @enter id below behind element _ _ inner outer =>
      cases second with
      | pass notElement _ => rw [notElement] at element; cases element
      | enter _ down along => rw [inner down, outer along]

namespace WellLinked

variable (linked : document.WellLinked)
include linked

/-- Along siblings below which the search comes to its end, the search does so. -/
theorem search_siblings {parent : NodeId} {before behind : List NodeId}
    (siblings : document.children parent = before ++ behind)
    (below : ∀ child ∈ behind,
      document.Search compound (document.firstChild? child) (document.find child compound)) :
    document.Search compound behind.head?
      ((behind.filter document.isElement).flatMap fun child =>
        (if compound.holdsAt document child then [child] else []) ++
          document.find child compound) := by
  induction behind generalizing before with
  | nil => exact .ended
  | cons id behind ih =>
      have along := @ih (before ++ [id]) (by simpa using siblings)
        fun child member => below child (List.mem_cons_of_mem id member)
      rw [← linked.next parent before id behind siblings] at along
      by_cases element : document.isElement id = true
      · rw [List.filter_cons_of_pos element, List.flatMap_cons]
        exact .enter element (below id List.mem_cons_self) along
      · rw [List.filter_cons_of_neg element]
        exact .pass (Bool.eq_false_iff.mpr element) along

/-- **The search from the first child on** comes to its end with what is found below a node. -/
theorem search_iff {id : NodeId} {found : List NodeId} :
    document.Search compound (document.firstChild? id) found ↔
      found = document.find id compound := by
  have search : document.Search compound (document.firstChild? id)
      (document.find id compound) := by
    induction id using linked.induction_below with
    | step id ih =>
        rw [linked.firstChild, linked.find_eq]
        exact linked.search_siblings (List.nil_append _).symm ih
  constructor
  · intro other
    exact other.unique search
  · rintro rfl
    exact search

/-! ## In pre-order -/

/-- **What is found below roots is found in pre-order.** -/
theorem sublist_preorder {roots row : List NodeId} (whole : document.Preorder roots row) :
    ((roots.filter document.isElement).flatMap fun root =>
      (if compound.holdsAt document root then [root] else []) ++
        document.find root compound).Sublist row := by
  induction whole with
  | nil => exact .slnil
  | @cons root later below behind _ _ down along =>
      rw [← linked.find_eq] at down
      have here : (if compound.holdsAt document root then [root] else []).Sublist [root] := by
        split
        · exact List.Sublist.refl [root]
        · exact List.nil_sublist [root]
      by_cases element : document.isElement root = true
      · rw [List.filter_cons_of_pos element, List.flatMap_cons, List.append_assoc]
        exact here.append (down.append along)
      · rw [List.filter_cons_of_neg element]
        exact (List.sublist_append_of_sublist_right along).cons root

/-! ## Nothing but elements between -/

/-- What lies below a node that is no element is out of reach from above this node. -/
theorem not_descends_of_not_element {upper other lower : NodeId}
    (notElement : document.isElement other = false)
    (below : upper ∈ document.ancestors other) (inside : other ∈ document.ancestors lower) :
    ¬ document.Descends upper lower := by
  intro descends
  obtain ⟨passed, upwards, elements⟩ := linked.exists_elements_between descends
  rw [upwards] at inside
  rcases List.mem_append.mp inside with between | above
  · rw [elements other between] at notElement
    cases notElement
  · rcases List.mem_cons.mp above with rfl | above
    · exact linked.notMem_ancestors_self other below
    · exact linked.notMem_ancestors_self upper (linked.mem_ancestors_trans below above)

end WellLinked

/-- **The descent is exact, and in pre-order.** In a grown document the search below a node comes
to its end with what is found there. This is the elements below the node that satisfy the
compound and have elements alone between them and the node, each of them once and in
pre-order. The node itself is not among them, and nothing that lies below a text, a comment or
a nested document is. -/
theorem Grown.find_in_preorder (grown : document.Grown) (id : NodeId) (compound : Compound) :
    (∀ found, document.Search compound (document.firstChild? id) found ↔
      found = document.find id compound) ∧
    (document.find id compound).Nodup ∧
    (∀ lower, lower ∈ document.find id compound ↔
      document.Descends id lower ∧ compound.holdsAt document lower = true) ∧
    id ∉ document.find id compound ∧
    (∃ row, document.Preorder (document.children id) row) ∧
    ∀ row, document.Preorder (document.children id) row →
      row.Nodup ∧ (document.find id compound).Sublist row ∧
        ∀ other ∈ row, document.isElement other = false →
          ∀ within, document.Preorder (document.children other) within →
            ∀ lower ∈ within, lower ∉ document.find id compound := by
  have linked := grown.wellLinked
  have members (lower : NodeId) : lower ∈ document.find id compound ↔
      document.Descends id lower ∧ compound.holdsAt document lower = true :=
    linked.mem_find_iff
  refine ⟨fun found => linked.search_iff, linked.nodup_find id compound, members, ?_,
    linked.exists_preorder _, fun row whole => ⟨linked.nodup_below whole, ?_, ?_⟩⟩
  · intro listed
    exact linked.not_descends_self id ((members id).mp listed).1
  · rw [linked.find_eq]
    exact linked.sublist_preorder whole
  · intro other member notElement within inner lower inside listed
    have below := linked.mem_ancestors_of_mem_below whole other member
    have above := linked.mem_ancestors_of_mem_below inner lower inside
    exact linked.not_descends_of_not_element notElement below above ((members lower).mp listed).1

/-- An element with a child that was added later than its sibling, and a comment with a child:
the search lists the two in pre-order, and not the third. -/
theorem Grown.find_in_preorder_of_comment :
    ∃ document : Document, document.Grown ∧
      document.children root = [⟨1⟩, ⟨2⟩, ⟨4⟩] ∧ document.children ⟨4⟩ = [⟨5⟩] ∧
      document.Search ⟨[.tag "b"]⟩ (document.firstChild? root) [⟨3⟩, ⟨2⟩] ∧
      (document.find root ⟨[.tag "b"]⟩).Sublist [⟨1⟩, ⟨3⟩, ⟨2⟩, ⟨4⟩, ⟨5⟩] ∧
      ⟨5⟩ ∉ document.find root ⟨[.tag "b"]⟩ := by
  have first := @Grown.append _ .new root (by decide) (.element ⟨"a", []⟩)
  have second := @Grown.append _ first root (by decide) (.element ⟨"b", []⟩)
  have inner := @Grown.append _ second ⟨1⟩ (by decide) (.element ⟨"b", []⟩)
  have comment := @Grown.append _ inner root (by decide) (.comment "c")
  have grown := @Grown.append _ comment ⟨4⟩ (by decide) (.element ⟨"b", []⟩)
  obtain ⟨search, -, -, -, -, rows⟩ := grown.find_in_preorder root ⟨[.tag "b"]⟩
  obtain ⟨-, ordered, missed⟩ := rows [⟨1⟩, ⟨3⟩, ⟨2⟩, ⟨4⟩, ⟨5⟩]
    (@Preorder.cons _ ⟨1⟩ [⟨2⟩, ⟨4⟩] [⟨3⟩] [⟨2⟩, ⟨4⟩, ⟨5⟩] (@Preorder.cons _ ⟨3⟩ [] [] [] .nil .nil)
      (@Preorder.cons _ ⟨2⟩ [⟨4⟩] [] [⟨4⟩, ⟨5⟩] .nil
        (@Preorder.cons _ ⟨4⟩ [] [⟨5⟩] [] (@Preorder.cons _ ⟨5⟩ [] [] [] .nil .nil) .nil)))
  have inComment := missed ⟨4⟩ (by decide) rfl [⟨5⟩] (@Preorder.cons _ ⟨5⟩ [] [] [] .nil .nil) ⟨5⟩
    (List.mem_singleton_self _)
  exact ⟨_, grown, rfl, rfl, (search [⟨3⟩, ⟨2⟩]).mpr rfl, ordered, inComment⟩

end Document

end TreeSelector
