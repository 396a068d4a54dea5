import TreeSelector.Proofs.Query.Axes
import TreeSelector.Query

/-!
# Queries behind a new leaf

A new node comes behind the children of its parent and has none of its own. So the
walks of the other nodes see it last or not at all (`Extends`), and no combinator leads
on from it (`Document.WellLinked.apply_axis_leaf`). A query of the nodes that were there
before then finds what it has found before, in the same order, and besides at most the
new node (`Document.WellLinked.filter_related_withLeaf`). Where the new node is no
element it is not found either (`Document.Grown.queries_append`).
-/

set_option autoImplicit false

namespace TreeSelector

/-! ## Rows with one node more -/

/-- The second row is the first one, with the leaf behind it or not. -/
structure Extends (leaf : NodeId) (before after : List NodeId) : Prop where
  absent : leaf ∉ before
  shape : after = before ∨ after = before ++ [leaf]

theorem filter_ne_eq_self {leaf : NodeId} {row : List NodeId} (absent : leaf ∉ row) :
    row.filter (· != leaf) = row := by
  refine List.filter_eq_self.mpr fun id member => bne_iff_ne.mpr ?_
  rintro rfl
  exact absent member

/-- A node that leads nowhere may be left out before all nodes are walked from. -/
theorem flatMap_filter_ne {leaf : NodeId} {lead : NodeId → List NodeId} (nowhere : lead leaf = [])
    (row : List NodeId) : (row.filter (· != leaf)).flatMap lead = row.flatMap lead := by
  induction row with
  | nil => rfl
  | cons id row ih =>
      by_cases isLeaf : id = leaf
      · simp [isLeaf, nowhere, ih]
      · simp [isLeaf, ih]

namespace Extends

variable {leaf : NodeId} {before after : List NodeId}

theorem refl (absent : leaf ∉ before) : Extends leaf before before :=
  ⟨absent, .inl rfl⟩

theorem concat (absent : leaf ∉ before) : Extends leaf before (before ++ [leaf]) :=
  ⟨absent, .inr rfl⟩

/-- Without the leaf the rows are the same. -/
theorem filter_ne (longer : Extends leaf before after) : after.filter (· != leaf) = before := by
  have others := filter_ne_eq_self longer.absent
  rcases longer.shape with rfl | rfl
  · exact others
  · rw [List.filter_append, others]
    simp

section Accept

variable {accept accept' : NodeId → Bool} (same : ∀ id, id ≠ leaf → accept' id = accept id)
include same

/-- Of all but the leaf the same are accepted. -/
theorem filter_filter (longer : Extends leaf before after) :
    (after.filter accept').filter (· != leaf) = before.filter accept := by
  rw [List.filter_comm, longer.filter_ne]
  exact List.filter_congr fun id member =>
    same id fun isLeaf => longer.absent (isLeaf ▸ member)

/-- The first that is accepted is the same, unless it is the leaf. -/
theorem find? (longer : Extends leaf before after) :
    Extends leaf (before.find? accept).toList (after.find? accept').toList := by
  have others : before.find? accept' = before.find? accept := by
    rw [← List.head?_filter, ← List.head?_filter]
    exact congrArg List.head? (List.filter_congr fun id member =>
      same id fun isLeaf => longer.absent (isLeaf ▸ member))
  have absent : leaf ∉ (before.find? accept).toList := fun isFirst =>
    longer.absent (List.mem_of_find?_eq_some (Option.mem_toList.mp isFirst))
  rcases longer.shape with rfl | rfl
  · rw [others]
    exact .refl absent
  · rw [List.find?_append, others]
    cases first : before.find? accept with
    | none =>
        rw [Option.none_or, List.find?_singleton]
        split
        · exact .concat List.not_mem_nil
        · exact .refl List.not_mem_nil
    | some id =>
        rw [first] at absent
        exact .refl absent

end Accept

end Extends

namespace Document

variable {document : Document}

/-! ## The walks behind a new leaf -/

theorem content_leaf (parent : NodeId) (content : Content) :
    ((document.withLeaf parent content).get? document.nextId).map Node.content = some content := by
  rw [withLeaf, get?_attach, get?_allocate, if_pos rfl]
  rfl

theorem element?_withLeaf {id : NodeId} (other : id ≠ document.nextId) (parent : NodeId)
    (content : Content) :
    (document.withLeaf parent content).element? id = document.element? id := by
  rw [withLeaf, element?_attach, element?_allocate_of_ne other]

theorem isElement_withLeaf (parent : NodeId) (content : Content) (id : NodeId)
    (other : id ≠ document.nextId) :
    (document.withLeaf parent content).isElement id = document.isElement id := by
  rw [isElement, isElement, element?_withLeaf other]

theorem holdsAt_withLeaf (parent : NodeId) (content : Content) (compound : Compound) (id : NodeId)
    (other : id ≠ document.nextId) :
    compound.holdsAt (document.withLeaf parent content) id = compound.holdsAt document id :=
  compound.holdsAt_eq_of_element? (element?_withLeaf other parent content)

namespace WellLinked

variable {parent : NodeId} (linked : document.WellLinked) (old : document.Has parent)
  (content : Content)
include linked old

theorem parent?_withLeaf (id : NodeId) :
    (document.withLeaf parent content).parent? id =
      if id = document.nextId then some parent else document.parent? id := by
  rw [Document.withLeaf, parent?_attach id (linked.attaches_nextId old content).has_child]
  exact congrArg (fun above => if id = document.nextId then some parent else above)
    (parent?_allocate document content id)

theorem extends_children (id : NodeId) :
    Extends document.nextId (document.children id)
      ((document.withLeaf parent content).children id) := by
  have absent : document.nextId ∉ document.children id := fun listed =>
    document.not_has_nextId (linked.has_child listed)
  rw [children_withLeaf old]
  split
  · exact .concat absent
  · exact .refl absent

theorem extends_parent? {id : NodeId} (other : id ≠ document.nextId) :
    Extends document.nextId (document.parent? id).toList
      ((document.withLeaf parent content).parent? id).toList := by
  rw [linked.parent?_withLeaf old, if_neg other]
  refine .refl fun above => ?_
  have listed := (linked.mem_children_iff document.nextId id).mpr (Option.mem_toList.mp above)
  exact document.not_has_nextId (has_of_mem_children listed)

/-- The walk upwards goes on as before. -/
theorem extends_ancestors {id : NodeId} (other : id ≠ document.nextId) :
    Extends document.nextId (document.ancestors id)
      ((document.withLeaf parent content).ancestors id) := by
  have whole := linked.trail_ancestors id
  have absent : document.nextId ∉ document.ancestors id := fun member =>
    document.not_has_nextId (linked.has_of_mem_trail whole member)
  have allocated := whole.of_same_links (linked_allocate document content .parent)
  have later := trail_attach_of_notMem (linked.attaches_nextId old content) allocated absent
  have known := (linked.withLeaf old content).trail_ancestors id
  rw [linked.parent?_withLeaf old, if_neg other] at known
  rw [known.unique later]
  exact .refl absent

/-- The siblings of a node are the ones that it had, with the new leaf at the end or not. -/
theorem extends_siblings {id : NodeId} (other : id ≠ document.nextId) :
    Extends document.nextId (document.following id)
        ((document.withLeaf parent content).following id) ∧
      Extends document.nextId (document.preceding id)
        ((document.withLeaf parent content).preceding id) := by
  have linkedNext := linked.withLeaf old content
  rcases linked.free_or_exists_siblings id with free | ⟨above, before, behind, siblings⟩
  · have freeNext : (document.withLeaf parent content).parent? id = none := by
      rw [linked.parent?_withLeaf old, if_neg other, free]
    obtain ⟨following, preceding⟩ := linked.siblings_eq_nil free
    obtain ⟨followingNext, precedingNext⟩ := linkedNext.siblings_eq_nil freeNext
    rw [following, preceding, followingNext, precedingNext]
    exact ⟨.refl List.not_mem_nil, .refl List.not_mem_nil⟩
  · have absent : document.nextId ∉ before ++ id :: behind := by
      rw [← siblings]
      exact (linked.extends_children old content above).absent
    rw [List.mem_append, List.mem_cons, not_or, not_or] at absent
    obtain ⟨absentBefore, -, absentBehind⟩ := absent
    have later := children_withLeaf old content above
    rw [siblings] at later
    rw [linked.following_eq siblings, linked.preceding_eq siblings]
    split at later
    · rw [List.append_assoc, List.cons_append] at later
      rw [linkedNext.following_eq later, linkedNext.preceding_eq later]
      exact ⟨.concat absentBehind, .refl (by simpa using absentBefore)⟩
    · rw [linkedNext.following_eq later, linkedNext.preceding_eq later]
      exact ⟨.refl absentBehind, .refl (by simpa using absentBefore)⟩

/-! ## From the new leaf -/

theorem following_leaf :
    (document.withLeaf parent content).following document.nextId = [] := by
  have later := children_withLeaf old content parent
  rw [if_pos rfl] at later
  exact (linked.withLeaf old content).following_eq later

theorem find_leaf (compound : Compound) :
    (document.withLeaf parent content).find document.nextId compound = [] := by
  rw [(linked.withLeaf old content).find_eq, children_leaf old]
  rfl

/-- **No combinator leads on from a new leaf.** -/
theorem apply_axis_leaf (combinator : Combinator) (compound : Compound) :
    combinator.axis.apply (document.withLeaf parent content) document.nextId compound = [] := by
  cases combinator with
  | descendant => exact linked.find_leaf old content compound
  | child =>
      show Document.child _ _ _ = []
      rw [(linked.withLeaf old content).child_eq, children_leaf old]
      rfl
  | adjacentSibling =>
      show Document.next _ _ _ = []
      rw [Document.next, linked.following_leaf old]
      rfl
  | generalSibling =>
      show Document.nextAll _ _ _ = []
      rw [Document.nextAll, linked.following_leaf old]
      rfl

/-! ## From the other nodes -/

/-- The descent finds what it has found before, and at most the new leaf besides. -/
theorem filter_find_withLeaf (id : NodeId) (compound : Compound) :
    ((document.withLeaf parent content).find id compound).filter (· != document.nextId) =
      document.find id compound := by
  induction id using linked.induction_below with
  | step id ih =>
      have nowhere : ((if compound.holdsAt (document.withLeaf parent content) document.nextId then
          [document.nextId] else []) ++ (document.withLeaf parent content).find document.nextId
            compound).filter (· != document.nextId) = [] := by
        rw [linked.find_leaf old]
        split <;> simp
      have elements := (linked.extends_children old content id).filter_filter
        (isElement_withLeaf parent content)
      rw [(linked.withLeaf old content).find_eq, linked.find_eq, List.filter_flatMap,
        ← flatMap_filter_ne nowhere, elements]
      refine List.flatMap_congr fun child member => ?_
      have listed := List.mem_of_mem_filter member
      have other : child ≠ document.nextId := by
        rintro rfl
        exact (linked.extends_children old content id).absent listed
      rw [List.filter_append, ih child listed, holdsAt_withLeaf parent content compound child other]
      split
      · rw [filter_ne_eq_self (by simpa using other.symm)]
      · rfl

/-- **An axis lists what it has listed before**, in the same order, and at most the new leaf
besides. -/
theorem filter_apply_withLeaf (axis : Axis) {id : NodeId} (other : id ≠ document.nextId)
    (compound : Compound) :
    (axis.apply (document.withLeaf parent content) id compound).filter (· != document.nextId) =
      axis.apply document id compound := by
  have linkedNext := linked.withLeaf old content
  have children := linked.extends_children old content id
  obtain ⟨following, preceding⟩ := linked.extends_siblings old content other
  have isElement := @isElement_withLeaf document parent content
  have holds := @holdsAt_withLeaf document parent content compound
  cases axis with
  | find => exact linked.filter_find_withLeaf old content id compound
  | child =>
      show (Document.child _ _ _).filter _ = Document.child _ _ _
      rw [linkedNext.child_eq, linked.child_eq]
      exact children.filter_filter holds
  | not =>
      show (Document.not _ _ _).filter _ = Document.not _ _ _
      rw [linkedNext.not_eq, linked.not_eq]
      refine children.filter_filter fun id other => ?_
      rw [isElement id other, holds id other]
  | next => exact (following.find? isElement).filter_filter holds
  | nextAll => exact following.filter_filter holds
  | prev => exact (preceding.find? isElement).filter_filter holds
  | prevAll => exact preceding.filter_filter holds
  | parent => exact (linked.extends_parent? old content other).filter_filter holds
  | parents => exact (linked.extends_ancestors old content other).filter_filter holds

/-! ## Queries -/

section Starts

variable {starts : List NodeId} (there : ∀ id ∈ starts, document.Has id)
include there

theorem filter_applyEach_withLeaf (axis : Axis) (compound : Compound) :
    ((document.withLeaf parent content).applyEach axis starts compound).filter
      (· != document.nextId) = document.applyEach axis starts compound := by
  rw [applyEach, List.filter_flatMap]
  refine List.flatMap_congr fun start member => ?_
  refine linked.filter_apply_withLeaf old content axis ?_ compound
  rintro rfl
  exact document.not_has_nextId (there _ member)

/-- Along a chain the new leaf can only come last. -/
theorem filter_evaluate_withLeaf (chain : Chain) :
    ((document.withLeaf parent content).evaluate starts chain).filter (· != document.nextId) =
      document.evaluate starts chain := by
  induction chain with
  | single compound => exact linked.filter_applyEach_withLeaf old content there .find compound
  | link before combinator last ih =>
      have nowhere : (combinator.axis.apply (document.withLeaf parent content) document.nextId
          last).filter (· != document.nextId) = [] := by
        rw [linked.apply_axis_leaf old]
        rfl
      rw [evaluate, applyEach, List.filter_flatMap, ← flatMap_filter_ne nowhere, ih]
      refine List.flatMap_congr fun id member => ?_
      refine linked.filter_apply_withLeaf old content combinator.axis ?_ last
      rw [← ih] at member
      obtain ⟨-, other⟩ := List.mem_filter.mp member
      exact bne_iff_ne.mp other

/-- **A query finds what it has found before**, in the same order, and at most the new leaf
besides. -/
theorem filter_related_withLeaf (selector : Selector) (axis : Axis) :
    ((document.withLeaf parent content).related starts selector axis).filter
      (· != document.nextId) = document.related starts selector axis := by
  rw [related_eq_flatMap, related_eq_flatMap, List.filter_flatMap]
  refine List.flatMap_congr fun chain _ => ?_
  by_cases find : axis = .find
  · subst find
    exact linked.filter_evaluate_withLeaf old content there chain
  · cases chain with
    | single compound =>
        rw [contribution_single, contribution_single]
        exact linked.filter_applyEach_withLeaf old content there axis compound
    | link before combinator last => rw [contribution_link find, contribution_link find]; rfl

/-- A new leaf that is no element disturbs no query at all. -/
theorem related_withLeaf_of_not_element (selector : Selector) (axis : Axis)
    (bare : (document.withLeaf parent content).isElement document.nextId = false) :
    (document.withLeaf parent content).related starts selector axis =
      document.related starts selector axis := by
  rw [← linked.filter_related_withLeaf old content there, filter_ne_eq_self]
  intro listed
  rw [isElement_of_mem_related listed] at bare
  cases bare

end Starts

end WellLinked

/-- **Appending a leaf disturbs no query**: an element is found besides what was found
before, if at all, and a text or a comment changes nothing. -/
theorem Grown.queries_append (grown : document.Grown) {parent : NodeId}
    (old : document.Has parent) {starts : List NodeId} (there : ∀ id ∈ starts, document.Has id)
    (selector : Selector) (axis : Axis) :
    (∀ element, ∃ next, document.appendElement parent element = .ok next ∧
      (next.select starts selector).filter (· != document.nextId) =
        document.select starts selector ∧
      List.filter (· != document.nextId) <$> next.relative starts selector axis =
        document.relative starts selector axis) ∧
    (∀ text, ∃ next, document.appendText parent text = .ok next ∧
      next.select starts selector = document.select starts selector ∧
      next.relative starts selector axis = document.relative starts selector axis) ∧
    ∀ text, ∃ next,
      (document.allocate (.comment text)).appendChild parent document.nextId = .ok next ∧
      next.select starts selector = document.select starts selector ∧
      next.relative starts selector axis = document.relative starts selector axis := by
  have linked := grown.wellLinked
  have bare {content : Content}
      (notElement : (document.withLeaf parent content).isElement document.nextId = false) :
      ∃ next, document.append parent content = .ok next ∧
        next.select starts selector = document.select starts selector ∧
        next.relative starts selector axis = document.relative starts selector axis := by
    have same := linked.related_withLeaf_of_not_element old content there selector
    refine ⟨_, linked.append_eq_ok old content, same .find notElement, ?_⟩
    rw [relative, relative, same axis notElement]
  refine ⟨fun element => ?_, fun text => bare ?_, fun text => bare ?_⟩
  · have same := linked.filter_related_withLeaf old (.element element) there selector
    refine ⟨_, linked.append_eq_ok old (.element element), same .find, ?_⟩
    rw [relative, relative, map_bind]
    simp only [map_pure, same axis]
  · rw [isElement, element?, content_leaf]
    rfl
  · rw [isElement, element?, content_leaf]
    rfl

/-- Behind an element `a` an element `b` is appended. It is found twice, and `a` is found as
before. -/
theorem Grown.queries_append_of_sibling :
    ∃ document next : Document, ∃ selector : Selector, document.Grown ∧
      document.appendElement root ⟨"b", []⟩ = .ok next ∧
      document.select [root] selector = [⟨1⟩] ∧
      next.select [root] selector = [⟨2⟩, ⟨1⟩, ⟨2⟩] ∧
      (next.select [root] selector).filter (· != document.nextId) =
        document.select [root] selector := by
  have grown := @Grown.append _ .new root (by decide) (.element ⟨"a", []⟩)
  have old : (Document.new.withLeaf root (.element ⟨"a", []⟩)).Has root := by decide
  let selector : Selector :=
    ⟨[.link (.single ⟨[.tag "a"]⟩) .adjacentSibling ⟨[]⟩, .single ⟨[]⟩]⟩
  have there : ∀ id ∈ [root], Document.Has _ id := List.forall_mem_singleton.mpr old
  obtain ⟨next, appended, found, -⟩ := (grown.queries_append old there selector .find).1 ⟨"b", []⟩
  cases (grown.wellLinked.append_eq_ok old _).symm.trans appended
  exact ⟨_, _, selector, grown, appended, rfl, rfl, found⟩

end Document

end TreeSelector
