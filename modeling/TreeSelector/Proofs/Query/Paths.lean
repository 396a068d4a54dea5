import Mathlib.Data.Set.Card
import TreeSelector.Proofs.Query.Axes
import TreeSelector.Proofs.Selector.WellFormed
import TreeSelector.Query

/-!
# Queries count paths

A chain leads to a node along paths (`Document.IsPath`). A path begins at one of the
starting nodes, known by its index, and has one node for each compound. The first node
lies below the starting node, each of the others stands to the one before as the
combinator between them says, and all satisfy their compounds. In a grown document a
query lists a node as often as there are paths that end at it
(`Document.Grown.count_eq_encard_pathsTo`).

To show this the paths are listed in the order in which the query comes to their ends
(`Document.paths`). The query lists these ends (`Document.filterMap_getLast?_paths`),
and a path is listed once (`Document.WellLinked.nodup_paths`).
-/

set_option autoImplicit false

namespace TreeSelector

namespace Document

variable {document : Document} {starts : List NodeId}

/-- The nodes form a path along the chain, from the starting node with the index. -/
structure IsPath (document : Document) (starts : List NodeId) (chain : Chain) (index : Nat)
    (nodes : List NodeId) : Prop where
  length : nodes.length = chain.compounds.length
  matched : ∀ (place : Nat) (compound : Compound) (id : NodeId),
    chain.compounds[place]? = some compound → nodes[place]? = some id →
      compound.holdsAt document id = true
  first : ∃ start id, starts[index]? = some start ∧ nodes[0]? = some id ∧
    document.Descends start id
  joined : ∀ (place : Nat) (combinator : Combinator) (id next : NodeId),
    chain.combinators[place]? = some combinator → nodes[place]? = some id →
      nodes[place + 1]? = some next → combinator.Joins document id next

/-- The paths along a chain that end at a node. -/
def pathsTo (document : Document) (starts : List NodeId) (chain : Chain) (id : NodeId) :
    Set (Nat × List NodeId) :=
  {path | document.IsPath starts chain path.1 path.2 ∧ path.2.getLast? = some id}

/-! ## Paths link by link -/

theorem isPath_single_iff {compound : Compound} {index : Nat} {nodes : List NodeId} :
    document.IsPath starts (.single compound) index nodes ↔
      ∃ start id, starts[index]? = some start ∧ nodes = [id] ∧ document.Descends start id ∧
        compound.holdsAt document id = true := by
  constructor
  · rintro ⟨length, matched, ⟨start, id, started, head, descends⟩, -⟩
    obtain ⟨only, rfl⟩ := List.length_eq_one_iff.mp length
    obtain rfl : only = id := Option.some.inj head
    exact ⟨start, only, started, rfl, descends, matched 0 compound only rfl rfl⟩
  · rintro ⟨start, id, started, rfl, descends, holds⟩
    refine ⟨rfl, ?_, ⟨start, id, started, rfl, descends⟩, ?_⟩
    · intro place other node placed found
      obtain ⟨inside, rfl⟩ := List.getElem?_eq_some_iff.mp found
      obtain rfl : place = 0 := by simpa using inside
      cases placed
      exact holds
    · intro place combinator node behind joint
      cases joint

section Link

variable {before : Chain} {combinator : Combinator} {last : Compound} {index : Nat}
  {passed : List NodeId} {id next : NodeId}

theorem IsPath.length_eq (path : document.IsPath starts before index passed) :
    passed.length = before.combinators.length + 1 :=
  path.length.trans before.length_compounds

theorem IsPath.of_link
    (path : document.IsPath starts (.link before combinator last) index (passed ++ [next])) :
    document.IsPath starts before index passed := by
  have length : passed.length = before.compounds.length := by
    have whole := path.length
    simpa [Chain.compounds] using whole
  refine ⟨length, ?_, ?_, ?_⟩
  · intro place compound id placed found
    exact path.matched place compound id (Chain.getElem?_compounds_link.mpr (.inl placed))
      (getElem?_concat_eq_some_iff.mpr (.inl found))
  · obtain ⟨start, id, started, head, descends⟩ := path.first
    refine ⟨start, id, started, ?_, descends⟩
    rw [before.length_compounds] at length
    rwa [List.getElem?_append_left (by omega)] at head
  · intro place combinator id next joint found found'
    exact path.joined place combinator id next (Chain.getElem?_combinators_link.mpr (.inl joint))
      (getElem?_concat_eq_some_iff.mpr (.inl found))
      (getElem?_concat_eq_some_iff.mpr (.inl found'))

/-- A path goes on along the combinator behind it. -/
theorem IsPath.link (path : document.IsPath starts before index passed)
    (ended : passed.getLast? = some id) (joins : combinator.Joins document id next)
    (holds : last.holdsAt document next = true) :
    document.IsPath starts (.link before combinator last) index (passed ++ [next]) := by
  have length := path.length_eq
  refine ⟨?_, ?_, ?_, ?_⟩
  · simp [Chain.compounds, path.length]
  · intro place compound node placed found
    rcases Chain.getElem?_compounds_link.mp placed with placed | ⟨rfl, rfl⟩
    · rcases getElem?_concat_eq_some_iff.mp found with found | ⟨rfl, -⟩
      · exact path.matched place compound node placed found
      · rw [path.length, List.getElem?_eq_none (Nat.le_refl _)] at placed
        cases placed
    · rw [← length, List.getElem?_concat_length] at found
      cases found
      exact holds
  · obtain ⟨start, first, started, head, descends⟩ := path.first
    exact ⟨start, first, started, getElem?_concat_eq_some_iff.mpr (.inl head), descends⟩
  · intro place joint node behind joined found found'
    rcases Chain.getElem?_combinators_link.mp joined with joined | ⟨rfl, rfl⟩
    · obtain ⟨inside, -⟩ := List.getElem?_eq_some_iff.mp joined
      rw [List.getElem?_append_left (by omega)] at found found'
      exact path.joined place joint node behind joined found found'
    · rw [← length, List.getElem?_concat_length] at found'
      cases found'
      rw [List.getLast?_eq_getElem?, length] at ended
      rw [List.getElem?_append_left (by omega)] at found
      cases ended.symm.trans found
      exact joins

/-- **A path along a longer chain is a path and one more step.** -/
theorem isPath_link_iff {nodes : List NodeId} :
    document.IsPath starts (.link before combinator last) index nodes ↔
      ∃ passed id next, nodes = passed ++ [next] ∧ document.IsPath starts before index passed ∧
        passed.getLast? = some id ∧ combinator.Joins document id next ∧
          last.holdsAt document next = true := by
  constructor
  · intro path
    rcases List.eq_nil_or_concat nodes with rfl | ⟨passed, next, rfl⟩
    · exact absurd path.length_eq (by simp)
    · rw [List.concat_eq_append] at path
      have shorter := path.of_link
      have length := shorter.length_eq
      rcases List.eq_nil_or_concat passed with rfl | ⟨init, id, rfl⟩
      · cases length
      · rw [List.concat_eq_append, List.length_append, List.length_singleton,
          Nat.add_right_cancel_iff] at length
        rw [List.concat_eq_append] at path shorter
        have joins := path.joined init.length combinator id next
          (Chain.getElem?_combinators_link.mpr (.inr ⟨length, rfl⟩)) (by simp) (by simp)
        have holds := path.matched (init.length + 1) last next
          (Chain.getElem?_compounds_link.mpr (.inr ⟨congrArg (· + 1) length, rfl⟩)) (by simp)
        exact ⟨init ++ [id], id, next, by simp, shorter, by simp, joins, holds⟩
  · rintro ⟨passed, id, next, rfl, path, ended, joins, holds⟩
    exact path.link ended joins holds

end Link

/-! ## The paths in a row -/

/-- The paths along a chain, in the order in which the query comes to their ends. -/
def paths (document : Document) (starts : List NodeId) : Chain → List (Nat × List NodeId)
  | .single compound => starts.zipIdx.flatMap fun start =>
      (document.find start.1 compound).map fun id => (start.2, [id])
  | .link before combinator last => (document.paths starts before).flatMap fun path =>
      path.2.getLast?.toList.flatMap fun id =>
        (combinator.axis.apply document id last).map fun next => (path.1, path.2 ++ [next])

/-- **A query lists the ends of the paths.** -/
theorem filterMap_getLast?_paths (chain : Chain) :
    (document.paths starts chain).filterMap (·.2.getLast?) = document.evaluate starts chain := by
  induction chain with
  | single compound =>
      have ends (start : NodeId × Nat) :
          ((document.find start.1 compound).map fun id => (start.2, [id])).filterMap
            (·.2.getLast?) = document.find start.1 compound := by
        rw [List.filterMap_map]
        exact List.filterMap_some
      calc (document.paths starts (.single compound)).filterMap (·.2.getLast?)
          = starts.zipIdx.flatMap fun start => document.find start.1 compound := by
            rw [paths, List.filterMap_flatMap]
            exact List.flatMap_congr fun start _ => ends start
        _ = (starts.zipIdx.map Prod.fst).flatMap fun start => document.find start compound := by
            rw [List.flatMap_map]
        _ = document.evaluate starts (.single compound) := by
            rw [List.zipIdx_map_fst]
            rfl
  | link before combinator last ih =>
      have ends (passed : List NodeId) (index : Nat) (id : NodeId) :
          ((combinator.axis.apply document id last).map fun next =>
            (index, passed ++ [next])).filterMap (·.2.getLast?) =
              combinator.axis.apply document id last := by
        rw [List.filterMap_map]
        simp only [Function.comp_def, List.getLast?_concat]
        exact List.filterMap_some
      rw [paths, List.filterMap_flatMap, evaluate, applyEach, ← ih,
        List.filterMap_eq_flatMap_toList, List.flatMap_assoc]
      refine List.flatMap_congr fun path _ => ?_
      rw [List.filterMap_flatMap]
      exact List.flatMap_congr fun id _ => ends path.2 path.1 id

namespace WellLinked

variable (linked : document.WellLinked)
include linked

/-- **The row holds the paths.** -/
theorem mem_paths_iff {chain : Chain} {index : Nat} {nodes : List NodeId} :
    (index, nodes) ∈ document.paths starts chain ↔ document.IsPath starts chain index nodes := by
  induction chain generalizing nodes with
  | single compound =>
      rw [paths, isPath_single_iff, List.mem_flatMap]
      constructor
      · rintro ⟨⟨start, place⟩, started, member⟩
        obtain ⟨id, found, same⟩ := List.mem_map.mp member
        obtain ⟨rfl, rfl⟩ := Prod.mk.inj same
        obtain ⟨descends, holds⟩ := linked.mem_find_iff.mp found
        exact ⟨start, id, List.mem_zipIdx_iff_getElem?.mp started, rfl, descends, holds⟩
      · rintro ⟨start, id, started, rfl, descends, holds⟩
        refine ⟨(start, index), List.mem_zipIdx_iff_getElem?.mpr started, ?_⟩
        exact List.mem_map.mpr ⟨id, linked.mem_find_iff.mpr ⟨descends, holds⟩, rfl⟩
  | link before combinator last ih =>
      rw [paths, isPath_link_iff, List.mem_flatMap]
      constructor
      · rintro ⟨⟨place, passed⟩, path, member⟩
        obtain ⟨id, ended, member⟩ := List.mem_flatMap.mp member
        obtain ⟨next, found, same⟩ := List.mem_map.mp member
        obtain ⟨rfl, rfl⟩ := Prod.mk.inj same
        exact ⟨passed, id, next, rfl, ih.mp path, Option.mem_toList.mp ended,
          linked.mem_apply_axis_iff.mp found⟩
      · rintro ⟨passed, id, next, rfl, path, ended, found⟩
        refine ⟨(index, passed), ih.mpr path, List.mem_flatMap.mpr ⟨id, ?_, ?_⟩⟩
        · exact Option.mem_toList.mpr ended
        · exact List.mem_map.mpr ⟨next, linked.mem_apply_axis_iff.mpr found, rfl⟩

/-- **No path is in the row twice.** -/
theorem nodup_paths (starts : List NodeId) (chain : Chain) :
    (document.paths starts chain).Nodup := by
  induction chain with
  | single compound =>
      rw [paths, List.nodup_flatMap]
      constructor
      · intro start _
        refine (linked.nodup_find start.1 compound).map ?_
        intro id other same
        exact List.singleton_inj.mp (Prod.mk.inj same).2
      · -- Paths from starting nodes at different indices differ in the index.
        have indices : (starts.zipIdx.map Prod.snd).Nodup := by
          rw [List.zipIdx_map_snd]
          exact List.nodup_range'
        refine (List.pairwise_map.mp indices).imp fun {start other} apart => ?_
        intro path inStart inOther
        obtain ⟨id, -, rfl⟩ := List.mem_map.mp inStart
        obtain ⟨_, -, same⟩ := List.mem_map.mp inOther
        exact apart (Prod.mk.inj same).1.symm
  | link before combinator last ih =>
      rw [paths, List.nodup_flatMap]
      constructor
      · rintro ⟨index, passed⟩ _
        cases passed.getLast? with
        | none => exact List.nodup_nil
        | some id =>
            rw [Option.toList_some, List.flatMap_singleton]
            refine (linked.nodup_apply_axis combinator id last).map ?_
            intro next other same
            exact List.singleton_inj.mp (List.append_inj' (Prod.mk.inj same).2 rfl).2
      · -- A path along the longer chain tells the path that it goes on from.
        refine ih.imp fun {first second} apart => ?_
        have begun {path : Nat × List NodeId} {longer : Nat × List NodeId}
            (member : longer ∈ path.2.getLast?.toList.flatMap fun id =>
              (combinator.axis.apply document id last).map fun next =>
                (path.1, path.2 ++ [next])) : (longer.1, longer.2.dropLast) = path := by
          obtain ⟨id, -, member⟩ := List.mem_flatMap.mp member
          obtain ⟨next, -, rfl⟩ := List.mem_map.mp member
          rw [List.dropLast_concat]
        intro longer inFirst inSecond
        exact apart ((begun inFirst).symm.trans (begun inSecond))

/-- A query lists a node once for each path to it. -/
theorem count_evaluate (starts : List NodeId) (chain : Chain) (id : NodeId) :
    ((document.evaluate starts chain).count id : ℕ∞) =
      (document.pathsTo starts chain id).encard := by
  have ends : document.pathsTo starts chain id =
      ((document.paths starts chain).filter (·.2.getLast? == some id)).toFinset := by
    ext ⟨index, nodes⟩
    simp [pathsTo, linked.mem_paths_iff]
  have counted : (document.evaluate starts chain).count id =
      ((document.paths starts chain).filter (·.2.getLast? == some id)).length := by
    rw [← filterMap_getLast?_paths, List.count_eq_countP, List.countP_filterMap,
      ← List.countP_eq_length_filter]
    refine List.countP_congr fun path _ => ?_
    cases path.2.getLast? <;> rfl
  rw [counted, ends, Set.encard_coe_eq_coe_finsetCard,
    List.toFinset_card_of_nodup ((linked.nodup_paths starts chain).filter _)]

/-- The alternatives of a selector add up. -/
theorem count_select (starts : List NodeId) (selector : Selector) (id : NodeId) :
    ((document.select starts selector).count id : ℕ∞) =
      (selector.alternatives.map fun chain =>
        (document.pathsTo starts chain id).encard).sum := by
  rw [select]
  induction selector.alternatives with
  | nil => rfl
  | cons chain later ih =>
      rw [List.flatMap_cons, List.count_append, Nat.cast_add, linked.count_evaluate, ih,
        List.map_cons, List.sum_cons]

end WellLinked

/-- **In a grown document a query lists a node as often as there are paths to it**, and for
several alternatives the numbers of paths add up. -/
theorem Grown.count_eq_encard_pathsTo (grown : document.Grown) (starts : List NodeId)
    (id : NodeId) :
    (∀ chain, ((document.evaluate starts chain).count id : ℕ∞) =
      (document.pathsTo starts chain id).encard) ∧
    ∀ selector : Selector, ((document.select starts selector).count id : ℕ∞) =
      (selector.alternatives.map fun chain =>
        (document.pathsTo starts chain id).encard).sum :=
  ⟨fun chain => grown.wellLinked.count_evaluate starts chain id,
    fun selector => grown.wellLinked.count_select starts selector id⟩

/-- Below two nested elements there is a third. From the root, taken twice, four paths lead
to it along a descendant combinator. -/
theorem Grown.count_eq_encard_pathsTo_of_nested :
    ∃ document : Document, ∃ chain : Chain, document.Grown ∧
      document.evaluate [root, root] chain = [⟨3⟩, ⟨3⟩, ⟨3⟩, ⟨3⟩] ∧
        (document.pathsTo [root, root] chain ⟨3⟩).encard = 4 := by
  have outer := @Grown.append _ .new root (by decide) (.element ⟨"a", []⟩)
  have inner := @Grown.append _ outer ⟨1⟩ (by decide) (.element ⟨"a", []⟩)
  have innermost := @Grown.append _ inner ⟨2⟩ (by decide) (.element ⟨"b", []⟩)
  refine ⟨_, .link (.single ⟨[.tag "a"]⟩) .descendant ⟨[.tag "b"]⟩, innermost, rfl, ?_⟩
  rw [← (innermost.count_eq_encard_pathsTo [root, root] ⟨3⟩).1]
  rfl

end Document

end TreeSelector
