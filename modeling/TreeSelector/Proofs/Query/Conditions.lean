import TreeSelector.Proofs.Query.Additivity
import TreeSelector.Proofs.Query.Filtering
import Mathlib.Data.Finset.Dedup
import Mathlib.Data.Finset.Erase

/-!
# Compounds as sets of conditions

The predicates of a compound must hold all together. In which order they are written and how
often plays no part, and the tag `*` asks nothing of an element. So a compound says no more than
its set of conditions (`Compound.conditions`), and a query does not tell two selectors apart
that have the same alternatives and combinators over compounds of the same conditions
(`Selector.SameConditions.queries_eq`).

The tag `*` may be left out since a compound asks for an element before anything else. By itself
it holds of texts, comments and documents too (`Predicate.holdsAt_star`), and a compound of no
predicates would hold of them likewise.
-/

set_option autoImplicit false

namespace TreeSelector

variable {document : Document}

/-! ## One compound -/

theorem Predicate.holdsAt_star (id : NodeId) : (Predicate.tag "*").holdsAt document id = true :=
  rfl

namespace Compound

/-- What a compound asks of an element. -/
def conditions (compound : Compound) : Finset Predicate :=
  compound.predicates.toFinset.erase (.tag "*")

theorem mem_conditions_iff {compound : Compound} {predicate : Predicate} :
    predicate ∈ compound.conditions ↔ predicate ≠ .tag "*" ∧ predicate ∈ compound.predicates := by
  rw [conditions, Finset.mem_erase, List.mem_toFinset]

theorem holdsAt_iff_conditions {compound : Compound} {id : NodeId} :
    compound.holdsAt document id = true ↔ document.isElement id = true ∧
      ∀ predicate ∈ compound.conditions, predicate.holdsAt document id = true := by
  rw [holdsAt, Bool.and_eq_true, List.all_eq_true]
  refine and_congr_right fun _ => ⟨fun all predicate member => ?_, fun all predicate member => ?_⟩
  · exact all predicate (mem_conditions_iff.mp member).2
  · by_cases star : predicate = .tag "*"
    · rw [star, Predicate.holdsAt_star]
    · exact all predicate (mem_conditions_iff.mpr ⟨star, member⟩)

/-- **The conditions decide which nodes satisfy a compound**, elements or not. -/
theorem holdsAt_congr {first second : Compound} (same : first.conditions = second.conditions)
    (id : NodeId) : first.holdsAt document id = second.holdsAt document id := by
  rw [Bool.eq_iff_iff, holdsAt_iff_conditions, holdsAt_iff_conditions, same]

end Compound

/-- An axis lists the same nodes under compounds of the same conditions. -/
theorem Axis.apply_congr {first second : Compound} (same : first.conditions = second.conditions)
    (axis : Axis) (id : NodeId) : axis.apply document id first = axis.apply document id second := by
  by_cases excluding : axis = .not
  · subst excluding
    show document.not id first = document.not id second
    rw [Document.not_eq_filter_child, Document.not_eq_filter_child]
    exact List.filter_congr fun child _ => congrArg (!·) (Compound.holdsAt_congr same child)
  · rw [Document.apply_eq_filter excluding id first, Document.apply_eq_filter excluding id second]
    exact List.filter_congr fun node _ => Compound.holdsAt_congr same node

/-! ## Chains and selectors -/

/-- The same combinators join compounds of the same conditions. -/
inductive Chain.SameConditions : Chain → Chain → Prop where
  | single {first second : Compound} (same : first.conditions = second.conditions) :
      SameConditions (.single first) (.single second)
  | link {before before' : Chain} {last last' : Compound}
      (earlier : SameConditions before before') (combinator : Combinator)
      (same : last.conditions = last'.conditions) :
      SameConditions (.link before combinator last) (.link before' combinator last')

/-- The alternatives have the same conditions one by one. -/
def Selector.SameConditions (first second : Selector) : Prop :=
  List.Forall₂ Chain.SameConditions first.alternatives second.alternatives

namespace Document

theorem applyEach_congr {first second : Compound} (same : first.conditions = second.conditions)
    (axis : Axis) (starts : List NodeId) :
    document.applyEach axis starts first = document.applyEach axis starts second :=
  List.flatMap_congr fun start _ => axis.apply_congr same start

/-- **A chain leads to the same nodes**, since each link starts from the same nodes as before. -/
theorem evaluate_congr {first second : Chain} (same : first.SameConditions second)
    (starts : List NodeId) : document.evaluate starts first = document.evaluate starts second := by
  induction same with
  | single same => exact applyEach_congr same .find starts
  | link _ combinator same ih => rw [evaluate, evaluate, ih, applyEach_congr same]

theorem contribution_congr {first second : Chain} (same : first.SameConditions second)
    (starts : List NodeId) (axis : Axis) :
    document.contribution starts axis first = document.contribution starts axis second := by
  by_cases find : axis = .find
  · subst find
    exact evaluate_congr same starts
  · cases same with
    | single same => rw [contribution_single, contribution_single, applyEach_congr same]
    | link => rw [contribution_link find, contribution_link find]

theorem related_congr {first second : Selector} (same : first.SameConditions second)
    (starts : List NodeId) (axis : Axis) :
    document.related starts first axis = document.related starts second axis := by
  obtain ⟨firstAlternatives⟩ := first
  obtain ⟨secondAlternatives⟩ := second
  change List.Forall₂ Chain.SameConditions firstAlternatives secondAlternatives at same
  rw [related_eq_flatMap, related_eq_flatMap]
  induction same with
  | nil => rfl
  | cons chain _ ih =>
      rw [List.flatMap_cons, List.flatMap_cons, contribution_congr chain, ih]

end Document

/-- **Queries see conditions only.** Where two selectors have the same alternatives and
combinators, and the compounds in the same places have the same predicates in any order and
number, with `*` or without, every query along every axis lists the same nodes in the same
order. This does not depend on the warnings given before, which may differ. -/
theorem Selector.SameConditions.queries_eq {first second : Selector}
    (same : first.SameConditions second) (document : Document) (starts : List NodeId) :
    document.select starts first = document.select starts second ∧
    ∀ axis log later, ((document.relative starts first axis).run log).1 =
      ((document.relative starts second axis).run later).1 :=
  ⟨Document.related_congr same starts .find, fun axis _ _ => Document.related_congr same starts axis⟩

/-- The selectors `*[x].y, *` and `.y[x].y, ` leave out the same child. -/
theorem Selector.SameConditions.queries_eq_of_permuted :
    ∃ first second : Selector, ∃ document : Document, document.Grown ∧
      first ≠ second ∧ first.SameConditions second ∧
      document.related [Document.root] first .not = [⟨1⟩] ∧
      ((document.relative [Document.root] first .not).run .empty).1 =
        ((document.relative [Document.root] second .not).run .empty).1 := by
  have bare := @Document.Grown.append _ .new Document.root (by decide) (.element ⟨"a", []⟩)
  have marked := @Document.Grown.append _ bare Document.root (by decide)
    (.element ⟨"a", [⟨"x", ""⟩, ⟨"class", "y"⟩]⟩)
  have grown := @Document.Grown.append _ marked Document.root (by decide) (.text "y")
  let present : Predicate := .withAttribute ⟨"x", .present, ""⟩
  let first : Selector :=
    ⟨[.single ⟨[.tag "*", present, .className "y"]⟩, .single ⟨[.tag "*"]⟩]⟩
  let second : Selector :=
    ⟨[.single ⟨[.className "y", present, .className "y"]⟩, .single .empty]⟩
  have same : first.SameConditions second :=
    .cons (.single (by decide)) (.cons (.single (by decide)) .nil)
  obtain ⟨-, related⟩ := same.queries_eq _ [Document.root]
  exact ⟨first, second, _, grown, by decide, same, by decide, related .not .empty .empty⟩

end TreeSelector
