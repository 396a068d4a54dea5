import TreeSelector.Proofs.Document.Growth
import TreeSelector.Proofs.Query.Contribution
import TreeSelector.Proofs.Selector.Linking
import TreeSelector.Selection

/-!
# A query step by step

A chain can be walked in one query, or by one step for each of its compounds. Both lead to
the same nodes, in the same order and as often (`Selection.find_append_eq_steps`): the text
of the whole chain is read as the chain with one more link (`parse_spaced`), and a link
walks the axis of its combinator from the nodes found before
(`Document.related_link`).
-/

set_option autoImplicit false

namespace TreeSelector

/-! ## One alternative -/

namespace Document

/-- Under a single compound, every axis is walked from each of the starting nodes. -/
theorem related_single (document : Document) (starts : List NodeId) (compound : Compound)
    (axis : Axis) :
    document.related starts ⟨[.single compound]⟩ axis =
      document.applyEach axis starts compound := by
  rw [related_eq_flatMap, List.flatMap_singleton, contribution_single]

/-- **A link is one more step.** It walks the axis of its combinator from where the chain
before it leads. -/
theorem related_link (document : Document) (starts : List NodeId) (chain : Chain)
    (combinator : Combinator) (compound : Compound) :
    document.related starts ⟨[.link chain combinator compound]⟩ .find =
      document.related (document.related starts ⟨[chain]⟩ .find) ⟨[.single compound]⟩
        combinator.axis := by
  rw [related_single]
  simp only [related, select, evaluate, List.flatMap_singleton]

end Document

/-- A single compound has an effect on every axis. -/
theorem Selector.warnings_single (compound : Compound) (axis : Axis) :
    (Selector.mk [.single compound]).warnings axis = [] := by
  cases axis <;> rfl

/-! ## Steps of a selection -/

namespace Selection

/-- A step under a text that is read, where there is nothing to warn of. -/
theorem step_of_parse {axis : Axis} {text : String} {selector : Selector}
    (read : parse text = .ok selector) (quiet : selector.warnings axis = [])
    (selection : Selection) :
    selection.step axis text =
      pure ⟨selection.document, selection.document.related selection.nodes selector axis⟩ := by
  rw [step, read]
  simp only [select, Document.relative, quiet]
  rfl

/-- **A chain is walked link by link.** -/
theorem find_spaced {text later : String} {chain : Chain} {compound : Compound}
    (read : parse text = .ok ⟨[chain]⟩) (full : chain.last.isEmpty = false)
    (readLater : parse later = .ok ⟨[.single compound]⟩) (combinator : Combinator)
    (selection : Selection) :
    ∃ found, selection.find (text ++ combinator.spaced ++ later) = pure found ∧
      (selection.find text >>= (step combinator.axis · later)) = pure found := by
  have whole := parse_spaced read full readLater combinator
  refine ⟨_, step_of_parse whole rfl selection, ?_⟩
  rw [find, step_of_parse read rfl, pure_bind,
    step_of_parse readLater (Selector.warnings_single compound _), Document.related_link]

/-- **Combinators agree with steps.** Where the first text is one chain that does not end in
an empty compound, and the second is one compound, the chain with one more link leads to the
nodes that the step of its combinator leads to from those of the first text. -/
theorem find_append_eq_steps {text later : String} {chain : Chain} {compound : Compound}
    (read : parse text = .ok ⟨[chain]⟩) (full : chain.last.isEmpty = false)
    (readLater : parse later = .ok ⟨[.single compound]⟩) (selection : Selection) :
    (∃ found, selection.find (text ++ " > " ++ later) = pure found ∧
      (selection.find text >>= (·.child later)) = pure found) ∧
    (∃ found, selection.find (text ++ " " ++ later) = pure found ∧
      (selection.find text >>= (·.find later)) = pure found) ∧
    (∃ found, selection.find (text ++ " + " ++ later) = pure found ∧
      (selection.find text >>= (·.next later)) = pure found) ∧
    ∃ found, selection.find (text ++ " ~ " ++ later) = pure found ∧
      (selection.find text >>= (·.nextAll later)) = pure found :=
  ⟨find_spaced read full readLater .child selection,
    find_spaced read full readLater .descendant selection,
    find_spaced read full readLater .adjacentSibling selection,
    find_spaced read full readLater .generalSibling selection⟩

/-- Behind a child `b` of an element `a` stands an element with the value `>`. Both the
chain and the step lead to it. -/
theorem find_append_eq_steps_of_later_sibling :
    let document := ((Document.new.withLeaf Document.root (.element ⟨"a", []⟩)).withLeaf ⟨1⟩
      (.element ⟨"b", []⟩)).withLeaf ⟨1⟩ (.element ⟨"c", [⟨"x", ">"⟩]⟩)
    let selection := ofDocument document
    parse "a > b" = .ok ⟨[.link (.single ⟨[.tag "a"]⟩) .child ⟨[.tag "b"]⟩]⟩ ∧
      parse "[x='>']" = .ok ⟨[.single ⟨[.withAttribute ⟨"x", .equals, ">"⟩]⟩]⟩ ∧
      selection.find "a > b ~ [x='>']" = pure ⟨document, [⟨3⟩]⟩ ∧
      (selection.find "a > b" >>= (·.nextAll "[x='>']")) = pure ⟨document, [⟨3⟩]⟩ := by
  intro document selection
  let chain : Chain := .link (.single ⟨[.tag "a"]⟩) .child ⟨[.tag "b"]⟩
  let compound : Compound := ⟨[.withAttribute ⟨"x", .equals, ">"⟩]⟩
  have read : parse "a > b" = .ok ⟨[chain]⟩ := by decide +kernel
  have readLater : parse "[x='>']" = .ok ⟨[.single compound]⟩ := by decide +kernel
  have first : selection.document.related selection.nodes ⟨[chain]⟩ .find = [⟨2⟩] := by
    decide +kernel
  have second : document.related [⟨2⟩] ⟨[.single compound]⟩ .nextAll = [⟨3⟩] := by decide +kernel
  have walked : (selection.find "a > b" >>= (·.nextAll "[x='>']")) = pure ⟨document, [⟨3⟩]⟩ := by
    rw [find, step_of_parse read rfl, pure_bind, first, nextAll,
      step_of_parse readLater (Selector.warnings_single compound _)]
    exact congrArg (fun nodes => pure (Selection.mk document nodes)) second
  obtain ⟨-, -, -, found, whole, steps⟩ := find_append_eq_steps read rfl readLater selection
  exact ⟨read, readLater, (whole.trans steps.symm).trans walked, walked⟩

end Selection

end TreeSelector
