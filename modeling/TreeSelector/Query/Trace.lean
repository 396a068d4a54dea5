import TreeSelector.Query
import TreeSelector.Text.Padded

/-!
# Tracing the evaluation of a chain

A traced evaluation lists the same nodes as a plain one and reports on every
chain that it evaluates on the way: the chain itself and each chain before one
of its combinators. A line of the trace tells how deep within the outermost
chain the evaluation is, from how many nodes it started, and how many it lists.
It is written when the evaluation is done, so the innermost chain comes first.
-/

set_option autoImplicit false

namespace TreeSelector

/-- A report on the evaluation of one chain. -/
structure TraceLine where
  depth : Nat
  chain : Chain
  starts : Nat
  results : Nat
  deriving DecidableEq, Repr

/-- A report as text, indented by its depth. -/
def TraceLine.render (line : TraceLine) : String :=
  "[MATCH] " ++ Text.spaces (2 * line.depth) ++ line.chain.render ++ " in=" ++
    toString line.starts ++ " out=" ++ toString line.results

/-- The depth that the evaluation is at, and the lines written so far. -/
structure Tracer where
  depth : Nat
  lines : List TraceLine
  deriving DecidableEq, Repr

/-- No evaluation under way, and nothing written. -/
def Tracer.initial : Tracer :=
  ⟨0, []⟩

namespace Document

/-- Reports on the evaluation of a chain, which itself is one level deeper. -/
def reported (starts : List NodeId) (chain : Chain) (evaluation : StateM Tracer (List NodeId)) :
    StateM Tracer (List NodeId) := do
  let depth := (← get).depth
  modify fun tracer => { tracer with depth := depth + 1 }
  let results ← evaluation
  modify fun tracer =>
    ⟨depth, tracer.lines ++ [⟨depth, chain, starts.length, results.length⟩]⟩
  return results

/-- The nodes that a chain leads to, with a report on every chain evaluated. -/
def evaluateTraced (document : Document) (starts : List NodeId) :
    Chain → StateM Tracer (List NodeId)
  | .single compound =>
      reported starts (.single compound) (pure (document.applyEach .find starts compound))
  | .link before combinator last =>
      reported starts (.link before combinator last) do
        let found ← document.evaluateTraced starts before
        return document.applyEach combinator.axis found last

/-- The nodes that the alternatives lead to, one alternative after the other, with a report on
every chain evaluated. -/
def selectTraced (document : Document) (starts : List NodeId) (selector : Selector) :
    StateM Tracer (List NodeId) := do
  let found ← selector.alternatives.mapM (document.evaluateTraced starts)
  return found.flatten

end Document

end TreeSelector
