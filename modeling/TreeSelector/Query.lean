import TreeSelector.Axis
import TreeSelector.Selector.Render
import TreeSelector.Warning

/-!
# Queries

A query starts from a list of nodes and lists the nodes that a selector leads
to. `Document.select` evaluates the selector with its combinators: the first
compound of a chain is looked for below the starting nodes, and every
combinator walks its axis from the nodes found so far. `Document.relative` walks
any axis and uses each alternative as a plain condition; a chain with a
combinator is no plain condition, so it contributes nothing but a warning.

Results are put together in the order of evaluation, the alternatives outermost
and the starting nodes within. Nothing is removed: a node that is reached along
two paths is listed twice.
-/

set_option autoImplicit false

namespace TreeSelector

namespace Document

/-- Walks an axis from every node of a list. -/
def applyEach (document : Document) (axis : Axis) (starts : List NodeId) (compound : Compound) :
    List NodeId :=
  starts.flatMap fun start => axis.apply document start compound

/-- The nodes that a chain leads to from the starting nodes. -/
def evaluate (document : Document) (starts : List NodeId) : Chain → List NodeId
  | .single compound => document.applyEach .find starts compound
  | .link before combinator last =>
      document.applyEach combinator.axis (document.evaluate starts before) last

/-- The nodes that the alternatives lead to, one alternative after the other. -/
def select (document : Document) (starts : List NodeId) (selector : Selector) : List NodeId :=
  selector.alternatives.flatMap (document.evaluate starts)

/-- The nodes that an axis leads to under one alternative as a plain condition.
A chain with a combinator is none. -/
def relatedBy (document : Document) (starts : List NodeId) (axis : Axis) : Chain → List NodeId
  | .single compound => document.applyEach axis starts compound
  | .link _ _ _ => []

/-- The nodes that an axis leads to under a selector. -/
def related (document : Document) (starts : List NodeId) (selector : Selector) (axis : Axis) :
    List NodeId :=
  match axis with
  | .find => document.select starts selector
  | axis => selector.alternatives.flatMap (document.relatedBy starts axis)

end Document

/-- The warning that a chain with a combinator has no effect on an axis. -/
def Chain.noEffectWarning (chain : Chain) (axis : Axis) : Warning :=
  ⟨"Selector",
    "combinator alternative `" ++ chain.render ++ "` has no effect on `" ++ axis.name ++ "`"⟩

/-- The warning that an alternative gives rise to on an axis other than `find`. -/
def Chain.warningOn (axis : Axis) : Chain → List Warning
  | .single _ => []
  | .link before combinator last => [(Chain.link before combinator last).noEffectWarning axis]

/-- The warnings that a selector gives rise to on an axis, in the order of its
alternatives. The axis `find` admits every chain. -/
def Selector.warnings (selector : Selector) (axis : Axis) : List Warning :=
  match axis with
  | .find => []
  | axis => selector.alternatives.flatMap (Chain.warningOn axis)

/-- The nodes that an axis leads to under a selector, with a warning for each
alternative that has no effect. -/
def Document.relative (document : Document) (starts : List NodeId) (selector : Selector)
    (axis : Axis) : Warned (List NodeId) := do
  modify (·.warnAll (selector.warnings axis))
  return document.related starts selector axis

end TreeSelector
