import TreeSelector.Document.Walk
import TreeSelector.Matching

/-!
# Axes

An axis is a relation between the nodes of a document. From one node it leads to
others, of which those are listed that satisfy a compound: downwards and
forwards in document order, upwards and backwards with the nearest first. Only
elements are ever listed.

The descent (`Document.descend`) goes into elements alone: what lies below a
text, a comment or a nested document is not reached. Where it comes to an end,
no path downwards visits a node twice, so a path is no longer than the document
has nodes, and descending that deep misses nothing.
-/

set_option autoImplicit false

namespace TreeSelector

/-- The relations that a query can walk. -/
inductive Axis where
  /-- The elements below, at any depth. -/
  | find
  /-- The elements directly below. -/
  | child
  /-- The elements directly below that do not satisfy the compound. -/
  | not
  /-- The nearest element among the siblings behind. -/
  | next
  /-- The elements among the siblings behind. -/
  | nextAll
  /-- The nearest element among the siblings before. -/
  | prev
  /-- The elements among the siblings before. -/
  | prevAll
  /-- The parent. -/
  | parent
  /-- The elements above. -/
  | parents
  deriving DecidableEq, Repr

namespace Axis

/-- The axes, in their order. -/
def all : List Axis :=
  [.find, .child, .not, .next, .nextAll, .prev, .prevAll, .parent, .parents]

/-- The name of an axis. -/
def name : Axis → String
  | .find => "find"
  | .child => "child"
  | .not => "not"
  | .next => "next"
  | .nextAll => "next_all"
  | .prev => "prev"
  | .prevAll => "prev_all"
  | .parent => "parent"
  | .parents => "parents"

/-- The axis with a name. -/
def ofName? (name : String) : Option Axis :=
  all.find? (·.name == name)

end Axis

/-- The axis that leads from the nodes before a combinator to those behind it. -/
def Combinator.axis : Combinator → Axis
  | .descendant => .find
  | .child => .child
  | .adjacentSibling => .next
  | .generalSibling => .nextAll

namespace Document

/-- The elements below a node down to a depth that satisfy a condition, each
before those below it. -/
def descend (document : Document) (accept : NodeId → Bool) : Nat → NodeId → List NodeId
  | 0, _ => []
  | depth + 1, id =>
      ((document.childWalk id).filter document.isElement).flatMap fun child =>
        (if accept child then [child] else []) ++ document.descend accept depth child

/-- The elements below a node that satisfy the compound. -/
def find (document : Document) (id : NodeId) (compound : Compound) : List NodeId :=
  document.descend (compound.holdsAt document) document.size id

/-- The children that satisfy the compound. -/
def child (document : Document) (id : NodeId) (compound : Compound) : List NodeId :=
  (document.childWalk id).filter (compound.holdsAt document)

/-- The element children that do not satisfy the compound. -/
def not (document : Document) (id : NodeId) (compound : Compound) : List NodeId :=
  (document.childWalk id).filter fun child =>
    document.isElement child && !compound.holdsAt document child

/-- The first element in a list, if it satisfies the compound. An element that
does not ends the search. -/
def nearest (document : Document) (compound : Compound) (candidates : List NodeId) : List NodeId :=
  (candidates.find? document.isElement).toList.filter (compound.holdsAt document)

/-- The nearest element behind, if it satisfies the compound. -/
def next (document : Document) (id : NodeId) (compound : Compound) : List NodeId :=
  document.nearest compound (document.following id)

/-- The siblings behind that satisfy the compound. -/
def nextAll (document : Document) (id : NodeId) (compound : Compound) : List NodeId :=
  (document.following id).filter (compound.holdsAt document)

/-- The nearest element before, if it satisfies the compound. -/
def prev (document : Document) (id : NodeId) (compound : Compound) : List NodeId :=
  document.nearest compound (document.preceding id)

/-- The siblings before that satisfy the compound. -/
def prevAll (document : Document) (id : NodeId) (compound : Compound) : List NodeId :=
  (document.preceding id).filter (compound.holdsAt document)

/-- The parent, if it satisfies the compound. -/
def parent (document : Document) (id : NodeId) (compound : Compound) : List NodeId :=
  (document.parent? id).toList.filter (compound.holdsAt document)

/-- The nodes above that satisfy the compound. -/
def parents (document : Document) (id : NodeId) (compound : Compound) : List NodeId :=
  (document.ancestors id).filter (compound.holdsAt document)

end Document

/-- Walks an axis from one node and lists the nodes that the compound leaves. -/
def Axis.apply (axis : Axis) (document : Document) (id : NodeId) (compound : Compound) :
    List NodeId :=
  match axis with
  | .find => document.find id compound
  | .child => document.child id compound
  | .not => document.not id compound
  | .next => document.next id compound
  | .nextAll => document.nextAll id compound
  | .prev => document.prev id compound
  | .prevAll => document.prevAll id compound
  | .parent => document.parent id compound
  | .parents => document.parents id compound

end TreeSelector
