import TreeSelector.Document

/-!
# Walks along links

A walk goes from node to node along one kind of link, to the parent, to the
sibling before or to the sibling behind, and lists the nodes that it comes to
until there is no further link. It may take a bounded number of steps
(`Document.follow`). A walk that comes to an end visits no node twice, so it has
no more steps than the document has nodes, and this bound cuts off nothing
(`Document.walk`).
-/

set_option autoImplicit false

namespace TreeSelector

/-- The links that a walk can go along. -/
inductive Link where
  | parent
  | previous
  | next
  deriving DecidableEq, Repr

namespace Document

/-- The node at the other end of a link. -/
def linked (document : Document) : Link → NodeId → Option NodeId
  | .parent => document.parent?
  | .previous => document.previous?
  | .next => document.next?

/-- The node, if there is one, and those behind it along the links, in order
and at most as many as the bound. -/
def follow (document : Document) (link : Link) : Nat → Option NodeId → List NodeId
  | 0, _ => []
  | _ + 1, none => []
  | bound + 1, some id => id :: document.follow link bound (document.linked link id)

/-- The nodes along the links from a node, which is not among them. -/
def walk (document : Document) (link : Link) (id : NodeId) : List NodeId :=
  document.follow link document.size (document.linked link id)

/-- The nodes above a node, the nearest first. -/
def ancestors (document : Document) (id : NodeId) : List NodeId :=
  document.walk .parent id

/-- The siblings before a node, the nearest first. -/
def preceding (document : Document) (id : NodeId) : List NodeId :=
  document.walk .previous id

/-- The siblings behind a node, in order. -/
def following (document : Document) (id : NodeId) : List NodeId :=
  document.walk .next id

/-- The first child of a node and the siblings behind it, in order. -/
def childWalk (document : Document) (id : NodeId) : List NodeId :=
  document.follow .next document.size (document.firstChild? id)

end Document

end TreeSelector
