/-!
# Document trees

A document is a row of nodes, the first of which is its root. A node is known by
its place in the row (`NodeId`), holds its content, and names its neighbours:
its parent, its children in order, and the siblings next to it. Nodes are only
ever added, so an id stays good for as long as the document grows.

`Document.allocate` adds a node without neighbours and `Document.appendChild`
makes a node the last child of another. Appending writes the new links and
leaves all old ones as they are, so a node that had a parent before is still
found among the children of that parent. Asking for a node that is not there is
the only way in which appending fails (`OutOfRange`).
-/

set_option autoImplicit false

namespace TreeSelector

/-! ## Elements -/

/-- A name and a value on an element. -/
structure Attribute where
  name : String
  value : String
  deriving DecidableEq, Repr

/-- What an element node holds: its tag and its attributes. A name may occur
more than once among the attributes; the first occurrence counts. -/
structure ElementData where
  tag : String
  attributes : List Attribute
  deriving DecidableEq, Repr

namespace ElementData

/-- The value of the first attribute with the name. -/
def attribute? (element : ElementData) (name : String) : Option String :=
  (element.attributes.find? (·.name == name)).map (·.value)

/-- Whether there is an attribute with the name. -/
def hasAttribute (element : ElementData) (name : String) : Bool :=
  element.attributes.any (·.name == name)

/-- The place of the first attribute with the name and the value of this one. -/
def indexOf? (element : ElementData) (entry : Attribute) : Option Nat :=
  element.attributes.idxOf? entry

/-- The value of the attribute `id`. -/
def id? (element : ElementData) : Option String :=
  element.attribute? "id"

/-- The names that a class list holds. It is split at every single space, so
spaces side by side have an empty name between them. -/
def classNames (list : String) : List String :=
  (list.toList.splitOn ' ').map String.ofList

/-- The names in the attribute `class`. -/
def classes (element : ElementData) : List String :=
  ((element.attribute? "class").map classNames).getD []

end ElementData

/-! ## Nodes -/

/-- The place of a node in its document. -/
structure NodeId where
  index : Nat
  deriving DecidableEq, Repr

/-- What a node is. -/
inductive Content where
  | document
  | element (element : ElementData)
  | text (text : String)
  | comment (text : String)
  deriving DecidableEq, Repr

/-- A node with the links to its neighbours. -/
structure Node where
  content : Content
  parent : Option NodeId
  children : List NodeId
  next : Option NodeId
  previous : Option NodeId
  deriving DecidableEq, Repr

/-- A node without neighbours. -/
def Node.detached (content : Content) : Node :=
  ⟨content, none, [], none, none⟩

/-! ## Documents -/

/-- The nodes of a document, in the order in which they were added. -/
structure Document where
  nodes : Array Node
  deriving DecidableEq, Repr

/-- A node was asked for that is not there: the number of nodes, and the place
asked for. -/
structure OutOfRange where
  size : Nat
  index : Nat
  deriving DecidableEq, Repr

/-- The message about a node that is not there. -/
def OutOfRange.message (error : OutOfRange) : String :=
  "index out of bounds: the len is " ++ toString error.size ++ " but the index is " ++
    toString error.index

namespace Document

/-- The root of every document. -/
def root : NodeId :=
  ⟨0⟩

/-- A document that holds its root alone. -/
def new : Document :=
  ⟨#[Node.detached .document]⟩

/-- The number of nodes. -/
def size (document : Document) : Nat :=
  document.nodes.size

/-- Whether there is no node at all. -/
def isEmpty (document : Document) : Bool :=
  document.nodes.isEmpty

/-- The ids of the nodes, in order. -/
def ids (document : Document) : List NodeId :=
  (List.range document.size).map NodeId.mk

/-- The node with the id. -/
def get? (document : Document) (id : NodeId) : Option Node :=
  document.nodes[id.index]?

/-! ### Growing -/

/-- The id of the node that is added next. -/
def nextId (document : Document) : NodeId :=
  ⟨document.size⟩

/-- Adds a node without neighbours. -/
def allocate (document : Document) (content : Content) : Document :=
  ⟨document.nodes.push (Node.detached content)⟩

/-- Changes one node. -/
def update (document : Document) (id : NodeId) (change : Node → Node) : Document :=
  ⟨document.nodes.modify id.index change⟩

/-- Makes the child the last one of the parent: it comes behind the children
that are there, points to its parent and to the last child so far, and that one
points to it. -/
def appendChild (document : Document) (parent child : NodeId) : Except OutOfRange Document :=
  match document.get? parent with
  | none => .error ⟨document.size, parent.index⟩
  | some node =>
      if child.index < document.size then
        let last := node.children.getLast?
        let listed := document.update parent fun node =>
          { node with children := node.children ++ [child] }
        let attached := listed.update child fun node =>
          { node with parent := some parent, previous := last }
        match last with
        | none => .ok attached
        | some last =>
            if last.index < document.size then
              .ok (attached.update last fun node => { node with next := some child })
            else .error ⟨document.size, last.index⟩
      else .error ⟨document.size, child.index⟩

/-- Adds a node under a parent. -/
def append (document : Document) (parent : NodeId) (content : Content) :
    Except OutOfRange Document :=
  (document.allocate content).appendChild parent document.nextId

/-- Adds an element under a parent. -/
def appendElement (document : Document) (parent : NodeId) (element : ElementData) :
    Except OutOfRange Document :=
  document.append parent (.element element)

/-- Adds a text under a parent. -/
def appendText (document : Document) (parent : NodeId) (text : String) :
    Except OutOfRange Document :=
  document.append parent (.text text)

/-! ### Links -/

/-- The parent of a node. -/
def parent? (document : Document) (id : NodeId) : Option NodeId :=
  document.get? id >>= Node.parent

/-- The children of a node. -/
def children (document : Document) (id : NodeId) : List NodeId :=
  ((document.get? id).map Node.children).getD []

/-- The first child of a node. -/
def firstChild? (document : Document) (id : NodeId) : Option NodeId :=
  (document.children id).head?

/-- The sibling behind a node. -/
def next? (document : Document) (id : NodeId) : Option NodeId :=
  document.get? id >>= Node.next

/-- The sibling before a node. -/
def previous? (document : Document) (id : NodeId) : Option NodeId :=
  document.get? id >>= Node.previous

/-! ### Contents -/

/-- What an element node holds. -/
def element? (document : Document) (id : NodeId) : Option ElementData :=
  match (document.get? id).map Node.content with
  | some (.element element) => some element
  | _ => none

/-- Whether a node is an element. -/
def isElement (document : Document) (id : NodeId) : Bool :=
  (document.element? id).isSome

/-- The text of a text node. -/
def text? (document : Document) (id : NodeId) : Option String :=
  match (document.get? id).map Node.content with
  | some (.text text) => some text
  | _ => none

/-- The texts directly below a node, put together. -/
def textContent (document : Document) (id : NodeId) : String :=
  String.join ((document.children id).filterMap document.text?)

/-- The value of the first attribute of an element with the name. -/
def attribute? (document : Document) (id : NodeId) (name : String) : Option String :=
  document.element? id >>= (·.attribute? name)

end Document

end TreeSelector
