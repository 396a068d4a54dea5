import TreeSelector.Query
import TreeSelector.Selector.Parse

/-!
# Selections

A selection is a list of nodes of one document. Each step walks an axis from its
nodes under a selector and gives a new selection; a selector text that cannot be
read is the only failure. The texts and attributes of a selection are those of
its nodes, where a missing attribute counts as the empty text.
-/

set_option autoImplicit false

namespace TreeSelector

/-- An ordered list of nodes of a document. -/
structure Selection where
  document : Document
  nodes : List NodeId
  deriving DecidableEq, Repr

namespace Selection

/-- The root of a document. -/
def ofDocument (document : Document) : Selection :=
  ⟨document, [Document.root]⟩

/-! ## Steps -/

/-- Walks an axis under a selector. -/
def select (selection : Selection) (selector : Selector) (axis : Axis) : Warned Selection := do
  return { selection with nodes := ← selection.document.relative selection.nodes selector axis }

/-- Walks an axis under the selector that a text is read as. -/
def step (axis : Axis) (selection : Selection) (text : String) :
    ExceptT ParseError Warned Selection :=
  match parse text with
  | .error error => throw error
  | .ok selector => selection.select selector axis

/-- The elements below that the selector leads to, combinators included. -/
def find : Selection → String → ExceptT ParseError Warned Selection :=
  step .find

/-- The children that satisfy an alternative. -/
def child : Selection → String → ExceptT ParseError Warned Selection :=
  step .child

/-- For each alternative, the element children that do not satisfy it. -/
def not : Selection → String → ExceptT ParseError Warned Selection :=
  step .not

/-- The next element behind each node, where it satisfies an alternative. -/
def next : Selection → String → ExceptT ParseError Warned Selection :=
  step .next

/-- The siblings behind that satisfy an alternative. -/
def nextAll : Selection → String → ExceptT ParseError Warned Selection :=
  step .nextAll

/-- The next element before each node, where it satisfies an alternative. -/
def prev : Selection → String → ExceptT ParseError Warned Selection :=
  step .prev

/-- The siblings before that satisfy an alternative. -/
def prevAll : Selection → String → ExceptT ParseError Warned Selection :=
  step .prevAll

/-- The parents that satisfy an alternative. -/
def parent : Selection → String → ExceptT ParseError Warned Selection :=
  step .parent

/-- The nodes above that satisfy an alternative. -/
def parents : Selection → String → ExceptT ParseError Warned Selection :=
  step .parents

/-! ## What the nodes hold -/

/-- The number of nodes. -/
def length (selection : Selection) : Nat :=
  selection.nodes.length

/-- Whether there are no nodes. -/
def isEmpty (selection : Selection) : Bool :=
  selection.nodes.isEmpty

/-- The texts directly below each node. -/
def texts (selection : Selection) : List String :=
  selection.nodes.map selection.document.textContent

/-- The texts directly below the first node. -/
def text (selection : Selection) : String :=
  selection.texts.headD ""

/-- The value of the attribute with the name, for each node. -/
def attributeValues (selection : Selection) (name : String) : List String :=
  selection.nodes.map fun node => (selection.document.attribute? node name).getD ""

/-- The value of the attribute with the name, for the first node. -/
def attributeValue (selection : Selection) (name : String) : String :=
  (selection.attributeValues name).headD ""

end Selection

end TreeSelector
