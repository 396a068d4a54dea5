import TreeSelector.Document
import TreeSelector.Selector

/-!
# When a node satisfies a compound

A predicate asks about the tag or the attributes of a node
(`Predicate.holdsAt`). A node satisfies a compound when it is an element and all
predicates hold (`Compound.holdsAt`). The tag `*` by itself holds of every node;
only the compound keeps out the nodes that are no elements.
-/

set_option autoImplicit false

namespace TreeSelector

/-- Whether one predicate holds of a node. An attribute that the node does not
have passes no test. -/
def Predicate.holdsAt (document : Document) (id : NodeId) : Predicate → Bool
  | .tag name => name == "*" || (document.element? id).map ElementData.tag == some name
  | .id name => document.attribute? id "id" == some name
  | .className name =>
      ((document.attribute? id "class").map ElementData.classNames).any (·.contains name)
  | .withAttribute predicate =>
      (document.attribute? id predicate.name).any (predicate.test.holds · predicate.expected)

/-- Whether a node is an element of which all predicates of the compound hold. -/
def Compound.holdsAt (document : Document) (id : NodeId) (compound : Compound) : Bool :=
  document.isElement id && compound.predicates.all (·.holdsAt document id)

end TreeSelector
