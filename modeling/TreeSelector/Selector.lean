/-!
# Selectors

A selector is a list of alternatives. Each alternative is a chain of compounds
joined by combinators, and a compound is a list of predicates that must hold
for one and the same element. A compound without predicates holds for every
element.

Chains associate to the left: the chain `a > b c` links `c` behind the chain
`a > b`. So the compound at the end of a chain is always at hand, and the
compounds before it form a chain again.
-/

set_option autoImplicit false

namespace TreeSelector

/-! ## Combinators -/

/-- How the compound behind a combinator stands to the chain before it. -/
inductive Combinator where
  /-- Anywhere below. -/
  | descendant
  /-- Directly below. -/
  | child
  /-- The next element among the siblings. -/
  | adjacentSibling
  /-- Any later element among the siblings. -/
  | generalSibling
  deriving DecidableEq, Repr

namespace Combinator

/-- The combinators, in their order. -/
def all : List Combinator :=
  [.descendant, .child, .adjacentSibling, .generalSibling]

/-- The name of a combinator. -/
def name : Combinator → String
  | .descendant => "Descendant"
  | .child => "Child"
  | .adjacentSibling => "AdjacentSibling"
  | .generalSibling => "GeneralSibling"

/-- The combinator as a selector text writes it: a space for `descendant`. -/
def symbol : Combinator → String
  | .descendant => " "
  | .child => ">"
  | .adjacentSibling => "+"
  | .generalSibling => "~"

end Combinator

/-! ## Attribute tests -/

/-- What is asked of the value of an attribute. -/
inductive AttributeTest where
  /-- Nothing: the attribute only has to be there. -/
  | present
  /-- It is the given text. -/
  | equals
  /-- It begins with the given text. -/
  | startsWith
  /-- It ends with the given text. -/
  | endsWith
  /-- The given text occurs in it. -/
  | contains
  deriving DecidableEq, Repr

namespace AttributeTest

/-- The tests, in their order. -/
def all : List AttributeTest :=
  [.present, .equals, .startsWith, .endsWith, .contains]

/-- The name of a test. -/
def name : AttributeTest → String
  | .present => "Exists"
  | .equals => "Equals"
  | .startsWith => "PrefixEquals"
  | .endsWith => "SuffixEquals"
  | .contains => "ContainsEquals"

/-- The operator of a test as a selector text writes it. -/
def operator : AttributeTest → String
  | .present => ""
  | .equals => "="
  | .startsWith => "^="
  | .endsWith => "$="
  | .contains => "*="

/-- Whether the actual value of an attribute passes the test for the expected
text. -/
def holds (test : AttributeTest) (actual expected : String) : Bool :=
  match test with
  | .present => true
  | .equals => actual == expected
  | .startsWith => expected.toList.isPrefixOf actual.toList
  | .endsWith => expected.toList.isSuffixOf actual.toList
  | .contains => actual.contains expected

end AttributeTest

/-! ## Predicates, compounds, chains and selectors -/

/-- A test of one attribute. The expected text of `AttributeTest.present` plays
no part and is empty in every selector that is read from a text. -/
structure AttributePredicate where
  name : String
  test : AttributeTest
  expected : String
  deriving DecidableEq, Repr

/-- One condition on an element. -/
inductive Predicate where
  /-- The tag has this name; `*` stands for any tag. -/
  | tag (name : String)
  /-- The attribute `id` has this value. -/
  | id (name : String)
  /-- The attribute `class` lists this name. -/
  | className (name : String)
  /-- An attribute passes a test. -/
  | withAttribute (predicate : AttributePredicate)
  deriving DecidableEq, Repr

/-- Conditions on one element, in the order in which they are written. -/
structure Compound where
  predicates : List Predicate
  deriving DecidableEq, Repr

namespace Compound

/-- The compound without conditions. -/
def empty : Compound :=
  ⟨[]⟩

/-- Whether a compound has no conditions. -/
def isEmpty (compound : Compound) : Bool :=
  compound.predicates.isEmpty

end Compound

/-- Compounds joined by combinators. -/
inductive Chain where
  /-- A compound on its own. -/
  | single (compound : Compound)
  /-- A chain, and one more compound behind it. -/
  | link (before : Chain) (combinator : Combinator) (last : Compound)
  deriving DecidableEq, Repr

/-- A list of alternatives. -/
structure Selector where
  alternatives : List Chain
  deriving DecidableEq, Repr

end TreeSelector
