import TreeSelector.Selector

/-!
# Selectors as text

`Selector.render` writes a selector in the notation that it is read from: the
alternatives with a comma and a space between them, the compounds of a chain
with their combinators, and the predicates of a compound side by side. An
attribute value always stands between quotes: single ones, unless the value
itself contains a single quote.

`Selector.outline` shows the structure instead: a pair of brackets around every
compound and around every link of a chain, and attribute values without quotes.
-/

set_option autoImplicit false

namespace TreeSelector

/-! ## Selector notation -/

/-- The quote that an attribute value is written between. -/
def quoteFor (text : String) : String :=
  if text.toList.contains '\'' then "\"" else "'"

/-- The notation of an attribute test. -/
def AttributePredicate.render (predicate : AttributePredicate) : String :=
  match predicate.test with
  | .present => "[" ++ predicate.name ++ "]"
  | test =>
      "[" ++ predicate.name ++ test.operator ++ quoteFor predicate.expected ++
        predicate.expected ++ quoteFor predicate.expected ++ "]"

/-- The notation of a predicate. -/
def Predicate.render : Predicate → String
  | .tag name => name
  | .id name => "#" ++ name
  | .className name => "." ++ name
  | .withAttribute predicate => predicate.render

/-- The notation of a compound. -/
def Compound.render (compound : Compound) : String :=
  String.join (compound.predicates.map Predicate.render)

/-- A combinator between two compounds: with a space on either side, unless it
is a space itself. -/
def Combinator.spaced : Combinator → String
  | .descendant => " "
  | combinator => " " ++ combinator.symbol ++ " "

/-- The notation of a chain. -/
def Chain.render : Chain → String
  | .single compound => compound.render
  | .link before combinator last => before.render ++ combinator.spaced ++ last.render

/-- The notation of a selector. -/
def Selector.render (selector : Selector) : String :=
  ", ".intercalate (selector.alternatives.map Chain.render)

/-! ## Structure -/

/-- A predicate in an outline. Attribute values are not quoted. -/
def Predicate.outline : Predicate → String
  | .withAttribute predicate =>
      "[" ++ predicate.name ++ predicate.test.operator ++ predicate.expected ++ "]"
  | predicate => predicate.render

/-- The outline of a compound. -/
def Compound.outline (compound : Compound) : String :=
  "[" ++ " ".intercalate (compound.predicates.map Predicate.outline) ++ "]"

/-- The outline of a chain. -/
def Chain.outline : Chain → String
  | .single compound => compound.outline
  | .link before combinator last =>
      "[" ++ before.outline ++ combinator.symbol ++ last.outline ++ "]"

/-- The outline of a selector. -/
def Selector.outline (selector : Selector) : String :=
  ", ".intercalate (selector.alternatives.map Chain.outline)

end TreeSelector
