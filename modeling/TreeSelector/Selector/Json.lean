import TreeSelector.Json
import TreeSelector.Selector

/-!
# Selectors as JSON

A selector and its parts as JSON values: records with their fields by name, and
variants by their names. `Selector.toJson` always writes the same form, and
`Selector.ofJson?` reads every form that `Json.fields?`, `Json.variant?` and
`Json.name?` admit. Nothing is asked of the names and texts, so selectors that
no text is read as have a JSON form as well.
-/

set_option autoImplicit false

namespace TreeSelector

/-! ## Writing -/

namespace AttributePredicate

/-- The names of the fields of an attribute test. -/
def fieldNames : List String :=
  ["name", "kind", "value"]

/-- An attribute test as JSON. -/
def toJson (predicate : AttributePredicate) : Json :=
  .object [("name", .string predicate.name), ("kind", .string predicate.test.name),
    ("value", .string predicate.expected)]

end AttributePredicate

/-- A predicate as JSON. -/
def Predicate.toJson : Predicate → Json
  | .tag name => .object [("Tag", .string name)]
  | .id name => .object [("Id", .string name)]
  | .className name => .object [("Class", .string name)]
  | .withAttribute predicate => .object [("Attr", predicate.toJson)]

/-- A compound as JSON. -/
def Compound.toJson (compound : Compound) : Json :=
  .object [("predicates", .array (compound.predicates.map Predicate.toJson))]

/-- The names of the fields of a link. -/
def Chain.fieldNames : List String :=
  ["left", "combinator", "right"]

/-- A chain as JSON. -/
def Chain.toJson : Chain → Json
  | .single compound => .object [("Element", compound.toJson)]
  | .link before combinator last =>
      .object [("Exp", .object [("left", before.toJson), ("combinator", .string combinator.name),
        ("right", last.toJson)])]

/-- A selector as JSON. -/
def Selector.toJson (selector : Selector) : Json :=
  .object [("alternatives", .array (selector.alternatives.map Chain.toJson))]

/-! ## Reading -/

/-- The combinator with a name. -/
def Combinator.ofName? (name : String) : Option Combinator :=
  all.find? (·.name == name)

/-- The attribute test with a name. -/
def AttributeTest.ofName? (name : String) : Option AttributeTest :=
  all.find? (·.name == name)

/-- An attribute test from JSON. -/
def AttributePredicate.ofJson? (json : Json) : Option AttributePredicate :=
  match json.fields? fieldNames with
  | some [name, test, expected] => do
      let name ← name.text?
      let test ← test.name? >>= AttributeTest.ofName?
      let expected ← expected.text?
      return ⟨name, test, expected⟩
  | _ => none

/-- A predicate from JSON. -/
def Predicate.ofJson? (json : Json) : Option Predicate :=
  match json.variant? with
  | some ("Tag", content) => content.text?.map .tag
  | some ("Id", content) => content.text?.map .id
  | some ("Class", content) => content.text?.map .className
  | some ("Attr", content) => (AttributePredicate.ofJson? content).map .withAttribute
  | _ => none

/-- A compound from JSON. -/
def Compound.ofJson? (json : Json) : Option Compound :=
  match json.fields? ["predicates"] with
  | some [predicates] => do
      let items ← predicates.items?
      let predicates ← items.mapM Predicate.ofJson?
      return ⟨predicates⟩
  | _ => none

/-- A chain from JSON. -/
def Chain.ofJson? (json : Json) : Option Chain :=
  match _variant : json.variant? with
  | some ("Element", content) => (Compound.ofJson? content).map .single
  | some ("Exp", content) =>
      match _fields : content.fields? fieldNames with
      | some [before, combinator, last] => do
          let before ← Chain.ofJson? before
          let combinator ← combinator.name? >>= Combinator.ofName?
          let last ← Compound.ofJson? last
          return .link before combinator last
      | _ => none
  | _ => none
  termination_by sizeOf json
  decreasing_by
    have inner := Json.sizeOf_lt_of_variant? _variant
    have field := Json.sizeOf_lt_of_mem_fields? _fields (List.mem_cons_self)
    omega

/-- A selector from JSON. -/
def Selector.ofJson? (json : Json) : Option Selector :=
  match json.fields? ["alternatives"] with
  | some [alternatives] => do
      let items ← alternatives.items?
      let alternatives ← items.mapM Chain.ofJson?
      return ⟨alternatives⟩
  | _ => none

end TreeSelector
