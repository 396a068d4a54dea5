import TreeSelector.Selector.Error

/-!
# Reading a selector from its tokens

The grammar of selectors, over the tokens of a text:

* selector: one chain, or chains with a comma and an optional blank between
  them;
* chain: compounds, each behind the first joined by a blank, or by `>`, `+` or
  `~` with an optional blank before and after it;
* compound: an optional tag (an identifier or `*`), then any number of ids,
  classes and attribute tests; it may be empty;
* attribute test: a bracketed name, or a bracketed name, operator and value.

The grammar is regular, so what has been read of a selector is summed up by a
phase (`Phase`): the place in the grammar, with the attribute test that has been
begun. The phase alone decides which tokens are admitted (`Phase.step`): a token
makes a move to another phase, with an edit of the construction stack, or it is
refused with the kinds that are admitted there.

A reading (`Reading`) is a phase together with the stack, and it takes one token
at a time (`Reading.step`). Behind the end token, all that is left to do is to
take the selector off the stack (`Reading.finish`).

A phase looks at no token but the one that it is given, so what a text is read
as depends on its tokens alone.
-/

set_option autoImplicit false

namespace TreeSelector

/-! ## Places in the grammar -/

/-- A place within a compound. -/
inductive Place where
  /-- Nothing has been read of the compound. -/
  | front
  /-- The tag, if any, has been read; ids, classes and attribute tests may follow. -/
  | behind
  /-- A `#` has been read. -/
  | idName
  /-- A `.` has been read. -/
  | className
  /-- A `[` has been read. -/
  | attributeName
  /-- The name of an attribute has been read. -/
  | attributeOperator (name : String)
  /-- The first of the two characters of an operator has been read. -/
  | attributeAssign (name : String) (test : AttributeTest)
  /-- The operator has been read. -/
  | attributeValue (name : String) (test : AttributeTest)
  /-- The value has been read. -/
  | attributeEnd (predicate : AttributePredicate)
  deriving DecidableEq, Repr

/-- A place in a selector. Within a compound it is kept whether the compound
begins a chain, or is to be linked behind the chain before it. -/
inductive Phase where
  | within (joint : Option Combinator) (place : Place)
  /-- A blank has been read behind a compound: it may be a combinator or stand
  before one. -/
  | afterBlank
  /-- A `>`, `+` or `~` has been read. -/
  | afterCombinator (combinator : Combinator)
  /-- A comma has been read. -/
  | afterComma
  /-- The end of the text has been read. -/
  | ended
  deriving DecidableEq, Repr

/-- Where every selector begins. -/
def Phase.start : Phase :=
  .within none .front

/-- The text of a quoted value, without its quotes. -/
def unquoted (text : String) : String :=
  String.ofList (text.toList.drop 1).dropLast

/-! ## What a token does in a phase -/

/-- What a token does to the construction stack. -/
inductive Edit where
  /-- The stack stays as it is. -/
  | keep
  /-- One more predicate of the compound has been read. -/
  | push (predicate : Predicate)
  /-- The compound ends: it is taken off the stack and linked to its chain. -/
  | close (joint : Option Combinator)
  deriving DecidableEq, Repr

/-- What an admitted token does: an edit of the stack, and the phase behind it. -/
structure Move where
  edit : Edit
  phase : Phase
  deriving DecidableEq, Repr

/-- The stack behind an edit. -/
def Edit.apply (construction : Construction) : Edit → Except Construction.Fault Construction
  | .keep => .ok construction
  | .push predicate => .ok (construction.push predicate)
  | .close none => construction.compound
  | .close (some combinator) => construction.compound >>= (Construction.link · combinator)

namespace Phase

/-- The reading goes on in another phase, with the stack as it is. -/
def moveTo (phase : Phase) : Except (List Kind) Move :=
  .ok ⟨.keep, phase⟩

/-- The predicate is the next one of the compound. -/
def record (joint : Option Combinator) (predicate : Predicate) : Except (List Kind) Move :=
  .ok ⟨.push predicate, .within joint .behind⟩

/-- The compound ends and the reading goes on in another phase. -/
def closeInto (joint : Option Combinator) (phase : Phase) : Except (List Kind) Move :=
  .ok ⟨.close joint, phase⟩

/-- A token behind the tag, or behind an id, class or attribute test. -/
def stepBehind (joint : Option Combinator) : Token → Except (List Kind) Move
  | .sign .hash => moveTo (.within joint .idName)
  | .sign .dot => moveTo (.within joint .className)
  | .sign .leftBracket => moveTo (.within joint .attributeName)
  | .blank => closeInto joint .afterBlank
  | .sign .greater => closeInto joint (.afterCombinator .child)
  | .sign .plus => closeInto joint (.afterCombinator .adjacentSibling)
  | .sign .tilde => closeInto joint (.afterCombinator .generalSibling)
  | .sign .comma => closeInto joint .afterComma
  | .endOfInput => closeInto joint .ended
  | _ => .error [.sign .hash, .sign .dot, .sign .leftBracket]

/-- A token at the front of a compound. -/
def stepFront (joint : Option Combinator) : Token → Except (List Kind) Move
  | .identifier name => record joint (.tag name)
  | .sign .star => record joint (.tag "*")
  | token => stepBehind joint token

/-- A token behind the name of an attribute. -/
def stepOperator (joint : Option Combinator) (name : String) : Token → Except (List Kind) Move
  | .sign .rightBracket => record joint (.withAttribute ⟨name, .present, ""⟩)
  | .sign .equals => moveTo (.within joint (.attributeValue name .equals))
  | .sign .caret => moveTo (.within joint (.attributeAssign name .startsWith))
  | .sign .dollar => moveTo (.within joint (.attributeAssign name .endsWith))
  | .sign .star => moveTo (.within joint (.attributeAssign name .contains))
  | _ => .error [.sign .rightBracket, .sign .equals, .sign .caret, .sign .dollar, .sign .star]

/-- A token within a compound. -/
def stepWithin (joint : Option Combinator) : Place → Token → Except (List Kind) Move
  | .front, token => stepFront joint token
  | .behind, token => stepBehind joint token
  | .idName, .identifier name => record joint (.id name)
  | .idName, _ => .error [.identifier]
  | .className, .identifier name => record joint (.className name)
  | .className, _ => .error [.identifier]
  | .attributeName, .identifier name => moveTo (.within joint (.attributeOperator name))
  | .attributeName, _ => .error [.identifier]
  | .attributeOperator name, token => stepOperator joint name token
  | .attributeAssign name test, .sign .equals => moveTo (.within joint (.attributeValue name test))
  | .attributeAssign _ _, _ => .error [.sign .equals]
  | .attributeValue name test, .quoted text =>
      moveTo (.within joint (.attributeEnd ⟨name, test, unquoted text⟩))
  | .attributeValue name test, .literal text =>
      moveTo (.within joint (.attributeEnd ⟨name, test, text⟩))
  | .attributeValue _ _, _ => .error [.quoted, .literal]
  | .attributeEnd predicate, .sign .rightBracket => record joint (.withAttribute predicate)
  | .attributeEnd _, _ => .error [.sign .rightBracket]

/-- A token behind a blank that follows a compound. A combinator takes the blank
as padding; anything else begins a compound below. -/
def stepAfterBlank : Token → Except (List Kind) Move
  | .sign .greater => moveTo (.afterCombinator .child)
  | .sign .plus => moveTo (.afterCombinator .adjacentSibling)
  | .sign .tilde => moveTo (.afterCombinator .generalSibling)
  | token => stepFront (some .descendant) token

/-- A token where one blank is padding and anything else begins a compound. -/
def stepPadded (joint : Option Combinator) : Token → Except (List Kind) Move
  | .blank => moveTo (.within joint .front)
  | token => stepFront joint token

/-- A token behind the end of the text, which only goes on ending. -/
def stepEnded : Token → Except (List Kind) Move
  | .endOfInput => moveTo .ended
  | _ => .error [.endOfInput]

/-- What a token does in a phase: a move, or a refusal that names the kinds of
token that are admitted. -/
def step : Phase → Token → Except (List Kind) Move
  | .within joint place, token => stepWithin joint place token
  | .afterBlank, token => stepAfterBlank token
  | .afterCombinator combinator, token => stepPadded (some combinator) token
  | .afterComma, token => stepPadded none token
  | .ended, token => stepEnded token

end Phase

/-! ## Readings -/

/-- What has been read of a selector. -/
structure Reading where
  phase : Phase
  construction : Construction
  deriving DecidableEq, Repr

namespace Reading

/-- Nothing has been read. -/
def start : Reading :=
  ⟨Phase.start, Construction.empty⟩

/-- What a token makes of a reading. -/
def step (reading : Reading) (token : Token) : Except ParseError Reading :=
  match reading.phase.step token with
  | .error expected => .error (.unexpected expected token)
  | .ok move =>
      match move.edit.apply reading.construction with
      | .ok construction => .ok ⟨move.phase, construction⟩
      | .error fault => .error (.malformed fault)

/-- The selector, once the whole text has been read. -/
def finish (reading : Reading) : Except ParseError Selector :=
  match reading.construction.selector >>= Construction.finish with
  | .ok selector => .ok selector
  | .error fault => .error (.malformed fault)

end Reading

end TreeSelector
