import TreeSelector.Selector.Construction
import TreeSelector.Token.Scanner

/-!
# Why a text is not a selector

A text fails to be a selector because its characters are no tokens
(`ParseError.lexical`) or because a token stands where the grammar does not
admit it (`ParseError.unexpected`). The second kind names the kinds of token
that would have been read instead. A fault of the construction stack is a cause
of its own, so that the actions of the stack need not be trusted.
-/

set_option autoImplicit false

namespace TreeSelector

/-- Why a text is not a selector. -/
inductive ParseError where
  /-- Characters that are no token. -/
  | lexical (error : LexicalError)
  /-- A token in a place where only the expected kinds are read. -/
  | unexpected (expected : List Kind) (found : Token)
  /-- An action met a malformed construction stack. -/
  | malformed (fault : Construction.Fault)
  deriving DecidableEq, Repr

namespace ParseError

/-- Whether the characters are the cause. -/
def isLexical : ParseError → Bool
  | .lexical _ => true
  | _ => false

/-- Whether a token in the wrong place is the cause. -/
def isUnexpected : ParseError → Bool
  | .unexpected _ _ => true
  | _ => false

/-- The kinds that would have been read: the one, or a list of them. -/
def describe : List Kind → String
  | [kind] => kind.name
  | kinds => "one of " ++ ", ".intercalate (kinds.map Kind.name)

/-- The message of an error. -/
def message : ParseError → String
  | .lexical error => "lexical error: " ++ error.message
  | .unexpected expected found =>
      "syntax error: expected " ++ describe expected ++ ", found " ++ found.display
  | .malformed fault =>
      "internal error: `" ++ fault.action.name ++
        "` found a malformed construction stack (depth " ++ toString fault.depth ++ ")"

end ParseError

end TreeSelector
