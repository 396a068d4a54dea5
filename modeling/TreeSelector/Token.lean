/-!
# The tokens of a selector text

A selector text is read as a row of tokens: punctuation signs, identifiers,
attribute values written bare (`Token.literal`) or between quotes
(`Token.quoted`), runs of white space, and one end token that follows the last
character. The kind of a token (`Token.kind`) forgets its text; messages about
unexpected tokens speak of kinds.
-/

set_option autoImplicit false

namespace TreeSelector

/-! ## Punctuation -/

/-- The characters that are tokens by themselves. -/
inductive Sign where
  | comma
  | leftBracket
  | rightBracket
  | greater
  | plus
  | tilde
  | hash
  | dot
  | caret
  | dollar
  | star
  | equals
  deriving DecidableEq, Repr

/-- The character of a sign. -/
def Sign.char : Sign → Char
  | .comma => ','
  | .leftBracket => '['
  | .rightBracket => ']'
  | .greater => '>'
  | .plus => '+'
  | .tilde => '~'
  | .hash => '#'
  | .dot => '.'
  | .caret => '^'
  | .dollar => '$'
  | .star => '*'
  | .equals => '='

/-- The sign that a character is, if it is one. -/
def Sign.ofChar? : Char → Option Sign
  | ',' => some .comma
  | '[' => some .leftBracket
  | ']' => some .rightBracket
  | '>' => some .greater
  | '+' => some .plus
  | '~' => some .tilde
  | '#' => some .hash
  | '.' => some .dot
  | '^' => some .caret
  | '$' => some .dollar
  | '*' => some .star
  | '=' => some .equals
  | _ => none

@[simp] theorem Sign.ofChar?_char (sign : Sign) : Sign.ofChar? sign.char = some sign := by
  cases sign <;> rfl

/-- Only its own character is read as a sign. -/
theorem Sign.ofChar?_eq_some_iff {c : Char} {sign : Sign} :
    Sign.ofChar? c = some sign ↔ c = sign.char := by
  constructor
  · intro read
    unfold Sign.ofChar? at read
    split at read <;> first | (cases read; rfl) | cases read
  · rintro rfl
    exact Sign.ofChar?_char sign

/-- The name of a sign in messages. -/
def Sign.name : Sign → String
  | .comma => "Comma"
  | .leftBracket => "LeftBracket"
  | .rightBracket => "RightBracket"
  | .greater => "Greater"
  | .plus => "Plus"
  | .tilde => "Wave"
  | .hash => "Sharp"
  | .dot => "Dot"
  | .caret => "Up"
  | .dollar => "Dollar"
  | .star => "Star"
  | .equals => "Assign"

/-! ## Tokens and their kinds -/

/-- A token of a selector text. -/
inductive Token where
  /-- A punctuation character. -/
  | sign (mark : Sign)
  /-- The name of a tag, an id, a class or an attribute. -/
  | identifier (name : String)
  /-- An attribute value without quotes, taken as it stands. -/
  | literal (text : String)
  /-- An attribute value between quotes, the quotes included. -/
  | quoted (text : String)
  /-- One or more characters of white space. -/
  | blank
  /-- The end of the text. -/
  | endOfInput
  deriving DecidableEq, Repr

/-- What a token is, without its text. -/
inductive Kind where
  | sign (mark : Sign)
  | identifier
  | literal
  | quoted
  | blank
  | endOfInput
  deriving DecidableEq, Repr

/-- The name of a kind in messages. -/
def Kind.name : Kind → String
  | .sign mark => mark.name
  | .identifier => "Identifier"
  | .literal => "Literal"
  | .quoted => "StringLit"
  | .blank => "Blank"
  | .endOfInput => "EndOfInput"

namespace Token

/-- The kind of a token. -/
def kind : Token → Kind
  | .sign mark => .sign mark
  | .identifier _ => .identifier
  | .literal _ => .literal
  | .quoted _ => .quoted
  | .blank => .blank
  | .endOfInput => .endOfInput

/-- The text of a token, for the three kinds that carry one. -/
def text? : Token → Option String
  | .identifier text | .literal text | .quoted text => some text
  | .sign _ | .blank | .endOfInput => none

/-- Whether the token marks the end of the text. -/
def isEnd : Token → Bool
  | .endOfInput => true
  | _ => false

/-- A token in messages: its kind, and its text where it has one. -/
def display (token : Token) : String :=
  match token.text? with
  | some text => "<" ++ token.kind.name ++ ", " ++ text ++ ">"
  | none => "<" ++ token.kind.name ++ ">"

theorem isEnd_iff {token : Token} : token.isEnd = true ↔ token = .endOfInput := by
  cases token <;> simp [isEnd]

end Token

end TreeSelector
