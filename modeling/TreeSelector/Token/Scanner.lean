import TreeSelector.Text.Quoted
import TreeSelector.Token
import TreeSelector.Unicode.Alphabetic
import TreeSelector.Unicode.Numeric
import TreeSelector.Unicode.WhiteSpace

/-!
# Scanning a selector text

A scanner reads one token at a time. What a character means depends on one bit
of state, the mode: in plain mode the text is signs and identifiers, and after
an `=` the mode is value, where a bare or quoted attribute value is taken as it
stands, until a `]` ends it. White space makes a blank token in either mode.

`lex` says what stands at the front of a text: the characters it covers, the
token or the error that they are, and the mode after them. A scanner
(`Scanner`) applies it to what is left of a text and steps over the characters
covered, also when they are an error. What is covered is empty only at the end
of the text (`covered_ne_nil`), so every call makes progress and reading a text
to its end (`Scanner.tokens`) terminates.
-/

set_option autoImplicit false

namespace TreeSelector

/-! ## Modes and errors -/

/-- What the scanner is reading. -/
inductive Mode where
  /-- Signs, identifiers and white space. -/
  | plain
  /-- The value after the `=` of an attribute test. -/
  | value
  deriving DecidableEq, Repr

/-- The modes, in their order. -/
def Mode.all : List Mode :=
  [.plain, .value]

/-- The name of a mode. -/
def Mode.name : Mode → String
  | .plain => "Default"
  | .value => "AfterAssign"

/-- A scanner begins in plain mode. -/
def Mode.initial : Mode :=
  .plain

/-- Characters that are no token. Positions count characters from zero. -/
inductive LexicalError where
  /-- A character that begins no token in plain mode. -/
  | unexpectedCharacter (character : Char) (position : Nat)
  /-- A quoted value that the end of the text cuts off, from its opening quote on. -/
  | unterminatedString (text : String) (position : Nat)
  deriving DecidableEq, Repr

/-- The message of a lexical error. -/
def LexicalError.message : LexicalError → String
  | .unexpectedCharacter character position =>
      "unexpected character " ++ Text.quoted character ++ " at position " ++ toString position
  | .unterminatedString text position =>
      "unterminated string " ++ text ++ " starting at position " ++ toString position

/-! ## Characters -/

/-- Letters of any script and the underscore begin an identifier. -/
def isIdentifierStart (c : Char) : Bool :=
  Unicode.isAlphabetic c || c = '_'

/-- Letters, numbers, the underscore and the hyphen continue an identifier. -/
def isIdentifierCharacter (c : Char) : Bool :=
  Unicode.isAlphabetic c || Unicode.isNumeric c || c = '_' || c = '-'

/-- The two characters that a quoted value can stand between. -/
def isQuote (c : Char) : Bool :=
  c = '\'' || c = '"'

/-- A bare value runs up to a quote or a closing bracket. -/
def isLiteralCharacter (c : Char) : Bool :=
  !isQuote c && c != ']'

theorem isIdentifierCharacter_of_isIdentifierStart {c : Char} (start : isIdentifierStart c = true) :
    isIdentifierCharacter c = true := by
  simp only [isIdentifierStart, Bool.or_eq_true] at start
  simp only [isIdentifierCharacter, Bool.or_eq_true]
  rcases start with letter | underscore
  · exact .inl (.inl (.inl letter))
  · exact .inl (.inr underscore)

/-- White space neither begins nor continues an identifier, so it always ends
one. -/
theorem isIdentifierCharacter_eq_false_of_isWhiteSpace {c : Char}
    (blank : Unicode.isWhiteSpace c = true) : isIdentifierCharacter c = false := by
  have letter : Unicode.isAlphabetic c = false :=
    Unicode.Table.holds_eq_false_of_apart
      (show Unicode.whiteSpace.apart Unicode.alphabetic = true by decide +kernel) blank
  have number : Unicode.isNumeric c = false :=
    Unicode.Table.holds_eq_false_of_apart
      (show Unicode.whiteSpace.apart Unicode.numeric = true by decide +kernel) blank
  have underscore : c ≠ '_' := by
    rintro rfl
    exact absurd blank (by decide +kernel)
  have hyphen : c ≠ '-' := by
    rintro rfl
    exact absurd blank (by decide +kernel)
  simp [isIdentifierCharacter, letter, number, underscore, hyphen]

/-! ## What stands at the front of a text -/

/-- What the front of a text is: the characters covered, the token or error
that they are, and the mode after them. -/
structure Lexeme where
  covered : List Char
  outcome : Except LexicalError Token
  mode : Mode

/-- The front of a text in plain mode, at a character other than white space. -/
def lexPlain (position : Nat) (c : Char) (rest : List Char) : Lexeme :=
  match Sign.ofChar? c with
  | some .equals => ⟨[c], .ok (.sign .equals), .value⟩
  | some sign => ⟨[c], .ok (.sign sign), .plain⟩
  | none =>
      if isIdentifierStart c then
        let name := c :: rest.takeWhile isIdentifierCharacter
        ⟨name, .ok (.identifier (String.ofList name)), .plain⟩
      else ⟨[c], .error (.unexpectedCharacter c position), .plain⟩

/-- The front of a text at an opening quote. A quoted value runs to the next
quote of the same kind and includes both. -/
def lexQuoted (position : Nat) (quote : Char) (rest : List Char) : Lexeme :=
  match rest.dropWhile (· != quote) with
  | [] =>
      ⟨quote :: rest, .error (.unterminatedString (String.ofList (quote :: rest)) position), .value⟩
  | _ :: _ =>
      let text := quote :: rest.takeWhile (· != quote) ++ [quote]
      ⟨text, .ok (.quoted (String.ofList text)), .value⟩

/-- The front of a text in value mode, at a character other than white space. -/
def lexValue (position : Nat) (c : Char) (rest : List Char) : Lexeme :=
  if c = ']' then ⟨[c], .ok (.sign .rightBracket), .plain⟩
  else if isQuote c then lexQuoted position c rest
  else
    let text := c :: rest.takeWhile isLiteralCharacter
    ⟨text, .ok (.literal (String.ofList text)), .value⟩

/-- What stands at the front of a text that begins at the position. -/
def lex (mode : Mode) (position : Nat) : List Char → Lexeme
  | [] => ⟨[], .ok .endOfInput, mode⟩
  | c :: rest =>
      if Unicode.isWhiteSpace c then
        ⟨c :: rest.takeWhile Unicode.isWhiteSpace, .ok .blank, mode⟩
      else
        match mode with
        | .plain => lexPlain position c rest
        | .value => lexValue position c rest

/-! ### What is covered -/

theorem lexPlain_covered_ne_nil (position : Nat) (c : Char) (rest : List Char) :
    (lexPlain position c rest).covered ≠ [] := by
  unfold lexPlain
  split
  · simp
  · simp
  · split <;> simp

theorem lexQuoted_covered_ne_nil (position : Nat) (quote : Char) (rest : List Char) :
    (lexQuoted position quote rest).covered ≠ [] := by
  unfold lexQuoted
  split <;> simp

theorem lexValue_covered_ne_nil (position : Nat) (c : Char) (rest : List Char) :
    (lexValue position c rest).covered ≠ [] := by
  unfold lexValue
  split
  · simp
  · split
    · exact lexQuoted_covered_ne_nil position c rest
    · simp

/-- Something is covered unless the text is at its end. -/
theorem covered_ne_nil (mode : Mode) (position : Nat) {text : List Char} (more : text ≠ []) :
    (lex mode position text).covered ≠ [] := by
  obtain ⟨c, rest, rfl⟩ := List.exists_cons_of_ne_nil more
  simp only [lex]
  split
  · simp
  · cases mode
    · exact lexPlain_covered_ne_nil position c rest
    · exact lexValue_covered_ne_nil position c rest

/-! ## Scanners -/

/-- A scanner: the characters left, the number of those behind it, and its mode. -/
structure Scanner where
  rest : List Char
  position : Nat
  mode : Mode
  deriving DecidableEq

namespace Scanner

/-- A scanner at the beginning of a list of characters. -/
def ofList (text : List Char) : Scanner :=
  ⟨text, 0, Mode.initial⟩

/-- A scanner at the beginning of a text. -/
def ofString (text : String) : Scanner :=
  ofList text.toList

/-- What stands at the front of the rest. -/
def lexeme (scanner : Scanner) : Lexeme :=
  lex scanner.mode scanner.position scanner.rest

/-- The scanner behind what stands at its front. -/
def advance (scanner : Scanner) : Scanner where
  rest := scanner.rest.drop scanner.lexeme.covered.length
  position := scanner.position + scanner.lexeme.covered.length
  mode := scanner.lexeme.mode

/-- The next token or error, and the scanner behind it. At the end of the text
the scanner stays where it is. -/
def next (scanner : Scanner) : Except LexicalError Token × Scanner :=
  (scanner.lexeme.outcome, scanner.advance)

/-- Every call before the end of the text leaves less of it. -/
theorem advance_rest_length_lt {scanner : Scanner} (more : scanner.rest ≠ []) :
    scanner.advance.rest.length < scanner.rest.length := by
  have covered := List.length_pos_iff.mpr (covered_ne_nil scanner.mode scanner.position more)
  have text := List.length_pos_iff.mpr more
  simp only [advance, lexeme, List.length_drop]
  omega

/-- The tokens up to and including the end of the text, or the first error. -/
def tokens (scanner : Scanner) : Except LexicalError (List Token) :=
  if _more : scanner.rest = [] then .ok [.endOfInput]
  else
    match scanner.lexeme.outcome with
    | .error error => .error error
    | .ok token => (scanner.advance.tokens).map (token :: ·)
  termination_by scanner.rest.length
  decreasing_by exact advance_rest_length_lt _more

/-- The outcomes of a number of calls, each with the scanner behind it. Errors
do not stop the scanner. -/
def calls (scanner : Scanner) : Nat → List (Except LexicalError Token × Scanner)
  | 0 => []
  | count + 1 => scanner.next :: scanner.advance.calls count

end Scanner

/-- The tokens of a text up to and including its end, or the first error. -/
def tokenize (text : String) : Except LexicalError (List Token) :=
  (Scanner.ofString text).tokens

end TreeSelector
