import TreeSelector.Selector.Reading

/-!
# Reading a selector from a text

A parser is a scanner and a reading, and the result once there is one
(`Parser`). A step takes one token from the scanner and gives it to the reading.
The result is there when the scanner or the reading finds an error, or when the
end token has been read; from then on a step changes nothing.

A token is asked for only when the one before it has been admitted. So the first
error in the text is the one reported, and nothing behind it is scanned. Every
step before the result leaves less to do (`remaining_step_lt`): a text of `n`
characters is read in at most `n + 1` steps, the last of which takes the end
token.
-/

set_option autoImplicit false

namespace TreeSelector

/-- A parser at work: what is left of the text, what has been read, and the
result once there is one. -/
structure Parser where
  scanner : Scanner
  reading : Reading
  result : Option (Except ParseError Selector)

namespace Parser

/-- A parser at the beginning of a list of characters. -/
def ofList (text : List Char) : Parser :=
  ⟨Scanner.ofList text, Reading.start, none⟩

/-- A parser at the beginning of a text. -/
def ofString (text : String) : Parser :=
  ofList text.toList

/-- The parser when the scanner has come to a token or to an error and to what
is behind it. -/
def receive (parser : Parser) (scanner : Scanner) : Except LexicalError Token → Parser
  | .error error => ⟨scanner, parser.reading, some (.error (.lexical error))⟩
  | .ok token =>
      match parser.reading.step token with
      | .error error => ⟨scanner, parser.reading, some (.error error)⟩
      | .ok reading => ⟨scanner, reading, if token.isEnd then some reading.finish else none⟩

/-- Takes one token from the scanner, as long as there is no result. -/
def step (parser : Parser) : Parser :=
  match parser.result with
  | some _ => parser
  | none => parser.receive parser.scanner.advance parser.scanner.lexeme.outcome

/-- The most steps that there are before the result. -/
def remaining (parser : Parser) : Nat :=
  match parser.result with
  | some _ => 0
  | none => parser.scanner.rest.length + 1

theorem scanner_receive (parser : Parser) (scanner : Scanner)
    (outcome : Except LexicalError Token) : (parser.receive scanner outcome).scanner = scanner := by
  unfold receive
  split
  · rfl
  · split <;> rfl

/-- The end token always brings the result. -/
theorem receive_endOfInput_isSome (parser : Parser) (scanner : Scanner) :
    (parser.receive scanner (.ok .endOfInput)).result.isSome = true := by
  simp only [receive]
  split <;> rfl

theorem remaining_le (parser : Parser) : parser.remaining ≤ parser.scanner.rest.length + 1 := by
  unfold remaining
  split <;> omega

/-- **Every step before the result leaves less to do.** -/
theorem remaining_step_lt {parser : Parser} (running : parser.result = none) :
    parser.step.remaining < parser.remaining := by
  have whole : parser.remaining = parser.scanner.rest.length + 1 := by
    simp [remaining, running]
  have taken : parser.step = parser.receive parser.scanner.advance parser.scanner.lexeme.outcome := by
    simp [step, running]
  rw [taken, whole]
  by_cases more : parser.scanner.rest = []
  · have last : parser.scanner.lexeme.outcome = .ok .endOfInput := by
      simp [Scanner.lexeme, lex, more]
    rw [last]
    obtain ⟨result, known⟩ := Option.isSome_iff_exists.mp
      (receive_endOfInput_isSome parser parser.scanner.advance)
    simp [remaining, known]
  · have left := Scanner.advance_rest_length_lt more
    have bound := remaining_le
      (parser.receive parser.scanner.advance parser.scanner.lexeme.outcome)
    rw [scanner_receive] at bound
    omega

/-- Steps until there is a result. -/
def run (parser : Parser) : Except ParseError Selector :=
  match _running : parser.result with
  | some result => result
  | none => parser.step.run
  termination_by parser.remaining
  decreasing_by exact remaining_step_lt _running

end Parser

/-- Reads a selector text. -/
def parse (text : String) : Except ParseError Selector :=
  (Parser.ofString text).run

end TreeSelector
