import TreeSelector.Selector.Json
import TreeSelector.Selector.Parse
import TreeSelector.Selector.Render
import TreeSelector.Text.Padded
import TreeSelector.Text.Styled

/-!
# The command line

Two commands look into a selector text. `tokens` lists its tokens, each with the
position behind it and the mode that the scanner is then in. `parse` reads the
selector and writes it in its own notation, as JSON (`--json`) or as an outline
(`--tree`).

The arguments of a command are one text and, for `parse`, at most one of the two
options. Behind `--` everything is text, and so is a lone `-`. A request for the
version is met where the name of a command is expected. Any other arguments are
a usage error.
-/

set_option autoImplicit false

namespace TreeSelector

namespace CommandLine

/-! ## Arguments -/

/-- The forms in which a selector is written. -/
inductive Form where
  | rendered
  | json
  | outline
  deriving DecidableEq, Repr

/-- What the arguments ask for. -/
inductive Command where
  | version
  | tokens (text : String)
  | parse (text : String) (form : Form)
  deriving DecidableEq, Repr

/-- The arguments of a command, as far as they have been read. -/
structure Arguments where
  text : Option String
  form : Option Form
  deriving DecidableEq, Repr

namespace Arguments

/-- No arguments. -/
def empty : Arguments :=
  ⟨none, none⟩

/-- One more text. There is room for one. -/
def takeText (arguments : Arguments) (text : String) : Option Arguments :=
  match arguments.text with
  | none => some { arguments with text := some text }
  | some _ => none

/-- One more option. There is room for one. -/
def takeForm (arguments : Arguments) (form : Form) : Option Arguments :=
  match arguments.form with
  | none => some { arguments with form := some form }
  | some _ => none

end Arguments

/-- The forms that the command `parse` has options for, by the options. -/
def parseOptions : List (String × Form) :=
  [("--json", .json), ("--tree", .outline)]

/-- Whether an argument is an option. A lone hyphen is a text. -/
def isOption (argument : String) : Bool :=
  argument.toList.head? == some '-' && argument != "-"

/-- The arguments of a command that has the given options. -/
def readArguments (options : List (String × Form)) :
    Arguments → List String → Option Arguments
  | arguments, [] => some arguments
  | arguments, argument :: later =>
      if argument = "--" then later.foldlM Arguments.takeText arguments
      else if isOption argument then do
        let form ← options.lookup argument
        let arguments ← arguments.takeForm form
        readArguments options arguments later
      else do
        let arguments ← arguments.takeText argument
        readArguments options arguments later

/-- Whether an argument asks for the version. What follows `-V` in the same
argument is not looked at. -/
def asksForVersion (argument : String) : Bool :=
  argument = "--version" || ['-', 'V'].isPrefixOf argument.toList

/-- What the arguments ask for; nothing if their usage is wrong. -/
def Command.ofArguments : List String → Option Command
  | [] => none
  | "tokens" :: later => do
      let arguments ← readArguments [] .empty later
      return .tokens (← arguments.text)
  | "parse" :: later => do
      let arguments ← readArguments parseOptions .empty later
      return .parse (← arguments.text) (arguments.form.getD .rendered)
  | argument :: _ => if asksForVersion argument then some .version else none

/-! ## Outcomes -/

/-- What a run leaves behind: its exit code and the texts that it prints. -/
structure Outcome where
  code : Nat
  output : String
  errors : String
  deriving DecidableEq, Repr

/-- The outcome of a run without errors. -/
def Outcome.success (output : String) : Outcome :=
  ⟨0, output, ""⟩

/-- The outcome of a run that ends with an error, after some output. -/
def Outcome.failure (output message : String) : Outcome :=
  ⟨1, output,
    Text.Style.bold.apply (Text.Style.red.apply "error:") ++ " " ++ message ++ "\n"⟩

/-- The outcome of a usage error. -/
def Outcome.usage : Outcome :=
  ⟨2, "", "usage: thicket tokens SELECTOR | thicket parse SELECTOR [--json | --tree]\n"⟩

/-- The name of a mode in its colour. -/
def modeText : Mode → String
  | .plain => Text.Style.dim.apply Mode.plain.name
  | .value => Text.Style.cyan.apply Mode.value.name

/-- The line for a token, with the scanner behind it. -/
def tokenLine (token : Token) (behind : Scanner) : String :=
  Text.padLeft 4 (toString behind.position) ++ "  " ++ Text.padRight 28 token.display ++ " " ++
    modeText behind.mode ++ "\n"

/-- The lines for the tokens of a scanner, and the error that cuts them off. -/
def tokenLines (scanner : Scanner) : String × Option LexicalError :=
  match scanner.lexeme.outcome with
  | .error error => ("", some error)
  | .ok token =>
      if _more : scanner.rest = [] then (tokenLine token scanner.advance, none)
      else
        let later := tokenLines scanner.advance
        (tokenLine token scanner.advance ++ later.1, later.2)
  termination_by scanner.rest.length
  decreasing_by exact Scanner.advance_rest_length_lt _more

/-- Lists the tokens of a text, as far as it has tokens. -/
def runTokens (text : String) : Outcome :=
  match tokenLines (Scanner.ofString text) with
  | (lines, none) => .success lines
  | (lines, some error) => .failure lines error.message

/-- A selector in one of its forms. -/
def Form.write (selector : Selector) : Form → String
  | .rendered => selector.render
  | .json => selector.toJson.pretty
  | .outline => selector.outline

/-- Reads a selector and writes it in a form. -/
def runParse (text : String) (form : Form) : Outcome :=
  match TreeSelector.parse text with
  | .ok selector => .success (form.write selector ++ "\n")
  | .error error => .failure "" error.message

/-- Runs a command. -/
def Command.run : Command → Outcome
  | .version => .success "thicket 0.1.0\n"
  | .tokens text => runTokens text
  | .parse text form => runParse text form

/-- Runs what the arguments ask for. -/
def run (arguments : List String) : Outcome :=
  match Command.ofArguments arguments with
  | some command => command.run
  | none => .usage

end CommandLine

end TreeSelector
