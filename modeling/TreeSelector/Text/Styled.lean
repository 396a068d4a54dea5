/-!
# Text with a terminal style

A style is switched on before the text and off after it by two escape
sequences. Colours are switched off by the sequence for the default colour, the
weights by the one that resets everything.
-/

set_option autoImplicit false

namespace TreeSelector.Text

/-- The styles in use. -/
inductive Style where
  | red
  | yellow
  | cyan
  | bold
  | dim
  deriving DecidableEq, Repr

/-- The number that switches the style on. -/
def Style.on : Style → String
  | .red => "31"
  | .yellow => "33"
  | .cyan => "36"
  | .bold => "1"
  | .dim => "2"

/-- The number that switches the style off again. -/
def Style.off : Style → String
  | .red | .yellow | .cyan => "39"
  | .bold | .dim => "0"

/-- An escape sequence that sets one display attribute. -/
def displaySequence (number : String) : String :=
  "\x1b[" ++ number ++ "m"

/-- The text in the style. -/
def Style.apply (style : Style) (text : String) : String :=
  displaySequence style.on ++ text ++ displaySequence style.off

end TreeSelector.Text
