/-!
# Text padded to a width

Columns are filled with spaces up to a width counted in characters. A text that
is wider already stands as it is: nothing is ever cut off.
-/

set_option autoImplicit false

namespace TreeSelector.Text

/-- A row of spaces. -/
def spaces (count : Nat) : String :=
  String.ofList (List.replicate count ' ')

/-- The text at the left of its column. -/
def padRight (width : Nat) (text : String) : String :=
  text ++ spaces (width - text.length)

/-- The text at the right of its column. -/
def padLeft (width : Nat) (text : String) : String :=
  spaces (width - text.length) ++ text

end TreeSelector.Text
