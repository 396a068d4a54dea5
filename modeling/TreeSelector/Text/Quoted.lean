import TreeSelector.Unicode.GraphemeExtend
import TreeSelector.Unicode.Unprintable

/-!
# Characters in messages

A message names a character between single quotes. A character that would be
lost or misread there is written as an escape: the zero, tab, return and
newline characters by a letter, the quote and the backslash behind a backslash,
and every other character that has no visible form of its own by its code point
in braces (`Unicode.isGraphemeExtend`, `Unicode.isUnprintable`). All others
stand for themselves, the double quote included.
-/

set_option autoImplicit false

namespace TreeSelector.Text

/-- Lower-case hexadecimal digits, without leading zeros. -/
def hexadecimal (number : Nat) : String :=
  String.ofList (Nat.toDigits 16 number)

/-- A character by its code point. -/
def codePointEscape (c : Char) : String :=
  "\\u\x7b" ++ hexadecimal c.toNat ++ "\x7d"

/-- The character as it stands between the quotes. -/
def escaped (c : Char) : String :=
  if c = '\x00' then "\\0"
  else if c = '\t' then "\\t"
  else if c = '\r' then "\\r"
  else if c = '\n' then "\\n"
  else if c = '\\' then "\\\\"
  else if c = '\'' then "\\'"
  else if Unicode.isGraphemeExtend c || Unicode.isUnprintable c then codePointEscape c
  else String.singleton c

/-- The character between single quotes. -/
def quoted (c : Char) : String :=
  "'" ++ escaped c ++ "'"

end TreeSelector.Text
