import TreeSelector.Unicode.Ranges

/-!
# White space

The Unicode property White_Space: the tabs, line ends and spaces of the
standard, the no-break ones included.
-/

set_option autoImplicit false

namespace TreeSelector.Unicode

/-- The code points with the property White_Space. -/
def whiteSpaceRanges : Ranges :=
  [(0x0009, 0x000D), (0x0020, 0x0020), (0x0085, 0x0085), (0x00A0, 0x00A0), (0x1680, 0x1680),
   (0x2000, 0x200A), (0x2028, 0x2029), (0x202F, 0x202F), (0x205F, 0x205F), (0x3000, 0x3000)]

/-- The characters with the property White_Space. -/
def whiteSpace : Table :=
  .ofRanges whiteSpaceRanges (by decide +kernel)

/-- Whether the character has the property White_Space. -/
def isWhiteSpace (c : Char) : Bool :=
  whiteSpace.holds c

end TreeSelector.Unicode
