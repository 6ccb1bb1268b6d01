import CTokens.Unicode.Ranges

/-!
# CTokens — white space

The characters with the Unicode property White_Space: the blanks between tokens.
-/

namespace CTokens.Unicode

/-- The code points with the property White_Space. -/
def whiteSpaceRanges : RangeTable where
  ranges :=
    [(0x9, 0xD), (0x20, 0x20), (0x85, 0x85), (0xA0, 0xA0), (0x1680, 0x1680), (0x2000, 0x200A),
     (0x2028, 0x2029), (0x202F, 0x202F), (0x205F, 0x205F), (0x3000, 0x3000)]
  ascends := by decide +kernel

/-- Whether a character is white space. -/
def isWhiteSpace (c : Char) : Bool := whiteSpaceRanges.covers c.toNat

end CTokens.Unicode
