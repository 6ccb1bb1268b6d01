/-!
# CTokens — control characters

The characters of the general category Cc. They have no shape of their own, so a pane shows a
space in their place.
-/

namespace CTokens.Unicode

/-- Whether a character is a control character. -/
def isControl (c : Char) : Bool :=
  decide (c.toNat < 0x20) || (decide (0x7F ≤ c.toNat) && decide (c.toNat < 0xA0))

end CTokens.Unicode
