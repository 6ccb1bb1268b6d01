import CTokens.Unicode.Ranges

/-!
# CTokens — prepended characters

The characters that join the one behind them: number signs, and the first parts of some conjuncts.
-/

namespace CTokens.Unicode

/-- The code points whose grapheme cluster break is Prepend. -/
def prependedRanges : RangeTable where
  ranges :=
    [(0x600, 0x605), (0x6DD, 0x6DD), (0x70F, 0x70F), (0x890, 0x891), (0x8E2, 0x8E2), (0xD4E, 0xD4E),
     (0x110BD, 0x110BD), (0x110CD, 0x110CD), (0x111C2, 0x111C3), (0x113D1, 0x113D1),
     (0x1193F, 0x1193F), (0x11941, 0x11941), (0x11A84, 0x11A89), (0x11D46, 0x11D46),
     (0x11F02, 0x11F02)]
  ascends := by decide +kernel

/-- Whether a character joins the one behind it. -/
def isPrepended (c : Char) : Bool := prependedRanges.covers c.toNat

end CTokens.Unicode
