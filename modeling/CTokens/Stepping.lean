import CTokens.Recovery

/-!
# CTokens — stepping over numbers

A cursor reads a number without looking for its end first: it steps over the digits, over a point
and the digits behind it, and where the mark of an exponent follows it steps on behind mark, sign
and digits. If it finds no digit there it goes back to a checkpoint before the mark, and says so.
-/

namespace CTokens.Cursor

/-- Step over a point and the digits behind it, if a digit stands before or behind the point. -/
def overFraction (c : Cursor) (whole : Bool) : Cursor :=
  if c.peek? = some '.' ∧ (whole = true ∨ c.rest[1]?.any Char.isDigit = true) then
    c.advance.advanceWhile Char.isDigit
  else c

/-- Step over the digits ahead, and over a point and the digits behind it. -/
def overMantissa (c : Cursor) : Cursor :=
  let whole := c.countWhile Char.isDigit
  (c.advanceWhile Char.isDigit).overFraction (decide (0 < whole))

/-- Step over an exponent, or go back to before its mark if it has no digits. -/
def overExponent (c : Cursor) : Cursor × Option Recovery :=
  let saved := c.checkpoint
  let marked := c.advance
  let signed := if marked.peek?.any Numeral.isSign then marked.advance else marked
  let beyond := signed.advanceWhile Char.isDigit
  if 0 < signed.countWhile Char.isDigit then (beyond, none)
  else (beyond.restore saved, some (.exponentGivenBack beyond.location))

/-- Step over the number ahead, trying an exponent where a mark follows the mantissa. -/
def overNumber (c : Cursor) : Cursor × Option Recovery :=
  let behind := c.overMantissa
  if behind.peek?.any Numeral.isExponentMark then behind.overExponent else (behind, none)

end CTokens.Cursor
