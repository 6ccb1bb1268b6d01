import CTokens.Cursor
import CTokens.Lexeme.Basic

/-!
# CTokens — recoveries

Scanning accepts every source. Where a lexeme is not what its beginning promised, the scanner
recovers and says so: an exponent without digits is given back, a literal or block comment that
is not closed ends with the source, and a character that begins nothing stands for itself.
-/

namespace CTokens

/-- What the scanner had to put up with. -/
inductive Recovery where
  /-- An exponent without digits was given back; `reached` is where its digits were looked for. -/
  | exponentGivenBack (reached : Location)
  /-- A literal that is not closed was closed at the end of the source. -/
  | literalClosed (kind : TokenKind) (start : Location)
  /-- A block comment that is not closed was closed at the end of the source. -/
  | commentClosed (start : Location)
  /-- A character begins no lexeme. -/
  | unknownCharacter (char : Char) (location : Location)
deriving DecidableEq, Repr

namespace Lexeme

/-- The recovery that reading the lexeme at `c` took, if it took one. -/
def recovery? (l : Lexeme) (c : Cursor) : Option Recovery :=
  match l with
  | blockComment body => if body.closed then none else some (.commentClosed c.location)
  | number reading =>
    if reading.dangling.isEmpty then none
    else
      let reached := c.skip (reading.chars.length + reading.dangling.length)
      some (.exponentGivenBack reached.location)
  | quoted mark body => if body.closed then none else some (.literalClosed mark.kind c.location)
  | unknown char => some (.unknownCharacter char c.location)
  | lineComment _ | word _ | delimiter _ | operator _ => none

end Lexeme

end CTokens
