import CTokens.Unicode.Extending
import CTokens.Unicode.Printable

/-!
# CTokens — escaped text

Text is shown on one line and without surprises by escaping what cannot be shown as it is: a
backslash and a letter for the common control characters, a backslash before quotes and
backslashes, and the code point in braces for every other character that is not printable.

Which quotes are escaped, and whether marks that are drawn onto the character before them count as
printable, depends on where the text is shown. Each place has its rule.
-/

namespace CTokens.Text

open Unicode

/-- What is escaped besides backslashes and unprintable characters. -/
structure EscapeRule where
  doubleQuote : Bool
  singleQuote : Bool
  /-- Whether a mark that is drawn onto the character before it is escaped. -/
  combining : Bool
deriving DecidableEq, Repr

/-- A character by its code point, in lower-case hexadecimal digits. -/
def codePoint (c : Char) : List Char := ['\\', 'u', '{'] ++ Nat.toDigits 16 c.toNat ++ ['}']

/-- A character as a rule shows it. -/
def escapeChar (rule : EscapeRule) (c : Char) : List Char :=
  if c = '\x00' then ['\\', '0']
  else if c = '\t' then ['\\', 't']
  else if c = '\r' then ['\\', 'r']
  else if c = '\n' then ['\\', 'n']
  else if c = '\\' then ['\\', '\\']
  else if c = '\x22' ∧ rule.doubleQuote then ['\\', c]
  else if c = '\x27' ∧ rule.singleQuote then ['\\', c]
  else if (rule.combining && isCombining c) || !isPrintable c then codePoint c
  else [c]

/-- A text as a rule shows it, character by character. -/
def escape (rule : EscapeRule) (cs : List Char) : List Char := cs.flatMap (escapeChar rule)

-- ---------------------------------------------------------------------------
-- The places where text is shown
-- ---------------------------------------------------------------------------

/-- Between double quotes only those are escaped, and marks always. -/
def betweenDoubleQuotes : EscapeRule :=
  { doubleQuote := true, singleQuote := false, combining := true }

/-- Between single quotes only those are escaped, and marks always. -/
def betweenSingleQuotes : EscapeRule :=
  { doubleQuote := false, singleQuote := true, combining := true }

/-- At the beginning of a cell both quotes are escaped, and a mark, which has nothing to join. -/
def openingCell : EscapeRule := { doubleQuote := true, singleQuote := true, combining := true }

/-- Within a cell both quotes are escaped, and a mark joins the character before it. -/
def withinCell : EscapeRule := { doubleQuote := true, singleQuote := true, combining := false }

/-- A text between double quotes. -/
def quote (s : String) : String :=
  String.ofList (['\x22'] ++ escape betweenDoubleQuotes s.toList ++ ['\x22'])

/-- A character between single quotes. -/
def quoteChar (c : Char) : String :=
  String.ofList (['\x27'] ++ escapeChar betweenSingleQuotes c ++ ['\x27'])

/-- A text as the content of a table cell. -/
def cell : List Char → List Char
  | [] => []
  | c :: cs => escapeChar openingCell c ++ escape withinCell cs

end CTokens.Text
