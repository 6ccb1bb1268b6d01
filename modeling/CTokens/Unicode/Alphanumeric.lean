import CTokens.Unicode.Alphabetic
import CTokens.Unicode.Numeric

/-!
# CTokens — alphanumeric characters

The characters that may continue a word: letters of every script and numeric characters.
-/

namespace CTokens.Unicode

/-- Whether a character is a letter or numeric. -/
def isAlphanumeric (c : Char) : Bool := isAlphabetic c || isNumeric c

end CTokens.Unicode
