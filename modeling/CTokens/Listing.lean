import CTokens.TokenStream

/-!
# CTokens — the listing

The listing of a source has a line for every token, in order: kind, text and location. The text
is written as it is, so a token whose text holds line breaks takes several lines on the page.
-/

namespace CTokens

/-- What the listing says of every token. -/
def listing (source : String) (keepComments : Bool) : List String :=
  (scan source keepComments).map Token.display

/-- The listing as it is printed: a line break ends what is said of each token. -/
def printedListing (source : String) (keepComments : Bool) : String :=
  String.join ((listing source keepComments).map (· ++ "\n"))

end CTokens
