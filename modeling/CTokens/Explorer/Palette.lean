import CTokens.Screen.Style
import CTokens.Token

/-!
# CTokens — the palette

The colours of the explorer, by the part they play, and the styles that are made of them.
-/

namespace CTokens.Palette

-- ---------------------------------------------------------------------------
-- Colours
-- ---------------------------------------------------------------------------

/-- Plain text, and identifiers. -/
def text : Color := .rgb 205 214 244

/-- Keywords, delimiters and the count of tokens. -/
def blue : Color := .rgb 137 180 250

/-- Numbers, the current line number and the badge for discarded comments. -/
def orange : Color := .rgb 250 179 135

/-- Comments, gaps between tokens, line numbers and borders at rest. -/
def grey : Color := .rgb 108 112 134

/-- Strings, and the badge for kept comments. -/
def green : Color := .rgb 166 227 161

/-- Unknown characters. -/
def red : Color := .rgb 243 139 168

/-- Operators. -/
def teal : Color := .rgb 148 226 213

/-- Character literals. -/
def pink : Color := .rgb 245 194 231

/-- The border of the pane that has the focus. -/
def yellow : Color := .rgb 249 226 175

/-- The ground of the current line, of the selected row and of the status bar. -/
def highlight : Color := .rgb 50 50 70

/-- The ground of the selected token. -/
def selection : Color := .rgb 88 91 112

-- ---------------------------------------------------------------------------
-- Styles
-- ---------------------------------------------------------------------------

/-- How tokens of a kind look. -/
def ofKind : TokenKind → Style
  | .keyword => { fg := some blue, bold := true }
  | .identifier => { fg := some text }
  | .number => { fg := some orange }
  | .stringLiteral => { fg := some green }
  | .charLiteral => { fg := some pink }
  | .operator => { fg := some teal }
  | .delimiter => { fg := some blue }
  | .comment => { fg := some grey, italic := true }
  | .endOfInput => { fg := some grey }
  | .unknown => { fg := some red, underlined := true }

/-- How the border of a pane looks. -/
def border (focused : Bool) : Style :=
  if focused then { fg := some yellow, bold := true } else { fg := some grey }

/-- How source text looks that belongs to no token. -/
def gap : Style := { fg := some grey }

/-- What marks the selected token in the source. -/
def selectedToken : Style := { bg := some selection, bold := true }

/-- What marks the selected row of the token list. -/
def selectedRow : Style := { bg := some highlight, bold := true }

end CTokens.Palette
