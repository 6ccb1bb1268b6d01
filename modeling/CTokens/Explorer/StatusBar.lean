import CTokens.Explorer.Palette
import CTokens.Screen.Frame

/-!
# CTokens — the status bar

The status bar is the last row of the screen. On its left are the number of the selected token,
its kind and location, and a message; on its right are the keys, and whether comments are kept.
-/

namespace CTokens.StatusBar

/-- The ground of the bar. -/
def ground : Style := { bg := some Palette.highlight }

/-- Text in a colour on the ground of the bar. -/
def on (color : Color) (text : String) : Segment :=
  { text := text, style := { ground with fg := some color } }

/-- Black text on a coloured ground. -/
def badge (color : Color) (bold : Bool) (text : String) : Segment :=
  { text := text, style := { fg := some .black, bg := some color, bold := bold } }

/-- What the bar says about the selected token. -/
def about (t : Token) : List Segment :=
  [{ text := " " ++ t.kind.name ++ " ", style := (Palette.ofKind t.kind).under ground },
   on Palette.grey ("at " ++ t.location.display ++ " ")]

/-- The left part of the bar. Tokens are numbered from one, and the number has to fit in a
word. -/
def left (message : String) (selected : Nat) (tokens : List Token) :
    Except Fault (List Segment) := do
  let number ← Word.add selected 1
  let count := badge Palette.blue true
    (" Token " ++ toString number ++ "/" ++ toString tokens.length ++ " ")
  let subject := match tokens[selected]? with
    | none => []
    | some t => about t
  return count :: subject ++ [on Palette.grey " | ", on Palette.text (" " ++ message ++ " ")]

/-- A key and what it does. -/
def keyHint (key action : String) : List Segment :=
  [badge Palette.grey false key, on Palette.text action]

/-- What stands between two hints. -/
def separator : Segment := on Palette.grey "│"

/-- The right part of the bar. -/
def right (keepComments : Bool) : List Segment :=
  keyHint " ↑/↓ " " select " ++ [separator, on Palette.text " "] ++
  keyHint " ⇥ " " focus " ++ [separator, on Palette.text " "] ++
  keyHint " c " " comments " ++ [separator, on Palette.text " "] ++
  keyHint "q" " quit " ++
  [separator,
    if keepComments then badge Palette.green true " COMMENTS "
    else badge Palette.orange true " NO COMMENTS "]

/-- The number of columns of the left part: 55 percent of the bar, rounded to the nearest. -/
def leftWidth (width : Nat) : Nat := (55 * width + 50) / 100

/-- Draw the bar. -/
def draw (message : String) (selected : Nat) (tokens : List Token) (keepComments : Bool)
    (width : Nat) : Except Fault Row := do
  let leftPart ← left message selected tokens
  return Row.setLine ground (leftWidth width) leftPart ++
    Row.setLineRight ground (width - leftWidth width) (right keepComments)

end CTokens.StatusBar
