import CTokens.Explorer.Palette
import CTokens.Screen.Frame
import CTokens.Text.Align
import CTokens.Text.Escape

/-!
# CTokens — the token pane

The token pane lists the tokens, one row each: location, kind, and text with everything escaped
that cannot be shown on one line. The selected row is marked, and the list scrolls by whole rows
so that it stays in view.
-/

namespace CTokens

/-- Which row of the list is selected, and which is the first in view. -/
structure ListState where
  selected : Option Nat
  offset : Nat
deriving DecidableEq, Repr

namespace ListState

/-- Nothing is selected, and the list begins at its first row. -/
def start : ListState := { selected := none, offset := 0 }

/-- Select a row. -/
def select (s : ListState) (row : Nat) : ListState := { s with selected := some row }

/-- The first row in view of a list of `count` rows in a window of `height` rows. The window
moves down as far as the selected row needs it and then up as far as that row needs it; it does
not move to fill rows that stay empty. -/
def firstRow (s : ListState) (count height : Nat) : Nat :=
  let first := min s.offset (count - 1)
  match s.selected with
  | none => first
  | some row =>
    let lowered := if min (first + height) count ≤ row then row + 1 - height else first
    min lowered row

/-- What the state becomes when `count` rows are drawn in a window of `height` rows. A selection
beyond the end goes to the last row, and an empty list has none. -/
def settle (s : ListState) (count height : Nat) : ListState :=
  if count = 0 then start
  else
    let kept := { s with selected := s.selected.map (min · (count - 1)) }
    { kept with offset := kept.firstRow count height }

end ListState

namespace TokenPane

/-- A token as a row of the list. -/
def row (t : Token) : List Segment :=
  [{ text := Text.alignRight 4 (toString t.location.line) ++ ":" ++
        Text.alignLeft 4 (toString t.location.column)
     style := { fg := some Palette.grey } },
   { text := Text.alignLeft 14 t.kind.name, style := Palette.ofKind t.kind },
   { text := String.ofList (Text.cell t.text.toList), style := { fg := some Palette.text } }]

/-- What stands in front of a row: nothing while no row is selected, and a mark on the selected
one afterwards. -/
def marker (selected : Option Nat) (index : Nat) : List Segment :=
  match selected with
  | none => []
  | some chosen => [{ text := if index = chosen then "▶ " else "  ", style := Style.plain }]

/-- Set a row of the list into its columns. -/
def setRow (selected : Option Nat) (width : Nat) (indexed : Token × Nat) : Row :=
  let line := marker selected indexed.2 ++ row indexed.1
  if selected = some indexed.2 then
    Row.setEntry Palette.selectedRow width (Segment.overlay Palette.selectedRow line)
  else
    Row.setEntry Style.plain width line

/-- Draw the pane. Without room for a row the state of the list is left alone. -/
def draw (tokens : List Token) (focused : Bool) (list : ListState) (width height : Nat) :
    Frame × ListState :=
  let title := " Tokens (" ++ toString tokens.length ++ ") "
  let border := Palette.border focused
  if width ≤ 2 ∨ height ≤ 2 then
    (Frame.bordered border title width height [], list)
  else
    let settled := list.settle tokens.length (height - 2)
    let shown := (tokens.zipIdx.drop settled.offset).take (height - 2)
    let rows := shown.map (setRow settled.selected (width - 2))
    (Frame.bordered border title width height rows, settled)

end TokenPane

end CTokens
