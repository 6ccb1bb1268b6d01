import CTokens.Explorer.OwnerMap
import CTokens.Explorer.Viewport
import CTokens.Screen.Frame
import CTokens.Text.Align

/-!
# CTokens — the source pane

The source pane shows the source in the colours of its tokens, with line numbers. The line on
which the selected token begins stands out by its number and its ground.
-/

namespace CTokens.SourcePane

/-- The number of source lines that a pane of given height shows. It is at least one, also where
the pane has no room for it. -/
def visibleHeight (height : Nat) : Nat := max 1 (height - 2)

/-- The line on which the selected token begins, counted from one. Without such a token it is the
first. -/
def currentLine (tokens : List Token) (selected : Nat) : Nat :=
  match tokens[selected]? with
  | none => 1
  | some t => t.location.line

/-- The line number in front of a source line. -/
def lineNumber (number : Nat) (isCurrent : Bool) : Segment :=
  { text := Text.alignRight 4 (toString number) ++ " "
    style :=
      if isCurrent then { fg := some Palette.orange, bold := true }
      else { fg := some Palette.grey } }

/-- Ground a segment as part of the current line, unless it has a ground of its own. -/
def groundCurrent (s : Segment) : Segment :=
  if s.style.bg.isNone then { s with style := { s.style with bg := some Palette.highlight } } else s

/-- What the pane shows of the source line with index `line`. -/
def numberedLine (owners : OwnerMap) (tokens : List Token) (selected line : Nat) :
    Except Fault (List Segment) := do
  let isCurrent := line + 1 == currentLine tokens selected
  let content ← owners.highlight line tokens selected
  let shown := if isCurrent then content.map groundCurrent else content
  return lineNumber (line + 1) isCurrent :: shown

/-- The indices of the lines that are shown from `offset` on. -/
def shownLines (offset height total : Nat) : List Nat :=
  List.range' offset (min height (total - offset))

/-- Draw the pane. The scroll position moves when the selected token has to be brought into view
and when it lies beyond the end of the source. -/
def draw (owners : OwnerMap) (tokens : List Token) (selected : Nat) (focused : Bool)
    (scroll : Scroll) (width height : Nat) : Except Fault (Frame × Scroll) := do
  let shown := visibleHeight height
  let total := owners.lineCount
  let settled ← scroll.settle (currentLine tokens selected - 1) total shown
  let lines ← (shownLines settled.offset shown total).mapM (numberedLine owners tokens selected)
  let rows := lines.map fun line => Row.setLine Style.plain (width - 2) line
  return (Frame.bordered (Palette.border focused) " Source " width height rows, settled)

end CTokens.SourcePane
