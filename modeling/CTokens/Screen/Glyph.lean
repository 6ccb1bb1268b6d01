import CTokens.Screen.Style
import CTokens.Unicode.Columns
import CTokens.Unicode.Grapheme

/-!
# CTokens — glyphs

A glyph is what is drawn at one place: a grapheme cluster in its style, and the number of columns
that it takes. Clusters do not reach from one segment into the next, and line breaks are not
drawn.

Some clusters take no column. Running text leaves them out. In an entry of a list they are drawn
together with the glyph before them or, at the beginning of a segment, with the one behind.
-/

namespace CTokens

/-- A cluster that is drawn. -/
structure Glyph where
  symbol : String
  columns : Nat
  style : Style
deriving DecidableEq, Repr

namespace Glyph

/-- Put a glyph in front of others, the first of which may take no column and is then drawn with
it. Behind a glyph of several columns it is lost. -/
def attach (g : Glyph) : List Glyph → List Glyph
  | [] => [g]
  | next :: later =>
    if next.columns = 0 then
      if g.columns ≤ 1 then { g with symbol := g.symbol ++ next.symbol } :: later else g :: later
    else g :: next :: later

/-- Glyphs of which only the first may take no column: it is drawn with the one behind it. -/
def lead : List Glyph → List Glyph
  | first :: next :: later =>
    if first.columns = 0 then { next with symbol := first.symbol ++ next.symbol } :: later
    else first :: next :: later
  | glyphs => glyphs

/-- Join the glyphs that take no column to their neighbours. -/
def join (glyphs : List Glyph) : List Glyph := lead (glyphs.foldr attach [])

end Glyph

namespace Segment

/-- The glyphs of a segment. -/
def glyphs (s : Segment) : List Glyph :=
  ((Unicode.clusters s.text.toList).filter (· != ['\n'])).map fun cluster =>
    { symbol := String.ofList cluster, columns := Unicode.columns cluster, style := s.style }

/-- The glyphs of a line of running text. -/
def lineGlyphs (line : List Segment) : List Glyph := line.flatMap glyphs

/-- The glyphs of an entry of a list. -/
def entryGlyphs (entry : List Segment) : List Glyph :=
  entry.flatMap fun s => Glyph.join s.glyphs

end Segment

end CTokens
