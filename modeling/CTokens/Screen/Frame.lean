import CTokens.Screen.Glyph

/-!
# CTokens — frames

A frame is what a terminal shows: rows of cells, each with a symbol and a style. Frames are put
together from parts. A line of styled text is set into a row of given width, rows are enclosed in
a border, and panes are placed beside each other.

A glyph that takes several columns is set into the first of them. The second stays blank and
plain, and the others show the ground. A glyph that would cross the right edge is not set, and
nothing after it is.

Main statements:

* `length_set` — setting glyphs into a row gives as many cells as the row has columns;
* `length_bordered`, `length_of_mem_bordered` — a border fills exactly its area.
-/

namespace CTokens

/-- A place on the screen. -/
structure Cell where
  symbol : String
  style : Style
deriving DecidableEq, Repr

/-- Cells from left to right. -/
abbrev Row := List Cell

/-- Rows from top to bottom. -/
abbrev Frame := List Row

namespace Cell

/-- A cell that nothing was drawn into. -/
def blank : Cell := ⟨" ", Style.plain⟩

/-- A cell that shows one character. -/
def ofChar (c : Char) (style : Style) : Cell := ⟨String.singleton c, style⟩

end Cell

namespace Row

/-- A row of spaces in one style. -/
def spaces (style : Style) (width : Nat) : Row := List.replicate width ⟨" ", style⟩

-- ---------------------------------------------------------------------------
-- Setting text
-- ---------------------------------------------------------------------------

/-- The number of columns that glyphs take. -/
def totalColumns (glyphs : List Glyph) : Nat :=
  glyphs.foldr (fun g total => g.columns + total) 0

/-- The cells behind the first one of a glyph. -/
def hidden (ground : Style) : Nat → Row
  | 0 => []
  | count + 1 => Cell.blank :: spaces ground count

/-- Set glyphs into a row of given width over a ground style, as far as they fit. -/
def set (ground : Style) : Nat → List Glyph → Row
  | width, [] => spaces ground width
  | width, g :: rest =>
    if g.columns = 0 then set ground width rest
    else if g.columns ≤ width then
      ⟨g.symbol, ground.under g.style⟩ ::
        (hidden ground (g.columns - 1) ++ set ground (width - g.columns) rest)
    else spaces ground width

/-- Set a line of running text. What is wider than the whole row is left out of it. -/
def setLine (ground : Style) (width : Nat) (line : List Segment) : Row :=
  set ground width ((Segment.lineGlyphs line).filter fun g => decide (g.columns ≤ width))

/-- Set a line of running text at the right end of a row, if it fits, and from its left end
otherwise. -/
def setLineRight (ground : Style) (width : Nat) (line : List Segment) : Row :=
  let free := width - totalColumns (Segment.lineGlyphs line)
  spaces ground free ++ setLine ground (width - free) line

/-- Set an entry of a list. -/
def setEntry (ground : Style) (width : Nat) (entry : List Segment) : Row :=
  set ground width (Segment.entryGlyphs entry)

@[simp] theorem length_spaces (style : Style) (width : Nat) :
    (spaces style width).length = width := List.length_replicate

@[simp] theorem length_hidden (ground : Style) (count : Nat) :
    (hidden ground count).length = count := by
  cases count with
  | zero => rfl
  | succ count => rw [hidden, List.length_cons, length_spaces]

@[simp] theorem length_set (ground : Style) (width : Nat) (glyphs : List Glyph) :
    (set ground width glyphs).length = width := by
  induction glyphs generalizing width with
  | nil => exact length_spaces ground width
  | cons g rest ih =>
    unfold set
    split
    · exact ih width
    split
    · rw [List.length_cons, List.length_append, length_hidden, ih]; omega
    · exact length_spaces ground width

@[simp] theorem length_setLine (ground : Style) (width : Nat) (line : List Segment) :
    (setLine ground width line).length = width := length_set ..

@[simp] theorem length_setEntry (ground : Style) (width : Nat) (entry : List Segment) :
    (setEntry ground width entry).length = width := length_set ..

end Row

namespace Frame

-- ---------------------------------------------------------------------------
-- Borders
-- ---------------------------------------------------------------------------

/-- Rows cut or filled up to a given number. -/
def fill (height width : Nat) (rows : List Row) : Frame :=
  rows.take height ++ List.replicate (height - rows.length) (Row.spaces Style.plain width)

/-- A row between two edges. Where there is room for one column only, the left edge shows. -/
def edged (style : Style) (left right : Char) (width : Nat) (inside : Row) : Row :=
  match width with
  | 0 => []
  | 1 => [.ofChar left style]
  | _ + 2 => .ofChar left style :: inside ++ [.ofChar right style]

/-- The upper edge of a box, with a title from its second cell on. -/
def upperEdge (style : Style) (title : String) (width : Nat) : Row :=
  let shown := title.toList.take (width - 2)
  let line := shown ++ List.replicate (width - 2 - shown.length) '─'
  edged style '┌' '┐' width (line.map (Cell.ofChar · style))

/-- The lower edge of a box. -/
def lowerEdge (style : Style) (width : Nat) : Row :=
  edged style '└' '┘' width (List.replicate (width - 2) (.ofChar '─' style))

/-- A box with a title around rows. Where there is room for one row only, the upper edge shows. -/
def bordered (style : Style) (title : String) (width height : Nat) (inside : List Row) : Frame :=
  match height with
  | 0 => []
  | 1 => [upperEdge style title width]
  | interior + 2 =>
    upperEdge style title width ::
      (fill interior (width - 2) inside).map (edged style '│' '│' width) ++
      [lowerEdge style width]

/-- One frame to the left of another. -/
def beside (left right : Frame) : Frame := List.zipWith (· ++ ·) left right

@[simp] theorem length_fill (height width : Nat) (rows : List Row) :
    (fill height width rows).length = height := by
  simp only [fill, List.length_append, List.length_take, List.length_replicate]
  omega

/-- Edges take one column on either side. -/
theorem length_edged (style : Style) (left right : Char) (width : Nat) {inside : Row}
    (h : inside.length = width - 2) : (edged style left right width inside).length = width := by
  match width with
  | 0 => rfl
  | 1 => rfl
  | n + 2 => simp [edged, h]

@[simp] theorem length_bordered (style : Style) (title : String) (width height : Nat)
    (inside : List Row) : (bordered style title width height inside).length = height := by
  match height with
  | 0 => rfl
  | 1 => rfl
  | n + 2 => simp [bordered]

/-- Rows that are filled up are as wide as the others. -/
theorem length_of_mem_fill {height width : Nat} {rows : List Row}
    (h : ∀ r ∈ rows, r.length = width) {r : Row} (hr : r ∈ fill height width rows) :
    r.length = width := by
  rcases List.mem_append.1 hr with hr | hr
  · exact h r (List.mem_of_mem_take hr)
  · rw [(List.mem_replicate.1 hr).2]; simp

/-- All rows of a box are as wide as the box. -/
theorem length_of_mem_bordered {style : Style} {title : String} {width height : Nat}
    {inside : List Row} (h : ∀ r ∈ inside, r.length = width - 2) {r : Row}
    (hr : r ∈ bordered style title width height inside) : r.length = width := by
  have hUpper : (upperEdge style title width).length = width :=
    length_edged _ _ _ _ (by
      simp only [List.length_map, List.length_append, List.length_take, List.length_replicate]
      omega)
  have hLower : (lowerEdge style width).length = width := length_edged _ _ _ _ (by simp)
  match height with
  | 0 => cases hr
  | 1 => rw [List.mem_singleton.1 hr]; exact hUpper
  | n + 2 =>
    simp only [bordered, List.cons_append, List.mem_cons, List.mem_append, List.mem_map,
      List.not_mem_nil, or_false] at hr
    rcases hr with rfl | ⟨inner, hInner, rfl⟩ | rfl
    · exact hUpper
    · exact length_edged _ _ _ _ (length_of_mem_fill h hInner)
    · exact hLower

end Frame

end CTokens
