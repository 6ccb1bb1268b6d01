import CTokens.Explorer.SourcePane
import CTokens.Proofs.Drawing

/-!
# CTokens — frames cell by cell

What a frame shows is told cell by cell. Printable characters of ASCII take one cell each, so a line
of them is set as it is and cut at the right. A border leaves the cells that it encloses as they
are, one row and one column further on, and of panes beside each other the right one begins where
the left one ends.

Where a cell comes from decides its style only up to the styles that went into it: setting text
lays the style of a segment over the ground and invents no style of its own.

Main statements:

* `Row.setLine_of_plain` — a line of printable characters, set into a row;
* `Row.forall_mem_set` — what holds of the styles that go into a row holds of its cells;
* `Frame.cell?_bordered_interior`, `Frame.style_or_interior_of_bordered` — the cells of a box;
* `Frame.cell?_beside` — the cells of two panes.
-/

namespace CTokens

-- ---------------------------------------------------------------------------
-- Setting printable text
-- ---------------------------------------------------------------------------

namespace Segment

/-- A segment of printable characters of ASCII. -/
def Plain (s : Segment) : Prop := ∀ c ∈ s.text.toList, 0x20 ≤ c.toNat ∧ c.toNat ≤ 0x7E

/-- The cells of a segment of which every character takes one. -/
def cells (s : Segment) : Row := s.text.toList.map fun c => .ofChar c s.style

/-- Printable characters of ASCII are glyphs of one column each. -/
theorem glyphs_of_plain {s : Segment} (h : s.Plain) :
    s.glyphs = s.text.toList.map fun c =>
      { symbol := String.singleton c, columns := 1, style := s.style } := by
  -- every character is a cluster, and no cluster is a line break
  have hCut : Unicode.clusters s.text.toList = s.text.toList.map fun c => [c] :=
    Unicode.clusters_eq_singletons fun c hc => Unicode.isPlain_of_ascii (h c hc).1 (h c hc).2
  have hKept : (s.text.toList.map fun c => [c]).filter (· != ['\n']) =
      s.text.toList.map fun c => [c] := by
    refine List.filter_eq_self.2 fun cluster hCluster => ?_
    obtain ⟨c, hc, rfl⟩ := List.mem_map.1 hCluster
    rw [bne_iff_ne]
    intro hBreak
    rw [List.singleton_inj.1 hBreak] at hc
    exact absurd (h '\n' hc).1 (by decide)
  rw [glyphs, hCut, hKept, List.map_map]
  refine List.map_congr_left fun c hc => ?_
  rw [Function.comp_apply, Unicode.columns_of_ascii (h c hc).1 (h c hc).2,
    String.singleton_eq_ofList]

end Segment

namespace Row

/-- Glyphs of one column each are set one behind the other. -/
theorem set_of_narrow (ground : Style) {glyphs : List Glyph} (h : ∀ g ∈ glyphs, g.columns = 1)
    (width : Nat) :
    set ground width glyphs =
      (glyphs.map fun g => ⟨g.symbol, ground.under g.style⟩).take width ++
        spaces ground (width - glyphs.length) := by
  induction glyphs generalizing width with
  | nil => rw [set, List.map_nil, List.take_nil, List.nil_append]; rfl
  | cons g rest ih =>
    have hFirst := h g List.mem_cons_self
    have hRest := ih fun d hd => h d (List.mem_cons_of_mem g hd)
    rw [set, hFirst, if_neg Nat.one_ne_zero]
    cases width with
    | zero =>
      rw [if_neg (Nat.not_succ_le_zero 0), List.take_zero, List.nil_append, Nat.zero_sub]
    | succ n =>
      rw [if_pos (Nat.le_add_left 1 n), Nat.add_sub_cancel, hRest, List.map_cons,
        List.take_succ_cons, List.length_cons, Nat.add_sub_add_right]
      rfl

/-- A line of printable characters fills its row from the left and is cut at the right. -/
theorem setLine_of_plain {line : List Segment} (h : ∀ s ∈ line, s.Plain) (width : Nat) :
    setLine Style.plain width line =
      (line.flatMap Segment.cells).take width ++
        spaces Style.plain (width - (line.flatMap Segment.cells).length) := by
  have hGlyphs : (Segment.lineGlyphs line).map
      (fun g => (⟨g.symbol, Style.plain.under g.style⟩ : Cell)) = line.flatMap Segment.cells := by
    rw [Segment.lineGlyphs, List.map_flatMap]
    refine List.flatMap_congr fun s hs => ?_
    rw [Segment.glyphs_of_plain (h s hs), List.map_map, Segment.cells]
    refine List.map_congr_left fun c _ => ?_
    rw [Function.comp_apply, Style.plain_under]
    rfl
  have hNarrow : ∀ g ∈ Segment.lineGlyphs line, g.columns = 1 := by
    intro g hg
    obtain ⟨s, hs, hg⟩ := List.mem_flatMap.1 hg
    rw [Segment.glyphs_of_plain (h s hs)] at hg
    obtain ⟨c, -, rfl⟩ := List.mem_map.1 hg
    rfl
  rw [setLine]
  cases width with
  | zero =>
    rw [set_of_narrow _ fun g hg => hNarrow g (List.mem_of_mem_filter hg), List.take_zero,
      List.take_zero, Nat.zero_sub, Nat.zero_sub]
  | succ n =>
    -- every glyph is narrower than the row, so none is left out
    have hAll : (Segment.lineGlyphs line).filter (fun g => decide (g.columns ≤ n + 1)) =
        Segment.lineGlyphs line := by
      refine List.filter_eq_self.2 fun g hg => ?_
      rw [hNarrow g hg]
      exact decide_eq_true (Nat.le_add_left 1 n)
    rw [hAll, set_of_narrow _ hNarrow, hGlyphs, ← hGlyphs, List.length_map]

end Row

-- ---------------------------------------------------------------------------
-- Where the styles of a row come from
-- ---------------------------------------------------------------------------

section
variable {P : Style → Prop}

/-- A glyph that takes up another keeps its own style. -/
theorem Glyph.forall_mem_attach {g : Glyph} {later : List Glyph} (hFirst : P g.style)
    (hLater : ∀ d ∈ later, P d.style) : ∀ d ∈ attach g later, P d.style := by
  cases later with
  | nil => exact List.forall_mem_singleton.2 hFirst
  | cons next later =>
    have hBehind := (List.forall_mem_cons.1 hLater).2
    rw [attach]
    split
    · split
      · exact List.forall_mem_cons.2 ⟨hFirst, hBehind⟩
      · exact List.forall_mem_cons.2 ⟨hFirst, hBehind⟩
    · exact List.forall_mem_cons.2 ⟨hFirst, hLater⟩

/-- A glyph that is given up at the beginning leaves the styles behind it alone. -/
theorem Glyph.forall_mem_lead {glyphs : List Glyph} (h : ∀ g ∈ glyphs, P g.style) :
    ∀ g ∈ lead glyphs, P g.style := by
  match glyphs with
  | [] | [_] => exact h
  | first :: next :: later =>
    obtain ⟨-, hNext⟩ := List.forall_mem_cons.1 h
    obtain ⟨hNext, hLater⟩ := List.forall_mem_cons.1 hNext
    rw [lead]
    split
    · exact List.forall_mem_cons.2 ⟨hNext, hLater⟩
    · exact h

/-- What holds of the styles of glyphs holds of them when those without columns are joined to
others. -/
theorem Glyph.forall_mem_join {glyphs : List Glyph} (h : ∀ g ∈ glyphs, P g.style) :
    ∀ g ∈ join glyphs, P g.style := by
  refine forall_mem_lead ?_
  induction glyphs with
  | nil => nofun
  | cons g glyphs ih =>
    obtain ⟨hFirst, hLater⟩ := List.forall_mem_cons.1 h
    exact forall_mem_attach hFirst (ih hLater)

/-- The glyphs of a segment have its style. -/
theorem Segment.style_of_mem_glyphs {s : Segment} {g : Glyph} (h : g ∈ s.glyphs) :
    g.style = s.style := by
  obtain ⟨cluster, -, rfl⟩ := List.mem_map.1 h
  rfl

namespace Row

variable {ground : Style} {line : List Segment}

theorem forall_mem_spaces (hGround : P ground) (width : Nat) :
    ∀ cell ∈ spaces ground width, P cell.style := by
  intro cell hCell
  rw [(List.mem_replicate.1 hCell).2]
  exact hGround

variable (hPlain : P Style.plain) (hGround : P ground)
include hPlain hGround

/-- What holds of the styles that go into a row holds of its cells. -/
theorem forall_mem_set {glyphs : List Glyph} (h : ∀ g ∈ glyphs, P (ground.under g.style))
    (width : Nat) : ∀ cell ∈ set ground width glyphs, P cell.style := by
  induction glyphs generalizing width with
  | nil => exact forall_mem_spaces hGround width
  | cons g rest ih =>
    rw [List.forall_mem_cons] at h
    rw [set]
    split
    · exact ih h.2 width
    split
    · intro cell hCell
      rcases List.mem_cons.1 hCell with rfl | hCell
      · exact h.1
      rcases List.mem_append.1 hCell with hHidden | hLater
      · cases hCount : g.columns - 1 with
        | zero =>
          rw [hCount] at hHidden
          cases hHidden
        | succ count =>
          rw [hCount] at hHidden
          rcases List.mem_cons.1 hHidden with rfl | hSpace
          · exact hPlain
          · exact forall_mem_spaces hGround count cell hSpace
      · exact ih h.2 _ cell hLater
    · exact forall_mem_spaces hGround width

/-- What holds of the styles of a line holds of the cells that it is set into. -/
theorem forall_mem_setLine (h : ∀ s ∈ line, P (ground.under s.style)) (width : Nat) :
    ∀ cell ∈ setLine ground width line, P cell.style := by
  refine forall_mem_set hPlain hGround (fun g hg => ?_) width
  obtain ⟨s, hs, hGlyph⟩ := List.mem_flatMap.1 (List.mem_of_mem_filter hg)
  rw [Segment.style_of_mem_glyphs hGlyph]
  exact h s hs

/-- And so it does where the line is pushed to the right. -/
theorem forall_mem_setLineRight (h : ∀ s ∈ line, P (ground.under s.style)) (width : Nat) :
    ∀ cell ∈ setLineRight ground width line, P cell.style := by
  intro cell hCell
  rcases List.mem_append.1 hCell with hSpace | hSet
  · exact forall_mem_spaces hGround _ cell hSpace
  · exact forall_mem_setLine hPlain hGround h _ cell hSet

/-- And so it does for an entry of a list, whose glyphs may be joined. -/
theorem forall_mem_setEntry (h : ∀ s ∈ line, P (ground.under s.style)) (width : Nat) :
    ∀ cell ∈ setEntry ground width line, P cell.style := by
  refine forall_mem_set hPlain hGround (fun g hg => ?_) width
  obtain ⟨s, hs, hJoined⟩ := List.mem_flatMap.1 hg
  refine Glyph.forall_mem_join (P := fun style => P (ground.under style)) ?_ g hJoined
  intro d hd
  rw [Segment.style_of_mem_glyphs hd]
  exact h s hs

end Row

end

-- ---------------------------------------------------------------------------
-- Boxes and panes
-- ---------------------------------------------------------------------------

namespace Frame

/-- The cell of a frame at a row and a column, both counted from zero. -/
def cell? (f : Frame) (row column : Nat) : Option Cell := f[row]?.bind fun r => r[column]?

/-- A cell stands in a row of the frame, at its column. -/
theorem cell?_eq_some_iff {f : Frame} {row column : Nat} {cell : Cell} :
    f.cell? row column = some cell ↔ ∃ r, f[row]? = some r ∧ r[column]? = some cell :=
  Option.bind_eq_some_iff

/-- A box is filled from above, with blank rows below. -/
theorem getElem?_fill {height width y : Nat} (hy : y < height) (rows : List Row) :
    (fill height width rows)[y]? = some (rows[y]?.getD (Row.spaces Style.plain width)) := by
  rw [fill, List.getElem?_append, List.length_take]
  by_cases hRow : y < rows.length
  · rw [if_pos (by omega), List.getElem?_take_of_lt hy, List.getElem?_eq_getElem hRow]
    rfl
  · rw [if_neg (by omega), List.getElem?_replicate, if_pos (by omega),
      List.getElem?_eq_none (Nat.le_of_not_lt hRow)]
    rfl

/-- An edge moves what it encloses by one column. -/
theorem getElem?_edged_interior {width x : Nat} (hx : x < width - 2) (style : Style)
    (left right : Char) {inside : Row} (hInside : inside.length = width - 2) :
    (edged style left right width inside)[x + 1]? = inside[x]? := by
  obtain ⟨n, rfl⟩ : ∃ n, width = n + 2 := ⟨width - 2, by omega⟩
  rw [edged, List.cons_append, List.getElem?_cons_succ, List.getElem?_append_left (by omega)]

/-- A cell of an edged row is one of the edges or lies between them. -/
theorem style_or_interior_of_edged {style : Style} {left right : Char} {width column : Nat}
    {inside : Row} (hInside : inside.length = width - 2) {cell : Cell}
    (h : (edged style left right width inside)[column]? = some cell) :
    cell.style = style ∨ ∃ x, column = x + 1 ∧ x < width - 2 ∧ inside[x]? = some cell := by
  -- a row of one column has only its left edge, a row of none has nothing
  match width, column with
  | 0, _ => cases h
  | 1, _ =>
    left
    rw [List.mem_singleton.1 (List.mem_of_getElem? h)]
    rfl
  | n + 2, 0 =>
    left
    cases h
    rfl
  | n + 2, x + 1 =>
    rw [edged, List.cons_append, List.getElem?_cons_succ] at h
    by_cases hx : x < n
    · rw [List.getElem?_append_left (by omega)] at h
      exact .inr ⟨x, rfl, hx, h⟩
    · left
      rw [List.getElem?_append_right (by omega)] at h
      rw [List.mem_singleton.1 (List.mem_of_getElem? h)]
      rfl

/-- Where all that is enclosed has the style of the edges, the whole row has it. -/
theorem style_of_mem_edged {style : Style} {left right : Char} {width : Nat} {inside : Row}
    (hInside : ∀ cell ∈ inside, cell.style = style) :
    ∀ cell ∈ edged style left right width inside, cell.style = style := by
  match width with
  | 0 => nofun
  | 1 => simp [edged, Cell.ofChar]
  | n + 2 =>
    intro cell hCell
    simp only [edged, List.cons_append, List.mem_cons, List.mem_append, List.not_mem_nil,
      or_false] at hCell
    rcases hCell with rfl | hCell | rfl
    · rfl
    · exact hInside cell hCell
    · rfl

/-- The upper edge of a box has one style. -/
theorem style_of_mem_upperEdge {style : Style} {title : String} {width : Nat} :
    ∀ cell ∈ upperEdge style title width, cell.style = style := by
  refine style_of_mem_edged fun cell hCell => ?_
  obtain ⟨c, -, rfl⟩ := List.mem_map.1 hCell
  rfl

/-- The lower edge of a box has one style. -/
theorem style_of_mem_lowerEdge {style : Style} {width : Nat} :
    ∀ cell ∈ lowerEdge style width, cell.style = style := by
  refine style_of_mem_edged fun cell hCell => ?_
  rw [(List.mem_replicate.1 hCell).2]
  rfl

section
variable {style : Style} {title : String} {width height : Nat} {inside : List Row}

/-- The rows of a box between its upper and its lower edge. -/
theorem getElem?_bordered_interior {y : Nat} (hy : y < height - 2) :
    (bordered style title width height inside)[y + 1]? =
      (fill (height - 2) (width - 2) inside)[y]?.map (edged style '│' '│' width) := by
  obtain ⟨n, rfl⟩ : ∃ n, height = n + 2 := ⟨height - 2, by omega⟩
  rw [bordered, List.cons_append, List.getElem?_cons_succ,
    List.getElem?_append_left (by rw [List.length_map, length_fill]; exact hy), List.getElem?_map]
  rfl

variable (hInside : ∀ r ∈ inside, r.length = width - 2)
include hInside

/-- A box leaves the cells that it encloses as they are. -/
theorem cell?_bordered_interior {y x : Nat} (hy : y < height - 2) (hx : x < width - 2) :
    (bordered style title width height inside).cell? (y + 1) (x + 1) =
      (fill (height - 2) (width - 2) inside).cell? y x := by
  rw [cell?, getElem?_bordered_interior hy, cell?]
  cases hRow : (fill (height - 2) (width - 2) inside)[y]? with
  | none => rfl
  | some r =>
    have hLength := length_of_mem_fill hInside (List.mem_of_getElem? hRow)
    exact getElem?_edged_interior hx style '│' '│' hLength

/-- A cell of a box belongs to its border or to what it encloses. -/
theorem style_or_interior_of_bordered {row column : Nat} {cell : Cell}
    (h : (bordered style title width height inside).cell? row column = some cell) :
    cell.style = style ∨
      ∃ y x, row = y + 1 ∧ column = x + 1 ∧ y < height - 2 ∧ x < width - 2 ∧
        (fill (height - 2) (width - 2) inside).cell? y x = some cell := by
  obtain ⟨r, hRow, hCell⟩ := cell?_eq_some_iff.1 h
  -- likewise a box of one row has only its upper edge
  match height, row with
  | 0, _ => cases hRow
  | 1, _ =>
    left
    rw [List.mem_singleton.1 (List.mem_of_getElem? hRow)] at hCell
    exact style_of_mem_upperEdge cell (List.mem_of_getElem? hCell)
  | n + 2, 0 =>
    left
    cases hRow
    exact style_of_mem_upperEdge cell (List.mem_of_getElem? hCell)
  | n + 2, y + 1 =>
    by_cases hy : y < n
    · -- between the edges
      rw [getElem?_bordered_interior hy, Option.map_eq_some_iff] at hRow
      obtain ⟨inner, hInner, rfl⟩ := hRow
      have hLength := length_of_mem_fill hInside (List.mem_of_getElem? hInner)
      refine (style_or_interior_of_edged hLength hCell).imp_right ?_
      rintro ⟨x, rfl, hx, hCell⟩
      exact ⟨y, x, rfl, rfl, hy, hx, cell?_eq_some_iff.2 ⟨inner, hInner, hCell⟩⟩
    · left
      rw [bordered, List.cons_append, List.getElem?_cons_succ,
        List.getElem?_append_right (by rw [List.length_map, length_fill]; omega)] at hRow
      rw [List.mem_singleton.1 (List.mem_of_getElem? hRow)] at hCell
      exact style_of_mem_lowerEdge cell (List.mem_of_getElem? hCell)

/-- What holds of the border and of the rows in a box holds of all its cells. -/
theorem forall_cell?_bordered {P : Style → Prop} (hBorder : P style) (hPlain : P Style.plain)
    (hCells : ∀ r ∈ inside, ∀ cell ∈ r, P cell.style) {row column : Nat} {cell : Cell}
    (h : (bordered style title width height inside).cell? row column = some cell) :
    P cell.style := by
  rcases style_or_interior_of_bordered hInside h with hEdge | ⟨y, x, -, -, hy, -, hCell⟩
  · rw [hEdge]
    exact hBorder
  · rw [cell?, getElem?_fill hy, Option.bind_some] at hCell
    have hMem := List.mem_of_getElem? hCell
    cases hRow : inside[y]? with
    | none =>
      rw [hRow] at hMem
      exact Row.forall_mem_spaces hPlain _ cell hMem
    | some r =>
      rw [hRow] at hMem
      exact hCells r (List.mem_of_getElem? hRow) cell hMem

end

/-- Of two frames below each other the lower one begins where the upper one ends. -/
theorem cell?_append (upper lower : Frame) (row column : Nat) :
    cell? (upper ++ lower) row column =
      if row < upper.length then upper.cell? row column
      else lower.cell? (row - upper.length) column := by
  unfold cell?
  rw [List.getElem?_append]
  split <;> rfl

/-- Of two panes beside each other the right one begins where the left one ends. -/
theorem cell?_beside {left right : Frame} {width : Nat} (hHeight : left.length = right.length)
    (hWidth : ∀ r ∈ left, r.length = width) (row column : Nat) :
    (beside left right).cell? row column =
      if column < width then left.cell? row column else right.cell? row (column - width) := by
  unfold cell? beside
  rw [List.getElem?_zipWith]
  -- both panes have that row, or neither has
  by_cases hRow : row < left.length
  · have hLeft := List.getElem?_eq_getElem hRow
    have hRight := List.getElem?_eq_getElem (hHeight ▸ hRow)
    have hEnds := hWidth _ (List.mem_of_getElem? hLeft)
    rw [hLeft, hRight]
    show (left[row] ++ right[row])[column]? = _
    rw [List.getElem?_append, hEnds]
    rfl
  · rw [List.getElem?_eq_none (Nat.le_of_not_lt hRow),
      List.getElem?_eq_none (hHeight ▸ Nat.le_of_not_lt hRow)]
    show none = _
    rw [Option.bind_none, Option.bind_none, ite_self]

end Frame

end CTokens
