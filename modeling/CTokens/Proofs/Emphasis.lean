import CTokens.Proofs.Cells
import CTokens.Proofs.Views
import Mathlib.Data.Nat.Digits.Lemmas

/-!
# CTokens — the selected token on the screen

One colour is kept for the ground of the selected token. The other styles of the explorer do not
have it, and laying styles over one another does not bring it about, so whether a cell has this
ground tells whether the cell belongs to the selected token.

The account follows the drawing from the inside to the outside. The runs of a line, put together
again, are the characters of the line with their owners, and those of the selected token are
emphasised (`forall₂_marks_of_highlight`). To ground the current line leaves it so, since only what
has no ground yet is grounded. The number of the line pushes its content to the right, the row is
cut at its width, and the border moves it by one row and one column. The token list and the status
bar emphasise nothing.

All of this is said of a source of ASCII, where a character takes one cell.

Main results:

* `SourcePane.exists_isEmphasised_setLine_iff` — the emphasised cells of one row of the source;
* `SourcePane.exists_isEmphasised_iff` — those of the source pane;
* `Explorer.exists_isEmphasised_iff` — a frame has no others;
* `Explorer.session_emphasis` — after any session they are the characters of the selected token.
-/

namespace CTokens

/-- A number is written with as many characters as it has decimal digits. -/
theorem length_toString_eq_length_digits {n : Nat} (h : 0 < n) :
    (toString n).length = (Nat.digits 10 n).length := by
  have hPos : 0 < (Nat.digits 10 n).length :=
    List.length_pos_iff.2 (Nat.digits_ne_nil_iff_ne_zero.2 (Nat.ne_of_gt h))
  have hText : (toString n).length = (Nat.toDigits 10 n).length := by
    rw [Nat.toString_eq_ofList_toDigits, String.length_ofList]
  have hTen : 1 < 10 := by decide
  rw [hText]
  -- both count the powers of ten up to the number, so each bounds the other
  refine Nat.le_antisymm ?_ ?_
  · exact (Nat.length_toDigits_le_iff hTen hPos).2 ((Nat.digits_length_le_iff hTen n).1 le_rfl)
  · exact (Nat.digits_length_le_iff hTen n).2
      ((Nat.length_toDigits_le_iff hTen Nat.length_toDigits_pos).1 le_rfl)

/-- Where two lists are related item by item, every item of the second is related to the item of
the first with the same index. -/
theorem exists_getElem?_of_forall₂ {α β : Type} {R : α → β → Prop} {as : List α} {bs : List β}
    (h : List.Forall₂ R as bs) {i : Nat} {b : β} (hb : bs[i]? = some b) :
    ∃ a, as[i]? = some a ∧ R a b := by
  obtain ⟨hi, rfl⟩ := List.getElem?_eq_some_iff.1 hb
  have hi' : i < as.length := h.length_eq ▸ hi
  exact ⟨as[i], List.getElem?_eq_getElem hi', h.get hi' hi⟩

-- ---------------------------------------------------------------------------
-- Which styles are emphasised
-- ---------------------------------------------------------------------------

/-- A style with the ground of the selected token. -/
def Style.IsEmphasised (s : Style) : Prop := s.bg = some Palette.selection

instance (s : Style) : Decidable s.IsEmphasised := inferInstanceAs (Decidable (_ = _))

/-- What has no ground of its own is not emphasised. -/
theorem Style.not_isEmphasised_of_bg_none {s : Style} (h : s.bg = none) : ¬ s.IsEmphasised := by
  rw [IsEmphasised, h]
  nofun

/-- Laying one style over another emphasises nothing that neither of them does. -/
theorem Style.not_isEmphasised_under {lower upper : Style} (hLower : ¬ lower.IsEmphasised)
    (hUpper : ¬ upper.IsEmphasised) : ¬ (lower.under upper).IsEmphasised := by
  unfold IsEmphasised under at *
  cases hBg : upper.bg with
  | none => simpa [hBg] using hLower
  | some color => simpa [hBg] using hUpper

/-- No kind of token has the ground of the selected one. -/
theorem Palette.not_isEmphasised_ofKind (k : TokenKind) : ¬ (ofKind k).IsEmphasised := by
  cases k <;> decide

theorem Palette.not_isEmphasised_border (focused : Bool) : ¬ (border focused).IsEmphasised := by
  cases focused <;> decide

/-- The characters of the selected token are emphasised, and no others. -/
theorem OwnerMap.isEmphasised_of_styleOf {owner : Option Nat} {tokens : List Token}
    {selected : Nat} {style : Style} (h : styleOf owner tokens selected = .ok style) :
    style.IsEmphasised ↔ owner = some selected := by
  cases owner with
  | none =>
    cases h
    exact ⟨fun hGap => absurd hGap (by decide), nofun⟩
  | some i =>
    obtain ⟨t, -, rfl⟩ := styleOf_some_eq_ok_iff.1 h
    by_cases hi : i = selected
    · rw [if_pos hi, hi]
      exact ⟨fun _ => rfl, fun _ => rfl⟩
    · rw [if_neg hi, Option.some.injEq]
      exact iff_of_false (Palette.not_isEmphasised_ofKind t.kind) hi

-- ---------------------------------------------------------------------------
-- Lines of the source
-- ---------------------------------------------------------------------------

/-- A character of ASCII is shown as a printable one. -/
theorem OwnerMap.visible_of_ascii {c : Char} (h : c.toNat < 0x80) :
    0x20 ≤ (visible c).toNat ∧ (visible c).toNat ≤ 0x7E := by
  unfold visible
  split
  · decide
  · next hShown =>
    simp only [Unicode.isControl, Bool.or_eq_true, Bool.and_eq_true, decide_eq_true_eq] at hShown
    omega

namespace SourcePane

/-- The number of columns in front of a line of the source. -/
def numberWidth (line : Nat) : Nat := max 5 ((Nat.digits 10 (line + 1)).length + 1)

/-- The number of a line is pushed to the right over four columns, and a space follows it. -/
theorem toList_lineNumber (number : Nat) (isCurrent : Bool) :
    (lineNumber number isCurrent).text.toList =
      List.replicate (4 - (toString number).length) ' ' ++ (toString number).toList ++ [' '] := by
  simp [lineNumber, Text.alignRight]

/-- The number of a line is written in printable characters of ASCII. -/
theorem plain_lineNumber (number : Nat) (isCurrent : Bool) :
    (lineNumber number isCurrent).Plain := by
  intro c hc
  rw [toList_lineNumber, List.mem_append, List.mem_append] at hc
  rcases hc with (hSpace | hDigit) | hSpace
  · rw [(List.mem_replicate.1 hSpace).2]
    decide
  · rw [Nat.toString_eq_ofList_toDigits, String.toList_ofList] at hDigit
    have hRange : 48 ≤ c.toNat ∧ c.toNat ≤ 57 :=
      Char.isDigit_iff_toNat.1 (Nat.isDigit_of_mem_toDigits (by decide) (by decide) hDigit)
    omega
  · rw [List.mem_singleton.1 hSpace]
    decide

/-- The number of a line takes the columns in front of the line, and no more. -/
theorem length_cells_lineNumber (line : Nat) (isCurrent : Bool) :
    (lineNumber (line + 1) isCurrent).cells.length = numberWidth line := by
  have hDigits := length_toString_eq_length_digits (n := line + 1) (Nat.succ_pos line)
  rw [Segment.cells, List.length_map, toList_lineNumber, List.length_append, List.length_append,
    List.length_replicate, String.length_toList, hDigits, List.length_singleton, numberWidth]
  omega

/-- Line numbers are not emphasised, not even that of the current line. -/
theorem not_isEmphasised_lineNumber (number : Nat) (isCurrent : Bool) :
    ¬ (lineNumber number isCurrent).style.IsEmphasised := by
  intro h
  cases isCurrent <;> cases h

/-- To ground a segment as part of the current line does not change whether it is emphasised. -/
theorem isEmphasised_groundCurrent (s : Segment) :
    (groundCurrent s).style.IsEmphasised ↔ s.style.IsEmphasised := by
  unfold groundCurrent
  split
  · next hNone =>
    rw [Option.isNone_iff_eq_none] at hNone
    exact iff_of_false (show some Palette.highlight ≠ some Palette.selection by decide)
      (Style.not_isEmphasised_of_bg_none hNone)
  · exact Iff.rfl

theorem text_groundCurrent (s : Segment) : (groundCurrent s).text = s.text := by
  unfold groundCurrent
  split <;> rfl

end SourcePane

namespace OwnerMap

/-- What a line of the source shows of a character: whether its owner is the selected token. -/
def Marks (selected : Nat) (item : Char × Option Nat) (cell : Cell) : Prop :=
  cell.style.IsEmphasised ↔ item.2 = some selected

/-- A line in the colours of its owners marks every character of the selected token. It still does
so in other styles that emphasise the same segments. -/
theorem forall₂_marks_of_highlight {m : OwnerMap} {line : Nat} {tokens : List Token}
    {selected : Nat} {segments : List Segment} {items : List (Char × Option Nat)}
    (h : m.highlight line tokens selected = .ok segments) (hLine : m.lines[line]? = some items)
    {restyle : Segment → Segment} (hText : ∀ s, (restyle s).text = s.text)
    (hStyle : ∀ s, (restyle s).style.IsEmphasised ↔ s.style.IsEmphasised) :
    List.Forall₂ (Marks selected) items ((segments.map restyle).flatMap Segment.cells) := by
  rw [highlight, hLine] at h
  -- the segments come from the runs, one from each, so the cells of a run are told by its owner
  rw [← Text.flatMap_runs items, List.flatMap_map]
  refine List.rel_flatMap (mapM_eq_ok_iff.1 h) ?_
  rintro ⟨owner, chars⟩ s hSegment
  obtain ⟨style, hOwner, hEnd⟩ := bind_eq_ok_iff.1 hSegment
  cases hEnd
  show List.Forall₂ (Marks selected) (chars.map fun c => (c, owner))
    ((restyle _).text.toList.map fun c => Cell.ofChar c (restyle _).style)
  rw [hText, String.toList_ofList, List.map_map, List.forall₂_map_left_iff,
    List.forall₂_map_right_iff, List.forall₂_same]
  intro c _
  exact (hStyle _).trans (isEmphasised_of_styleOf hOwner)

/-- The segments of a line of ASCII are printable. -/
theorem plain_of_highlight {m : OwnerMap} (hAscii : ∀ c ∈ m.chars, c.toNat < 0x80) {line : Nat}
    {tokens : List Token} {selected : Nat} {segments : List Segment}
    (h : m.highlight line tokens selected = .ok segments) : ∀ s ∈ segments, s.Plain := by
  intro s hs c hc
  unfold highlight at h
  split at h
  · cases h
  · next items hLine =>
    obtain ⟨i, hi⟩ := List.getElem?_of_mem hs
    obtain ⟨run, hRun, hSegment⟩ := exists_getElem?_of_forall₂ (mapM_eq_ok_iff.1 h) hi
    obtain ⟨style, -, hEnd⟩ := bind_eq_ok_iff.1 hSegment
    cases hEnd
    rw [String.toList_ofList] at hc
    obtain ⟨d, hd, rfl⟩ := List.mem_map.1 hc
    refine visible_of_ascii (hAscii d ?_)
    -- a character of a run is a character of the line, and so of the source
    have hItem : (d, run.1) ∈ items := by
      rw [← Text.flatMap_runs items]
      exact List.mem_flatMap.2
        ⟨run, List.mem_of_getElem? hRun, List.mem_map.2 ⟨d, hd, rfl⟩⟩
    exact (List.of_mem_zip (Text.mem_of_mem_split (List.mem_of_getElem? hLine) hItem)).1

end OwnerMap

namespace SourcePane

/-- A row of the pane is the line number, with the content of the line behind it. -/
theorem exists_content_of_numberedLine {owners : OwnerMap}
    (hAscii : ∀ c ∈ owners.chars, c.toNat < 0x80) {tokens : List Token} {selected line : Nat}
    {segments : List Segment} {items : List (Char × Option Nat)}
    (h : numberedLine owners tokens selected line = .ok segments)
    (hLine : owners.lines[line]? = some items) :
    (∀ s ∈ segments, s.Plain) ∧
      ∃ number content : Row, segments.flatMap Segment.cells = number ++ content ∧
        number.length = numberWidth line ∧ (∀ cell ∈ number, ¬ cell.style.IsEmphasised) ∧
        List.Forall₂ (OwnerMap.Marks selected) items content := by
  obtain ⟨content, hContent, hEnd⟩ := bind_eq_ok_iff.1 h
  cases hEnd
  generalize (line + 1 == currentLine tokens selected) = isCurrent
  -- the segments of the current line are grounded, the others stay; in either case texts and
  -- emphasis are what they were
  obtain ⟨restyle, hRestyle, hText, hStyle⟩ : ∃ restyle : Segment → Segment,
      (if isCurrent then content.map groundCurrent else content) = content.map restyle ∧
        (∀ s, (restyle s).text = s.text) ∧
        ∀ s, (restyle s).style.IsEmphasised ↔ s.style.IsEmphasised := by
    cases isCurrent with
    | true => exact ⟨groundCurrent, rfl, text_groundCurrent, isEmphasised_groundCurrent⟩
    | false => exact ⟨id, (List.map_id content).symm, fun _ => rfl, fun _ => Iff.rfl⟩
  rw [hRestyle]
  refine ⟨?plain, (lineNumber (line + 1) isCurrent).cells,
    (content.map restyle).flatMap Segment.cells, List.flatMap_cons,
    length_cells_lineNumber line isCurrent, ?number, ?content⟩
  case plain =>
    refine List.forall_mem_cons.2 ⟨plain_lineNumber _ _, ?_⟩
    intro s hs c hc
    obtain ⟨segment, hSegment, rfl⟩ := List.mem_map.1 hs
    rw [hText] at hc
    exact OwnerMap.plain_of_highlight hAscii hContent segment hSegment c hc
  case number =>
    intro cell hCell
    obtain ⟨c, -, rfl⟩ := List.mem_map.1 hCell
    exact not_isEmphasised_lineNumber (line + 1) isCurrent
  case content => exact OwnerMap.forall₂_marks_of_highlight hContent hLine hText hStyle

/-- The emphasised cells of a row of the pane are those of the characters that the selected token
owns, as far as the row reaches. -/
theorem exists_isEmphasised_setLine_iff {owners : OwnerMap}
    (hAscii : ∀ c ∈ owners.chars, c.toNat < 0x80) {tokens : List Token} {selected line : Nat}
    {segments : List Segment} {items : List (Char × Option Nat)}
    (h : numberedLine owners tokens selected line = .ok segments)
    (hLine : owners.lines[line]? = some items) (width x : Nat) :
    (∃ cell, (Row.setLine Style.plain width segments)[x]? = some cell ∧
        cell.style.IsEmphasised) ↔
      x < width ∧ ∃ k c, x = numberWidth line + k ∧ items[k]? = some (c, some selected) := by
  obtain ⟨hPlain, number, content, hCells, hNumber, hQuiet, hMarks⟩ :=
    exists_content_of_numberedLine hAscii h hLine
  rw [Row.setLine_of_plain hPlain, hCells]
  -- a cell of the row is cut from the line number, from the content or from the blank behind it
  constructor
  · rintro ⟨cell, hCell, hEmphasis⟩
    rw [List.getElem?_append] at hCell
    split at hCell
    · next hTaken =>
      have hx : x < width := Nat.lt_of_lt_of_le hTaken (List.length_take_le _ _)
      rw [List.getElem?_take_of_lt hx, List.getElem?_append] at hCell
      split at hCell
      · exact absurd hEmphasis (hQuiet cell (List.mem_of_getElem? hCell))
      · next hBehind =>
        obtain ⟨⟨c, owner⟩, hItem, hMark⟩ := exists_getElem?_of_forall₂ hMarks hCell
        obtain rfl : owner = some selected := hMark.1 hEmphasis
        exact ⟨hx, x - number.length, c, by omega, hItem⟩
    · -- behind the line the row is blank
      rw [(List.mem_replicate.1 (List.mem_of_getElem? hCell)).2] at hEmphasis
      exact absurd hEmphasis (by decide)
  · rintro ⟨hx, k, c, rfl, hItem⟩
    obtain ⟨cell, hCell, hMark⟩ := exists_getElem?_of_forall₂ hMarks.flip hItem
    have hk := (List.getElem?_eq_some_iff.1 hCell).1
    refine ⟨cell, ?_, hMark.2 rfl⟩
    have hInside : numberWidth line + k < ((number ++ content).take width).length := by
      rw [List.length_take, List.length_append]
      omega
    rw [List.getElem?_append_left hInside, List.getElem?_take_of_lt hx,
      List.getElem?_append_right (by omega), ← hNumber, Nat.add_sub_cancel_left]
    exact hCell

-- ---------------------------------------------------------------------------
-- The source pane
-- ---------------------------------------------------------------------------

/-- What is drawn of the source: a box around the rows of the lines that are shown. -/
theorem exists_lines_of_draw {owners : OwnerMap} {tokens : List Token} {selected : Nat}
    {focused : Bool} {scroll settled : Scroll} {width height : Nat} {frame : Frame}
    (h : draw owners tokens selected focused scroll width height = .ok (frame, settled)) :
    ∃ lines, List.Forall₂ (fun line segments =>
        numberedLine owners tokens selected line = .ok segments)
        (shownLines settled.offset (visibleHeight height) owners.lineCount) lines ∧
      frame = Frame.bordered (Palette.border focused) " Source " width height
        (lines.map (Row.setLine Style.plain (width - 2))) := by
  unfold draw at h
  obtain ⟨s, -, hRest⟩ := bind_eq_ok_iff.1 h
  obtain ⟨lines, hLines, hEnd⟩ := bind_eq_ok_iff.1 hRest
  cases hEnd
  exact ⟨lines, mapM_eq_ok_iff.1 hLines, rfl⟩

/-- The lines on show follow one another from the offset on, as many as fit and as there are. -/
theorem getElem?_shownLines {offset height total y line : Nat} :
    (shownLines offset height total)[y]? = some line ↔
      line = offset + y ∧ y < height ∧ line < total := by
  rw [shownLines, List.getElem?_eq_some_iff]
  simp only [List.length_range', List.getElem_range', Nat.one_mul, exists_prop]
  omega

/-- The emphasised cells of the pane are those of the characters that the selected token owns, on
the lines that are shown and within the border. -/
theorem exists_isEmphasised_iff {owners : OwnerMap} (hAscii : ∀ c ∈ owners.chars, c.toNat < 0x80)
    {tokens : List Token} {selected : Nat} {focused : Bool} {scroll settled : Scroll}
    {width height : Nat} {frame : Frame}
    (h : draw owners tokens selected focused scroll width height = .ok (frame, settled))
    (row column : Nat) :
    (∃ cell, frame.cell? row column = some cell ∧ cell.style.IsEmphasised) ↔
      ∃ y x, row = y + 1 ∧ column = x + 1 ∧ y < height - 2 ∧ x < width - 2 ∧
        ∃ items k c, owners.lines[settled.offset + y]? = some items ∧
          x = numberWidth (settled.offset + y) + k ∧ items[k]? = some (c, some selected) := by
  obtain ⟨lines, hLines, rfl⟩ := exists_lines_of_draw h
  have hWidth : ∀ r ∈ lines.map (Row.setLine Style.plain (width - 2)), r.length = width - 2 := by
    intro r hr
    obtain ⟨line, -, rfl⟩ := List.mem_map.1 hr
    exact Row.length_setLine _ _ _
  -- an emphasised cell is none of the border, so it lies in a row of the interior
  constructor
  · rintro ⟨cell, hCell, hEmphasis⟩
    rcases Frame.style_or_interior_of_bordered hWidth hCell with
      hBorder | ⟨y, x, rfl, rfl, hy, hx, hCell⟩
    · rw [hBorder] at hEmphasis
      exact absurd hEmphasis (Palette.not_isEmphasised_border focused)
    · refine ⟨y, x, rfl, rfl, hy, hx, ?_⟩
      rw [Frame.cell?, Frame.getElem?_fill hy, Option.bind_some, List.getElem?_map] at hCell
      cases hSegments : lines[y]? with
      | none =>
        -- below the last line the pane is blank
        rw [hSegments] at hCell
        rw [(List.mem_replicate.1 (List.mem_of_getElem? hCell)).2] at hEmphasis
        exact absurd hEmphasis (by decide)
      | some segments =>
        rw [hSegments] at hCell
        obtain ⟨line, hShown, hSet⟩ := exists_getElem?_of_forall₂ hLines hSegments
        obtain ⟨rfl, -, hTotal⟩ := getElem?_shownLines.1 hShown
        have hItems := List.getElem?_eq_getElem (l := owners.lines) hTotal
        obtain ⟨-, k, c, hColumn, hOwner⟩ :=
          (exists_isEmphasised_setLine_iff hAscii hSet hItems (width - 2) x).1
            ⟨cell, hCell, hEmphasis⟩
        exact ⟨_, k, c, hItems, hColumn, hOwner⟩
  · rintro ⟨y, x, rfl, rfl, hy, hx, items, k, c, hItems, hColumn, hOwner⟩
    have hTotal : settled.offset + y < owners.lineCount := (List.getElem?_eq_some_iff.1 hItems).1
    -- the other way round the line is shown in that row, since the row is within the border
    have hVisible : y < visibleHeight height := Nat.lt_of_lt_of_le hy (Nat.le_max_right _ _)
    have hShown : (shownLines settled.offset (visibleHeight height) owners.lineCount)[y]? =
        some (settled.offset + y) := getElem?_shownLines.2 ⟨rfl, hVisible, hTotal⟩
    obtain ⟨segments, hSegments, hSet⟩ := exists_getElem?_of_forall₂ hLines.flip hShown
    obtain ⟨cell, hCell, hEmphasis⟩ :=
      (exists_isEmphasised_setLine_iff hAscii hSet hItems (width - 2) x).2
        ⟨hx, k, c, hColumn, hOwner⟩
    refine ⟨cell, ?_, hEmphasis⟩
    rw [Frame.cell?_bordered_interior hWidth hy hx, Frame.cell?, Frame.getElem?_fill hy,
      Option.bind_some, List.getElem?_map, hSegments]
    exact hCell

end SourcePane

-- ---------------------------------------------------------------------------
-- The other parts of the screen
-- ---------------------------------------------------------------------------

namespace TokenPane

/-- The marker before the selected row is not emphasised. -/
theorem not_isEmphasised_marker (selected : Option Nat) (index : Nat) :
    ∀ s ∈ marker selected index, ¬ s.style.IsEmphasised := by
  intro s hs
  cases selected with
  | none => cases hs
  | some chosen =>
    rw [List.mem_singleton.1 hs]
    exact Style.not_isEmphasised_of_bg_none rfl

/-- A row of the list shows its kind in the colour of the kind, and the rest without a ground. -/
theorem not_isEmphasised_row (t : Token) : ∀ s ∈ row t, ¬ s.style.IsEmphasised := by
  intro s hs
  simp only [row, List.mem_cons, List.not_mem_nil, or_false] at hs
  rcases hs with rfl | rfl | rfl
  · exact Style.not_isEmphasised_of_bg_none rfl
  · exact Palette.not_isEmphasised_ofKind t.kind
  · exact Style.not_isEmphasised_of_bg_none rfl

/-- The selected row has a ground of its own, which is not that of the selected token. -/
theorem not_isEmphasised_setRow (selected : Option Nat) (width : Nat) (indexed : Token × Nat) :
    ∀ cell ∈ setRow selected width indexed, ¬ cell.style.IsEmphasised := by
  have hPlain : ¬ Style.plain.IsEmphasised := Style.not_isEmphasised_of_bg_none rfl
  have hSelected : ¬ Palette.selectedRow.IsEmphasised := by decide
  have hLine : ∀ s ∈ marker selected indexed.2 ++ row indexed.1, ¬ s.style.IsEmphasised :=
    List.forall_mem_append.2
      ⟨not_isEmphasised_marker selected indexed.2, not_isEmphasised_row indexed.1⟩
  unfold setRow
  dsimp only
  split
  · refine Row.forall_mem_setEntry (P := fun style => ¬ style.IsEmphasised) hPlain hSelected
      (fun s hs => ?_) width
    obtain ⟨segment, hSegment, rfl⟩ := List.mem_map.1 hs
    exact Style.not_isEmphasised_under hSelected
      (Style.not_isEmphasised_under (hLine segment hSegment) hSelected)
  · exact Row.forall_mem_setEntry (P := fun style => ¬ style.IsEmphasised) hPlain hPlain
      (fun s hs => Style.not_isEmphasised_under hPlain (hLine s hs)) width

theorem length_setRow (selected : Option Nat) (width : Nat) (indexed : Token × Nat) :
    (setRow selected width indexed).length = width := by
  unfold setRow
  dsimp only
  split
  · exact Row.length_setEntry _ _ _
  · exact Row.length_setEntry _ _ _

/-- What is drawn of the tokens: a box around rows of the list, or around nothing. -/
theorem exists_rows_of_draw (tokens : List Token) (focused : Bool) (list : ListState)
    (width height : Nat) :
    ∃ title rows, (draw tokens focused list width height).1 =
        Frame.bordered (Palette.border focused) title width height rows ∧
      ∀ r ∈ rows, ∃ selected indexed, r = setRow selected (width - 2) indexed := by
  unfold draw
  dsimp only
  split
  · exact ⟨_, [], rfl, nofun⟩
  · refine ⟨_, _, rfl, fun r hr => ?_⟩
    obtain ⟨indexed, -, rfl⟩ := List.mem_map.1 hr
    exact ⟨_, indexed, rfl⟩

theorem length_draw (tokens : List Token) (focused : Bool) (list : ListState)
    (width height : Nat) : (draw tokens focused list width height).1.length = height := by
  obtain ⟨title, rows, hFrame, -⟩ := exists_rows_of_draw tokens focused list width height
  rw [hFrame]
  exact Frame.length_bordered _ _ _ _ _

/-- Nothing in the token list is emphasised. -/
theorem not_isEmphasised {tokens : List Token} {focused : Bool} {list : ListState}
    {width height row column : Nat} {cell : Cell}
    (h : (draw tokens focused list width height).1.cell? row column = some cell) :
    ¬ cell.style.IsEmphasised := by
  obtain ⟨title, rows, hFrame, hRows⟩ := exists_rows_of_draw tokens focused list width height
  rw [hFrame] at h
  refine Frame.forall_cell?_bordered (P := fun style => ¬ style.IsEmphasised) ?_
    (Palette.not_isEmphasised_border focused) (Style.not_isEmphasised_of_bg_none rfl) ?_ h
  · intro r hr
    obtain ⟨selected, indexed, rfl⟩ := hRows r hr
    exact length_setRow selected (width - 2) indexed
  · intro r hr
    obtain ⟨selected, indexed, rfl⟩ := hRows r hr
    exact not_isEmphasised_setRow selected (width - 2) indexed

end TokenPane

namespace StatusBar

theorem not_isEmphasised_ground : ¬ ground.IsEmphasised := by decide

theorem not_isEmphasised_on (color : Color) (text : String) :
    ¬ (on color text).style.IsEmphasised := not_isEmphasised_ground

/-- What the status bar tells of a token has the colour of its kind on the ground of the bar. -/
theorem not_isEmphasised_about (t : Token) : ∀ s ∈ about t, ¬ s.style.IsEmphasised := by
  intro s hs
  simp only [about, List.mem_cons, List.not_mem_nil, or_false] at hs
  rcases hs with rfl | rfl
  · exact Style.not_isEmphasised_under (Palette.not_isEmphasised_ofKind t.kind)
      not_isEmphasised_ground
  · exact not_isEmphasised_on _ _

/-- The left part of the status bar has grounds of its own. -/
theorem not_isEmphasised_left {message : String} {selected : Nat} {tokens : List Token}
    {segments : List Segment} (h : left message selected tokens = .ok segments) :
    ∀ s ∈ segments, ¬ s.style.IsEmphasised := by
  obtain ⟨number, -, hEnd⟩ := bind_eq_ok_iff.1 h
  cases hEnd
  intro s hs
  simp only [List.cons_append, List.mem_cons, List.mem_append, List.not_mem_nil, or_false] at hs
  rcases hs with rfl | hSubject | rfl | rfl
  · exact fun hBadge =>
      absurd (show some Palette.blue = some Palette.selection from hBadge) (by decide)
  · split at hSubject
    · cases hSubject
    · exact not_isEmphasised_about _ s hSubject
  · exact not_isEmphasised_on _ _
  · exact not_isEmphasised_on _ _

/-- The right part of the status bar has grounds of its own as well. -/
theorem not_isEmphasised_right (keepComments : Bool) :
    ∀ s ∈ right keepComments, ¬ s.style.IsEmphasised := by
  cases keepComments <;> decide

/-- Nothing in the status bar is emphasised. -/
theorem not_isEmphasised {message : String} {selected : Nat} {tokens : List Token}
    {keepComments : Bool} {width : Nat} {bar : Row}
    (h : draw message selected tokens keepComments width = .ok bar) :
    ∀ cell ∈ bar, ¬ cell.style.IsEmphasised := by
  have hPlain : ¬ Style.plain.IsEmphasised := Style.not_isEmphasised_of_bg_none rfl
  obtain ⟨leftPart, hLeft, hEnd⟩ := bind_eq_ok_iff.1 h
  cases hEnd
  refine List.forall_mem_append.2 ⟨?left, ?right⟩
  case left =>
    refine Row.forall_mem_setLine (P := fun style => ¬ style.IsEmphasised) hPlain
      not_isEmphasised_ground (fun s hs => ?_) _
    exact Style.not_isEmphasised_under not_isEmphasised_ground (not_isEmphasised_left hLeft s hs)
  case right =>
    refine Row.forall_mem_setLineRight (P := fun style => ¬ style.IsEmphasised) hPlain
      not_isEmphasised_ground (fun s hs => ?_) _
    exact Style.not_isEmphasised_under not_isEmphasised_ground
      (not_isEmphasised_right keepComments s hs)

end StatusBar

-- ---------------------------------------------------------------------------
-- The screen
-- ---------------------------------------------------------------------------

/-- The source pane fills the area that it is given. -/
theorem SourcePane.length_draw {owners : OwnerMap} {tokens : List Token} {selected : Nat}
    {focused : Bool} {scroll settled : Scroll} {width height : Nat} {frame : Frame}
    (h : draw owners tokens selected focused scroll width height = .ok (frame, settled)) :
    frame.length = height ∧ ∀ r ∈ frame, r.length = width := by
  obtain ⟨lines, -, rfl⟩ := exists_lines_of_draw h
  refine ⟨Frame.length_bordered _ _ _ _ _, fun r hr => Frame.length_of_mem_bordered ?_ hr⟩
  intro inner hInner
  obtain ⟨line, -, rfl⟩ := List.mem_map.1 hInner
  exact Row.length_setLine _ _ _

namespace Explorer

variable {e next : Explorer}

/-- A frame is made of the two panes and the status bar. -/
theorem exists_panes_of_draw {width height : Nat} {frame : Frame}
    (h : e.draw width height = .ok (frame, next)) :
    ∃ sourcePane bar,
      SourcePane.draw e.owners e.tokens e.selected (e.focus == .source) e.scroll
        (sourceWidth width) (height - 1) = .ok (sourcePane, next.scroll) ∧
      StatusBar.draw e.status e.selected e.tokens e.keepComments width = .ok bar ∧
      frame = Frame.beside sourcePane (TokenPane.draw e.tokens (e.focus == .tokens) e.list
        (width - sourceWidth width) (height - 1)).1 ++ if height = 0 then [] else [bar] := by
  obtain ⟨sourcePane, scroll, bar, hSource, hBar, hFrame, rfl⟩ := draw_eq_ok_iff.1 h
  exact ⟨sourcePane, bar, hSource, hBar, hFrame⟩

/-- The emphasised cells of a frame are those of the source pane. -/
theorem exists_isEmphasised_iff {width height : Nat} {frame : Frame}
    (h : e.draw width height = .ok (frame, next)) :
    ∃ sourcePane,
      SourcePane.draw e.owners e.tokens e.selected (e.focus == .source) e.scroll
        (sourceWidth width) (height - 1) = .ok (sourcePane, next.scroll) ∧
      ∀ row column, (∃ cell, frame.cell? row column = some cell ∧ cell.style.IsEmphasised) ↔
        ∃ cell, sourcePane.cell? row column = some cell ∧ cell.style.IsEmphasised := by
  obtain ⟨sourcePane, bar, hSource, hBar, rfl⟩ := exists_panes_of_draw h
  refine ⟨sourcePane, hSource, fun row column => exists_congr fun cell => ?_⟩
  obtain ⟨hLength, hWidth⟩ := SourcePane.length_draw hSource
  have hTokens := TokenPane.length_draw e.tokens (e.focus == .tokens) e.list
    (width - sourceWidth width) (height - 1)
  have hPanes : (Frame.beside sourcePane (TokenPane.draw e.tokens (e.focus == .tokens) e.list
      (width - sourceWidth width) (height - 1)).1).length = height - 1 := by
    rw [Frame.beside, List.length_zipWith, hLength, hTokens, Nat.min_self]
  rw [Frame.cell?_append, hPanes, Frame.cell?_beside (hLength.trans hTokens.symm) hWidth]
  by_cases hRow : row < height - 1
  · rw [if_pos hRow]
    by_cases hColumn : column < sourceWidth width
    · rw [if_pos hColumn]
    · -- to the right of the source pane is the token list
      rw [if_neg hColumn]
      refine iff_of_false (fun hCell => TokenPane.not_isEmphasised hCell.1 hCell.2) ?_
      rintro ⟨hCell, -⟩
      obtain ⟨r, hr, hCell⟩ := Frame.cell?_eq_some_iff.1 hCell
      have hInside := (List.getElem?_eq_some_iff.1 hCell).1
      rw [hWidth r (List.mem_of_getElem? hr)] at hInside
      exact hColumn hInside
  · -- below the panes is the status bar
    rw [if_neg hRow]
    refine iff_of_false ?_ ?_
    · rintro ⟨hCell, hEmphasis⟩
      obtain ⟨r, hr, hCell⟩ := Frame.cell?_eq_some_iff.1 hCell
      split at hr
      · cases hr
      · rw [List.mem_singleton.1 (List.mem_of_getElem? hr)] at hCell
        exact StatusBar.not_isEmphasised hBar cell (List.mem_of_getElem? hCell) hEmphasis
    · rintro ⟨hCell, -⟩
      obtain ⟨r, hr, -⟩ := Frame.cell?_eq_some_iff.1 hCell
      have hInside := (List.getElem?_eq_some_iff.1 hr).1
      rw [hLength] at hInside
      exact hRow hInside

end Explorer

-- ---------------------------------------------------------------------------
-- Where the characters of a source stand
-- ---------------------------------------------------------------------------

/-- The lines of a text, without their line breaks. -/
abbrev Text.lines (cs : List Char) : List (List Char) := split (· == '\n') cs

/-- A character of a line belongs to the last token over its offset. -/
theorem OwnerMap.owner_eq_painter? {source : String} {tokens : List Token} {m : OwnerMap}
    (h : ofTokens source tokens = .ok m) {line k : Nat} {items : List (Char × Option Nat)}
    (hLine : m.lines[line]? = some items) {c : Char} {owner : Option Nat}
    (hItem : items[k]? = some (c, owner)) : owner = painter? tokens (m.lineStart line + k) := by
  -- a line is what the source goes on with from where the line begins
  have hPart : m.lines[line]? = _ := Text.getElem?_split (List.getElem?_eq_some_iff.1 hLine).1
  rw [hLine, Option.some.injEq] at hPart
  obtain ⟨rest, hRest⟩ : items <+: (m.chars.zip m.owners).drop (m.lineStart line) :=
    hPart ▸ List.takeWhile_prefix _
  have hZip : (m.chars.zip m.owners)[m.lineStart line + k]? = some (c, owner) := by
    rw [← List.getElem?_drop, ← hRest,
      List.getElem?_append_left (List.getElem?_eq_some_iff.1 hItem).1, hItem]
  have hOwner := (List.getElem?_zip_eq_some.1 hZip).2
  obtain ⟨-, rfl⟩ := ofTokens_eq_ok_iff.1 h
  rw [List.getElem?_map, Option.map_eq_some_iff] at hOwner
  obtain ⟨offset, hOffset, hPainter⟩ := hOwner
  -- the owners are painted offset by offset
  obtain ⟨hInside, rfl⟩ := List.getElem?_eq_some_iff.1 hOffset
  rw [List.getElem_range] at hPainter
  exact hPainter.symm

/-- The characters on the lines of an owner map that a token owns are those on the lines of the
source that it paints. -/
theorem OwnerMap.exists_item_iff {source : String} {tokens : List Token} {m : OwnerMap}
    (h : ofTokens source tokens = .ok m) {line k i : Nat} :
    (∃ items c, m.lines[line]? = some items ∧ items[k]? = some (c, some i)) ↔
      ∃ cs, (Text.lines source.toList)[line]? = some cs ∧ k < cs.length ∧
        painter? tokens (Text.startOf (Text.lines source.toList) line + k) = some i := by
  rw [← lineStart_of_ofTokens h, Text.lines, ← map_lines h, List.getElem?_map]
  constructor
  · rintro ⟨items, c, hItems, hItem⟩
    refine ⟨items.map Prod.fst, by rw [hItems]; rfl, ?_, (owner_eq_painter? h hItems hItem).symm⟩
    rw [List.length_map]
    exact (List.getElem?_eq_some_iff.1 hItem).1
  · rintro ⟨cs, hLine, hk, hPainter⟩
    obtain ⟨items, hItems, rfl⟩ := Option.map_eq_some_iff.1 hLine
    rw [List.length_map] at hk
    obtain ⟨⟨c, owner⟩, hItem⟩ : ∃ item, items[k]? = some item :=
      ⟨_, List.getElem?_eq_getElem hk⟩
    refine ⟨items, c, hItems, ?_⟩
    rw [hItem, owner_eq_painter? h hItems hItem, hPainter]

namespace Explorer

variable {e : Explorer}

/-- In a consistent state the selected token owns the characters that it covers, and no others. -/
theorem Consistent.exists_item_iff (h : e.Consistent) {line k : Nat} :
    (∃ items c, e.owners.lines[line]? = some items ∧ items[k]? = some (c, some e.selected)) ↔
      ∃ cs t, (Text.lines e.source.toList)[line]? = some cs ∧ k < cs.length ∧
        e.tokens[e.selected]? = some t ∧
        t.span.contains (Text.startOf (Text.lines e.source.toList) line + k) = true := by
  have hPairwise := pairwise_tokensBehind e.keepComments e.source.toList
  rw [← scan_eq_tokensBehind, ← h.tokens] at hPairwise
  rw [OwnerMap.exists_item_iff h.owners]
  refine exists_congr fun cs => ?_
  rw [OwnerMap.painter?_eq_some_iff_of_pairwise hPairwise]
  simp only [exists_and_left]

/-- **The emphasised cells are those of the selected token.** Whatever is pressed, selected, scanned
and drawn on a source of ASCII, a cell of the next frame has the ground of the selected token just
where the source pane shows a character of that token: within the border of the pane, behind the
number of the line, on a line that is scrolled into view. -/
theorem session_emphasis (source : String) (keep : Bool) (actions : List Action)
    (hAscii : ∀ c ∈ source.toList, c.toNat < 0x80) (hUse : ∀ a ∈ actions, a.isWrite = false)
    (width height : Nat) :
    (∀ e frame next, session source keep actions = .ok e →
      e.draw width height = .ok (frame, next) → ∀ row column,
      (∃ cell, frame.cell? row column = some cell ∧ cell.style.bg = some Palette.selection) ↔
        ∃ y x, row = y + 1 ∧ column = x + 1 ∧
          y < height - 1 - 2 ∧ x < sourceWidth width - 2 ∧
          ∃ line k cs t, line = next.scroll.offset + y ∧
            x = max 5 ((Nat.digits 10 (line + 1)).length + 1) + k ∧
            (Text.lines source.toList)[line]? = some cs ∧ k < cs.length ∧
            next.tokens[next.selected]? = some t ∧
            t.span.contains (Text.startOf (Text.lines source.toList) line + k) = true) ∧
      (source.length < 2 ^ 63 → (∀ a ∈ actions, a.Admissible) → height < 2 ^ 16 →
        ∃ e frame next, session source keep actions = .ok e ∧
          e.draw width height = .ok (frame, next)) := by
  refine ⟨?emphasis, ?drawn⟩
  case emphasis =>
    intro e frame next hSession hDraw row column
    obtain ⟨hConsistent, rfl⟩ := session_consistent_of_leavesTokens
      (fun a ha => Action.leavesTokens_of_not_isWrite (hUse a ha)) hSession
    obtain ⟨sourcePane, hSource, hScreen⟩ := exists_isEmphasised_iff hDraw
    obtain ⟨scroll, -, rfl⟩ := eq_of_draw hDraw
    -- without writes the state is consistent, so the map holds the source and its characters are of
    -- ASCII
    have hChars : ∀ c ∈ e.owners.chars, c.toNat < 0x80 := by
      rw [(OwnerMap.ofTokens_eq_ok_iff.1 hConsistent.owners).2]
      exact hAscii
    refine (hScreen row column).trans
      ((SourcePane.exists_isEmphasised_iff hChars hSource row column).trans ?_)
    refine exists_congr fun y => exists_congr fun x => and_congr_right fun _ =>
      and_congr_right fun _ => and_congr_right fun _ => and_congr_right fun _ => ?_
    -- row and column are the same on both sides; it remains to name the owner by its span
    constructor
    · rintro ⟨items, k, c, hItems, hColumn, hItem⟩
      obtain ⟨cs, t, hShown⟩ := hConsistent.exists_item_iff.1 ⟨items, c, hItems, hItem⟩
      exact ⟨_, k, cs, t, rfl, hColumn, hShown⟩
    · rintro ⟨line, k, cs, t, rfl, hColumn, hShown⟩
      obtain ⟨items, c, hItems, hItem⟩ := hConsistent.exists_item_iff.2 ⟨cs, t, hShown⟩
      exact ⟨items, k, c, hItems, hColumn, hItem⟩
  case drawn =>
    intro hSource hActions hHeight
    obtain ⟨e, hSession, hInStep⟩ := exists_session hSource hActions keep
    obtain ⟨⟨frame, next⟩, hDraw⟩ := hInStep.exists_draw width hHeight
    exact ⟨e, frame, next, hSession, hDraw⟩

/-- A comment over two lines is selected. Its last character stands in the second row of the source,
behind the number of the line. -/
theorem session_emphasis_of_comment :
    ∃ e frame next, session "a /* b\n c */ d" true [.press .down] = .ok e ∧
      e.draw 40 10 = .ok (frame, next) ∧
      ∃ cell, frame.cell? 2 10 = some cell ∧ cell.style.bg = some Palette.selection := by
  obtain ⟨hEmphasis, hDrawn⟩ := session_emphasis "a /* b\n c */ d" true [.press .down]
    (by simp) (by decide) 40 10
  obtain ⟨e, frame, next, hSession, hDraw⟩ := hDrawn (by decide) (by simp [Action.Admissible])
    (by decide)
  have hShown : ((session "a /* b\n c */ d" true [.press .down]).toOption.bind fun reached =>
      (reached.draw 40 10).toOption.map fun drawn =>
        (drawn.2.scroll.offset, drawn.2.tokens[drawn.2.selected]?.map Token.span)) =
      some (0, some ⟨2, 12⟩) := by decide +kernel
  rw [hSession, Except.toOption, Option.bind_some, hDraw, Except.toOption, Option.map_some,
    Option.some.injEq, Prod.mk.injEq, Option.map_eq_some_iff] at hShown
  obtain ⟨hOffset, t, hToken, hSpan⟩ := hShown
  refine ⟨e, frame, next, hSession, hDraw, (hEmphasis e frame next hSession hDraw 2 10).2 ?_⟩
  refine ⟨1, 9, rfl, rfl, by decide, by decide, 1, 4, " c */ d".toList, t, ?line, ?column, ?text,
    by decide, hToken, ?covered⟩
  case line => rw [hOffset]
  case column => simp
  case text => decide +kernel
  case covered =>
    rw [hSpan]
    decide +kernel

end Explorer

end CTokens
