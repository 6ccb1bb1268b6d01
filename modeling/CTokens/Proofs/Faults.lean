import CTokens.Proofs.Consistency

/-!
# CTokens — steps that meet no fault

The source and the wish about comments may be written at any time, and then they are ahead of the
tokens until the next scan. The scroll position may be any word. Still no step meets a fault: the
tokens and their owners are those of one scan, be it of an earlier source, and a token is selected.
The lines and columns of a scan are bounded by the length of what was scanned, so nothing that is
counted or added leaves the words.

Main results:

* `Location.behind_le` — lines and columns are bounded by what lies before them;
* `Explorer.InStep.exists_draw` — a state whose tokens are in step can be drawn at any size;
* `Explorer.InStep.fitsWords` — and its numbers are words;
* `Explorer.InStep.exists_step` — every admissible step succeeds and leaves the tokens in step.
-/

namespace CTokens

-- ---------------------------------------------------------------------------
-- Bounds on what is counted
-- ---------------------------------------------------------------------------

theorem Word.le_limit {n : Nat} (h : n ≤ 2 ^ 63) : n ≤ limit := by
  unfold limit
  omega

/-- Behind a text the line and the column are at most one more than the text is long. -/
theorem Location.behind_le (before : List Char) :
    (behind before).line ≤ before.length + 1 ∧ (behind before).column ≤ before.length + 1 := by
  have hBreaks : before.count '\n' ≤ before.length := List.count_le_length
  have hLast : (before.reverse.takeWhile (· != '\n')).length ≤ before.reverse.length :=
    (List.takeWhile_prefix _).length_le
  rw [List.length_reverse] at hLast
  show 1 + before.count '\n' ≤ _ ∧ 1 + (before.reverse.takeWhile (· != '\n')).length ≤ _
  omega

/-- Lines and columns of tokens are at most one more than the source is long. -/
theorem location_scan_le {source : String} {keep : Bool} {t : Token} (h : t ∈ scan source keep) :
    t.location.line ≤ source.length + 1 ∧ t.location.column ≤ source.length + 1 := by
  rw [scan_eq_tokensBehind] at h
  obtain ⟨before, hBefore, -, hLocation⟩ := exists_isPrefix_of_mem_tokensBehind h
  have hLength := hBefore.length_le
  rw [String.length_toList] at hLength
  obtain ⟨hLine, hColumn⟩ := Location.behind_le before
  rw [hLocation]
  exact ⟨by omega, by omega⟩

/-- A source gives at most one token more than it has characters. -/
theorem length_scan_le (source : String) (keep : Bool) :
    (scan source keep).length ≤ source.length + 1 := by
  have hTokens := length_tokensBehind_le keep [] source.toList
  have hSigns : source.toList.countP (fun c => !Unicode.isWhiteSpace c) ≤ source.toList.length :=
    List.countP_le_length
  rw [String.length_toList] at hSigns
  rw [scan_eq_tokensBehind]
  omega

/-- A source has at most one line more than characters. -/
theorem OwnerMap.lineCount_le {source : String} {tokens : List Token} {m : OwnerMap}
    (h : ofTokens source tokens = .ok m) : m.lineCount ≤ source.length + 1 := by
  have hBreaks : source.toList.count '\n' ≤ source.toList.length := List.count_le_length
  rw [String.length_toList] at hBreaks
  rw [lineCount_of_ofTokens h]
  omega

/-- A line far below the greatest word can be brought into view from anywhere. -/
theorem Viewport.exists_follow {line height : Nat} (hLine : line < 2 ^ 63)
    (hHeight : height < 2 ^ 16) (offset : Nat) : ∃ o, follow offset line height = .ok o := by
  rw [exists_follow_iff]
  unfold Word.limit
  omega

namespace Explorer

variable {e next : Explorer}

-- ---------------------------------------------------------------------------
-- States in step
-- ---------------------------------------------------------------------------

/-- The tokens and their owners are those of one scan, and a token is selected. What was scanned
need not be the source that the state has now. -/
structure InStep (e : Explorer) : Prop where
  scanned : ∃ source keep, source.length < 2 ^ 63 ∧ e.tokens = scan source keep ∧
    OwnerMap.ofTokens source e.tokens = .ok e.owners
  source : e.source.length < 2 ^ 63
  selected : e.selected < e.tokens.length
  scroll : e.scroll.offset ≤ Word.limit

/-- The numbers of a state, and those that a scan of its source counts, are words. -/
structure FitsWords (e : Explorer) : Prop where
  /-- A scan looks one character further than it stands. -/
  source : e.source.length + 1 ≤ Word.limit
  /-- Wherever a scan of the source stands, its line and its column are words. -/
  places : ∀ before, before <+: e.source.toList →
    (Location.behind before).line ≤ Word.limit ∧ (Location.behind before).column ≤ Word.limit
  tokens : e.tokens.length ≤ Word.limit
  bounds : ∀ t ∈ e.tokens, t.location.line ≤ Word.limit ∧ t.location.column ≤ Word.limit ∧
    t.span.start ≤ t.span.stop ∧ t.span.stop ≤ Word.limit
  lines : e.owners.lineCount ≤ Word.limit
  /-- Tokens are numbered from one. -/
  selected : e.selected + 1 ≤ Word.limit
  scroll : e.scroll.offset ≤ Word.limit

/-- A consistent state is in step with its own source. -/
theorem Consistent.inStep (h : e.Consistent) (hSource : e.source.length < 2 ^ 63)
    (hScroll : e.scroll.offset ≤ Word.limit) : e.InStep where
  scanned := ⟨e.source, e.keepComments, hSource, h.tokens, h.owners⟩
  source := hSource
  selected := h.selected
  scroll := hScroll

theorem InStep.length_tokens_le (h : e.InStep) : e.tokens.length ≤ 2 ^ 63 := by
  obtain ⟨source, keep, hShort, hTokens, -⟩ := h.scanned
  have hLength := length_scan_le source keep
  rw [hTokens]
  omega

theorem InStep.lineCount_le (h : e.InStep) : e.owners.lineCount ≤ 2 ^ 63 := by
  obtain ⟨source, keep, hShort, -, hOwners⟩ := h.scanned
  have hLines := OwnerMap.lineCount_le hOwners
  omega

/-- The places and the spans of tokens lie far below the greatest word. -/
theorem InStep.bounds (h : e.InStep) {t : Token} (ht : t ∈ e.tokens) :
    t.location.line ≤ 2 ^ 63 ∧ t.location.column ≤ 2 ^ 63 ∧
      t.span.start ≤ t.span.stop ∧ t.span.stop < 2 ^ 63 := by
  obtain ⟨source, keep, hShort, hTokens, hOwners⟩ := h.scanned
  obtain ⟨hForward, hStop⟩ := (OwnerMap.ofTokens_eq_ok_iff.1 hOwners).1 t ht
  obtain ⟨hLine, hColumn⟩ := location_scan_le (hTokens ▸ ht)
  exact ⟨by omega, by omega, hForward, by omega⟩

/-- The line of the selection is one of what was scanned. -/
theorem InStep.currentLine_le (h : e.InStep) :
    SourcePane.currentLine e.tokens e.selected ≤ 2 ^ 63 := by
  unfold SourcePane.currentLine
  split
  · omega
  · next t ht => exact (h.bounds (List.mem_of_getElem? ht)).1

/-- What is counted in a state in step stays far below the greatest word. -/
theorem InStep.fitsWords (h : e.InStep) : e.FitsWords where
  source := Word.le_limit h.source
  places before hBefore := by
    have hLength : before.length ≤ e.source.length := String.length_toList ▸ hBefore.length_le
    have hSource := h.source
    obtain ⟨hLine, hColumn⟩ := Location.behind_le before
    exact ⟨Word.le_limit (by omega), Word.le_limit (by omega)⟩
  tokens := Word.le_limit h.length_tokens_le
  bounds t ht := by
    obtain ⟨hLine, hColumn, hForward, hStop⟩ := h.bounds ht
    exact ⟨Word.le_limit hLine, Word.le_limit hColumn, hForward, Word.le_limit (Nat.le_of_lt hStop)⟩
  lines := Word.le_limit h.lineCount_le
  selected := Word.le_limit (Nat.le_trans h.selected h.length_tokens_le)
  scroll := h.scroll

/-- A state whose tokens are in step can be drawn at any size. -/
theorem InStep.exists_draw (h : e.InStep) (width : Nat) {height : Nat} (hHeight : height < 2 ^ 16) :
    ∃ drawn, e.draw width height = .ok drawn := by
  obtain ⟨source, keep, -, -, hOwners⟩ := h.scanned
  -- drawing can fail in three places: where the view follows the selection, where a line shows a
  -- token that is gone, and where the selection is counted from one
  refine exists_draw_iff.2 ⟨SourcePane.exists_draw_iff.2 ?_, h.fitsWords.selected⟩
  have hLine : SourcePane.currentLine e.tokens e.selected - 1 < 2 ^ 63 := by
    have hLine := h.currentLine_le
    omega
  have hVisible : SourcePane.visibleHeight (height - 1) < 2 ^ 16 := by
    unfold SourcePane.visibleHeight
    omega
  obtain ⟨settled, hSettled⟩ := Scroll.exists_settle_iff.2 fun _ =>
    Viewport.exists_follow hLine hVisible e.scroll.offset
  refine ⟨settled, hSettled, fun line hShown => ?_⟩
  -- the owners belong to the tokens on show, though the source may be another by now
  have hInside : line < e.owners.lines.length := (SourcePane.mem_shownLines_iff.1 hShown).2.2
  have hCells := List.getElem?_eq_getElem hInside
  exact OwnerMap.exists_highlight_iff.2 ⟨_, hCells, fun cell hCell i hOwner =>
    OwnerMap.lt_length_of_mem_lines hOwners (List.mem_of_getElem? hCells) hCell hOwner⟩

-- ---------------------------------------------------------------------------
-- Steps
-- ---------------------------------------------------------------------------

/-- What may come from outside at any time: keys, selections, scans, frames of any size that a
screen has, and writes to all fields that are free. Tokens and selection are not. -/
def Action.Admissible : Action → Prop
  | .press _ | .rescan => True
  | .select index => index ≤ Word.limit
  | .draw width height => width < 2 ^ 16 ∧ height < 2 ^ 16
  | .write (.source value) => value.length < 2 ^ 63
  | .write (.scrollOffset value) => value ≤ Word.limit
  | .write (.keepComments _) | .write (.scrollFollow _) | .write (.status _) => True
  | .write (.tokens _) | .write (.selected _) => False

/-- The tokens of a new explorer are those of its source. -/
theorem inStep_of_start {source : String} {keep : Bool} (h : start source keep = .ok e)
    (hSource : source.length < 2 ^ 63) : e.InStep := by
  obtain ⟨hConsistent, hSame, hTop, -⟩ := consistent_of_start h
  exact hConsistent.inStep (hSame ▸ hSource) (hTop ▸ Nat.zero_le _)

theorem InStep.select (h : e.InStep) (index : Nat) : (e.select index).InStep where
  scanned := h.scanned
  source := h.source
  selected := selected_select_lt (List.length_pos_iff.1 (Nat.zero_lt_of_lt h.selected)) index
  scroll := h.scroll

/-- After a scan the tokens are those of the source, whatever they were before. -/
theorem InStep.of_rescan (h : e.InStep) (hNext : e.rescan = .ok next) : next.InStep := by
  obtain ⟨hConsistent, hSource, hView, -⟩ := consistent_of_rescan hNext
  exact hConsistent.inStep (hSource ▸ h.source) (hView ▸ h.scroll)

/-- Turning comments on or off scans, and so does the same. -/
theorem InStep.of_toggleComments (h : e.InStep) (hNext : e.toggleComments = .ok next) :
    next.InStep := by
  obtain ⟨hConsistent, hSource, hView, -⟩ := consistent_of_toggleComments hNext
  exact hConsistent.inStep (hSource ▸ h.source) (hView ▸ h.scroll)

/-- A key changes the tokens only by a scan, and moves the view by no more than a word. -/
theorem InStep.of_press (h : e.InStep) {key : Key} (hNext : e.press key = .ok next) :
    next.InStep := by
  cases pressed_of_press hNext with
  | selected index => exact h.select index
  | moved focus offset quitting hKey hOffset =>
    have hScroll := Nat.le_trans hOffset (Nat.max_le.2 ⟨h.scroll, Nat.le_refl _⟩)
    exact ⟨h.scanned, h.source, h.selected, hScroll⟩
  | toggled hToggled => exact h.of_toggleComments hToggled

/-- A key meets a fault at most where it moves the selection on. -/
theorem exists_press (h : e.selected + page ≤ Word.limit) (key : Key) :
    ∃ next, e.press key = .ok next := by
  have hDown : ∃ next, e.moveDown = .ok next := by
    unfold moveDown
    split
    · obtain ⟨index, hIndex⟩ : ∃ index, Word.add e.selected 1 = .ok index :=
        Word.exists_add_iff.2 (Nat.le_trans (Nat.add_le_add_left (by decide) _) h)
      exact ⟨_, bind_eq_ok_iff.2 ⟨index, hIndex, rfl⟩⟩
    · exact ⟨_, rfl⟩
  have hToggle : ∃ next, e.toggleComments = .ok next := by
    obtain ⟨m, -, hScanned⟩ := rescan_eq { e with keepComments := !e.keepComments }
    exact ⟨_, toggleComments_eq_ok_iff.2 ⟨_, hScanned, rfl⟩⟩
  have hPage : ∃ next, e.press .pageDown = .ok next := by
    obtain ⟨index, hIndex⟩ := Word.exists_add_iff.2 h
    exact ⟨_, bind_eq_ok_iff.2 ⟨index, hIndex, rfl⟩⟩
  unfold press
  split
  -- only these three can fail, the others are ready
  all_goals first | exact hDown | exact hToggle | exact hPage | exact ⟨_, rfl⟩

/-- Drawing leaves the scroll position where the source is, so within the words. -/
theorem InStep.of_draw (h : e.InStep) {width height : Nat} {frame : Frame}
    (hDraw : e.draw width height = .ok (frame, next)) : next.InStep := by
  have hLines := h.fitsWords.lines
  obtain ⟨scroll, hSettle, rfl⟩ := eq_of_draw hDraw
  obtain ⟨offset, -, rfl⟩ := Scroll.settle_eq_ok_iff.1 hSettle
  refine ⟨h.scanned, h.source, h.selected, ?_⟩
  exact Nat.le_trans (Nat.min_le_right _ _) (Nat.le_trans (Nat.sub_le _ _) hLines)

/-- A write to a free field leaves tokens, owners and selection alone. -/
theorem InStep.write (h : e.InStep) {w : Write} (hFree : (Action.write w).Admissible) :
    (e.write w).InStep := by
  cases w with
  | source value => exact ⟨h.scanned, hFree, h.selected, h.scroll⟩
  | keepComments value => exact ⟨h.scanned, h.source, h.selected, h.scroll⟩
  | tokens value => exact hFree.elim
  | selected value => exact hFree.elim
  | scrollOffset value => exact ⟨h.scanned, h.source, h.selected, hFree⟩
  | scrollFollow value => exact ⟨h.scanned, h.source, h.selected, h.scroll⟩
  | status value => exact ⟨h.scanned, h.source, h.selected, h.scroll⟩

/-- An admissible step succeeds and leaves the tokens in step. -/
theorem InStep.exists_step (h : e.InStep) {a : Action} (hAction : a.Admissible) :
    ∃ next, e.step a = .ok next ∧ next.InStep := by
  cases a with
  | press key =>
    -- the selection is the index of a token, and there are at most 2 ^ 63 of them
    have hRoom : e.selected + page ≤ Word.limit := by
      have hTokens := h.length_tokens_le
      have hSelected := h.selected
      unfold Word.limit page
      omega
    obtain ⟨next, hNext⟩ := exists_press hRoom key
    exact ⟨next, hNext, h.of_press hNext⟩
  | select index => exact ⟨_, rfl, h.select index⟩
  | rescan =>
    obtain ⟨m, -, hNext⟩ := rescan_eq e
    exact ⟨_, hNext, h.of_rescan hNext⟩
  | draw width height =>
    obtain ⟨⟨frame, drawn⟩, hDraw⟩ := h.exists_draw width hAction.2
    exact ⟨drawn, bind_eq_ok_iff.2 ⟨_, hDraw, rfl⟩, h.of_draw hDraw⟩
  | write w => exact ⟨_, rfl, h.write hAction⟩

end Explorer

end CTokens
