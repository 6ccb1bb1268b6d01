import CTokens.Proofs.Highlighting
import CTokens.Proofs.Sessions

/-!
# CTokens — frames of any state

The fields of the explorer may be written from outside, and then tokens, selection and scroll
position need not belong together. A frame takes them as they are. Whether it can be drawn is told
by the state: the number of the selected token has to be a word, and so has the lower end of the
window that follows it, and on the lines that are shown every owner has to be among the tokens.
Which lines these are is told without drawing, since the moves of the window are known in advance.

What a frame leaves behind is settled. The window of the source has nothing to follow and does not
lie beyond the end, the selection of the list is one of its rows and in view. Settling does not move
any of this again, so the next frame is the same, and the one after it.

Main results:

* `ListState.settle_settle`, `Scroll.settle_settled` — what is settled stays so;
* `Explorer.draw_draw` — a frame is a fixed point of drawing;
* `Scroll.settle_eq_ok_iff_settledOffset` — where the window of the source comes to lie;
* `Explorer.exists_draw_error_iff` — which states cannot be drawn.
-/

namespace CTokens

-- ---------------------------------------------------------------------------
-- What is settled
-- ---------------------------------------------------------------------------

/-- A scroll position that is settled has nothing to follow, and stays. -/
theorem Scroll.settle_settled {s s' : Scroll} {line total height : Nat}
    (h : s.settle line total height = .ok s') : s'.settle line total height = .ok s' := by
  obtain ⟨offset, -, rfl⟩ := settle_eq_ok_iff.1 h
  refine settle_eq_ok_iff.2 ⟨min offset (total - height), if_neg Bool.false_ne_true, ?_⟩
  rw [Nat.min_assoc, Nat.min_self]

namespace ListState

/-- The first row in view stays when the selected row is one of the list. -/
theorem firstRow_firstRow {s : ListState} {count height : Nat}
    (hRow : ∀ row ∈ s.selected, row < count) :
    firstRow { s with offset := s.firstRow count height } count height =
      s.firstRow count height := by
  unfold firstRow
  cases hSelected : s.selected with
  | none =>
    dsimp only
    rw [Nat.min_assoc, Nat.min_self]
  | some row =>
    have hInside : row < count := hRow row hSelected
    dsimp only
    -- the window has moved up, moved down, or stayed
    split
    · split
      · omega
      · omega
    · split
      · omega
      · omega

/-- A list that is settled stays as it is. -/
theorem settle_settle (s : ListState) (count height : Nat) :
    (s.settle count height).settle count height = s.settle count height := by
  by_cases hNone : count = 0
  · rw [settle, if_pos hNone, settle, if_pos hNone]
  · have hKept : (s.selected.map (min · (count - 1))).map (min · (count - 1)) =
        s.selected.map (min · (count - 1)) := by
      rw [Option.map_map]
      congr 1
      funext row
      exact Nat.min_eq_left (Nat.min_le_right _ _)
    have hRow : ∀ row ∈ s.selected.map (min · (count - 1)), row < count := by
      intro row hRow
      obtain ⟨before, -, rfl⟩ := Option.map_eq_some_iff.1 hRow
      omega
    have hFirst := @firstRow_firstRow { s with selected := s.selected.map (min · (count - 1)) }
      count height hRow
    unfold settle
    rw [if_neg hNone, if_neg hNone]
    dsimp only at hFirst ⊢
    rw [hKept, hFirst]

end ListState

/-- Drawing the list again gives the same pane and leaves the same list. -/
theorem TokenPane.draw_again (tokens : List Token) (focused : Bool) (list : ListState)
    (width height : Nat) :
    draw tokens focused (draw tokens focused list width height).2 width height =
      draw tokens focused list width height := by
  unfold draw
  dsimp only
  split
  · rfl
  · dsimp only
    rw [ListState.settle_settle]

/-- Drawing the source again, from where it was scrolled to, gives the same pane. -/
theorem SourcePane.draw_settled {owners : OwnerMap} {tokens : List Token} {selected : Nat}
    {focused : Bool} {scroll settled : Scroll} {width height : Nat} {frame : Frame}
    (h : draw owners tokens selected focused scroll width height = .ok (frame, settled)) :
    draw owners tokens selected focused settled width height = .ok (frame, settled) := by
  unfold draw at h ⊢
  obtain ⟨s, hSettle, hRest⟩ := bind_eq_ok_iff.1 h
  obtain ⟨lines, hLines, hEnd⟩ := bind_eq_ok_iff.1 hRest
  cases hEnd
  have hAgain := Scroll.settle_settled hSettle
  exact bind_eq_ok_iff.2 ⟨settled, hAgain, bind_eq_ok_iff.2 ⟨lines, hLines, rfl⟩⟩

namespace Explorer

variable {e next : Explorer}

/-- Where one step changes nothing, steps of that kind change nothing. -/
theorem run_replicate_of_step {a : Action} (h : e.step a = .ok e) (count : Nat) :
    e.run (List.replicate count a) = .ok e := by
  induction count with
  | zero => rfl
  | succ count ih => rw [List.replicate_succ, run_cons, h]; exact ih

/-- **A frame is a fixed point of drawing.** Whatever the state is, if a frame of it can be drawn
then drawing again at that size gives the same frame, cell by cell, and leaves the state as the
first frame left it. Nor does the state drift when frames are drawn on and on. -/
theorem draw_draw {width height : Nat} {frame : Frame}
    (h : e.draw width height = .ok (frame, next)) :
    next.draw width height = .ok (frame, next) ∧
      ∀ count, e.run (List.replicate (count + 1) (.draw width height)) = .ok next := by
  have hAgain : next.draw width height = .ok (frame, next) := by
    -- of what a frame leaves behind, only the scroll position and the list are new, and both are
    -- settled
    obtain ⟨sourcePane, scroll, bar, hSource, hBar, rfl, rfl⟩ := draw_eq_ok_iff.1 h
    refine draw_eq_ok_iff.2 ⟨sourcePane, scroll, bar, SourcePane.draw_settled hSource, hBar, ?_⟩
    dsimp only
    rw [TokenPane.draw_again]
    exact ⟨rfl, rfl⟩
  refine ⟨hAgain, fun count => ?_⟩
  have hFirst : e.step (.draw width height) = .ok next := bind_eq_ok_iff.2 ⟨_, h, rfl⟩
  have hLater : next.step (.draw width height) = .ok next := bind_eq_ok_iff.2 ⟨_, hAgain, rfl⟩
  rw [List.replicate_succ, run_cons, hFirst]
  exact run_replicate_of_step hLater count

/-- The tokens are taken away, and with them the selected row of the list; the window of the source
moves up from behind its end. -/
theorem draw_draw_of_no_tokens :
    ∃ e frame next,
      session " \n \n " false
          [.write (.tokens []), .write (.selected 5), .write (.scrollOffset 7)] = .ok e ∧
      e.draw 40 4 = .ok (frame, next) ∧ next.draw 40 4 = .ok (frame, next) := by
  have hDrawn : (session " \n \n " false [.write (.tokens []), .write (.selected 5),
      .write (.scrollOffset 7)] >>= fun e => e.draw 40 4).isOk = true := by decide +kernel
  obtain ⟨⟨frame, next⟩, hBoth⟩ := exists_ok_of_isOk hDrawn
  obtain ⟨e, hSession, hDraw⟩ := bind_eq_ok_iff.1 hBoth
  exact ⟨e, frame, next, hSession, hDraw, (draw_draw hDraw).1⟩

end Explorer

-- ---------------------------------------------------------------------------
-- Where the window comes to lie
-- ---------------------------------------------------------------------------

namespace Scroll

/-- Where a scroll position is settled, over all numbers. -/
def settledOffset (s : Scroll) (line total height : Nat) : Nat :=
  min (if s.follow then Viewport.followed s.offset line height else s.offset) (total - height)

/-- A scroll position can be settled unless the window that has to follow a line leaves the words.
-/
theorem settle_eq_ok_iff_settledOffset {s s' : Scroll} {line total height : Nat}
    (hLine : line + 1 ≤ Word.limit) :
    s.settle line total height = .ok s' ↔
      (s.follow = true → s.offset ≤ line → s.offset + height ≤ Word.limit) ∧
        s' = ⟨s.settledOffset line total height, false⟩ := by
  rw [settle_eq_ok_iff, settledOffset]
  cases s.follow with
  | false => simp
  | true =>
    have hRoom : (line < s.offset ∨ (s.offset + height ≤ Word.limit ∧
        (s.offset + height ≤ line → line + 1 ≤ Word.limit))) ↔
        (s.offset ≤ line → s.offset + height ≤ Word.limit) := by omega
    simp only [if_true, Viewport.follow_eq_ok_iff, hRoom, forall_const]
    constructor
    · rintro ⟨offset, ⟨hFits, rfl⟩, rfl⟩
      exact ⟨hFits, rfl⟩
    · rintro ⟨hFits, rfl⟩
      exact ⟨_, ⟨hFits, rfl⟩, rfl⟩

end Scroll

-- ---------------------------------------------------------------------------
-- Which states cannot be drawn
-- ---------------------------------------------------------------------------

namespace Explorer

variable {e : Explorer}

/-- A state can be drawn when its selection can be numbered, the window can follow it where it has
to, and the lines that are shown then have their owners among the tokens. -/
theorem exists_draw_iff_settledOffset {source : String} {scanned : List Token}
    (hOwners : OwnerMap.ofTokens source scanned = .ok e.owners)
    (hLine : SourcePane.currentLine e.tokens e.selected - 1 + 1 ≤ Word.limit)
    (width height : Nat) :
    let shown := SourcePane.visibleHeight (height - 1)
    let line := SourcePane.currentLine e.tokens e.selected - 1
    (∃ drawn, e.draw width height = .ok drawn) ↔
      (e.selected + 1 ≤ Word.limit ∧
        (e.scroll.follow = true → e.scroll.offset ≤ line →
          e.scroll.offset + shown ≤ Word.limit)) ∧
      ∀ l ∈ SourcePane.shownLines (e.scroll.settledOffset line e.owners.lineCount shown) shown
          e.owners.lineCount,
        ∀ offset, (e.owners.lineRange l).contains offset = true →
          ∀ i, e.owners.ownerOf? offset = some i → i < e.tokens.length := by
  intro shown line
  rw [exists_draw_iff, SourcePane.exists_draw_iff]
  simp only [Scroll.settle_eq_ok_iff_settledOffset hLine,
    OwnerMap.exists_highlight_iff_lineRange hOwners, and_assoc, exists_and_left, exists_eq_left]
  constructor
  · rintro ⟨hFollow, hLines, hSelected⟩
    exact ⟨hSelected, hFollow, fun l hl => (hLines l hl).2⟩
  · rintro ⟨hSelected, hFollow, hLines⟩
    refine ⟨hFollow, fun l hl => ⟨?_, hLines l hl⟩, hSelected⟩
    exact (SourcePane.mem_shownLines_iff.1 hl).2.2

/-- **A frame cannot be drawn just when the state is out of step.** The owners are those of some
earlier scan, and everything else may be what it likes. Drawing meets a fault if and only if the
selection is the greatest word, or the window has to follow a line that lies not above it and its
lower end is no word, or a character on one of the lines that are shown belongs to a token that is
gone. At least one line counts as shown, also where the pane has no room for it. -/
theorem exists_draw_error_iff {source : String} {scanned : List Token}
    (hOwners : OwnerMap.ofTokens source scanned = .ok e.owners) (hSelected : e.selected < 2 ^ 64)
    (hLines : ∀ t ∈ e.tokens, t.location.line < 2 ^ 64) (width height : Nat) :
    let shown := max 1 (height - 1 - 2)
    let line := (match e.tokens[e.selected]? with
      | none => 1
      | some t => t.location.line) - 1
    let first := min
      (if e.scroll.follow then Viewport.followed e.scroll.offset line shown else e.scroll.offset)
      (e.owners.lineCount - shown)
    (∃ fault, e.draw width height = .error fault) ↔
      e.selected = 2 ^ 64 - 1 ∨
      (e.scroll.follow = true ∧ e.scroll.offset ≤ line ∧
        2 ^ 64 - 1 < e.scroll.offset + shown) ∨
      ∃ l offset i, (first ≤ l ∧ l < first + shown ∧ l < e.owners.lineCount) ∧
        (e.owners.lineRange l).contains offset = true ∧
        e.owners.ownerOf? offset = some i ∧ e.tokens.length ≤ i := by
  intro shown line first
  have hLimit : Word.limit = 2 ^ 64 - 1 := rfl
  -- line numbers are words, so following a line fails by the lower end of the window alone
  have hLine : line + 1 ≤ Word.limit := by
    have hFirst : (match e.tokens[e.selected]? with
        | none => 1
        | some t => t.location.line) < 2 ^ 64 := by
      split
      · decide
      · next t ht => exact hLines t (List.mem_of_getElem? ht)
    omega
  have hDraw : (∃ drawn, e.draw width height = .ok drawn) ↔ _ :=
    exists_draw_iff_settledOffset hOwners hLine width height
  rw [exists_error_iff, hDraw, not_and_or, not_and_or, or_assoc, Classical.not_imp,
    Classical.not_imp, hLimit]
  refine or_congr (by omega) (or_congr ?follow ?_)
  case follow => exact and_congr_right fun _ => and_congr_right fun _ => Nat.not_le
  simp only [not_forall, Nat.not_lt, exists_prop, SourcePane.mem_shownLines_iff, exists_and_left]
  exact Iff.rfl

/-- Of two lines only the second is shown, and the token on it is gone. -/
theorem exists_draw_error_of_stale_token :
    ∃ e, session "a\nb" false [.write (.tokens [⟨.identifier, "a", ⟨1, 1⟩, ⟨0, 1⟩⟩]),
        .write (.scrollFollow false), .write (.scrollOffset 1)] = .ok e ∧
      ∃ fault, e.draw 40 4 = .error fault := by
  obtain ⟨m, hOwners, hStart⟩ := exists_start "a\nb" false
  have hMap : OwnerMap.ofTokens "a\nb" (scan "a\nb" false) =
      .ok ⟨['a', '\n', 'b'], [some 0, none, some 1]⟩ := by decide +kernel
  obtain rfl : m = _ := Except.ok.inj (hOwners.symm.trans hMap)
  refine ⟨_, bind_eq_ok_iff.2 ⟨_, hStart, rfl⟩, ?_⟩
  refine (exists_draw_error_iff hOwners (by decide) (by decide) 40 4).2 (.inr (.inr ?_))
  exact ⟨1, 2, 1, by decide, by decide, by decide, by decide⟩

end Explorer

end CTokens
