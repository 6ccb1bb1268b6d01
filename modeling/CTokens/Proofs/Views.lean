import CTokens.Proofs.Sessions
import Mathlib.Algebra.Order.Group.Unbundled.Int

/-!
# CTokens — views

The view of the explorer is where its panes are scrolled to: the scroll position of the source and
the first row of the token list. Drawing settles the view and touches nothing else. It would move
the selection of the list if that lay beyond the last row, but in a consistent state it does not.

Conversely nothing but drawing reads the view. Two states that differ in their views alone stay so
whatever is pressed, selected or scanned, and frames can be left out of a session without anything
but the view becoming different.

A frame brings the selection into view. In the source two moves follow one another, that to the
line of the selected token and that back from behind the end of the source; the second does not
undo the first, since the line is one of the source.

Main results:

* `Explorer.SameButView.step` — steps other than frames do not read the view;
* `Explorer.session_sameButView` — frames can be left out of a session;
* `Viewport.follow_nearest` — following a line moves a window no further than it has to;
* `Scroll.inView_of_settle`, `ListState.inView_of_settle` — what settling brings into view;
* `Explorer.session_inView` — after a frame the selection is in view.
-/

namespace CTokens

namespace Explorer

variable {e e' next : Explorer}

-- ---------------------------------------------------------------------------
-- States that differ in their views
-- ---------------------------------------------------------------------------

/-- A state with another view. -/
def viewedAt (e : Explorer) (scroll : Scroll) (row : Nat) : Explorer :=
  { e with scroll := scroll, list := { e.list with offset := row } }

/-- Two states have all in common but the view. -/
def SameButView (e e' : Explorer) : Prop := ∃ scroll row, e' = e.viewedAt scroll row

theorem SameButView.refl (e : Explorer) : e.SameButView e := ⟨e.scroll, e.list.offset, rfl⟩

theorem SameButView.symm (h : e.SameButView e') : e'.SameButView e := by
  obtain ⟨scroll, row, rfl⟩ := h
  exact ⟨e.scroll, e.list.offset, rfl⟩

theorem SameButView.trans (h : e.SameButView e') (h' : e'.SameButView next) :
    e.SameButView next := by
  obtain ⟨scroll, row, rfl⟩ := h
  obtain ⟨scroll', row', rfl⟩ := h'
  exact ⟨scroll', row', rfl⟩

/-- Selecting a token does not read the view: it asks for the selection to be followed. -/
theorem SameButView.select (h : e.SameButView e') (index : Nat) :
    (e.select index).SameButView (e'.select index) := by
  obtain ⟨scroll, row, rfl⟩ := h
  exact ⟨{ scroll with follow := true }, row, rfl⟩

/-- A scan does not read the view. -/
theorem SameButView.of_rescan (h : e.SameButView e') (hNext : e.rescan = .ok next) :
    ∃ next', e'.rescan = .ok next' ∧ next.SameButView next' := by
  obtain ⟨scroll, row, rfl⟩ := h
  obtain ⟨m, hOwners, hEnd⟩ := bind_eq_ok_iff.1 hNext
  cases hEnd
  exact ⟨_, bind_eq_ok_iff.2 ⟨m, hOwners, rfl⟩, { scroll with follow := true }, row, rfl⟩

/-- Keeping or dropping comments does not read the view. -/
theorem SameButView.of_toggleComments (h : e.SameButView e')
    (hNext : e.toggleComments = .ok next) :
    ∃ next', e'.toggleComments = .ok next' ∧ next.SameButView next' := by
  obtain ⟨scroll, row, rfl⟩ := h
  obtain ⟨scanned, hScanned, rfl⟩ := toggleComments_eq_ok_iff.1 hNext
  have hTurned : SameButView { e with keepComments := !e.keepComments }
      { e.viewedAt scroll row with keepComments := !e.keepComments } := ⟨scroll, row, rfl⟩
  obtain ⟨scanned', hScanned', scroll', row', rfl⟩ := hTurned.of_rescan hScanned
  exact ⟨_, toggleComments_eq_ok_iff.2 ⟨_, hScanned', rfl⟩, scroll', row', rfl⟩

/-- A move up does the same whatever the view is. In the source pane it changes nothing but the
view. -/
theorem SameButView.moveUp (h : e.SameButView e') : e.moveUp.SameButView e'.moveUp := by
  obtain ⟨scroll, row, rfl⟩ := h
  obtain ⟨_, _, _, _, _, focus, _, _, _, _⟩ := e
  cases focus with
  | tokens => exact ⟨{ scroll with follow := true }, row, rfl⟩
  | source => exact ⟨{ scroll with offset := scroll.offset - 1 }, row, rfl⟩

/-- A move down does the same whatever the view is. -/
theorem SameButView.of_moveDown (h : e.SameButView e') (hNext : e.moveDown = .ok next) :
    ∃ next', e'.moveDown = .ok next' ∧ next.SameButView next' := by
  obtain ⟨scroll, row, rfl⟩ := h
  obtain ⟨_, _, _, _, _, focus, _, _, _, _⟩ := e
  cases focus with
  | tokens =>
    obtain ⟨index, hIndex, hEnd⟩ := bind_eq_ok_iff.1 hNext
    cases hEnd
    exact ⟨_, bind_eq_ok_iff.2 ⟨index, hIndex, rfl⟩, { scroll with follow := true }, row, rfl⟩
  | source =>
    cases hNext
    exact ⟨_, rfl, { scroll with offset := Word.addClamped scroll.offset 1 }, row, rfl⟩

/-- A key does the same whatever the view is. -/
theorem SameButView.of_press (h : e.SameButView e') {key : Key}
    (hNext : e.press key = .ok next) :
    ∃ next', e'.press key = .ok next' ∧ next.SameButView next' := by
  have hQuit : SameButView { e with quitting := true } { e' with quitting := true } := by
    obtain ⟨scroll, row, rfl⟩ := h
    exact ⟨scroll, row, rfl⟩
  have hFocus : SameButView { e with focus := e.focus.other }
      { e' with focus := e'.focus.other } := by
    obtain ⟨scroll, row, rfl⟩ := h
    exact ⟨scroll, row, rfl⟩
  have hSelected : e'.selected = e.selected := by
    obtain ⟨scroll, row, rfl⟩ := h
    rfl
  -- one case for each group of keys: those that quit, the switch for comments, the change of focus,
  -- the moves, the pages, the ends, and those that do nothing
  unfold press at hNext
  split at hNext
  case h_1 | h_2 | h_3 =>
    cases hNext
    exact ⟨_, rfl, hQuit⟩
  case h_4 => exact h.of_toggleComments hNext
  case h_5 =>
    cases hNext
    exact ⟨_, rfl, hFocus⟩
  case h_6 =>
    cases hNext
    exact ⟨_, rfl, h.moveUp⟩
  case h_7 => exact h.of_moveDown hNext
  case h_8 =>
    cases hNext
    exact ⟨_, rfl, hSelected ▸ h.select (e.selected - page)⟩
  case h_9 =>
    obtain ⟨index, hIndex, hEnd⟩ := bind_eq_ok_iff.1 hNext
    cases hEnd
    rw [← hSelected] at hIndex
    exact ⟨_, bind_eq_ok_iff.2 ⟨index, hIndex, rfl⟩, h.select index⟩
  case h_10 =>
    cases hNext
    exact ⟨_, rfl, h.select 0⟩
  case h_11 =>
    cases hNext
    exact ⟨_, rfl, h.select Word.limit⟩
  case h_12 =>
    cases hNext
    exact ⟨e', by simp [press], h⟩
  case h_13 =>
    cases hNext
    exact ⟨e', rfl, h⟩

/-- Whether a step draws a frame. -/
def Action.isDraw : Action → Bool
  | .draw _ _ => true
  | _ => false

/-- Steps other than frames and writes do not read the view. -/
theorem SameButView.step (h : e.SameButView e') {a : Action} (hUse : a.isWrite = false)
    (hOther : a.isDraw = false) (hStep : e.step a = .ok next) :
    ∃ next', e'.step a = .ok next' ∧ next.SameButView next' := by
  cases a with
  | press key => exact h.of_press hStep
  | select index =>
    cases hStep
    exact ⟨_, rfl, h.select index⟩
  | rescan => exact h.of_rescan hStep
  | draw width height => cases hOther
  | write w => cases hUse

/-- Drawing a consistent state changes its view alone. -/
theorem Consistent.sameButView_of_draw (h : e.Consistent) {width height : Nat} {frame : Frame}
    (hDraw : e.draw width height = .ok (frame, next)) : e.SameButView next := by
  obtain ⟨scroll, -, rfl⟩ := eq_of_draw hDraw
  have hRow : (TokenPane.draw e.tokens (e.focus == .tokens) e.list (width - sourceWidth width)
      (height - 1)).2.selected = some e.selected :=
    TokenPane.selected_of_draw h.list h.selected
  generalize (TokenPane.draw e.tokens (e.focus == .tokens) e.list (width - sourceWidth width)
    (height - 1)).2 = drawn at hRow ⊢
  have hList : drawn = ⟨e.list.selected, drawn.offset⟩ := by rw [h.list, ← hRow]
  exact ⟨scroll, drawn.offset, by rw [hList, viewedAt]⟩

-- ---------------------------------------------------------------------------
-- Sessions without their frames
-- ---------------------------------------------------------------------------

/-- **Drawing does not influence the explorer.** A session in which frames are drawn at any places
and sizes comes to the same state as the session without them, but for the view: source, wish,
tokens, owners, selection, selected row of the list, focus, status and the wish to quit are the
same. As sessions of any length are meant, they are the same behind every step. And both sessions
do come to a state, where the source is of fair length. -/
theorem session_sameButView (source : String) (keep : Bool) (actions : List Action)
    (hUse : ∀ a ∈ actions, a.isWrite = false) :
    (∀ e, session source keep actions = .ok e →
      ∃ plain, session source keep (actions.filter fun a => !a.isDraw) = .ok plain ∧
        ∃ scroll row,
          e = { plain with scroll := scroll, list := { plain.list with offset := row } }) ∧
      (source.length < 2 ^ 63 → (∀ a ∈ actions, a.Admissible) →
        ∃ e, session source keep actions = .ok e) := by
  refine ⟨?same, ?reaches⟩
  case same =>
    intro e hSession
    obtain ⟨first, hStart, hRun⟩ := bind_eq_ok_iff.1 hSession
    -- the invariant: the state is consistent, so that a frame changes the view alone, and the plain
    -- session has come to the same state but for the view
    have hEnd := run_induction
      (P := fun history reached => reached.Consistent ∧
        ∃ plain, first.run (history.filter fun a => !a.isDraw) = .ok plain ∧
          plain.SameButView reached)
      ⟨(consistent_of_start hStart).1, first, rfl, .refl first⟩ ?_ hUse hRun
    · obtain ⟨-, plain, hPlain, hSame⟩ := hEnd
      exact ⟨plain, bind_eq_ok_iff.2 ⟨first, hStart, hPlain⟩, hSame⟩
    · rintro history reached next a ⟨hReached, plain, hPlain, hSame⟩ hOther hStep
      refine ⟨(hReached.step hOther hStep).1, ?_⟩
      rw [List.filter_append, List.filter_cons, List.filter_nil]
      cases hDraw : a.isDraw with
      | true =>
        -- the plain session stays where it is
        cases a with
        | draw width height =>
          obtain ⟨⟨frame, drawn⟩, hDrawn, hEnd⟩ := bind_eq_ok_iff.1 hStep
          cases hEnd
          refine ⟨plain, ?_, hSame.trans (hReached.sameButView_of_draw hDrawn)⟩
          rw [Bool.not_true, if_neg Bool.false_ne_true, List.append_nil]
          exact hPlain
        | press | select | rescan | write => cases hDraw
      | false =>
        obtain ⟨next', hNext', hSame'⟩ := hSame.symm.step hOther hDraw hStep
        refine ⟨next', ?_, hSame'.symm⟩
        rw [Bool.not_false, if_pos rfl, run_concat, hPlain]
        exact hNext'
  case reaches =>
    intro hSource hActions
    obtain ⟨e, hSession, -⟩ := exists_session hSource hActions keep
    exact ⟨e, hSession⟩

/-- Frames of several sizes around keys that move the selection and turn comments on. -/
theorem session_sameButView_of_frames :
    ∃ e plain,
      session "a // b" false [.draw 80 24, .press .last, .draw 5 3, .press (.char 'c'), .draw 0 0] =
        .ok e ∧
      session "a // b" false [.press .last, .press (.char 'c')] = .ok plain ∧
      ∃ scroll row,
        e = { plain with scroll := scroll, list := { plain.list with offset := row } } := by
  obtain ⟨hSame, hReaches⟩ := session_sameButView "a // b" false
    [.draw 80 24, .press .last, .draw 5 3, .press (.char 'c'), .draw 0 0] (by decide)
  obtain ⟨e, hSession⟩ := hReaches (by decide) (by simp [Action.Admissible])
  obtain ⟨plain, hPlain, hView⟩ := hSame e hSession
  exact ⟨e, plain, hSession, hPlain, hView⟩

end Explorer

-- ---------------------------------------------------------------------------
-- What settling brings into view
-- ---------------------------------------------------------------------------

/-- A viewport that follows a line shows it. -/
theorem Viewport.inView_of_follow {offset line height o : Nat} (hHeight : 0 < height)
    (h : follow offset line height = .ok o) : o ≤ line ∧ line < o + height := by
  obtain ⟨-, rfl⟩ := follow_eq_ok_iff.1 h
  -- the line lies above the window, below it, or in it
  unfold followed
  split
  · omega
  · split
    · omega
    · omega

/-- Of all windows that show a line, that which follows it is the nearest. -/
theorem Viewport.followed_nearest {offset line height o : Nat} (hAbove : o ≤ line)
    (hBelow : line < o + height) :
    |(followed offset line height : ℤ) - offset| ≤ |(o : ℤ) - offset| := by
  rw [Int.abs_eq_natAbs, Int.abs_eq_natAbs]
  unfold followed
  split
  · -- a window that shows a line further up begins there or still further up
    omega
  · split
    · -- a window that shows a line further down ends behind it or still further down
      omega
    · -- no way is shorter than none
      omega

/-- A window that shows the line already stays where it is. -/
theorem Viewport.follow_of_inView {offset line height : Nat} (hAbove : offset ≤ line)
    (hBelow : line < offset + height) (hWindow : offset + height ≤ Word.limit) :
    follow offset line height = .ok offset := by
  refine follow_eq_ok_iff.2 ⟨.inr ⟨hWindow, fun hBeyond => absurd hBelow ?_⟩, ?_⟩
  · exact Nat.not_lt_of_le hBeyond
  · rw [followed, if_neg (Nat.not_lt_of_le hAbove), if_neg (Nat.not_le_of_lt hBelow)]

/-- **A window follows a line by the shortest way.** A window that ends within the words can follow
every line but the last of the words. It then shows the line, and no other window that shows it is
nearer to where the window was. So a window that shows the line already does not move, and neither
does one that has followed it. -/
theorem Viewport.follow_nearest (offset line height : Nat) (hHeight : 1 ≤ height)
    (hWindow : offset + height ≤ Word.limit) (hLine : line + 1 ≤ Word.limit) :
    ∃ r, follow offset line height = .ok r ∧ (r ≤ line ∧ line < r + height) ∧
      (∀ r', r' ≤ line → line < r' + height → |(r : ℤ) - offset| ≤ |(r' : ℤ) - offset|) ∧
      (offset ≤ line → line < offset + height → r = offset) ∧
      follow r line height = .ok r := by
  have hFollow : follow offset line height = .ok (followed offset line height) :=
    follow_eq_ok_iff.2 ⟨.inr ⟨hWindow, fun _ => hLine⟩, rfl⟩
  obtain ⟨hAbove, hBelow⟩ := inView_of_follow hHeight hFollow
  have hNearest {r' : Nat} (hAbove : r' ≤ line) (hBelow : line < r' + height) :
      |(followed offset line height : ℤ) - offset| ≤ |(r' : ℤ) - offset| :=
    followed_nearest hAbove hBelow
  refine ⟨_, hFollow, ⟨hAbove, hBelow⟩, fun r' => hNearest, ?stays, ?again⟩
  case stays =>
    -- the window itself is one that shows the line, and it is at no distance
    intro hAbove hBelow
    have hNone := hNearest hAbove hBelow
    rw [sub_self, abs_zero, abs_nonpos_iff, sub_eq_zero] at hNone
    exact Int.ofNat_inj.1 hNone
  case again =>
    have hEnds : followed offset line height + height ≤ Word.limit := by
      unfold followed
      split
      · omega
      · split
        · omega
        · omega
    exact follow_of_inView hAbove hBelow hEnds

/-- The window is at the top, and the line is the last but one of the words: the window ends at the
last one. -/
theorem Viewport.follow_nearest_of_far_line :
    ∃ r, follow 0 (Word.limit - 1) 3 = .ok r ∧
      (1 ≤ 3 ∧ 0 + 3 ≤ Word.limit ∧ Word.limit - 1 + 1 ≤ Word.limit) ∧
      Word.limit - 1 < r + 3 ∧ |(r : ℤ) - (0 : Nat)| ≤ |((Word.limit - 3 : Nat) : ℤ) - (0 : Nat)| ∧
      follow r (Word.limit - 1) 3 = .ok r := by
  obtain ⟨r, hFollow, ⟨-, hBelow⟩, hNearest, -, hAgain⟩ :=
    follow_nearest 0 (Word.limit - 1) 3 (by decide) (by decide) (by decide)
  exact ⟨r, hFollow, by decide, hBelow, hNearest _ (by decide) (by decide), hAgain⟩

/-- A scroll position that is settled does not lie beyond the last full window, and if it had to
follow a line, then that line is in view. Going back from behind the end does not lose it. -/
theorem Scroll.inView_of_settle {s s' : Scroll} {line total height : Nat} (hHeight : 0 < height)
    (hLine : line < total) (h : s.settle line total height = .ok s') :
    s'.follow = false ∧ s'.offset ≤ total - height ∧
      (s.follow = true → s'.offset ≤ line ∧ line < s'.offset + height) := by
  obtain ⟨offset, hOffset, rfl⟩ := settle_eq_ok_iff.1 h
  refine ⟨rfl, Nat.min_le_right _ _, fun hFollow => ?_⟩
  rw [if_pos hFollow] at hOffset
  obtain ⟨hAbove, hBelow⟩ := Viewport.inView_of_follow hHeight hOffset
  dsimp only
  omega

/-- A list that is settled shows its selected row. -/
theorem ListState.inView_of_settle {s : ListState} {row count height : Nat} (hHeight : 0 < height)
    (hSelected : s.selected = some row) (hRow : row < count) :
    (s.settle count height).offset ≤ row ∧ row < (s.settle count height).offset + height := by
  have hKept : s.selected.map (min · (count - 1)) = some row := by
    rw [hSelected, Option.map_some, Nat.min_eq_left (by omega)]
  rw [settle, if_neg (Nat.ne_zero_of_lt hRow), hKept]
  simp only [firstRow]
  split
  · omega
  · omega

namespace Explorer

variable {e next : Explorer}

/-- The selected token begins on one of the lines of the source. -/
theorem Consistent.exists_selected (h : e.Consistent) :
    ∃ t, e.tokens[e.selected]? = some t ∧ 0 < t.location.line ∧
      t.location.line - 1 < e.owners.lineCount := by
  obtain ⟨t, hToken⟩ : ∃ t, e.tokens[e.selected]? = some t :=
    ⟨_, List.getElem?_eq_getElem h.selected⟩
  refine ⟨t, hToken, ?_⟩
  have hMem := List.mem_of_getElem? hToken
  rw [h.tokens, scan_eq_tokensBehind] at hMem
  obtain ⟨before, hBefore, -, hLocation⟩ := exists_isPrefix_of_mem_tokensBehind hMem
  rw [hLocation]
  exact ⟨Nat.add_pos_left Nat.one_pos _, (OwnerMap.lineStart_behind h.owners hBefore).1⟩

-- ---------------------------------------------------------------------------
-- What a frame brings into view
-- ---------------------------------------------------------------------------

/-- Whether a step leaves the tokens to the scan. It may write to the scroll position. -/
def Action.leavesTokens : Action → Bool
  | .write (.scrollOffset _) | .write (.scrollFollow _) => true
  | .write _ => false
  | _ => true

/-- Steps that write nothing leave the tokens to the scan. -/
theorem Action.leavesTokens_of_not_isWrite {a : Action} (h : a.isWrite = false) :
    a.leavesTokens = true := by
  cases a with
  | write w => cases h
  | press | select | rescan | draw => rfl

/-- A step that writes to the scroll position at most keeps the explorer consistent, and the source
stays. -/
theorem Consistent.of_leavesTokens (h : e.Consistent) {a : Action} (hUse : a.leavesTokens = true)
    (hStep : e.step a = .ok next) : next.Consistent ∧ next.source = e.source := by
  cases hWrite : a.isWrite with
  | false =>
    obtain ⟨hNext, hSource, -⟩ := h.step hWrite hStep
    exact ⟨hNext, hSource⟩
  | true =>
    cases a with
    | write w =>
      cases w with
      | scrollOffset value | scrollFollow value =>
        cases hStep
        exact ⟨⟨h.tokens, h.owners, h.selected, h.list⟩, rfl⟩
      | source | keepComments | tokens | selected | status => cases hUse
    | press | select | rescan | draw => cases hWrite

/-- A session that writes to the scroll position at most keeps the explorer consistent. -/
theorem session_consistent_of_leavesTokens {source : String} {keep : Bool} {actions : List Action}
    (hUse : ∀ a ∈ actions, a.leavesTokens = true) (h : session source keep actions = .ok e) :
    e.Consistent ∧ e.source = source := by
  obtain ⟨first, hStart, hRun⟩ := bind_eq_ok_iff.1 h
  obtain ⟨hFirst, hSource, -⟩ := consistent_of_start hStart
  refine run_induction (P := fun _ reached => reached.Consistent ∧ reached.source = source)
    ⟨hFirst, hSource⟩ ?_ hUse hRun
  rintro history reached next a ⟨hReached, hSame⟩ hLeaves hStep
  obtain ⟨hNext, hStays⟩ := hReached.of_leavesTokens hLeaves hStep
  exact ⟨hNext, hStays.trans hSame⟩

/-- **A frame brings the selection into view.** Whatever is pressed, selected, scanned and drawn and
wherever the source is scrolled to, behind the next frame nothing is left to follow and the source
pane shows as many lines as it has room for and the source has. If the selected token had to be
followed, then the line on which it begins is among them. The token list shows the selected row if
it has room for any. A frame can be drawn in every state that such steps lead to, where the source
is of fair length. -/
theorem session_inView (source : String) (keep : Bool) (actions : List Action)
    (hUse : ∀ a ∈ actions, a.leavesTokens = true) (width height : Nat) :
    (∀ e frame next, session source keep actions = .ok e →
      e.draw width height = .ok (frame, next) →
      let shown := max 1 (height - 1 - 2)
      let total := source.toList.count '\n' + 1
      next.scroll.follow = false ∧
        next.scroll.offset ≤ total - shown ∧
        (SourcePane.shownLines next.scroll.offset shown total).length = min shown total ∧
        (e.scroll.follow = true →
          ∃ t, next.tokens[next.selected]? = some t ∧ 0 < t.location.line ∧
            next.scroll.offset ≤ t.location.line - 1 ∧
            t.location.line - 1 < next.scroll.offset + shown) ∧
        (1 ≤ width - sourceWidth width - 2 → 1 ≤ height - 1 - 2 →
          next.list.offset ≤ next.selected ∧
            next.selected < next.list.offset + (height - 1 - 2))) ∧
      (source.length < 2 ^ 63 → (∀ a ∈ actions, a.Admissible) → height < 2 ^ 16 →
        ∃ e frame next, session source keep actions = .ok e ∧
          e.draw width height = .ok (frame, next)) := by
  refine ⟨?inView, ?drawn⟩
  case inView =>
    intro e frame next hSession hDraw shown total
    obtain ⟨hConsistent, hSource⟩ := session_consistent_of_leavesTokens hUse hSession
    obtain ⟨scroll, hSettle, rfl⟩ := eq_of_draw hDraw
    obtain ⟨t, hToken, hFirst, hLast⟩ := hConsistent.exists_selected
    have hTotal : e.owners.lineCount = total := by
      rw [OwnerMap.lineCount_of_ofTokens hConsistent.owners, hSource]
    have hLine : SourcePane.currentLine e.tokens e.selected = t.location.line := by
      rw [SourcePane.currentLine, hToken]
    rw [hLine, hTotal] at hSettle
    rw [hTotal] at hLast
    have hShown : 0 < shown := Nat.le_max_left 1 _
    -- the line to be followed is one of the source: going back from its end does not lose it
    obtain ⟨hDone, hWithin, hFollowed⟩ := Scroll.inView_of_settle hShown hLast hSettle
    refine ⟨hDone, hWithin, ?window, fun hFollow => ⟨t, hToken, hFirst, hFollowed hFollow⟩, ?list⟩
    case window =>
      show (List.range' scroll.offset (min shown (total - scroll.offset))).length = min shown total
      -- the window ends within the source, so it is full unless the source is shorter
      rw [List.length_range']
      omega
    case list =>
      intro hColumns hRows
      rw [TokenPane.draw, if_neg (by omega)]
      exact ListState.inView_of_settle hRows hConsistent.list hConsistent.selected
  case drawn =>
    intro hSource hActions hHeight
    obtain ⟨e, hSession, hInStep⟩ := exists_session hSource hActions keep
    obtain ⟨⟨frame, next⟩, hDraw⟩ := hInStep.exists_draw width hHeight
    exact ⟨e, frame, next, hSession, hDraw⟩

/-- The source is scrolled as far down as a word goes before the last token is followed. -/
theorem session_inView_of_far_offset :
    ∃ e frame next,
      session "a\nb\nc" true [.press .last, .write (.scrollOffset Word.limit)] = .ok e ∧
        e.draw 80 4 = .ok (frame, next) ∧ next.scroll.offset ≤ 2 ∧
          next.list.offset ≤ next.selected := by
  obtain ⟨hInView, hDrawn⟩ := session_inView "a\nb\nc" true
    [.press .last, .write (.scrollOffset Word.limit)] (by decide) 80 4
  obtain ⟨e, frame, next, hSession, hDraw⟩ := hDrawn (by decide) (by simp [Action.Admissible])
    (by decide)
  obtain ⟨-, hOffset, -, -, hList⟩ := hInView e frame next hSession hDraw
  exact ⟨e, frame, next, hSession, hDraw, hOffset, (hList (by decide) (by decide)).1⟩

end Explorer

end CTokens
