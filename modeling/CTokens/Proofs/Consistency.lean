import CTokens.Explorer.Session
import CTokens.Proofs.Drawing

/-!
# CTokens — the consistency of the explorer

The tokens, their owners, the selection, the row of the token list and the status are stored apart,
and they have to belong together. Selecting, scanning, pressing keys and drawing all see to it, so
what belonged together before a step without writes does so after it.

Main results:

* `Explorer.rescan_eq` — scanning again always succeeds, and what it comes to;
* `Explorer.pressed_of_press` — a key selects, moves, or turns comments on and off;
* `Explorer.Consistent.step` — a step that writes to no field keeps the explorer consistent.
-/

namespace CTokens

namespace Explorer

variable {e next : Explorer}

-- ---------------------------------------------------------------------------
-- What scanning and pressing keys come to
-- ---------------------------------------------------------------------------

/-- A scan has a token at least, the mark of the end. -/
theorem scan_ne_nil (source : String) (keep : Bool) : scan source keep ≠ [] := by
  rw [scan_eq_tokensBehind, tokensBehind]
  exact List.append_ne_nil_of_right_ne_nil _ (List.cons_ne_nil _ _)

/-- What is selected is a token, when there are tokens. -/
theorem selected_select_lt (h : e.tokens ≠ []) (index : Nat) :
    (e.select index).selected < e.tokens.length := by
  have hPos := List.length_pos_iff.2 h
  show min index (e.tokens.length - 1) < e.tokens.length
  omega

/-- Exploring a source succeeds, and the tokens are those of its scan. -/
theorem exists_start (source : String) (keep : Bool) :
    ∃ m, OwnerMap.ofTokens source (scan source keep) = .ok m ∧
      start source keep = .ok
        { source := source, keepComments := keep, tokens := scan source keep, owners := m
          selected := 0, focus := .tokens, scroll := { offset := 0, follow := true }
          list := { selected := some 0, offset := 0 }, quitting := false
          status := summarize (scan source keep) } := by
  obtain ⟨m, hOwners⟩ := OwnerMap.exists_ofTokens_scan source keep
  refine ⟨m, hOwners, bind_eq_ok_iff.2 ⟨m, hOwners, ?_⟩⟩
  simp only [select, Nat.zero_min]
  rfl

/-- Scanning again succeeds. It makes new tokens and owners and selects the first token that does
not begin before the selected one did. -/
theorem rescan_eq (e : Explorer) :
    ∃ m, OwnerMap.ofTokens e.source (scan e.source e.keepComments) = .ok m ∧
      e.rescan = .ok
        ({ e with tokens := scan e.source e.keepComments, owners := m }.select
          ((scan e.source e.keepComments).findIdx
            fun t : Token => decide (e.anchor ≤ t.span.start))) := by
  obtain ⟨m, hOwners⟩ := OwnerMap.exists_ofTokens_scan e.source e.keepComments
  exact ⟨m, hOwners, bind_eq_ok_iff.2 ⟨m, hOwners, rfl⟩⟩

/-- To turn comments on or off is to scan again with the other wish and to say so. -/
theorem toggleComments_eq_ok_iff :
    e.toggleComments = .ok next ↔
      ∃ scanned, { e with keepComments := !e.keepComments }.rescan = .ok scanned ∧
        next = { scanned with status := scanned.announcement } := by
  unfold toggleComments
  rw [bind_eq_ok_iff]
  refine exists_congr fun scanned => and_congr_right fun _ => ?_
  exact ⟨fun h => (Except.ok.inj h).symm, fun h => h ▸ rfl⟩

/-- What a key may come to. -/
inductive Pressed (e : Explorer) : Key → Explorer → Prop
  /-- Another token is selected. -/
  | selected {key : Key} (index : Nat) (hKey : key ≠ .char 'c') : Pressed e key (e.select index)
  /-- The focus moves, or the source pane scrolls, or the end is asked for. -/
  | moved {key : Key} (focus : Pane) (offset : Nat) (quitting : Bool) (hKey : key ≠ .char 'c')
      (hOffset : offset ≤ max e.scroll.offset Word.limit) :
      Pressed e key
        { e with
          focus := focus, scroll := { e.scroll with offset := offset }, quitting := quitting }
  /-- Comments are turned on or off. -/
  | toggled {next : Explorer} (hNext : e.toggleComments = .ok next) : Pressed e (.char 'c') next

/-- A key comes to one of these three things. -/
theorem pressed_of_press {key : Key} (h : e.press key = .ok next) : Pressed e key next := by
  have hStay : e.scroll.offset ≤ max e.scroll.offset Word.limit := Nat.le_max_left _ _
  unfold press at h
  split at h
  case h_1 | h_2 | h_3 =>
    cases h
    exact .moved e.focus e.scroll.offset true (by decide) hStay
  case h_4 => exact .toggled h
  case h_5 =>
    cases h
    exact .moved e.focus.other e.scroll.offset e.quitting (by decide) hStay
  case h_6 =>
    cases h
    unfold moveUp
    split
    · exact .selected (e.selected - 1) (by decide)
    · exact .moved e.focus (e.scroll.offset - 1) e.quitting (by decide) (by omega)
  case h_7 =>
    unfold moveDown at h
    split at h
    · obtain ⟨index, -, hEnd⟩ := bind_eq_ok_iff.1 h
      cases hEnd
      exact .selected index (by decide)
    · cases h
      refine .moved e.focus (Word.addClamped e.scroll.offset 1) e.quitting (by decide) ?_
      exact Nat.le_trans (Nat.min_le_right _ _) (Nat.le_max_right _ _)
  case h_8 =>
    cases h
    exact .selected (e.selected - page) (by decide)
  case h_9 =>
    obtain ⟨index, -, hEnd⟩ := bind_eq_ok_iff.1 h
    cases hEnd
    exact .selected index (by decide)
  case h_10 =>
    cases h
    exact .selected 0 (by decide)
  case h_11 =>
    cases h
    exact .selected Word.limit (by decide)
  -- a character that no command has: all stays, and so does the wish about comments
  case h_12 c _ _ hOther =>
    cases h
    exact .moved e.focus e.scroll.offset e.quitting (fun hKey => hOther (Key.char.inj hKey)) hStay
  case h_13 =>
    cases h
    exact .moved e.focus e.scroll.offset e.quitting (by decide) hStay

end Explorer

-- ---------------------------------------------------------------------------
-- Consistency
-- ---------------------------------------------------------------------------

/-- Drawing the token list leaves its selection where it is, if that is a row of the list. -/
theorem TokenPane.selected_of_draw {tokens : List Token} {focused : Bool} {list : ListState}
    {width height row : Nat} (hList : list.selected = some row) (hRow : row < tokens.length) :
    (draw tokens focused list width height).2.selected = some row := by
  unfold draw
  split
  · exact hList
  · show (list.settle tokens.length (height - 2)).selected = some row
    rw [ListState.settle, if_neg (Nat.ne_zero_of_lt hRow)]
    show list.selected.map (min · (tokens.length - 1)) = some row
    rw [hList, Option.map_some, Nat.min_eq_left (by omega)]

namespace Explorer

variable {e next : Explorer}

/-- The parts of the state belong together: the tokens are those of the source, the owners are those
of the tokens, and a token is selected, the same one in the list. -/
structure Consistent (e : Explorer) : Prop where
  tokens : e.tokens = scan e.source e.keepComments
  owners : OwnerMap.ofTokens e.source e.tokens = .ok e.owners
  selected : e.selected < e.tokens.length
  list : e.list.selected = some e.selected

theorem Consistent.select (h : e.Consistent) (index : Nat) : (e.select index).Consistent where
  tokens := h.tokens
  owners := h.owners
  selected := selected_select_lt (h.tokens ▸ scan_ne_nil e.source e.keepComments) index
  list := rfl

/-- A source is explored from a consistent state, with its tokens counted in the status. -/
theorem consistent_of_start {source : String} {keep : Bool} (h : start source keep = .ok e) :
    e.Consistent ∧ e.source = source ∧ e.scroll.offset = 0 ∧ e.keepComments = keep ∧
      e.status = e.summary := by
  obtain ⟨m, hOwners, hStart⟩ := exists_start source keep
  rw [hStart] at h
  cases h
  have hPos := List.length_pos_iff.2 (scan_ne_nil source keep)
  exact ⟨⟨rfl, hOwners, hPos, rfl⟩, rfl, rfl, rfl, rfl⟩

/-- Scanning again makes any state consistent, and leaves source, view, wish and status alone. -/
theorem consistent_of_rescan (h : e.rescan = .ok next) :
    next.Consistent ∧ next.source = e.source ∧ next.scroll.offset = e.scroll.offset ∧
      next.keepComments = e.keepComments ∧ next.status = e.status := by
  obtain ⟨m, hOwners, hRescan⟩ := rescan_eq e
  rw [hRescan] at h
  cases h
  refine ⟨⟨rfl, hOwners, ?_, rfl⟩, rfl, rfl, rfl, rfl⟩
  exact selected_select_lt (scan_ne_nil e.source e.keepComments) _

/-- Turning comments on or off makes any state consistent and announces the tokens. -/
theorem consistent_of_toggleComments (h : e.toggleComments = .ok next) :
    next.Consistent ∧ next.source = e.source ∧ next.scroll.offset = e.scroll.offset ∧
      next.keepComments = !e.keepComments ∧ next.status = next.announcement := by
  obtain ⟨scanned, hScanned, rfl⟩ := toggleComments_eq_ok_iff.1 h
  obtain ⟨hConsistent, hSource, hView, hWish, -⟩ := consistent_of_rescan hScanned
  exact ⟨⟨hConsistent.tokens, hConsistent.owners, hConsistent.selected, hConsistent.list⟩,
    hSource, hView, hWish, rfl⟩

/-- Drawing moves the view of the list at most, and not its selection. -/
theorem Consistent.of_draw (h : e.Consistent) {width height : Nat} {frame : Frame}
    (hDraw : e.draw width height = .ok (frame, next)) : next.Consistent := by
  obtain ⟨scroll, -, rfl⟩ := eq_of_draw hDraw
  exact ⟨h.tokens, h.owners, h.selected, TokenPane.selected_of_draw h.list h.selected⟩

/-- Whether a step writes to a field. -/
def Action.isWrite : Action → Bool
  | .write _ => true
  | _ => false

/-- A step that writes to no field keeps the explorer consistent. The source stays, and unless
comments are turned on or off so do the wish about them and the status. -/
theorem Consistent.step (h : e.Consistent) {a : Action} (hUse : a.isWrite = false)
    (hStep : e.step a = .ok next) :
    next.Consistent ∧ next.source = e.source ∧
      ((a = .press (.char 'c') ∧ next.keepComments = !e.keepComments ∧
          next.status = next.announcement) ∨
        (a ≠ .press (.char 'c') ∧ next.keepComments = e.keepComments ∧
          next.status = e.status)) := by
  cases a with
  | press key =>
    -- the keys by what they come to, not one by one
    cases pressed_of_press hStep with
    | selected index hKey =>
      exact ⟨h.select index, rfl, .inr ⟨fun hPress => hKey (Action.press.inj hPress), rfl, rfl⟩⟩
    | moved focus offset quitting hKey =>
      exact ⟨⟨h.tokens, h.owners, h.selected, h.list⟩, rfl,
        .inr ⟨fun hPress => hKey (Action.press.inj hPress), rfl, rfl⟩⟩
    | toggled hNext =>
      obtain ⟨hConsistent, hSource, -, hTurned⟩ := consistent_of_toggleComments hNext
      exact ⟨hConsistent, hSource, .inl ⟨rfl, hTurned⟩⟩
  | select index =>
    cases hStep
    exact ⟨h.select index, rfl, .inr ⟨nofun, rfl, rfl⟩⟩
  | rescan =>
    obtain ⟨hConsistent, hSource, -, hStays⟩ := consistent_of_rescan hStep
    exact ⟨hConsistent, hSource, .inr ⟨nofun, hStays⟩⟩
  | draw width height =>
    obtain ⟨⟨frame, drawn⟩, hDraw, hEnd⟩ := bind_eq_ok_iff.1 hStep
    cases hEnd
    refine ⟨h.of_draw hDraw, ?_⟩
    obtain ⟨scroll, -, rfl⟩ := eq_of_draw hDraw
    exact ⟨rfl, .inr ⟨nofun, rfl, rfl⟩⟩
  | write w => cases hUse

/-- The tokens of consistent states with one source and one wish are the same. -/
theorem Consistent.summary_eq (h : e.Consistent) (hNext : next.Consistent)
    (hSource : next.source = e.source) (hWish : next.keepComments = e.keepComments) :
    next.summary = e.summary := by
  unfold summary
  rw [h.tokens, hNext.tokens, hSource, hWish]

end Explorer

end CTokens
