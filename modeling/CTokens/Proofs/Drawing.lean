import CTokens.Explorer.Basic
import CTokens.Proofs.Owners
import Mathlib.Data.List.Forall2

/-!
# CTokens — when a frame can be drawn

Drawing meets a fault in three places: where the selected token is numbered, where it is brought
into view, and where a character belongs to a token that is gone. Each of them is told from the
state before, so it is told beforehand whether a frame can be drawn.

What drawing leaves behind is the state with other scroll positions, and nothing else.

Main results:

* `Viewport.follow_eq_ok_iff`, `OwnerMap.exists_highlight_iff` — when a line can be brought into
  view, and when it can be shown;
* `Explorer.exists_draw_iff` — when a frame can be drawn;
* `Explorer.draw_eq_ok_iff`, `Explorer.eq_of_draw` — what is drawn, and what drawing leaves behind;
* `OwnerMap.lt_length_of_mem_lines` — an owner map names only tokens that it was made for.
-/

namespace CTokens

-- ---------------------------------------------------------------------------
-- Operations that may fault
-- ---------------------------------------------------------------------------

section
variable {ε α β : Type}

/-- An operation faults when it does not succeed. -/
theorem exists_error_iff {x : Except ε α} : (∃ fault, x = .error fault) ↔ ¬ ∃ a, x = .ok a := by
  cases x with
  | error fault => exact ⟨fun _ => nofun, fun _ => ⟨fault, rfl⟩⟩
  | ok a => exact ⟨nofun, fun h => absurd ⟨a, rfl⟩ h⟩

theorem exists_ok_of_isOk {x : Except ε α} (h : x.isOk = true) : ∃ a, x = .ok a := by
  cases x with
  | error fault => cases h
  | ok a => exact ⟨a, rfl⟩

/-- One operation and then another come to a result when the first gives what the second takes to
it. -/
theorem bind_eq_ok_iff {x : Except ε α} {f : α → Except ε β} {b : β} :
    x >>= f = .ok b ↔ ∃ a, x = .ok a ∧ f a = .ok b := by
  cases x with
  | error e => exact ⟨nofun, nofun⟩
  | ok a => exact ⟨fun h => ⟨a, rfl, h⟩, fun ⟨_, rfl, h⟩ => h⟩

/-- One operation and then another succeed when the first does and then the second on its result. -/
theorem exists_bind_eq_ok_iff {x : Except ε α} {f : α → Except ε β} :
    (∃ b, x >>= f = .ok b) ↔ ∃ a, x = .ok a ∧ ∃ b, f a = .ok b := by
  constructor
  · rintro ⟨b, h⟩
    obtain ⟨a, ha, hb⟩ := bind_eq_ok_iff.1 h
    exact ⟨a, ha, b, hb⟩
  · rintro ⟨a, ha, b, hb⟩
    exact ⟨b, bind_eq_ok_iff.2 ⟨a, ha, hb⟩⟩

/-- An operation on all items of a list succeeds when it does on each of them. -/
theorem exists_mapM_eq_ok_iff {f : α → Except ε β} {as : List α} :
    (∃ bs, as.mapM f = .ok bs) ↔ ∀ a ∈ as, ∃ b, f a = .ok b := by
  induction as with
  | nil => exact ⟨fun _ => nofun, fun _ => ⟨[], rfl⟩⟩
  | cons a as ih =>
    rw [List.mapM_cons, exists_bind_eq_ok_iff, List.forall_mem_cons]
    constructor
    · rintro ⟨b, hb, hRest⟩
      obtain ⟨bs, hbs, -⟩ := exists_bind_eq_ok_iff.1 hRest
      exact ⟨⟨b, hb⟩, ih.1 ⟨bs, hbs⟩⟩
    · rintro ⟨⟨b, hb⟩, hRest⟩
      obtain ⟨bs, hbs⟩ := ih.2 hRest
      exact ⟨b, hb, exists_bind_eq_ok_iff.2 ⟨bs, hbs, b :: bs, rfl⟩⟩

/-- What an operation on all items of a list comes to is what it comes to on each of them. -/
theorem mapM_eq_ok_iff {f : α → Except ε β} {as : List α} {bs : List β} :
    as.mapM f = .ok bs ↔ List.Forall₂ (fun a b => f a = .ok b) as bs := by
  -- on the items: the first gives the first result, the others give the others
  induction as generalizing bs with
  | nil =>
    rw [List.mapM_nil, List.forall₂_nil_left_iff]
    exact ⟨fun h => (Except.ok.inj h).symm, fun h => h ▸ rfl⟩
  | cons a as ih =>
    rw [List.mapM_cons, bind_eq_ok_iff, List.forall₂_cons_left_iff]
    constructor
    · rintro ⟨b, hFirst, hRest⟩
      obtain ⟨later, hLater, hEnd⟩ := bind_eq_ok_iff.1 hRest
      exact ⟨b, later, hFirst, ih.1 hLater, (Except.ok.inj hEnd).symm⟩
    · rintro ⟨b, later, hFirst, hLater, rfl⟩
      exact ⟨b, hFirst, bind_eq_ok_iff.2 ⟨later, ih.2 hLater, rfl⟩⟩

/-- Where related items look the same, the lists look the same. -/
theorem map_eq_of_forall₂ {γ : Type} {R : α → β → Prop} {as : List α} {bs : List β} {f : α → γ}
    {g : β → γ} (h : List.Forall₂ R as bs) (hSame : ∀ {a b}, R a b → g b = f a) :
    bs.map g = as.map f := by
  induction h with
  | nil => rfl
  | cons hFirst _ ih => rw [List.map_cons, List.map_cons, hSame hFirst, ih]

end

namespace Word

/-- A checked sum is the sum, where it is a word. -/
theorem add_eq_ok_iff {a b c : Nat} : add a b = .ok c ↔ a + b ≤ limit ∧ a + b = c := by
  unfold add
  split
  · next h => rw [Except.ok.injEq, and_iff_right h]
  · next h => exact ⟨nofun, fun hOk => absurd hOk.1 h⟩

theorem exists_add_iff {a b : Nat} : (∃ c, add a b = .ok c) ↔ a + b ≤ limit := by
  simp only [add_eq_ok_iff, exists_and_left, exists_eq', and_true]

/-- A checked difference is the difference, where there is one. -/
theorem sub_eq_ok_iff {a b c : Nat} : sub a b = .ok c ↔ b ≤ a ∧ a - b = c := by
  unfold sub
  split
  · next h => rw [Except.ok.injEq, and_iff_right h]
  · next h => exact ⟨nofun, fun hOk => absurd hOk.1 h⟩

end Word

-- ---------------------------------------------------------------------------
-- Bringing a line into view
-- ---------------------------------------------------------------------------

namespace Viewport

/-- The offset from which `height` rows show row `line`, over all numbers. -/
def followed (offset line height : Nat) : Nat :=
  if line < offset then line
  else if offset + height ≤ line then line + 1 - height
  else offset

/-- Following a line leads there. This fails when the line does not lie above the window and the
window ends beyond the words, or the line lies below the window and is the last of the words. -/
theorem follow_eq_ok_iff {offset line height o : Nat} :
    follow offset line height = .ok o ↔
      (line < offset ∨ (offset + height ≤ Word.limit ∧
        (offset + height ≤ line → line + 1 ≤ Word.limit))) ∧ followed offset line height = o := by
  unfold follow followed
  split
  · next hAbove => rw [Except.ok.injEq, and_iff_right (.inl hAbove)]
  · next hAbove =>
    rw [bind_eq_ok_iff, or_iff_right hAbove]
    constructor
    · rintro ⟨bottom, hBottom, hRest⟩
      obtain ⟨hFits, rfl⟩ := Word.add_eq_ok_iff.1 hBottom
      split at hRest
      · next hBelow =>
        obtain ⟨next, hNext, hOffset⟩ := bind_eq_ok_iff.1 hRest
        obtain ⟨hLine, rfl⟩ := Word.add_eq_ok_iff.1 hNext
        rw [if_pos hBelow]
        exact ⟨⟨hFits, fun _ => hLine⟩, (Word.sub_eq_ok_iff.1 hOffset).2⟩
      · next hBelow =>
        rw [if_neg hBelow]
        exact ⟨⟨hFits, fun h => absurd h hBelow⟩, Except.ok.inj hRest⟩
    · rintro ⟨⟨hFits, hLine⟩, rfl⟩
      refine ⟨_, Word.add_eq_ok_iff.2 ⟨hFits, rfl⟩, ?_⟩
      split
      · next hBelow =>
        have hNext := Word.add_eq_ok_iff.2 ⟨hLine hBelow, rfl⟩
        -- the window ends above the line, so it is no higher than the line is deep
        have hDown := Word.sub_eq_ok_iff.2 ⟨show height ≤ line + 1 by omega, rfl⟩
        exact bind_eq_ok_iff.2 ⟨_, hNext, hDown⟩
      · rfl

/-- A line can be brought into view when it lies above the window, or when the window ends within
the words and, if the line lies below it, the line does so too. -/
theorem exists_follow_iff {offset line height : Nat} :
    (∃ o, follow offset line height = .ok o) ↔
      line < offset ∨ (offset + height ≤ Word.limit ∧
        (offset + height ≤ line → line + 1 ≤ Word.limit)) := by
  simp only [follow_eq_ok_iff, exists_and_left, exists_eq', and_true]

end Viewport

namespace Scroll

/-- Settling moves to where the line is in view, if that is wanted, and not past the end. -/
theorem settle_eq_ok_iff {s s' : Scroll} {line total height : Nat} :
    s.settle line total height = .ok s' ↔
      ∃ offset, (if s.follow then Viewport.follow s.offset line height else .ok s.offset) =
        .ok offset ∧ s' = ⟨min offset (total - height), false⟩ := by
  have hSettle : s.settle line total height =
      (if s.follow then Viewport.follow s.offset line height else .ok s.offset) >>=
        fun offset => .ok ⟨min offset (total - height), false⟩ := by
    unfold settle
    cases s.follow with
    | true => rfl
    | false => rfl
  rw [hSettle, bind_eq_ok_iff]
  constructor
  · rintro ⟨offset, hOffset, hEnd⟩
    exact ⟨offset, hOffset, (Except.ok.inj hEnd).symm⟩
  · rintro ⟨offset, hOffset, rfl⟩
    exact ⟨offset, hOffset, rfl⟩

/-- Settling fails only where a line is to be followed and cannot be. -/
theorem exists_settle_iff {s : Scroll} {line total height : Nat} :
    (∃ s', s.settle line total height = .ok s') ↔
      (s.follow = true → ∃ offset, Viewport.follow s.offset line height = .ok offset) := by
  simp only [settle_eq_ok_iff]
  constructor
  · rintro ⟨s', offset, hOffset, -⟩ hFollow
    rw [if_pos hFollow] at hOffset
    exact ⟨offset, hOffset⟩
  · intro hFollows
    by_cases hFollow : s.follow = true
    · obtain ⟨offset, hOffset⟩ := hFollows hFollow
      exact ⟨_, offset, by rw [if_pos hFollow, hOffset], rfl⟩
    · exact ⟨_, s.offset, if_neg hFollow, rfl⟩

end Scroll

-- ---------------------------------------------------------------------------
-- Showing lines of the source
-- ---------------------------------------------------------------------------

/-- The marks of the runs are the marks of the items. -/
theorem Text.forall_mem_runs_iff {α β : Type} [DecidableEq α] {bs : List (β × α)} {p : α → Prop} :
    (∀ r ∈ runs bs, p r.1) ↔ ∀ b ∈ bs, p b.2 := by
  constructor
  · intro h b hb
    rw [← flatMap_runs bs] at hb
    obtain ⟨r, hr, hIn⟩ := List.mem_flatMap.1 hb
    obtain ⟨x, -, rfl⟩ := List.mem_map.1 hIn
    exact h r hr
  · intro h r hr
    obtain ⟨x, hx⟩ := List.exists_mem_of_ne_nil _ (runs_ne_nil hr)
    refine h (x, r.1) ?_
    rw [← flatMap_runs bs]
    exact List.mem_flatMap.2 ⟨r, hr, List.mem_map.2 ⟨x, hx, rfl⟩⟩

/-- What splitting leaves in the parts was there before. -/
theorem Text.mem_of_mem_split {α : Type} {isBreak : α → Bool} {as part : List α} {a : α}
    (hPart : part ∈ split isBreak as) (ha : a ∈ part) : a ∈ as := by
  induction as generalizing part with
  | nil =>
    obtain rfl : part = [] := by simpa [split, cut] using hPart
    cases ha
  | cons b as ih =>
    cases hBreak : isBreak b with
    | true =>
      rw [split_cons_of_break hBreak] at hPart
      rcases List.mem_cons.1 hPart with rfl | hPart
      · cases ha
      · exact List.mem_cons_of_mem b (ih hPart ha)
    | false =>
      obtain ⟨first, later, hSplit, hCons⟩ := exists_split_cons hBreak as
      rw [hSplit] at ih
      rw [hCons] at hPart
      rcases List.mem_cons.1 hPart with rfl | hPart
      · rcases List.mem_cons.1 ha with rfl | ha
        · exact List.mem_cons_self
        · exact List.mem_cons_of_mem b (ih List.mem_cons_self ha)
      · exact List.mem_cons_of_mem b (ih (List.mem_cons_of_mem first hPart) ha)

namespace OwnerMap

/-- An owned character has the style of the kind of its owner, under that of the selection if the
owner is selected. -/
theorem styleOf_some_eq_ok_iff {i : Nat} {tokens : List Token} {selected : Nat} {style : Style} :
    styleOf (some i) tokens selected = .ok style ↔ ∃ t, tokens[i]? = some t ∧
      (if i = selected then (Palette.ofKind t.kind).under Palette.selectedToken
        else Palette.ofKind t.kind) = style := by
  cases hToken : tokens[i]? with
  | none => simp [styleOf, hToken]
  | some t => simp [styleOf, hToken]

/-- A character has a style when its owner, if it has one, is among the tokens. -/
theorem exists_styleOf_iff {owner : Option Nat} {tokens : List Token} {selected : Nat} :
    (∃ style, styleOf owner tokens selected = .ok style) ↔
      ∀ i, owner = some i → i < tokens.length := by
  cases owner with
  | none => exact ⟨fun _ => nofun, fun _ => ⟨_, rfl⟩⟩
  | some i =>
    simp only [styleOf_some_eq_ok_iff, Option.some.injEq, forall_eq']
    constructor
    · rintro ⟨style, t, hToken, -⟩
      exact (List.getElem?_eq_some_iff.1 hToken).1
    · intro hLength
      exact ⟨_, _, List.getElem?_eq_getElem hLength, rfl⟩

/-- A line can be shown when there is one, and all its owners are among the tokens. -/
theorem exists_highlight_iff {m : OwnerMap} {line : Nat} {tokens : List Token} {selected : Nat} :
    (∃ segments, m.highlight line tokens selected = .ok segments) ↔
      ∃ cells, m.lines[line]? = some cells ∧
        ∀ cell ∈ cells, ∀ i, cell.2 = some i → i < tokens.length := by
  unfold highlight
  cases hLine : m.lines[line]? with
  | none => exact ⟨nofun, nofun⟩
  | some cells =>
    -- a run fails with its style only, and the style depends on its owner alone
    have hSegment (run : Option Nat × List Char) :
        (∃ s, segment tokens selected run = .ok s) ↔ ∀ i, run.1 = some i → i < tokens.length := by
      rw [← exists_styleOf_iff, segment, exists_bind_eq_ok_iff]
      exact exists_congr fun style => ⟨And.left, fun h => ⟨h, _, rfl⟩⟩
    simp only [exists_mapM_eq_ok_iff, hSegment, Option.some.injEq, exists_eq_left']
    exact Text.forall_mem_runs_iff (p := fun owner => ∀ i, owner = some i → i < tokens.length)

/-- An owner map names only tokens that it was made for. -/
theorem lt_length_of_mem_lines {source : String} {tokens : List Token} {m : OwnerMap}
    (h : ofTokens source tokens = .ok m) {cells : List (Char × Option Nat)}
    (hCells : cells ∈ m.lines) {cell : Char × Option Nat} (hCell : cell ∈ cells) {i : Nat}
    (hOwner : cell.2 = some i) : i < tokens.length := by
  obtain ⟨-, rfl⟩ := ofTokens_eq_ok_iff.1 h
  have hZip := Text.mem_of_mem_split hCells hCell
  obtain ⟨offset, -, hPainter⟩ := List.mem_map.1 (List.of_mem_zip hZip).2
  obtain ⟨⟨t, ht, -⟩, -⟩ := painter?_eq_some_iff.1 (hPainter.trans hOwner)
  exact (List.getElem?_eq_some_iff.1 ht).1

end OwnerMap

namespace SourcePane

/-- The lines on show are those from the offset on that fit into the pane and that there are. -/
theorem mem_shownLines_iff {offset height total line : Nat} :
    line ∈ shownLines offset height total ↔
      offset ≤ line ∧ line < offset + height ∧ line < total := by
  rw [shownLines, List.mem_range'_1]
  omega

/-- The pane can be drawn when the selected token can be brought into view, if that is wanted, and
the lines that are shown then can be shown. -/
theorem exists_draw_iff {owners : OwnerMap} {tokens : List Token} {selected : Nat}
    {focused : Bool} {scroll : Scroll} {width height : Nat} :
    (∃ drawn, draw owners tokens selected focused scroll width height = .ok drawn) ↔
      ∃ settled, scroll.settle (currentLine tokens selected - 1) owners.lineCount
          (visibleHeight height) = .ok settled ∧
        ∀ line ∈ shownLines settled.offset (visibleHeight height) owners.lineCount,
          ∃ segments, owners.highlight line tokens selected = .ok segments := by
  -- the number in front of a line and the ground behind it never fail
  have hLine (line : Nat) : (∃ segments, numberedLine owners tokens selected line = .ok segments) ↔
      ∃ segments, owners.highlight line tokens selected = .ok segments := by
    unfold numberedLine
    rw [exists_bind_eq_ok_iff]
    exact exists_congr fun segments => ⟨And.left, fun h => ⟨h, _, rfl⟩⟩
  unfold draw
  rw [exists_bind_eq_ok_iff]
  refine exists_congr fun settled => and_congr_right fun _ => ?_
  rw [exists_bind_eq_ok_iff]
  simp only [← hLine, ← exists_mapM_eq_ok_iff]
  exact exists_congr fun lines => ⟨And.left, fun h => ⟨h, _, rfl⟩⟩

/-- Drawing the source settles the view. -/
theorem settle_of_draw {owners : OwnerMap} {tokens : List Token} {selected : Nat}
    {focused : Bool} {scroll settled : Scroll} {width height : Nat} {frame : Frame}
    (h : draw owners tokens selected focused scroll width height = .ok (frame, settled)) :
    scroll.settle (currentLine tokens selected - 1) owners.lineCount (visibleHeight height) =
      .ok settled := by
  unfold draw at h
  obtain ⟨s, hSettle, hLines⟩ := bind_eq_ok_iff.1 h
  obtain ⟨lines, -, hEnd⟩ := bind_eq_ok_iff.1 hLines
  cases hEnd
  exact hSettle

end SourcePane

-- ---------------------------------------------------------------------------
-- Drawing a frame
-- ---------------------------------------------------------------------------

/-- The status bar can be drawn when the number of the selection is a word. -/
theorem StatusBar.exists_draw_iff {message : String} {selected : Nat} {tokens : List Token}
    {keepComments : Bool} {width : Nat} :
    (∃ row, draw message selected tokens keepComments width = .ok row) ↔
      selected + 1 ≤ Word.limit := by
  have hLeft : (∃ line, left message selected tokens = .ok line) ↔
      ∃ number, Word.add selected 1 = .ok number := by
    unfold left
    rw [exists_bind_eq_ok_iff]
    exact exists_congr fun number => ⟨And.left, fun h => ⟨h, _, rfl⟩⟩
  unfold draw
  rw [exists_bind_eq_ok_iff, ← Word.exists_add_iff, ← hLeft]
  exact exists_congr fun line => ⟨And.left, fun h => ⟨h, _, rfl⟩⟩

namespace Explorer

/-- A frame can be drawn when the source pane can, and the number of the selected token is a
word. -/
theorem exists_draw_iff {e : Explorer} {width height : Nat} :
    (∃ drawn, e.draw width height = .ok drawn) ↔
      (∃ drawn, SourcePane.draw e.owners e.tokens e.selected (e.focus == .source) e.scroll
        (sourceWidth width) (height - 1) = .ok drawn) ∧ e.selected + 1 ≤ Word.limit := by
  unfold draw
  rw [exists_bind_eq_ok_iff, ← StatusBar.exists_draw_iff, ← exists_and_right]
  refine exists_congr fun drawn => and_congr_right fun _ => ?_
  dsimp only
  rw [exists_bind_eq_ok_iff]
  exact exists_congr fun row => ⟨And.left, fun h => ⟨h, _, rfl⟩⟩

/-- What is drawn are the two panes and the status bar, and what is left behind is the state with
its scroll positions settled. -/
theorem draw_eq_ok_iff {e e' : Explorer} {width height : Nat} {frame : Frame} :
    e.draw width height = .ok (frame, e') ↔
      ∃ sourcePane scroll bar,
        SourcePane.draw e.owners e.tokens e.selected (e.focus == .source) e.scroll
          (sourceWidth width) (height - 1) = .ok (sourcePane, scroll) ∧
        StatusBar.draw e.status e.selected e.tokens e.keepComments width = .ok bar ∧
        frame = Frame.beside sourcePane (TokenPane.draw e.tokens (e.focus == .tokens) e.list
          (width - sourceWidth width) (height - 1)).1 ++ (if height = 0 then [] else [bar]) ∧
        e' = { e with
          scroll := scroll
          list := (TokenPane.draw e.tokens (e.focus == .tokens) e.list
            (width - sourceWidth width) (height - 1)).2 } := by
  unfold draw
  constructor
  · intro h
    obtain ⟨⟨sourcePane, scroll⟩, hSource, hRest⟩ := bind_eq_ok_iff.1 h
    obtain ⟨bar, hBar, hEnd⟩ := bind_eq_ok_iff.1 hRest
    cases hEnd
    exact ⟨sourcePane, scroll, bar, hSource, hBar, rfl, rfl⟩
  · rintro ⟨sourcePane, scroll, bar, hSource, hBar, rfl, rfl⟩
    exact bind_eq_ok_iff.2 ⟨_, hSource, bind_eq_ok_iff.2 ⟨bar, hBar, rfl⟩⟩

/-- Drawing leaves the state behind with its scroll positions settled. -/
theorem eq_of_draw {e e' : Explorer} {width height : Nat} {frame : Frame}
    (h : e.draw width height = .ok (frame, e')) :
    ∃ scroll, e.scroll.settle (SourcePane.currentLine e.tokens e.selected - 1) e.owners.lineCount
        (SourcePane.visibleHeight (height - 1)) = .ok scroll ∧
      e' = { e with
        scroll := scroll
        list := (TokenPane.draw e.tokens (e.focus == .tokens) e.list
          (width - sourceWidth width) (height - 1)).2 } := by
  obtain ⟨sourcePane, scroll, bar, hSource, -, -, hNext⟩ := draw_eq_ok_iff.1 h
  exact ⟨scroll, SourcePane.settle_of_draw hSource, hNext⟩

end Explorer

end CTokens
