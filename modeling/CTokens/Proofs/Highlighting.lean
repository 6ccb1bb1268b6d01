import CTokens.Proofs.Drawing

/-!
# CTokens — lines in the colours of their owners

A line of the source is a range of offsets, from where the line begins up to its line break or to
the end of the source. The ranges with a line break between any two of them make up the source
again, so every character that is no line break stands on one line.

What is shown of a line are its characters, in segments. No segment is empty, the characters of a
segment have one owner, and neighbouring segments have different ones; the style of a segment is
that of the owner. The owners are those of the list that the map was made for, and the styles may be
taken from another list, which has to reach as far.

Main results:

* `OwnerMap.lineRange_eq`, `OwnerMap.getElem?_lines` — the range of a line, and what stands there;
* `OwnerMap.exists_highlight_iff_lineRange` — when a line can be shown;
* `OwnerMap.showsLine_of_highlight` — what is shown of a line;
* `OwnerMap.highlight_lines` — all of this of any source and any two token lists.
-/

namespace CTokens

-- ---------------------------------------------------------------------------
-- Where parts end
-- ---------------------------------------------------------------------------

namespace Text

variable {α β : Type}

/-- The next part begins behind a part and its break. -/
theorem startOf_succ {parts : List (List α)} {index : Nat} {part : List α}
    (h : parts[index]? = some part) :
    startOf parts (index + 1) = startOf parts index + part.length + 1 := by
  rw [startOf_eq_sum, List.take_add_one, h, Option.toList_some, List.map_append, List.sum_append,
    List.map_singleton, List.sum_singleton, ← Nat.add_assoc, startOf_eq_sum]

/-- All parts and their breaks are as long as the sequence and one break more. -/
theorem startOf_length_split (isBreak : α → Bool) (as : List α) :
    startOf (split isBreak as) (split isBreak as).length = as.length + 1 := by
  induction as with
  | nil => rfl
  | cons a as ih =>
    cases hBreak : isBreak a with
    | true =>
      rw [split_cons_of_break hBreak, List.length_cons, startOf_cons_succ, ih, List.length_nil,
        List.length_cons]
      omega
    | false =>
      obtain ⟨part, later, hSplit, hCons⟩ := exists_split_cons hBreak as
      rw [hSplit, List.length_cons, startOf_cons_succ] at ih
      rw [hCons, List.length_cons, startOf_cons_succ, List.length_cons, List.length_cons]
      omega

/-- What begins behind some parts begins no earlier than what begins behind fewer of them. -/
theorem startOf_mono {parts : List (List α)} {i j : Nat} (h : i ≤ j) :
    startOf parts i ≤ startOf parts j := by
  obtain ⟨more, rfl⟩ := Nat.exists_eq_add_of_le h
  rw [startOf_eq_sum, startOf_eq_sum, List.take_add, List.map_append, List.sum_append]
  exact Nat.le_add_right _ _

/-- A part ends within the sequence. -/
theorem startOf_add_length_le {isBreak : α → Bool} {as part : List α} {index : Nat}
    (h : (split isBreak as)[index]? = some part) :
    startOf (split isBreak as) index + part.length ≤ as.length := by
  have hNext := startOf_succ h
  have hInside := (List.getElem?_eq_some_iff.1 h).1
  have hEnd : startOf (split isBreak as) (index + 1) ≤ _ := startOf_mono hInside
  rw [startOf_length_split] at hEnd
  omega

/-- Only marks that differ stand beside each other. -/
theorem Apart.isChain {rs : List (α × List β)} (h : Apart rs) :
    (rs.map Prod.fst).IsChain (· ≠ ·) := by
  match rs, h with
  | [], _ => exact .nil
  | [_], _ => exact .singleton _
  | r :: s :: later, h => exact List.isChain_cons_cons.2 ⟨h.1, Apart.isChain h.2⟩

section
variable [DecidableEq α] (bs : List (β × α))

/-- The items of the runs are the items. -/
theorem flatMap_items_runs : (runs bs).flatMap Prod.snd = bs.map Prod.fst := by
  conv_rhs => rw [← flatMap_runs bs, List.map_flatMap]
  simp only [List.map_map, Function.comp_def, List.map_id']

/-- The marks of the runs, each as often as its run has items, are the marks of the items. -/
theorem flatMap_marks_runs :
    ((runs bs).flatMap fun r => List.replicate r.2.length r.1) = bs.map Prod.snd := by
  conv_rhs => rw [← flatMap_runs bs, List.map_flatMap]
  simp only [List.map_map, Function.comp_def, List.map_const']

end

end Text

-- ---------------------------------------------------------------------------
-- The range of a line
-- ---------------------------------------------------------------------------

/-- The offsets of a span. -/
def Span.offsets (s : Span) : List Nat := List.range' s.start (s.stop - s.start)

theorem Span.mem_offsets_iff {s : Span} {offset : Nat} :
    offset ∈ s.offsets ↔ s.contains offset = true := by
  rw [offsets, List.mem_range'_1, contains_eq_true_iff]
  omega

theorem Span.length_offsets (s : Span) : s.offsets.length = s.stop - s.start := List.length_range'

namespace OwnerMap

section
variable {source : String} {tokens : List Token} {m : OwnerMap} {line : Nat}

theorem chars_of_ofTokens (h : ofTokens source tokens = .ok m) : m.chars = source.toList := by
  rw [(ofTokens_eq_ok_iff.1 h).2]

/-- An owner map has an owner, or none, for each character. -/
theorem length_owners_of_ofTokens (h : ofTokens source tokens = .ok m) :
    m.owners.length = m.chars.length := by
  rw [(ofTokens_eq_ok_iff.1 h).2, List.length_map, List.length_range, String.length_toList]

/-- A line ends behind its last character, within the source. -/
theorem lineRange_eq (h : ofTokens source tokens = .ok m) {cells : List (Char × Option Nat)}
    (hLine : m.lines[line]? = some cells) :
    m.lineRange line = ⟨m.lineStart line, m.lineStart line + cells.length⟩ ∧
      m.lineStart line + cells.length ≤ m.chars.length := by
  have hZip : (m.chars.zip m.owners).length = m.chars.length := by
    rw [List.length_zip, length_owners_of_ofTokens h, Nat.min_self]
  have hWithin : m.lineStart line + cells.length ≤ (m.chars.zip m.owners).length :=
    Text.startOf_add_length_le hLine
  have hNext : m.lineStart (line + 1) = m.lineStart line + cells.length + 1 :=
    Text.startOf_succ hLine
  have hEnd : m.lineStart m.lineCount = (m.chars.zip m.owners).length + 1 :=
    Text.startOf_length_split _ _
  rw [hZip] at hWithin hEnd
  refine ⟨?_, hWithin⟩
  -- a line ends where the next one begins, less its break; the last one has no break, and all parts
  -- and breaks are one longer than the source
  rw [lineRange, Span.mk.injEq, and_iff_right rfl]
  split
  · rw [hNext, Nat.add_sub_cancel]
  · next hLast =>
    have hInside : line < m.lineCount := (List.getElem?_eq_some_iff.1 hLine).1
    have hCount : m.lineCount = line + 1 := Nat.le_antisymm (Nat.le_of_not_lt hLast) hInside
    rw [hCount] at hEnd
    omega

/-- The owners of the offsets of a span are found in a row. -/
theorem map_ownerOf?_offsets {span : Span} (h : span.stop ≤ m.owners.length) :
    span.offsets.map m.ownerOf? = (m.owners.drop span.start).take (span.stop - span.start) := by
  refine List.ext_getElem ?_ ?_
  · rw [List.length_map, Span.length_offsets, List.length_take, List.length_drop]
    omega
  · intro i hLeft hRight
    rw [List.length_map, Span.length_offsets] at hLeft
    have hInside : span.start + i < m.owners.length := by omega
    simp only [Span.offsets, List.getElem_map, List.getElem_range', List.getElem_take,
      List.getElem_drop, Nat.one_mul, ownerOf?, List.getElem?_eq_getElem hInside, Option.join_some]

/-- On a line stand the characters of its range, each with its owner. -/
theorem getElem?_lines (h : ofTokens source tokens = .ok m) (hLine : line < m.lineCount) :
    ∃ cells, m.lines[line]? = some cells ∧
      cells.map Prod.fst = (m.lineRange line).slice source.toList ∧
      cells.map Prod.snd = (m.lineRange line).offsets.map m.ownerOf? := by
  have hPart : m.lines[line]? = some (((m.chars.zip m.owners).drop (m.lineStart line)).takeWhile
      fun cell => !(cell.1 == '\n')) := Text.getElem?_split hLine
  refine ⟨_, hPart, ?_⟩
  generalize hCells : ((m.chars.zip m.owners).drop (m.lineStart line)).takeWhile
    (fun cell => !(cell.1 == '\n')) = cells at hPart
  obtain ⟨hRange, hWithin⟩ := lineRange_eq h hPart
  have hOwners : m.lineStart line + cells.length ≤ m.owners.length := by
    rwa [length_owners_of_ofTokens h]
  -- the cells are characters with their owners, cut out of both lists at the same places
  have hTaken : cells = ((m.chars.drop (m.lineStart line)).take cells.length).zip
      ((m.owners.drop (m.lineStart line)).take cells.length) := by
    rw [List.zip_eq_zipWith, ← List.take_zipWith, ← List.drop_zipWith, ← List.zip_eq_zipWith,
      ← List.prefix_iff_eq_take, ← hCells]
    exact List.takeWhile_prefix _
  have hLength : ((m.chars.drop (m.lineStart line)).take cells.length).length =
      ((m.owners.drop (m.lineStart line)).take cells.length).length := by
    simp only [List.length_take, List.length_drop]
    omega
  rw [hRange, map_ownerOf?_offsets hOwners, Span.slice, ← chars_of_ofTokens h,
    Nat.add_sub_cancel_left]
  constructor
  · conv_lhs => rw [hTaken]
    exact List.map_fst_zip (Nat.le_of_eq hLength)
  · conv_lhs => rw [hTaken]
    exact List.map_snd_zip (Nat.le_of_eq hLength.symm)

/-- The lines of the source are what stands in the ranges. -/
theorem map_slice_lineRange (h : ofTokens source tokens = .ok m) :
    ((List.range m.lineCount).map fun line => (m.lineRange line).slice source.toList) =
      Text.split (· == '\n') source.toList := by
  rw [← map_lines h]
  refine List.ext_getElem (by rw [List.length_map, List.length_range, List.length_map]; rfl) ?_
  intro line hLeft hRight
  rw [List.length_map, List.length_range] at hLeft
  obtain ⟨cells, hCells, hChars, -⟩ := getElem?_lines h hLeft
  obtain ⟨hInside, rfl⟩ := List.getElem?_eq_some_iff.1 hCells
  rw [List.getElem_map, List.getElem_range, List.getElem_map, hChars]

-- ---------------------------------------------------------------------------
-- When a line can be shown
-- ---------------------------------------------------------------------------

/-- A line of the source can be shown when the owners of its characters are among the tokens. -/
theorem exists_highlight_iff_lineRange (h : ofTokens source tokens = .ok m) {shown : List Token}
    {selected : Nat} :
    (∃ segments, m.highlight line shown selected = .ok segments) ↔
      line < m.lineCount ∧ ∀ offset, (m.lineRange line).contains offset = true →
        ∀ i, m.ownerOf? offset = some i → i < shown.length := by
  rw [exists_highlight_iff]
  constructor
  · rintro ⟨cells, hCells, hOwned⟩
    have hLine : line < m.lineCount := (List.getElem?_eq_some_iff.1 hCells).1
    obtain ⟨cells', hCells', -, hOwners⟩ := getElem?_lines h hLine
    obtain rfl := Option.some.inj (hCells.symm.trans hCells')
    refine ⟨hLine, fun offset hOffset i hOwner => ?_⟩
    have hMem : m.ownerOf? offset ∈ cells.map Prod.snd :=
      hOwners ▸ List.mem_map_of_mem (Span.mem_offsets_iff.2 hOffset)
    obtain ⟨cell, hCell, hSame⟩ := List.mem_map.1 hMem
    exact hOwned cell hCell i (hSame.trans hOwner)
  · rintro ⟨hLine, hOwned⟩
    obtain ⟨cells, hCells, -, hOwners⟩ := getElem?_lines h hLine
    refine ⟨cells, hCells, fun cell hCell i hOwner => ?_⟩
    have hMem : cell.2 ∈ (m.lineRange line).offsets.map m.ownerOf? :=
      hOwners ▸ List.mem_map_of_mem hCell
    obtain ⟨offset, hOffset, hSame⟩ := List.mem_map.1 hMem
    exact hOwned offset (Span.mem_offsets_iff.1 hOffset) i (hSame.trans hOwner)

end

-- ---------------------------------------------------------------------------
-- What is shown of a line
-- ---------------------------------------------------------------------------

/-- The style of characters that belong to a token of a list, or to none. The selected token has a
ground of its own and is bold. -/
def HasStyleOf (tokens : List Token) (selected : Nat) (style : Style) : Option Nat → Prop
  | none => style = { fg := some Palette.grey }
  | some i => ∃ t, tokens[i]? = some t ∧
      style = if i = selected then
          { Palette.ofKind t.kind with bg := some Palette.selection, bold := true }
        else Palette.ofKind t.kind

/-- Segments show a line of a source, where each of them belongs to one owner. -/
structure ShowsLine (source : String) (m : OwnerMap) (line : Nat) (tokens : List Token)
    (selected : Nat) (segments : List Segment) (owners : List (Option Nat)) : Prop where
  full : ∀ s ∈ segments, s.text.toList ≠ []
  /-- The texts one after another are the characters of the line, control characters as spaces. -/
  chars : segments.flatMap (·.text.toList) =
    ((m.lineRange line).slice source.toList).map fun c => if Unicode.isControl c then ' ' else c
  /-- The owner of a segment is the owner of each of its characters. -/
  owned : (List.zipWith (fun s owner => List.replicate s.text.toList.length owner)
    segments owners).flatten = (m.lineRange line).offsets.map m.ownerOf?
  apart : owners.IsChain (· ≠ ·)
  styled : List.Forall₂ (fun s owner => HasStyleOf tokens selected s.style owner) segments owners

/-- The style that is found for an owner is the one it should have. -/
theorem hasStyleOf_of_styleOf {owner : Option Nat} {tokens : List Token} {selected : Nat}
    {style : Style} (h : styleOf owner tokens selected = .ok style) :
    HasStyleOf tokens selected style owner := by
  cases owner with
  | none =>
    cases h
    rfl
  | some i =>
    obtain ⟨t, hToken, rfl⟩ := styleOf_some_eq_ok_iff.1 h
    have hSelected : (Palette.ofKind t.kind).under Palette.selectedToken =
        { Palette.ofKind t.kind with bg := some Palette.selection, bold := true } := by
      cases t.kind <;> rfl
    exact ⟨t, hToken, by rw [hSelected]⟩

/-- A segment shows the characters of a run in the style of their owner. -/
def ShowsRun (tokens : List Token) (selected : Nat) (run : Option Nat × List Char) (s : Segment) :
    Prop :=
  s.text.toList = run.2.map visible ∧ HasStyleOf tokens selected s.style run.1

/-- A segment that is made of a run shows that run. -/
theorem showsRun_of_segment {tokens : List Token} {selected : Nat} {run : Option Nat × List Char}
    {s : Segment} (h : segment tokens selected run = .ok s) : ShowsRun tokens selected run s := by
  obtain ⟨style, hStyle, hEnd⟩ := bind_eq_ok_iff.1 h
  cases hEnd
  exact ⟨String.toList_ofList, hasStyleOf_of_styleOf hStyle⟩

/-- What is shown of a line are its characters in the styles of their owners, in as few segments as
there can be. -/
theorem showsLine_of_highlight {source : String} {tokens shown : List Token} {m : OwnerMap}
    {line selected : Nat} {segments : List Segment} (h : ofTokens source tokens = .ok m)
    (hShown : m.highlight line shown selected = .ok segments) :
    ∃ owners, ShowsLine source m line shown selected segments owners := by
  have hLine := ((exists_highlight_iff_lineRange h).1 ⟨segments, hShown⟩).1
  obtain ⟨cells, hCells, hChars, hOwners⟩ := getElem?_lines h hLine
  rw [highlight, hCells] at hShown
  have hRuns : List.Forall₂ (ShowsRun shown selected) (Text.runs cells) segments :=
    (mapM_eq_ok_iff.1 hShown).imp fun _ _ => showsRun_of_segment
  have hTexts : segments.map (·.text.toList) =
      (Text.runs cells).map fun run => run.2.map visible :=
    map_eq_of_forall₂ hRuns And.left
  -- there is one segment for each run of the line, so the laws of segments are laws of runs
  refine ⟨(Text.runs cells).map Prod.fst, ?full, ?chars, ?owned, (Text.runs_apart cells).isChain,
    ?styled⟩
  case full =>
    intro s hs hNone
    have hMem : s.text.toList ∈ (Text.runs cells).map fun run => run.2.map visible :=
      hTexts ▸ List.mem_map_of_mem hs
    obtain ⟨run, hRun, hText⟩ := List.mem_map.1 hMem
    rw [hNone, List.map_eq_nil_iff] at hText
    exact Text.runs_ne_nil hRun hText
  case chars =>
    rw [List.flatMap_def, hTexts, ← List.flatMap_def, ← List.map_flatMap, Text.flatMap_items_runs,
      hChars]
    rfl
  case owned =>
    rw [← hOwners, ← Text.flatMap_marks_runs cells, List.flatMap_def]
    congr 1
    rw [← List.zipWith_map_left (f := fun s : Segment => s.text.toList)
      (g := fun text owner => List.replicate text.length owner), hTexts, List.zipWith_map,
      List.zipWith_self]
    simp only [List.length_map]
  case styled => exact List.forall₂_map_right_iff.2 (hRuns.flip.imp fun _ _ => And.right)

/-- **Lines are shown without loss and in the right colours.** Take any source, any tokens that an
owner map can be made of, and any tokens to show it with. There is one line more than there are line
breaks, and the lines with line breaks between them are the source. A line cannot be shown just when
it does not exist or one of its characters belongs to a token that is not there. And else the
segments show the line: its characters, grouped by their owners, in the styles of these. -/
theorem highlight_lines {source : String} {tokens : List Token} {m : OwnerMap}
    (h : ofTokens source tokens = .ok m) :
    m.lineCount = 1 + source.toList.count '\n' ∧
      Text.join '\n' ((List.range m.lineCount).map fun line =>
        (m.lineRange line).slice source.toList) = source.toList ∧
      ∀ (shown : List Token) (selected line : Nat),
        ((∃ fault, m.highlight line shown selected = .error fault) ↔
          m.lineCount ≤ line ∨ ∃ offset i, (m.lineRange line).contains offset = true ∧
            m.ownerOf? offset = some i ∧ shown.length ≤ i) ∧
        ∀ segments, m.highlight line shown selected = .ok segments →
          ∃ owners, ShowsLine source m line shown selected segments owners := by
  refine ⟨?count, ?joined, fun shown selected line => ⟨?fault, fun segments hShown => ?shown⟩⟩
  case count => rw [lineCount_of_ofTokens h, Nat.add_comm]
  case joined => rw [map_slice_lineRange h, Text.join_split]
  case fault =>
    rw [exists_error_iff, exists_highlight_iff_lineRange h, not_and_or, Nat.not_lt]
    simp only [not_forall, Nat.not_lt, exists_prop]
    refine or_congr_right (exists_congr fun offset => ?_)
    rw [exists_and_left]
  case shown => exact showsLine_of_highlight h hShown

/-- A token lies over another one, which is then taken away. The line that only the first one is on
can still be shown. -/
theorem highlight_lines_of_overlap :
    let outer : Token := ⟨.stringLiteral, "a\tb\n", ⟨1, 1⟩, ⟨0, 5⟩⟩
    let inner : Token := ⟨.number, "", ⟨1, 2⟩, ⟨1, 3⟩⟩
    ∃ m, ofTokens "a\tb\nc" [outer, inner] = .ok m ∧
      (∃ fault, m.highlight 0 [outer] 0 = .error fault) ∧
      ∃ segments owners, m.highlight 1 [outer] 0 = .ok segments ∧
        ShowsLine "a\tb\nc" m 1 [outer] 0 segments owners := by
  intro outer inner
  let m : OwnerMap := ⟨['a', '\t', 'b', '\n', 'c'], [some 0, some 1, some 1, some 0, some 0]⟩
  have hMap : ofTokens "a\tb\nc" [outer, inner] = .ok m := by decide +kernel
  have hSecond : (m.highlight 1 [outer] 0).isOk = true := by decide +kernel
  obtain ⟨-, -, hLines⟩ := highlight_lines hMap
  refine ⟨m, hMap, (hLines [outer] 0 0).1.2 (.inr ⟨1, 1, by decide, by decide, by decide⟩), ?_⟩
  obtain ⟨segments, hShown⟩ := exists_ok_of_isOk hSecond
  obtain ⟨owners, hOwners⟩ := (hLines [outer] 0 1).2 segments hShown
  exact ⟨segments, owners, hShown, hOwners⟩

end OwnerMap

end CTokens
