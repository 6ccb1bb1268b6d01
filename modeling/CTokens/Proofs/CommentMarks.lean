import CTokens.Proofs.Partition

/-!
# CTokens — where comments begin and end

Two slashes begin a comment, and so do a slash and a star, unless they stand in a comment or a
literal already. No other lexeme has a slash anywhere but at its beginning, and the only ones that
begin with a slash are operators, which give way to comments. So no slash that could open a comment
is taken by something else.

A comment ends where a search ends: one search looks for a line break, the other for the closing
mark behind the opening one. A search finds the first place or none, and then the comment ends with
the source.

Main results:

* `Lexeme.Begins.slash_cases` — where a slash may stand in a lexeme;
* `Comment.exists_finds_lineComment`, `Comment.exists_finds_blockComment` — how far comments reach;
* `exists_comment_or_inside` — a mark begins a comment or stands inside of something;
* `scan_comments` — the comments of a scan are those of its source.
-/

namespace CTokens

open Unicode

-- ---------------------------------------------------------------------------
-- Looking for a mark
-- ---------------------------------------------------------------------------

/-- Looking for a mark from an offset on finds the first place where the text goes on with it, if
there is one. -/
inductive Finds (mark cs : List Char) (start : Nat) : Option Nat → Prop
  | found {place : Nat} (hBehind : start ≤ place) (hHere : mark <+: cs.drop place)
      (hFirst : ∀ i, start ≤ i → i < place → ¬ mark <+: cs.drop i) :
      Finds mark cs start (some place)
  | absent (hNone : ∀ i, start ≤ i → ¬ mark <+: cs.drop i) : Finds mark cs start none

/-- A mark that a text begins with is found at once. -/
theorem Finds.here {mark cs : List Char} (h : mark <+: cs) : Finds mark cs 0 (some 0) :=
  .found (Nat.le_refl 0) h fun i _ hBefore => absurd hBefore (Nat.not_lt_zero i)

/-- Where the mark is not at once, it is looked for further on. -/
theorem Finds.cons {mark cs : List Char} {c : Char} {r : Option Nat} (h : Finds mark cs 0 r)
    (hNot : ¬ mark <+: c :: cs) : Finds mark (c :: cs) 0 (r.map (· + 1)) := by
  cases h with
  | @found place hBehind hHere hFirst =>
    refine .found (Nat.zero_le _) hHere ?_
    intro i _ hBefore
    cases i with
    | zero => exact hNot
    | succ i => exact hFirst i (Nat.zero_le i) (Nat.lt_of_succ_lt_succ hBefore)
  | absent hNone =>
    refine .absent ?_
    intro i _
    cases i with
    | zero => exact hNot
    | succ i => exact hNone i (Nat.zero_le i)

/-- A text before the one that is searched only shifts the offsets. -/
theorem Finds.behind {mark cs : List Char} {start : Nat} {r : Option Nat}
    (h : Finds mark cs start r) (before : List Char) :
    Finds mark (before ++ cs) (before.length + start) (r.map (before.length + ·)) := by
  have hDrop (i : Nat) : (before ++ cs).drop (before.length + i) = cs.drop i := by
    rw [← List.drop_drop, List.drop_left]
  cases h with
  | @found place hBehind hHere hFirst =>
    refine .found (Nat.add_le_add_left hBehind _) (by rwa [hDrop]) ?_
    intro i hStart hBefore
    obtain ⟨j, rfl⟩ := Nat.exists_eq_add_of_le (Nat.le_of_add_right_le hStart)
    rw [hDrop]
    exact hFirst j (Nat.le_of_add_le_add_left hStart) (Nat.lt_of_add_lt_add_left hBefore)
  | absent hNone =>
    refine .absent ?_
    intro i hStart
    obtain ⟨j, rfl⟩ := Nat.exists_eq_add_of_le (Nat.le_of_add_right_le hStart)
    rw [hDrop]
    exact hNone j (Nat.le_of_add_le_add_left hStart)

namespace Comment

/-- The body of a line comment reaches up to the next line break, or to the end. -/
theorem exists_finds_lineBody (cs : List Char) :
    ∃ r, Finds ['\n'] cs 0 r ∧ (lineBody cs).length = r.getD cs.length := by
  induction cs with
  | nil => exact ⟨none, .absent (by simp), rfl⟩
  | cons c cs ih =>
    by_cases hBreak : c = '\n'
    · subst hBreak
      exact ⟨some 0, .here ⟨cs, rfl⟩, rfl⟩
    · obtain ⟨r, hFinds, hLength⟩ := ih
      refine ⟨r.map (· + 1), hFinds.cons ?_, ?_⟩
      · intro hMark
        exact hBreak (List.cons_prefix_cons.1 hMark).1.symm
      · have hTaken : lineBody (c :: cs) = c :: lineBody cs :=
          List.takeWhile_cons_of_pos (bne_iff_ne.2 hBreak)
        rw [hTaken, List.length_cons, hLength]
        cases r <;> rfl

/-- The body of a block comment reaches beyond the next closing mark, or to the end. -/
theorem exists_finds_blockBody (cs : List Char) :
    ∃ r, Finds closing cs 0 r ∧ (blockBody cs).chars.length = (r.map (· + 2)).getD cs.length := by
  fun_induction blockBody cs with
  | case1 => exact ⟨none, .absent (by simp [closing]), rfl⟩
  | case2 c rest hClosing =>
    exact ⟨some 0, .here (List.isPrefixOf_iff_prefix.1 hClosing), rfl⟩
  | case3 c rest hClosing b ih =>
    obtain ⟨r, hFinds, hLength⟩ := ih
    refine ⟨r.map (· + 1), hFinds.cons (fun h => hClosing (List.isPrefixOf_iff_prefix.2 h)), ?_⟩
    show b.chars.length + 1 = _
    rw [hLength]
    cases r <;> rfl

/-- A line comment reaches up to the first line break from its slashes on. -/
theorem exists_finds_lineComment (before ahead : List Char) :
    ∃ r, Finds ['\n'] (before ++ (Lexeme.lineMark ++ ahead)) before.length r ∧
      before.length + (Lexeme.lineMark ++ lineBody ahead).length =
        r.getD (before ++ (Lexeme.lineMark ++ ahead)).length := by
  obtain ⟨r, hFinds, hLength⟩ := exists_finds_lineBody ahead
  have hSlash (cs : List Char) : ¬ ['\n'] <+: '/' :: cs := by
    intro hMark
    exact absurd (List.cons_prefix_cons.1 hMark).1 (by decide)
  have hHere := ((hFinds.cons (hSlash _)).cons (hSlash _)).behind before
  refine ⟨_, hHere, ?_⟩
  rw [List.length_append, List.length_append, List.length_append, hLength]
  cases r with
  | none => rfl
  | some place =>
    show before.length + (2 + place) = before.length + (place + 1 + 1)
    omega

/-- A block comment reaches beyond the first closing mark behind its opening one. -/
theorem exists_finds_blockComment (before ahead : List Char) :
    ∃ r, Finds closing (before ++ (opening ++ ahead)) (before.length + 2) r ∧
      before.length + (opening ++ (blockBody ahead).chars).length =
        (r.map (· + 2)).getD (before ++ (opening ++ ahead)).length := by
  obtain ⟨r, hFinds, hLength⟩ := exists_finds_blockBody ahead
  have hHere := hFinds.behind (before ++ opening)
  rw [List.append_assoc, List.length_append] at hHere
  refine ⟨_, hHere, ?_⟩
  rw [List.length_append, List.length_append, List.length_append, hLength]
  cases r with
  | none => rfl
  | some place =>
    show before.length + (2 + (place + 2)) = before.length + 2 + place + 2
    omega

end Comment

-- ---------------------------------------------------------------------------
-- Where a slash may stand
-- ---------------------------------------------------------------------------

namespace Lexeme

/-- An operator has a slash nowhere but at its beginning. -/
theorem eq_zero_of_slash_mem_operator {op : String} (hOp : op ∈ operators) {k : Nat}
    (h : op.toList[k]? = some '/') : k = 0 := by
  have hAll : ∀ op ∈ operators, '/' ∉ op.toList.tail := by decide
  cases k with
  | zero => rfl
  | succ k =>
    refine absurd ?_ (hAll op hOp)
    rw [← List.getElem?_tail] at h
    exact List.mem_of_getElem? h

/-- A slash stands in a comment, or in a literal behind its quote, or begins an operator where no
comment begins. -/
theorem Begins.slash_cases {c : Char} {rest : List Char} {l : Lexeme} (h : Begins c rest l)
    {k : Nat} (hSlash : l.chars[k]? = some '/') :
    l.kind = .comment ∨ (l.kind.quote?.isSome = true ∧ 0 < k) ∨
      (k = 0 ∧ ¬ lineMark <+: c :: rest ∧ ¬ Comment.opening <+: c :: rest) := by
  have hMem := List.mem_of_getElem? hSlash
  cases h with
  | lineComment hMark => exact .inl rfl
  | blockComment hMark => exact .inl rfl
  | word hFirst =>
    rcases List.mem_cons.1 hMem with rfl | hLater
    · exact absurd hFirst (by decide +kernel)
    · have hInner := List.all_eq_true.1 List.all_takeWhile _ hLater
      exact absurd hInner (by decide +kernel)
  | number hFirst =>
    have hForms := Numeral.forms_of_mem_read (List.mem_append_left _ hMem)
    exact absurd hForms (by decide)
  | @quoted mark hFirst =>
    refine .inr (.inl ⟨?_, ?_⟩)
    · rw [kind, QuoteMark.quote?_kind]
      rfl
    · rw [Nat.pos_iff_ne_zero]
      rintro rfl
      have hQuote : mark.char = '/' := Option.some.inj hSlash
      cases mark <;> exact absurd hQuote (by decide)
  | delimiter hFirst =>
    rw [chars, List.mem_singleton] at hMem
    exact absurd (hMem ▸ hFirst) (by decide)
  | operator hLine hBlock hFirst =>
    exact .inr (.inr ⟨eq_zero_of_slash_mem_operator (mem_operators_of_operatorAt? hFirst) hSlash,
      hLine, hBlock⟩)
  | unknown hWord hNumber hQuote hDelimiter hOperator =>
    rw [chars, List.mem_singleton] at hMem
    exact absurd hMem.symm (ne_slash_of_operatorAt? hOperator)

/-- A comment begins with one of the marks. -/
theorem Begins.comment_cases {c : Char} {rest : List Char} {l : Lexeme} (h : Begins c rest l)
    (hComment : l.kind = .comment) :
    (lineMark <+: c :: rest ∧ l = .lineComment (Comment.lineBody rest.tail)) ∨
      (Comment.opening <+: c :: rest ∧ l = .blockComment (Comment.blockBody rest.tail)) := by
  have hIs : l.isComment = true := by rw [isComment, hComment, beq_self_eq_true]
  cases h with
  | lineComment hMark => exact .inl ⟨hMark, rfl⟩
  | blockComment hMark => exact .inr ⟨hMark, rfl⟩
  | word =>
    rw [isComment_word] at hIs
    cases hIs
  | quoted =>
    rw [isComment_quoted] at hIs
    cases hIs
  | number | delimiter | operator | unknown => cases hComment

/-- A comment begins with one mark only, and that one tells how far it reaches. -/
theorem Begins.exists_finds {c : Char} {rest : List Char} {l : Lexeme} (h : Begins c rest l)
    (hComment : l.kind = .comment) (before : List Char) :
    (lineMark <+: c :: rest ∨ Comment.opening <+: c :: rest) ∧
      (lineMark <+: c :: rest → ∃ r, Finds ['\n'] (before ++ c :: rest) before.length r ∧
        before.length + l.chars.length = r.getD (before ++ c :: rest).length) ∧
      (Comment.opening <+: c :: rest →
        ∃ r, Finds Comment.closing (before ++ c :: rest) (before.length + 2) r ∧
          before.length + l.chars.length = (r.map (· + 2)).getD (before ++ c :: rest).length) := by
  rcases h.comment_cases hComment with ⟨hMark, rfl⟩ | ⟨hMark, rfl⟩
  · obtain ⟨body, hBody⟩ := hMark
    obtain ⟨rfl, rfl⟩ := List.cons.inj hBody
    refine ⟨.inl ⟨body, rfl⟩, fun _ => Comment.exists_finds_lineComment before body, ?_⟩
    intro hOther
    exact absurd (List.cons_prefix_cons.1 (List.cons_prefix_cons.1 hOther).2).1 (by decide)
  · obtain ⟨body, hBody⟩ := hMark
    obtain ⟨rfl, rfl⟩ := List.cons.inj hBody
    refine ⟨.inr ⟨body, rfl⟩, ?_, fun _ => Comment.exists_finds_blockComment before body⟩
    intro hOther
    exact absurd (List.cons_prefix_cons.1 (List.cons_prefix_cons.1 hOther).2).1 (by decide)

end Lexeme

-- ---------------------------------------------------------------------------
-- The comments of a scan
-- ---------------------------------------------------------------------------

/-- Where a source goes on with the mark of a comment, a literal or a comment goes on, or a comment
begins. -/
theorem exists_comment_or_inside {s : String} {p : Nat}
    (hMark : Lexeme.lineMark <+: s.toList.drop p ∨ Comment.opening <+: s.toList.drop p) :
    (∃ t ∈ scan s true, (t.kind.quote?.isSome = true ∨ t.kind = .comment) ∧
        t.span.start < p ∧ p < t.span.stop) ∨
      ∃ t ∈ scan s true, t.kind = .comment ∧ t.span.start = p := by
  have hSlash : s.toList[p]? = some '/' := by
    rw [← List.head?_drop]
    rcases hMark with ⟨rest, hText⟩ | ⟨rest, hText⟩
    · rw [← hText]
      rfl
    · rw [← hText]
      rfl
  -- the mark begins with a slash, which lies in a lexeme; where a slash may stand in one tells the
  -- rest
  rcases isWhiteSpace_or_mem_lexeme hSlash with hBlank | ⟨qs, l, rs, k, hPieces, rfl, hWithin⟩
  · exact absurd hBlank (by decide +kernel)
  · obtain ⟨c, rest, hAhead, -, hBegins⟩ := Piece.begins_of_read (read_of_pieces_eq_append hPieces)
    have hToken := @tokenBehind_mem_scan s true qs l rs hPieces (fun _ => rfl)
    have hInside := l.contains_tokenBehind (qs.flatMap Piece.chars) hWithin
    rw [Span.contains_eq_true_iff] at hInside
    rcases hBegins.slash_cases hWithin with hComment | ⟨hQuote, hBehind⟩ | ⟨rfl, hLine, hBlock⟩
    · by_cases hFirst : k = 0
      · exact .inr ⟨_, hToken, hComment, by rw [hFirst]; rfl⟩
      · have hBehind : 0 < k := Nat.pos_of_ne_zero hFirst
        exact .inl ⟨_, hToken, .inr hComment, Nat.lt_add_of_pos_right hBehind, hInside.2⟩
    · exact .inl ⟨_, hToken, .inl hQuote, Nat.lt_add_of_pos_right hBehind, hInside.2⟩
    · -- the slash begins an operator, and behind the pieces before it no comment begins
      have hText := flatMap_pieces s.toList
      rw [hPieces, List.flatMap_append, List.flatMap_cons] at hText
      rw [← hText, Nat.add_zero, List.drop_left] at hMark
      rw [← hAhead] at hLine hBlock
      exact absurd hMark (not_or.2 ⟨hLine, hBlock⟩)

/-- **Comments are found where they begin, and reach as far as their mark says.** Where a source
goes on with two slashes, or with a slash and a star, a comment begins, unless the place lies within
a literal or a comment that began before. A comment shows all that it covers. It begins with one of
the two marks: with two slashes it reaches up to the first line break from there on, with a slash
and a star beyond the first closing mark behind these two, and to the end of the source where there
is none. -/
theorem scan_comments (s : String) :
    (∀ p, (Lexeme.lineMark <+: s.toList.drop p ∨ Comment.opening <+: s.toList.drop p) →
      ((∃ t ∈ scan s true, t.kind = .comment ∧ t.span.start = p) ↔
        ¬ ∃ t ∈ scan s true, (t.kind.quote?.isSome = true ∨ t.kind = .comment) ∧
          t.span.start < p ∧ p < t.span.stop)) ∧
    ∀ t ∈ scan s true, t.kind = .comment →
      t.text.toList = t.span.slice s.toList ∧
      (Lexeme.lineMark <+: s.toList.drop t.span.start ∨
        Comment.opening <+: s.toList.drop t.span.start) ∧
      (Lexeme.lineMark <+: s.toList.drop t.span.start →
        ∃ r, Finds ['\n'] s.toList t.span.start r ∧ t.span.stop = r.getD s.length) ∧
      (Comment.opening <+: s.toList.drop t.span.start →
        ∃ r, Finds Comment.closing s.toList (t.span.start + 2) r ∧
          t.span.stop = (r.map (· + 2)).getD s.length) := by
  refine ⟨?marks, ?comments⟩
  case marks =>
    intro p hMark
    constructor
    · rintro ⟨t, ht, hComment, rfl⟩ ⟨u, hu, -, hBefore, hBeyond⟩
      have hStart := contains_start_of_mem_scan ht (by rw [hComment]; decide)
      have hUnder := Span.contains_eq_true_iff.2 ⟨Nat.le_of_lt hBefore, hBeyond⟩
      rw [eq_of_contains hu ht hUnder hStart] at hBefore
      exact Nat.lt_irrefl _ hBefore
    · intro hOutside
      exact (exists_comment_or_inside hMark).resolve_left hOutside
  case comments =>
    intro t ht hComment
    obtain ⟨before, l, rest, hText, rfl, hRead⟩ :=
      exists_lexeme_of_mem_scan ht (by rw [hComment]; decide)
    -- how far the lexeme reaches is told by the text from its first character on, and then carried
    -- to where it stands
    obtain ⟨c, ahead, hAhead, -, hBegins⟩ := Piece.begins_of_read hRead
    have hShown : l.shown = l.chars := by
      have hKind : l.kind = .comment := hComment
      exact Lexeme.shown_eq_chars (by rw [hKind]; rfl)
    have hSlice := l.slice_tokenBehind before rest
    have hFinds := hBegins.exists_finds hComment before
    rw [← hText] at hSlice
    rw [hAhead] at hText
    have hDrop : s.toList.drop (l.tokenBehind before).span.start = c :: ahead := by
      rw [hText]
      exact List.drop_left
    rw [← hText, String.length_toList, ← hDrop] at hFinds
    refine ⟨?_, hFinds⟩
    rw [hSlice, ← hShown]
    exact String.toList_ofList

end CTokens
