import CTokens.Proofs.Breaks
import CTokens.Proofs.Partition
import CTokens.Proofs.Restart

/-!
# CTokens — comments as white space

A scan that drops comments treats them as the white space that could stand in their place. Blanked
out character by character, with the line breaks left, a comment takes as much room as before. So
what follows stands where it stood. What precedes ends where it ended: there the first slash of the
comment has become a space, and a lexeme that a slash has stopped is stopped by a space.

Main statements:

* `blankedText`, `blankedFrom_scan` — the blanked text piece by piece, and that it is the one which
  the spans of comments say;
* `exists_cut_blankedText` — behind a lexeme, a text and its blanked text agree up to a break;
* `scan_blanked` — a source with its comments dropped and one with its comments blanked out have the
  same tokens.
-/

namespace CTokens

open Unicode

-- ---------------------------------------------------------------------------
-- Blanking a text out
-- ---------------------------------------------------------------------------

/-- What stands in the place of a character that is blanked out. Line breaks stay. -/
def blankChar (c : Char) : Char := if c = '\n' then c else ' '

/-- Whether an offset lies under a comment among the tokens. -/
def underComment (tokens : List Token) (offset : Nat) : Bool :=
  tokens.any fun t => t.kind == .comment && t.span.contains offset

/-- A text that begins at an offset, with its characters under comments blanked out. -/
def blankedFrom (tokens : List Token) (offset : Nat) (cs : List Char) : List Char :=
  cs.mapIdx fun i c => if underComment tokens (offset + i) then blankChar c else c

/-- A source with its comments blanked out. -/
def blanked (s : String) : String := String.ofList (blankedFrom (scan s true) 0 s.toList)

theorem isWhiteSpace_blankChar (c : Char) : isWhiteSpace (blankChar c) = true := by
  rw [blankChar]
  split
  · next hBreak =>
    rw [hBreak]
    decide
  · decide

/-- Line breaks stay, and no others come in. -/
theorem blankChar_eq_lineBreak_iff {c : Char} : blankChar c = '\n' ↔ c = '\n' := by
  rw [blankChar]
  split
  · rfl
  · next hOther =>
    constructor
    · intro hSpace
      cases hSpace
    · intro hBreak
      exact absurd hBreak hOther

/-- A text that is blanked out leads to the same location. -/
theorem Location.behind_map_blankChar (cs : List Char) :
    behind (cs.map blankChar) = behind cs := by
  have hBreak : (fun c => c == '\n') ∘ blankChar = fun c => c == '\n' := by
    funext c
    rw [Function.comp_apply, Bool.eq_iff_iff, beq_iff_eq, beq_iff_eq, blankChar_eq_lineBreak_iff]
  have hOther : (fun c => c != '\n') ∘ blankChar = fun c => c != '\n' := by
    funext c
    exact congrArg not (congrFun hBreak c)
  rw [behind, behind, List.count, List.countP_map, hBreak, ← List.map_reverse, List.takeWhile_map,
    hOther, List.length_map]

theorem blankedFrom_append (tokens : List Token) (offset : Nat) (a b : List Char) :
    blankedFrom tokens offset (a ++ b) =
      blankedFrom tokens offset a ++ blankedFrom tokens (offset + a.length) b := by
  rw [blankedFrom, List.mapIdx_append]
  simp only [blankedFrom, Nat.add_assoc, Nat.add_comm a.length]

/-- A text that lies under comments altogether or not at all is blanked out or left. -/
theorem blankedFrom_of_const {tokens : List Token} {offset : Nat} {cs : List Char} {b : Bool}
    (h : ∀ i < cs.length, underComment tokens (offset + i) = b) :
    blankedFrom tokens offset cs = if b then cs.map blankChar else cs := by
  refine List.ext_getElem ?_ ?_
  · rw [blankedFrom, List.length_mapIdx]
    split
    · rw [List.length_map]
    · rfl
  · intro i hLeft _
    rw [blankedFrom, List.length_mapIdx] at hLeft
    simp only [blankedFrom, List.getElem_mapIdx, h i hLeft]
    cases b with
    | true => simp
    | false => simp

-- ---------------------------------------------------------------------------
-- Blanking pieces out
-- ---------------------------------------------------------------------------

namespace Piece

/-- Whether a piece is a comment. -/
def isComment : Piece → Bool
  | blank _ => false
  | lexeme l => l.isComment

/-- The characters of a piece, blanked out if it is a comment. -/
def blanked (p : Piece) : List Char := if p.isComment then p.chars.map blankChar else p.chars

end Piece

/-- A text with its comments blanked out. -/
def blankedText (cs : List Char) : List Char := (pieces cs).flatMap Piece.blanked

theorem blankedText_nil : blankedText [] = [] := by
  rw [blankedText, pieces_nil, List.flatMap_nil]

/-- The first piece of a text is blanked out or left, and the rest is a text again. -/
theorem blankedText_append {p : Piece} {rest : List Char}
    (h : Piece.read (p.chars ++ rest) = some p) :
    blankedText (p.chars ++ rest) = p.blanked ++ blankedText rest := by
  rw [blankedText, pieces_append h, List.flatMap_cons, blankedText]

theorem underComment_append (ts us : List Token) (offset : Nat) :
    underComment (ts ++ us) offset = (underComment ts offset || underComment us offset) :=
  List.any_append

/-- An offset that lies under no token lies under no comment. -/
theorem underComment_of_apart {tokens : List Token} {offset : Nat}
    (h : ∀ t ∈ tokens, t.span.stop ≤ offset ∨ offset < t.span.start) :
    underComment tokens offset = false := by
  refine List.any_eq_false.2 ?_
  intro t ht
  have hApart := h t ht
  rw [Bool.and_eq_true, Span.contains_eq_true_iff]
  omega

/-- An offset in a piece lies under the comment that the piece is, if it is one. -/
theorem underComment_token? (before : List Char) {p : Piece} {i : Nat} (h : i < p.chars.length) :
    underComment (p.token? true before).toList (before.length + i) = p.isComment := by
  cases p with
  | blank ws => rfl
  | lexeme l =>
    have hInside : (l.tokenBehind before).span.contains (before.length + i) = true :=
      Span.contains_eq_true_iff.2 ⟨Nat.le_add_right _ _, Nat.add_lt_add_left h _⟩
    rw [Piece.token?_lexeme (fun _ => rfl), Option.toList_some, underComment, List.any_cons,
      List.any_nil, Bool.or_false, hInside, Bool.and_true]
    rfl

/-- It lies under no other comment: the tokens before the piece end before it, and those behind it
begin behind it. -/
theorem underComment_layout (before : List Char) (qs rs : List Piece) {p : Piece} {i : Nat}
    (h : i < p.chars.length) :
    underComment (layout true before (qs ++ p :: rs))
      ((before ++ qs.flatMap Piece.chars).length + i) = p.isComment := by
  rw [layout_append, layout, underComment_append, underComment_append, underComment_token? _ h,
    underComment_of_apart, underComment_of_apart, Bool.false_or, Bool.or_false]
  · intro t ht
    have hStart := (span_of_mem_layout ht).1
    rw [List.length_append] at hStart
    omega
  · intro t ht
    have hStop := (span_of_mem_layout ht).2
    omega

/-- Behind some of the pieces that are laid out, the others are blanked out one by one. -/
theorem blankedFrom_layout (qs rs : List Piece) :
    blankedFrom (layout true [] (qs ++ rs)) (qs.flatMap Piece.chars).length
      (rs.flatMap Piece.chars) = rs.flatMap Piece.blanked := by
  -- on the pieces still to come; those before are kept in `qs`, since the spans count from the
  -- beginning
  induction rs generalizing qs with
  | nil => rfl
  | cons p rs ih =>
    have hRest := ih (qs ++ [p])
    rw [List.append_assoc, List.singleton_append, List.flatMap_append, List.flatMap_singleton,
      List.length_append] at hRest
    have hUnder : ∀ i < p.chars.length, underComment (layout true [] (qs ++ p :: rs))
        ((qs.flatMap Piece.chars).length + i) = p.isComment := fun i hi =>
      underComment_layout [] qs rs hi
    rw [List.flatMap_cons, List.flatMap_cons, blankedFrom_append, hRest, Piece.blanked,
      blankedFrom_of_const hUnder]

/-- Blanked out by the spans of its comments, a source is blanked out piece by piece. -/
theorem blankedFrom_scan (s : String) :
    blankedFrom (scan s true) 0 s.toList = blankedText s.toList := by
  have hEnd (offset : Nat) : underComment (scan s true) offset =
      underComment (layout true [] (pieces s.toList)) offset := by
    rw [scan_eq_tokensBehind, tokensBehind, underComment_append]
    exact Bool.or_false _
  have hLaid := blankedFrom_layout [] (pieces s.toList)
  rw [List.nil_append, flatMap_pieces] at hLaid
  rw [blankedText, ← hLaid, blankedFrom, blankedFrom]
  -- the mark of the end is no comment, so the layout alone counts
  simp only [hEnd]
  rfl

example : blanked "a/* b\nc */d // e" = "a    \n    d     " := by decide +kernel

-- ---------------------------------------------------------------------------
-- Scanning a text that is blanked out
-- ---------------------------------------------------------------------------

/-- A text and its blanked text agree up to the first comment. There the blanked text goes on with
white space; it ends there if there is none. -/
theorem exists_cut_blankedText (cs : List Char) :
    ∃ kept rest tail : List Char, cs = kept ++ rest ∧ blankedText cs = kept ++ tail ∧
      IsBreak tail := by
  induction cs using Piece.induction with
  | nil => exact ⟨[], [], [], rfl, blankedText_nil, isBreak_nil⟩
  | piece p rest hRead ih =>
    rw [blankedText_append hRead, Piece.blanked]
    by_cases hComment : p.isComment = true
    · refine ⟨[], _, _, rfl, rfl, ?_⟩
      rw [if_pos hComment]
      cases hChars : p.chars with
      | nil => exact absurd hChars (Piece.chars_ne_nil hRead)
      | cons c cs => exact isBreak_cons (isWhiteSpace_blankChar c)
    · obtain ⟨kept, behind, tail, hRest, hBlanked, hBreak⟩ := ih
      rw [if_neg hComment, hBlanked, hRest]
      exact ⟨p.chars ++ kept, behind, tail, (List.append_assoc ..).symm,
        (List.append_assoc ..).symm, hBreak⟩

/-- A lexeme other than a comment ends before what is behind it also when that is blanked out. -/
theorem Lexeme.endsBefore_of_blankedText {l : Lexeme} {rest kept tail : List Char}
    (h : Piece.read (l.chars ++ rest) = some (.lexeme l)) (hOther : l.isComment = false)
    (hTail : blankedText rest = kept ++ tail) (hBreak : IsBreak tail) : l.EndsBefore tail := by
  refine ⟨hBreak, ?_, ?_⟩
  · intro hLine
    cases l with
    | lineComment body => cases hOther
    | blockComment | word | number | quoted | delimiter | operator | unknown => cases hLine
  · intro hOpen
    cases l with
    | quoted mark body =>
      rw [isOpen, Bool.not_eq_true'] at hOpen
      -- an open literal takes the rest of the text, so nothing was left to blank out
      rw [Piece.eq_nil_of_read_open h hOpen, blankedText_nil] at hTail
      exact (List.append_eq_nil_iff.1 hTail.symm).2
    | blockComment body => cases hOther
    | lineComment | word | number | delimiter | operator | unknown => cases hOpen

/-- A text that is blanked out has the tokens of the text but for its comments. -/
theorem tokensBehind_blankedText (before cs : List Char) :
    tokensBehind true before (blankedText cs) = tokensBehind false before cs := by
  -- piece by piece, the two scans stay in step: what is blanked out takes the same room
  induction cs using Piece.induction generalizing before with
  | nil => rw [blankedText_nil, tokensBehind_nil, tokensBehind_nil]
  | piece p rest hRead ih =>
    rw [blankedText_append hRead, tokensBehind_append hRead, ← ih, Piece.blanked]
    by_cases hComment : p.isComment = true
    · -- the comment is passed over on either side, and takes the same room
      have hNone : p.token? false before = none := by
        cases p with
        | blank ws => rfl
        | lexeme l => exact if_pos (Bool.and_eq_true_iff.2 ⟨hComment, rfl⟩)
      have hBlank : ∀ c ∈ p.chars.map blankChar, isWhiteSpace c = true := by
        intro c hc
        obtain ⟨d, -, rfl⟩ := List.mem_map.1 hc
        exact isWhiteSpace_blankChar d
      rw [if_pos hComment, hNone, tokensBehind_blank_append hBlank]
      refine tokensBehind_congr ?_ ?_ true _
      · rw [List.length_append, List.length_append, List.length_map]
      · rw [Location.behind_append, Location.behind_append, Location.behind_map_blankChar]
    · rw [if_neg hComment]
      cases p with
      | blank ws =>
        exact tokensBehind_blank_append (Piece.isWhiteSpace_of_read_blank hRead) true before _
      | lexeme l =>
        -- the lexeme was stopped within `kept`, or by what `tail` has come in the place of
        obtain ⟨kept, behind, tail, hRest, hBlanked, hBreak⟩ := exists_cut_blankedText rest
        have hOther : l.isComment = false := eq_false_of_ne_true hComment
        have hEnds := l.endsBefore_of_blankedText hRead hOther hBlanked hBreak
        rw [Piece.chars, hRest, ← List.append_assoc] at hRead
        have hTokens := tokensBehind_lexeme_append hRead hEnds true before
        rw [List.append_assoc, ← hBlanked] at hTokens
        have hWanted : l.isComment = true → false = true := by
          intro hIs
          rw [hOther] at hIs
          exact hIs
        rw [Piece.token?_lexeme (fun _ => rfl), ← Piece.token?_lexeme hWanted] at hTokens
        exact hTokens

/-- **Comments are white space.** A scan that drops the comments of a source gives the same tokens,
in the same places, as a scan that keeps all comments but is given the source with these blanked
out. -/
theorem scan_blanked (s : String) : scan s false = scan (blanked s) true := by
  rw [blanked, blankedFrom_scan, scan_eq_tokensBehind, scan_eq_tokensBehind, String.toList_ofList,
    tokensBehind_blankedText]

end CTokens
