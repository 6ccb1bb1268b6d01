import CTokens.Proofs.Breaks
import CTokens.Proofs.Partition
import CTokens.Proofs.Recoveries
import CTokens.Proofs.Restart

/-!
# CTokens — scanning line by line

A line break ends every lexeme but a literal and a block comment, and these are read across it only
while they are not closed. So a source of two parts, one above the other, has the tokens of the
first part and then those of the second, further down, unless the first part leaves something open
at its end.

Main statements:

* `tokensBehind_append_line` — the tokens of two texts with a line break between them;
* `scan_append_line` — the same for two sources.
-/

namespace CTokens

/-- Whether a recovery closed what the source leaves open at its end. -/
def Recovery.isClosing : Recovery → Bool
  | .literalClosed _ _ => true
  | .commentClosed _ => true
  | .exponentGivenBack _ => false
  | .unknownCharacter _ _ => false

/-- A token as many characters and lines further down, in the same column. -/
def Token.below (chars lines : Nat) (t : Token) : Token :=
  { t with
    location := ⟨t.location.line + lines, t.location.column⟩
    span := ⟨t.span.start + chars, t.span.stop + chars⟩ }

/-- Behind a line break a new line begins. -/
theorem Location.behind_lineBreak (cs : List Char) :
    behind (cs ++ ['\n']) = ⟨1 + (1 + cs.count '\n'), 1⟩ := by
  rw [behind_append, show behind ['\n'] = ⟨2, 1⟩ from rfl, after, if_neg (by decide), behind]
  simp only [Location.mk.injEq, and_true]
  omega

/-- A token of a text that begins in the first column of a line is only moved down. -/
theorem Token.after_lineStart (chars lines : Nat) (t : Token) :
    t.after chars ⟨1 + lines, 1⟩ = t.below chars lines := by
  unfold after below Location.after
  by_cases hFirst : t.location.line = 1
  · rw [if_pos hFirst, hFirst, Nat.add_sub_cancel_left]
  · rw [if_neg hFirst]
    simp only [Token.mk.injEq, Location.mk.injEq, and_true, true_and]
    omega

/-- What is left open at the end of a text is closed by a recovery. -/
theorem Lexeme.exists_closing_of_isOpen {l : Lexeme} (h : l.isOpen = true) (before : List Char) :
    ∃ r ∈ l.recoveryBehind? before, r.isClosing = true := by
  cases l with
  | blockComment body =>
    rw [isOpen, Bool.not_eq_true'] at h
    refine ⟨.commentClosed (Location.behind before), ?_, rfl⟩
    rw [recoveryBehind?, h]
    rfl
  | quoted mark body =>
    rw [isOpen, Bool.not_eq_true'] at h
    refine ⟨.literalClosed mark.kind (Location.behind before), ?_, rfl⟩
    rw [recoveryBehind?, h]
    rfl
  | lineComment | word | number | delimiter | operator | unknown => cases h

/-- A text that leaves nothing open has the same tokens before a line break, and behind the line
break come those of the next text. -/
theorem tokensBehind_append_line (keep : Bool) (before a b : List Char)
    (h : ∀ r ∈ trail before (pieces a), r.isClosing = false) :
    tokensBehind keep before (a ++ '\n' :: b) =
      layout keep before (pieces a) ++ tokensBehind keep (before ++ (a ++ ['\n'])) b := by
  induction a using Piece.induction generalizing before with
  | nil =>
    rw [pieces_nil, layout]
    have hBlank : ∀ c ∈ ['\n'], Unicode.isWhiteSpace c = true :=
      List.forall_mem_singleton.2 (by decide)
    exact tokensBehind_blank_append hBlank keep before b
  | piece p rest hRead ih =>
    rw [pieces_append hRead, trail, List.forall_mem_append] at h
    have hRest := ih (before ++ p.chars) h.2
    rw [pieces_append hRead, layout, List.append_assoc, List.append_assoc, List.append_assoc,
      ← List.append_assoc before, ← hRest]
    cases p with
    | blank ws =>
      exact tokensBehind_blank_append (Piece.isWhiteSpace_of_read_blank hRead) keep before _
    | lexeme l =>
      -- were the lexeme open, a recovery would have closed it
      have hEnds : l.EndsBefore ('\n' :: b) := by
        refine ⟨isBreak_cons (by decide), ?_, ?_⟩
        · intro _ c hc
          cases hc
          rfl
        · intro hOpen
          obtain ⟨r, hr, hClosing⟩ := Lexeme.exists_closing_of_isOpen hOpen before
          have hNone := h.1 r (Option.mem_toList.2 hr)
          rw [hClosing] at hNone
          cases hNone
      rw [← List.append_nil ((Piece.lexeme l).chars ++ rest)] at hRead
      have hTokens := tokensBehind_lexeme_append hRead hEnds keep before
      rw [List.append_assoc] at hTokens
      exact hTokens

/-- The mark of the end is the only token of its kind. -/
theorem filter_tokensBehind (keep : Bool) (before cs : List Char) :
    (tokensBehind keep before cs).filter (fun t => !t.isEndOfInput) =
      layout keep before (pieces cs) := by
  have hLaid : ∀ t ∈ layout keep before (pieces cs), (!t.isEndOfInput) = true := by
    intro t ht
    obtain ⟨qs, l, rs, -, -, rfl⟩ := mem_layout_iff.1 ht
    rw [Bool.not_eq_true', Token.isEndOfInput, beq_eq_false_iff_ne]
    exact l.kind_ne_endOfInput
  rw [tokensBehind, List.filter_append, List.filter_eq_self.2 hLaid]
  exact List.append_nil _

/-- **Sources can be scanned line by line.** When the scan of the first part closes nothing that was
left open, the tokens of two parts with a line break between them are those of the first, but for
the mark of its end, and then those of the second, further down by the characters and the lines of
the first. -/
theorem scan_append_line (a b : String) (keep : Bool)
    (h : ∀ r ∈ recoveries a keep, r.isClosing = false) :
    scan (a ++ "\n" ++ b) keep =
      (scan a keep).filter (fun t => !t.isEndOfInput) ++
        (scan b keep).map (Token.below (a.length + 1) (1 + a.toList.count '\n')) := by
  rw [recoveries_eq_trail] at h
  have hText : (a ++ "\n" ++ b).toList = a.toList ++ '\n' :: b.toList := by
    rw [String.toList_append, String.toList_append, List.append_assoc]
    rfl
  have hDown : tokensBehind keep ([] ++ (a.toList ++ ['\n'])) b.toList =
      (scan b keep).map (Token.below (a.length + 1) (1 + a.toList.count '\n')) := by
    have hLength : (a.toList ++ ['\n']).length = a.length + 1 := by
      rw [List.length_append, String.length_toList]
      rfl
    rw [List.nil_append, ← List.append_nil (a.toList ++ ['\n']), tokensBehind_eq_map,
      scan_eq_tokensBehind, hLength, Location.behind_lineBreak]
    refine List.map_congr_left ?_
    intro t _
    exact Token.after_lineStart _ _ t
  rw [scan_eq_tokensBehind, scan_eq_tokensBehind, filter_tokensBehind, hText,
    tokensBehind_append_line keep [] a.toList b.toList h, hDown]

/-- The first part has an exponent that is given back, and ends in a comment up to the end of its
line. The slash at the beginning of the second part does not go on with it. -/
theorem scan_append_line_exponent :
    (∀ r ∈ recoveries "x\n.5e // y" true, r.isClosing = false) ∧
      scan ("x\n.5e // y" ++ "\n" ++ "/ z") true =
        (scan "x\n.5e // y" true).filter (fun t => !t.isEndOfInput) ++
          (scan "/ z" true).map (Token.below 11 2) := by
  have hOpen : ∀ r ∈ recoveries "x\n.5e // y" true, r.isClosing = false := by decide +kernel
  exact ⟨hOpen, scan_append_line "x\n.5e // y" "/ z" true hOpen⟩

end CTokens
