import CTokens.Proofs.Layout

/-!
# CTokens — scanning again from a token boundary

A scan carries nothing from one token to the next. The source behind a token, scanned by itself,
gives the tokens that the scan of the whole source gives there; only their positions have to be
carried to where the rest begins.

Main statements:

* `tokensBehind_eq_map` — tokens behind a longer text are those behind a shorter one, carried;
* `scan_drop` — a scan from the end of a token gives the tokens behind it.
-/

namespace CTokens

/-- A token of a text that begins at an offset and a location. -/
def Token.after (offset : Nat) (base : Location) (t : Token) : Token :=
  { t with
    location := base.after t.location
    span := ⟨t.span.start + offset, t.span.stop + offset⟩ }

-- ---------------------------------------------------------------------------
-- Carrying tokens
-- ---------------------------------------------------------------------------

section
variable (pre before : List Char)

/-- A lexeme behind two texts has the token it has behind the second, carried behind the first. -/
theorem Lexeme.tokenBehind_append (l : Lexeme) :
    l.tokenBehind (pre ++ before) =
      (l.tokenBehind before).after pre.length (Location.behind pre) := by
  simp only [tokenBehind, Token.after, Location.behind_append, List.length_append, Token.mk.injEq,
    Span.mk.injEq, true_and]
  omega

/-- The mark of the end is carried like any token. -/
theorem Token.endBehind_append :
    endBehind (pre ++ before) = (endBehind before).after pre.length (Location.behind pre) := by
  simp only [endBehind, after, Location.behind_append, List.length_append, Token.mk.injEq,
    Span.mk.injEq, true_and]
  omega

/-- A piece has its token behind a longer text as well, carried. -/
theorem Piece.token?_append (keep : Bool) (p : Piece) :
    p.token? keep (pre ++ before) =
      (p.token? keep before).map (Token.after pre.length (Location.behind pre)) := by
  cases p with
  | blank ws => rfl
  | lexeme l =>
    rw [token?, token?]
    split
    · rfl
    · rw [Lexeme.tokenBehind_append]
      rfl

/-- Pieces are laid out behind a longer text as behind a shorter one, carried. -/
theorem layout_eq_map (keep : Bool) (ps : List Piece) :
    layout keep (pre ++ before) ps =
      (layout keep before ps).map (Token.after pre.length (Location.behind pre)) := by
  induction ps generalizing before with
  | nil => rfl
  | cons p ps ih =>
    rw [layout, layout, List.map_append, Piece.token?_append, List.append_assoc, ih,
      Option.toList_map]

/-- The tokens of a text that follows two others are those that follow the second, carried behind
the first. -/
theorem tokensBehind_eq_map (keep : Bool) (cs : List Char) :
    tokensBehind keep (pre ++ before) cs =
      (tokensBehind keep before cs).map (Token.after pre.length (Location.behind pre)) := by
  rw [tokensBehind, tokensBehind, List.map_append, layout_eq_map, List.append_assoc,
    Token.endBehind_append]
  rfl

end

/-- Of the text behind, only its length and the location it leads to go into tokens. -/
theorem tokensBehind_congr {before before' : List Char} (hLength : before.length = before'.length)
    (hPlace : Location.behind before = Location.behind before') (keep : Bool) (cs : List Char) :
    tokensBehind keep before cs = tokensBehind keep before' cs := by
  rw [← List.append_nil before, ← List.append_nil before', tokensBehind_eq_map,
    tokensBehind_eq_map, hLength, hPlace]

-- ---------------------------------------------------------------------------
-- Restarting
-- ---------------------------------------------------------------------------

/-- A token of a text that is not the mark of its end cuts the text where it ends. The tokens behind
it are those of what follows. -/
theorem exists_cut_of_getElem? {keep : Bool} {cs : List Char} {i : Nat} {t : Token}
    (h : (tokensBehind keep [] cs)[i]? = some t) (hKind : t.kind ≠ .endOfInput) :
    ∃ before after : List Char, cs = before ++ after ∧ t.span.stop = before.length ∧
      (tokensBehind keep [] cs).drop (i + 1) = tokensBehind keep before after := by
  -- the mark of the end is the only token that is not laid out, and it is excluded
  have hInside : i < (layout keep [] (pieces cs)).length := by
    rcases Nat.lt_or_ge i (layout keep [] (pieces cs)).length with hLt | hGe
    · exact hLt
    · rw [tokensBehind, List.getElem?_append_right hGe] at h
      have hEnd := List.mem_of_getElem? h
      rw [List.mem_singleton] at hEnd
      rw [hEnd] at hKind
      exact absurd rfl hKind
  rw [tokensBehind, List.getElem?_append_left hInside] at h
  obtain ⟨qs, l, rs, hPieces, hWanted, rfl, hIndex⟩ := exists_split_of_layout_getElem? h
  have hText := flatMap_pieces cs
  rw [hPieces, List.flatMap_append, List.flatMap_cons, ← List.append_assoc, Piece.chars] at hText
  -- what follows is cut into the pieces behind the lexeme
  have hCut : pieces cs = (qs ++ [.lexeme l]) ++ rs := by
    rw [hPieces, List.append_assoc]
    rfl
  have hRest := pieces_flatMap_of_append hCut
  refine ⟨qs.flatMap Piece.chars ++ l.chars, rs.flatMap Piece.chars, hText.symm, ?_, ?_⟩
  · rw [List.length_append]
    rfl
  · rw [tokensBehind, tokensBehind, hRest, hPieces, layout_append_lexeme hWanted, hText,
      List.append_assoc, ← hIndex, List.drop_length_add_append]
    rfl

/-- **Restart at any token boundary.** The source behind a token, scanned by itself, gives the
tokens behind it in the scan of the whole, carried to where the token ends. -/
theorem scan_drop (s : String) (keep : Bool) (i : Nat) (t : Token)
    (h : (scan s keep)[i]? = some t) (hKind : t.kind ≠ .endOfInput) :
    (scan (String.ofList (s.toList.drop t.span.stop)) keep).map
        (Token.after t.span.stop (Location.behind (s.toList.take t.span.stop))) =
      (scan s keep).drop (i + 1) := by
  rw [scan_eq_tokensBehind] at h ⊢
  rw [scan_eq_tokensBehind, String.toList_ofList]
  obtain ⟨before, after, hText, hStop, hDrop⟩ := exists_cut_of_getElem? h hKind
  rw [hDrop, hStop, hText, List.drop_left, List.take_left]
  exact (List.append_nil before ▸ tokensBehind_eq_map before [] keep after).symm

/-- Behind a literal over two lines, the rest of the second line is scanned as a source of its own;
its first line is carried to where the literal ends, an exponent given back included. -/
theorem scan_drop_behind_literal :
    (scan "a\n\"b\nc\" 1e-x" true)[1]? = some ⟨.stringLiteral, "b\nc", ⟨2, 1⟩, ⟨2, 7⟩⟩ ∧
      (scan " 1e-x" true).map (Token.after 7 ⟨3, 3⟩) =
        (scan "a\n\"b\nc\" 1e-x" true).drop 2 := by
  have hLiteral : (scan "a\n\"b\nc\" 1e-x" true)[1]? =
      some ⟨.stringLiteral, "b\nc", ⟨2, 1⟩, ⟨2, 7⟩⟩ := by decide +kernel
  exact ⟨hLiteral, scan_drop _ true 1 _ hLiteral (by decide)⟩

end CTokens
