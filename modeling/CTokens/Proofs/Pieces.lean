import CTokens.Lexeme.Basic

/-!
# CTokens — the pieces of a text

Reading one piece after the other cuts a text into pieces. The cut depends on the text alone: not
on where the text stands, nor on whether comments are wanted. All that is proved of a scan is
proved of the pieces first, by an induction that takes the first piece off.

Main statements:

* `Piece.induction` — every text is empty, or a piece that is read from it followed by a text;
* `flatMap_pieces` — the pieces of a text, put together, are the text;
* `pieces_flatMap_of_append` — behind some of its pieces, a text is cut into the others;
* `read_of_pieces_eq_append` — every piece is read from what stands behind the pieces before it.
-/

namespace CTokens

-- ---------------------------------------------------------------------------
-- The first piece
-- ---------------------------------------------------------------------------

namespace Piece

/-- A text that is not empty begins with the piece that is read from it. -/
theorem exists_read {cs : List Char} (h : cs ≠ []) :
    ∃ (p : Piece) (rest : List Char), cs = p.chars ++ rest ∧ read (p.chars ++ rest) = some p := by
  obtain ⟨p, hRead⟩ : ∃ p, read cs = some p := by
    cases cs with
    | nil => exact absurd rfl h
    | cons c rest =>
      rw [read]
      split
      · exact ⟨_, rfl⟩
      · exact ⟨_, rfl⟩
  obtain ⟨rest, hRest⟩ := read_isPrefix hRead
  refine ⟨p, rest, hRest.symm, ?_⟩
  rw [hRest]
  exact hRead

/-- Induction over a text, piece by piece. -/
@[elab_as_elim]
theorem induction {motive : List Char → Prop} (nil : motive [])
    (piece : ∀ (p : Piece) (rest : List Char), read (p.chars ++ rest) = some p → motive rest →
      motive (p.chars ++ rest))
    (cs : List Char) : motive cs := by
  induction hLength : cs.length using Nat.strongRecOn generalizing cs with
  | ind n ih =>
    by_cases hNil : cs = []
    · rw [hNil]
      exact nil
    · obtain ⟨p, rest, rfl, hRead⟩ := exists_read hNil
      have hPos := List.length_pos_iff.2 (chars_ne_nil hRead)
      have hLess : rest.length < n := by
        rw [← hLength, List.length_append]
        omega
      exact piece p rest hRead (ih rest.length hLess rest rfl)

/-- A run of blanks that is read consists of white space. -/
theorem isWhiteSpace_of_read_blank {cs ws : List Char} (h : read cs = some (.blank ws)) :
    ∀ c ∈ ws, Unicode.isWhiteSpace c = true := by
  match cs with
  | [] => cases h
  | c :: rest =>
    rw [read] at h
    split at h
    · cases h
      exact List.all_eq_true.1 List.all_takeWhile
    · cases h

end Piece

-- ---------------------------------------------------------------------------
-- All pieces
-- ---------------------------------------------------------------------------

/-- The pieces of a text, in order. -/
def pieces (cs : List Char) : List Piece :=
  match _h : Piece.read cs with
  | none => []
  | some p => p :: pieces (cs.drop p.chars.length)
termination_by cs.length
decreasing_by exact Piece.length_drop_lt _h

@[simp] theorem pieces_nil : pieces [] = [] := by
  rw [pieces]
  rfl

/-- The piece that is read first is the first of the pieces. -/
theorem pieces_append {p : Piece} {rest : List Char} (h : Piece.read (p.chars ++ rest) = some p) :
    pieces (p.chars ++ rest) = p :: pieces rest := by
  rw [pieces]
  split
  · next hNone => rw [h] at hNone; cases hNone
  · next q hSome =>
    rw [h] at hSome
    cases hSome
    rw [List.drop_left]

/-- The pieces of a text, put together, are the text. -/
theorem flatMap_pieces (cs : List Char) : (pieces cs).flatMap Piece.chars = cs := by
  induction cs using Piece.induction with
  | nil => rw [pieces_nil, List.flatMap_nil]
  | piece p rest hRead ih => rw [pieces_append hRead, List.flatMap_cons, ih]

/-- A text whose pieces are `p` and others begins with `p`, and the others are the pieces of what
follows. -/
theorem eq_append_of_pieces_eq_cons {cs : List Char} {p : Piece} {ps : List Piece}
    (h : pieces cs = p :: ps) :
    ∃ rest, cs = p.chars ++ rest ∧ Piece.read (p.chars ++ rest) = some p ∧ pieces rest = ps := by
  have hNil : cs ≠ [] := by
    rintro rfl
    rw [pieces_nil] at h
    cases h
  obtain ⟨q, rest, rfl, hRead⟩ := Piece.exists_read hNil
  rw [pieces_append hRead] at h
  obtain ⟨rfl, hRest⟩ := List.cons.inj h
  exact ⟨rest, rfl, hRead, hRest⟩

/-- Behind some of its pieces, a text is cut into the others. -/
theorem pieces_flatMap_of_append {cs : List Char} {ps qs : List Piece}
    (h : pieces cs = ps ++ qs) : pieces (qs.flatMap Piece.chars) = qs := by
  induction ps generalizing cs with
  | nil =>
    rw [List.nil_append] at h
    rw [← h, flatMap_pieces]
  | cons p ps ih =>
    obtain ⟨rest, -, -, hRest⟩ := eq_append_of_pieces_eq_cons h
    exact ih hRest

/-- A piece is read from what stands behind the pieces before it. -/
theorem read_of_pieces_eq_append {cs : List Char} {ps qs : List Piece} {p : Piece}
    (h : pieces cs = ps ++ p :: qs) :
    Piece.read (p.chars ++ qs.flatMap Piece.chars) = some p := by
  obtain ⟨rest, hText, hRead, -⟩ :=
    eq_append_of_pieces_eq_cons (pieces_flatMap_of_append h)
  rw [List.flatMap_cons] at hText
  rw [List.append_cancel_left hText]
  exact hRead

/-- Every character of a text lies in one of its pieces. -/
theorem exists_piece_of_getElem? {ps : List Piece} {i : Nat} {c : Char}
    (h : (ps.flatMap Piece.chars)[i]? = some c) :
    ∃ (qs : List Piece) (p : Piece) (rs : List Piece) (k : Nat), ps = qs ++ p :: rs ∧
      i = (qs.flatMap Piece.chars).length + k ∧ p.chars[k]? = some c := by
  induction ps generalizing i with
  | nil => cases h
  | cons q ps ih =>
    rw [List.flatMap_cons] at h
    by_cases hFirst : i < q.chars.length
    · rw [List.getElem?_append_left hFirst] at h
      exact ⟨[], q, ps, i, rfl, (Nat.zero_add i).symm, h⟩
    · rw [List.getElem?_append_right (by omega)] at h
      obtain ⟨qs, p, rs, k, rfl, hOffset, hChar⟩ := ih h
      refine ⟨q :: qs, p, rs, k, rfl, ?_, hChar⟩
      rw [List.flatMap_cons, List.length_append]
      omega

end CTokens
