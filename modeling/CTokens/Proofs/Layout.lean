import CTokens.Proofs.Pieces
import CTokens.Proofs.Position
import CTokens.TokenStream

/-!
# CTokens — the layout of tokens

The tokens of a text are its pieces laid out one behind the other. A token takes its kind and text
from the lexeme it is made of, and its location and span from the text behind it: nothing else goes
into it, neither what follows nor which tokens came before.

`layout` says so without a cursor, and `tokens_drain_between` that a stream gives exactly this. Laws
of the scan are laws of the layout, where the text behind is a list that grows piece by piece.

Main statements:

* `TokenStream.tokens_drain_between`, `scan_eq_tokensBehind` — what a stream gives is the layout of
  the pieces ahead, and the mark of the end;
* `mem_layout_iff`, `exists_lexeme_of_mem_scan` — which tokens are laid out, and where they stand;
* `exists_split_of_layout_getElem?` — where the token with a given index comes from.
-/

namespace CTokens

-- ---------------------------------------------------------------------------
-- Laying out pieces
-- ---------------------------------------------------------------------------

/-- The token of a lexeme that follows a text. -/
def Lexeme.tokenBehind (l : Lexeme) (before : List Char) : Token :=
  { kind := l.kind
    text := String.ofList l.shown
    location := Location.behind before
    span := ⟨before.length, before.length + l.chars.length⟩ }

/-- The token that marks the end of a text. -/
def Token.endBehind (before : List Char) : Token :=
  { kind := .endOfInput
    text := ""
    location := Location.behind before
    span := ⟨before.length, before.length⟩ }

/-- The token of a piece that follows a text, unless the piece is white space or a comment that is
not wanted. -/
def Piece.token? (keepComments : Bool) (before : List Char) : Piece → Option Token
  | .blank _ => none
  | .lexeme l => if l.isComment && !keepComments then none else some (l.tokenBehind before)

/-- The recovery that reading a piece at a cursor took, if it took one. -/
def Piece.recovery? (c : Cursor) : Piece → Option Recovery
  | .blank _ => none
  | .lexeme l => l.recovery? c

/-- The tokens of pieces that follow a text. -/
def layout (keepComments : Bool) (before : List Char) : List Piece → List Token
  | [] => []
  | p :: ps => (p.token? keepComments before).toList ++ layout keepComments (before ++ p.chars) ps

/-- The tokens of a text that follows another, and the mark of its end. -/
def tokensBehind (keepComments : Bool) (before cs : List Char) : List Token :=
  layout keepComments before (pieces cs) ++ [Token.endBehind (before ++ cs)]

section
variable {keep : Bool} {before : List Char}

theorem layout_append (keep : Bool) (before : List Char) (ps qs : List Piece) :
    layout keep before (ps ++ qs) =
      layout keep before ps ++ layout keep (before ++ ps.flatMap Piece.chars) qs := by
  induction ps generalizing before with
  | nil => rw [List.nil_append, List.flatMap_nil, List.append_nil, layout, List.nil_append]
  | cons p ps ih =>
    rw [List.cons_append, layout, layout, ih, List.flatMap_cons, List.append_assoc,
      List.append_assoc]

/-- Of an empty text only the mark of the end is left. -/
theorem tokensBehind_nil : tokensBehind keep before [] = [Token.endBehind before] := by
  rw [tokensBehind, pieces_nil, layout, List.nil_append, List.append_nil]

/-- The token of the first piece comes first, and then those of the rest. -/
theorem tokensBehind_append {p : Piece} {rest : List Char}
    (h : Piece.read (p.chars ++ rest) = some p) :
    tokensBehind keep before (p.chars ++ rest) =
      (p.token? keep before).toList ++ tokensBehind keep (before ++ p.chars) rest := by
  rw [tokensBehind, tokensBehind, pieces_append h, layout, List.append_assoc, List.append_assoc]

/-- A lexeme has a token, unless it is a comment and comments are not wanted. -/
theorem Piece.token?_lexeme {l : Lexeme} (h : l.isComment = true → keep = true) :
    Piece.token? keep before (.lexeme l) = some (l.tokenBehind before) := by
  rw [token?, if_neg]
  intro hOff
  rw [Bool.and_eq_true] at hOff
  simp [h hOff.1] at hOff

/-- A piece has a token when it is a lexeme, and a comment among the lexemes only when comments are
wanted. -/
theorem Piece.token?_eq_some_iff {p : Piece} {t : Token} :
    p.token? keep before = some t ↔
      ∃ l, p = .lexeme l ∧ (l.isComment = true → keep = true) ∧ t = l.tokenBehind before := by
  constructor
  · intro h
    cases p with
    | blank ws => cases h
    | lexeme l =>
      rw [token?] at h
      split at h
      · cases h
      · next hOn =>
        cases h
        refine ⟨l, rfl, ?_, rfl⟩
        intro hComment
        simpa [hComment] using hOn
  · rintro ⟨l, rfl, hWanted, rfl⟩
    exact token?_lexeme hWanted

/-- The token of a lexeme stands between those of the pieces before it and those behind. -/
theorem layout_append_lexeme {l : Lexeme} (h : l.isComment = true → keep = true)
    (before : List Char) (qs rs : List Piece) :
    layout keep before (qs ++ .lexeme l :: rs) =
      layout keep before qs ++ l.tokenBehind (before ++ qs.flatMap Piece.chars) ::
        layout keep (before ++ qs.flatMap Piece.chars ++ l.chars) rs := by
  rw [layout_append, layout, Piece.token?_lexeme h]
  rfl

-- ---------------------------------------------------------------------------
-- A stream gives the layout of what is ahead
-- ---------------------------------------------------------------------------

/-- The token that a cursor makes of a lexeme is told by the text behind. -/
theorem Lexeme.token_between (before : List Char) (l : Lexeme) (rest : List Char) :
    l.token (Cursor.between before (l.chars ++ rest)) = l.tokenBehind before := by
  unfold token tokenBehind Cursor.spanFrom
  rw [Cursor.skip_between, Cursor.position_between, Cursor.position_between,
    Cursor.location_between, List.length_append]

namespace TokenStream

/-- The stream between two parts of a source, before the end of the input has been given. -/
def between (keepComments : Bool) (before after : List Char) : TokenStream :=
  { cursor := Cursor.between before after, keepComments := keepComments, finished := false }

/-- What a stream gives is what its next pass gives, and then what the stream behind it gives. -/
theorem tokens_drain (s : TokenStream) :
    s.drain.tokens = match s.pass with
      | .ended => []
      | .skipped _ s' => s'.drain.tokens
      | .emitted t _ s' => t :: s'.drain.tokens := by
  rw [drain]
  split
  · next hPass => rw [hPass]
  · next hPass => rw [hPass]
  · next hPass => rw [hPass]

/-- At the end of the text a stream gives the mark of the end, once. -/
theorem tokens_drain_between_nil (keep : Bool) (before : List Char) :
    (between keep before []).drain.tokens = [Token.endBehind before] := by
  rw [tokens_drain]
  show Token.endBehind before :: TokenStream.Harvest.tokens (drain _) = _
  rw [tokens_drain]
  rfl

/-- A pass leads from before the piece that is read to behind it, and gives its token and its
recovery. -/
theorem pass_between_append (keep : Bool) (before : List Char) {p : Piece} {rest : List Char}
    (h : Piece.read (p.chars ++ rest) = some p) :
    (between keep before (p.chars ++ rest)).pass =
      match p.token? keep before with
      | none => .skipped (p.recovery? (Cursor.between before (p.chars ++ rest)))
          (between keep (before ++ p.chars) rest)
      | some t => .emitted t (p.recovery? (Cursor.between before (p.chars ++ rest)))
          (between keep (before ++ p.chars) rest) := by
  -- behind the piece, the cursor stands between the longer text before and the rest
  have hBeyond : { between keep before (p.chars ++ rest) with
      cursor := (between keep before (p.chars ++ rest)).cursor.skip p.chars.length } =
        between keep (before ++ p.chars) rest := by
    unfold between
    rw [Cursor.skip_between]
  have hRead : Piece.read (between keep before (p.chars ++ rest)).cursor.rest = some p := h
  unfold pass
  rw [hRead]
  dsimp only
  rw [hBeyond]
  cases p with
  | blank ws => rfl
  | lexeme l =>
    rw [Piece.token?, ← Lexeme.token_between before l rest]
    by_cases hOff : (l.isComment && !keep) = true
    · rw [if_pos hOff]
      exact if_pos hOff
    · rw [if_neg hOff]
      exact if_neg hOff

/-- A stream gives the tokens of the text ahead. -/
theorem tokens_drain_between (keep : Bool) (before after : List Char) :
    (between keep before after).drain.tokens = tokensBehind keep before after := by
  -- on the pieces ahead: a pass takes one of them and leaves a stream of the same form
  induction after using Piece.induction generalizing before with
  | nil => rw [tokensBehind_nil, tokens_drain_between_nil]
  | piece p rest hRead ih =>
    rw [tokensBehind_append hRead, ← ih, tokens_drain, pass_between_append keep before hRead]
    cases p.token? keep before with
    | none => rfl
    | some t => rfl

end TokenStream

/-- The tokens of a source are those of its text from the beginning. -/
theorem scan_eq_tokensBehind (s : String) (keep : Bool) :
    scan s keep = tokensBehind keep [] s.toList :=
  TokenStream.tokens_drain_between keep [] s.toList

-- ---------------------------------------------------------------------------
-- Where a token comes from
-- ---------------------------------------------------------------------------

/-- The token with a given index is that of a lexeme, and as many tokens come from the pieces before
it. -/
theorem exists_split_of_layout_getElem? {ps : List Piece} {i : Nat} {t : Token}
    (h : (layout keep before ps)[i]? = some t) :
    ∃ (qs : List Piece) (l : Lexeme) (rs : List Piece), ps = qs ++ .lexeme l :: rs ∧
      (l.isComment = true → keep = true) ∧
      t = l.tokenBehind (before ++ qs.flatMap Piece.chars) ∧
      (layout keep before qs).length = i := by
  -- a piece without a token leaves the index as it is, and one with a token takes one off it
  induction ps generalizing before i with
  | nil => cases h
  | cons p ps ih =>
    rw [layout] at h
    cases hToken : p.token? keep before with
    | none =>
      rw [hToken, Option.toList_none, List.nil_append] at h
      obtain ⟨qs, l, rs, rfl, hWanted, rfl, hIndex⟩ := ih h
      refine ⟨p :: qs, l, rs, rfl, hWanted, ?_, ?_⟩
      · rw [List.flatMap_cons, List.append_assoc]
      · rw [layout, hToken, Option.toList_none, List.nil_append]
        exact hIndex
    | some u =>
      rw [hToken, Option.toList_some, List.singleton_append] at h
      cases i with
      | zero =>
        obtain ⟨l, rfl, hWanted, rfl⟩ := Piece.token?_eq_some_iff.1 hToken
        rw [List.getElem?_cons_zero, Option.some.injEq] at h
        refine ⟨[], l, ps, rfl, hWanted, ?_, rfl⟩
        rw [List.flatMap_nil, List.append_nil]
        exact h.symm
      | succ i =>
        rw [List.getElem?_cons_succ] at h
        obtain ⟨qs, l, rs, rfl, hWanted, rfl, hIndex⟩ := ih h
        refine ⟨p :: qs, l, rs, rfl, hWanted, ?_, ?_⟩
        · rw [List.flatMap_cons, List.append_assoc]
        · rw [layout, hToken, Option.toList_some, List.singleton_append, List.length_cons, hIndex]

/-- The tokens laid out are those of the lexemes among the pieces, each behind the text of the
pieces before it. -/
theorem mem_layout_iff {ps : List Piece} {t : Token} :
    t ∈ layout keep before ps ↔
      ∃ (qs : List Piece) (l : Lexeme) (rs : List Piece), ps = qs ++ .lexeme l :: rs ∧
        (l.isComment = true → keep = true) ∧
        t = l.tokenBehind (before ++ qs.flatMap Piece.chars) := by
  constructor
  · intro h
    obtain ⟨i, hIndex⟩ := List.getElem?_of_mem h
    obtain ⟨qs, l, rs, hPieces, hWanted, hToken, -⟩ := exists_split_of_layout_getElem? hIndex
    exact ⟨qs, l, rs, hPieces, hWanted, hToken⟩
  · rintro ⟨qs, l, rs, rfl, hWanted, rfl⟩
    rw [layout_append_lexeme hWanted]
    exact List.mem_append_right _ (List.mem_cons_self ..)

/-- A token that is laid out for a text is that of a lexeme, which is read where it stands. -/
theorem exists_lexeme_of_mem_layout {cs : List Char} {t : Token}
    (h : t ∈ layout keep before (pieces cs)) :
    ∃ (behind : List Char) (l : Lexeme) (rest : List Char), cs = behind ++ (l.chars ++ rest) ∧
      t = l.tokenBehind (before ++ behind) ∧ Piece.read (l.chars ++ rest) = some (.lexeme l) := by
  obtain ⟨qs, l, rs, hPieces, -, hToken⟩ := mem_layout_iff.1 h
  have hText := flatMap_pieces cs
  rw [hPieces, List.flatMap_append, List.flatMap_cons] at hText
  exact ⟨qs.flatMap Piece.chars, l, rs.flatMap Piece.chars, hText.symm, hToken,
    read_of_pieces_eq_append hPieces⟩

end

/-- The tokens of a text are those that are laid out for it, and the mark of its end. -/
theorem mem_tokensBehind_iff {keep : Bool} {before cs : List Char} {t : Token} :
    t ∈ tokensBehind keep before cs ↔
      t ∈ layout keep before (pieces cs) ∨ t = Token.endBehind (before ++ cs) := by
  rw [tokensBehind, List.mem_append, List.mem_singleton]

/-- The lexemes of a source are scanned, but for comments that are not wanted. -/
theorem tokenBehind_mem_scan {s : String} {keep : Bool} {qs : List Piece} {l : Lexeme}
    {rs : List Piece} (h : pieces s.toList = qs ++ .lexeme l :: rs)
    (hWanted : l.isComment = true → keep = true) :
    l.tokenBehind (qs.flatMap Piece.chars) ∈ scan s keep := by
  rw [scan_eq_tokensBehind, mem_tokensBehind_iff]
  exact .inl (mem_layout_iff.2 ⟨qs, l, rs, h, hWanted, rfl⟩)

/-- Every token of a scan but the mark of the end is that of a lexeme, which is read where it
stands. -/
theorem exists_lexeme_of_mem_scan {s : String} {keep : Bool} {t : Token} (h : t ∈ scan s keep)
    (hKind : t.kind ≠ .endOfInput) :
    ∃ (before : List Char) (l : Lexeme) (rest : List Char),
      s.toList = before ++ (l.chars ++ rest) ∧ t = l.tokenBehind before ∧
        Piece.read (l.chars ++ rest) = some (.lexeme l) := by
  rw [scan_eq_tokensBehind] at h
  rcases mem_tokensBehind_iff.1 h with hLaid | rfl
  · exact exists_lexeme_of_mem_layout hLaid
  · exact absurd rfl hKind

end CTokens
