import CTokens.Proofs.Layout
import CTokens.Proofs.Reading

/-!
# CTokens — a scan divides the source

With comments kept, the spans of the tokens and the white space between them are the source: no
character is lost and none is taken twice. Under the span of a token stands its text, and the
quotes around it when it is a literal.

Main statements:

* `pairwise_layout` — the spans of laid out tokens follow one another;
* `Lexeme.covers_tokenBehind` — a lexeme that is read covers what its token says;
* `isWhiteSpace_or_mem_lexeme`, `exists_begins_of_mem_scan` — which lexeme a character belongs to,
  and which one a token stands for;
* `length_tokensBehind_le` — every token takes some of the text;
* `scan_partition` — a scan that keeps comments divides the source.
-/

namespace CTokens

open Unicode

-- ---------------------------------------------------------------------------
-- What it is to divide a text
-- ---------------------------------------------------------------------------

/-- The characters of a text under a span. -/
def Span.slice (s : Span) (cs : List Char) : List Char := (cs.drop s.start).take (s.stop - s.start)

/-- The quote that stands around the text of a literal. -/
def TokenKind.quote? : TokenKind → Option Char
  | .stringLiteral => some '\x22'
  | .charLiteral => some '\x27'
  | _ => none

/-- Under the span of a token stands its text, for a literal between quotes. Only at the end of the
source may the second quote be missing. -/
def Token.Covers (cs : List Char) (t : Token) : Prop :=
  match t.kind.quote? with
  | none => t.span.slice cs = t.text.toList
  | some q =>
    t.span.slice cs = q :: t.text.toList ++ [q] ∨
      (t.span.slice cs = q :: t.text.toList ∧ t.span.stop = cs.length)

/-- The tokens divide the text: nothing of it is lost but white space. -/
structure Partition (cs : List Char) (tokens : List Token) : Prop where
  /-- The spans follow one another without overlap. -/
  ordered : tokens.Pairwise fun a b => a.span.stop ≤ b.span.start
  /-- The last token marks the end of the text, and the others lie in it and are not empty. -/
  ends : ∃ (body : List Token) (place : Location),
    tokens = body ++ [⟨.endOfInput, "", place, ⟨cs.length, cs.length⟩⟩] ∧
    ∀ t ∈ body, t.kind ≠ .endOfInput ∧ t.span.start < t.span.stop ∧ t.span.stop ≤ cs.length
  /-- Under every span stands what its token says. -/
  covers : ∀ t ∈ tokens, t.Covers cs
  /-- What lies under no span is white space. -/
  blank : ∀ (i : Nat) (c : Char), cs[i]? = some c → (∀ t ∈ tokens, t.span.contains i = false) →
    isWhiteSpace c = true

-- ---------------------------------------------------------------------------
-- Order
-- ---------------------------------------------------------------------------

/-- The span of a token that is laid out lies behind the text before and within the pieces. -/
theorem span_of_mem_layout {keep : Bool} {before : List Char} {ps : List Piece} {t : Token}
    (h : t ∈ layout keep before ps) :
    before.length ≤ t.span.start ∧
      t.span.stop ≤ (before ++ ps.flatMap Piece.chars).length := by
  obtain ⟨qs, l, rs, rfl, -, rfl⟩ := mem_layout_iff.1 h
  simp only [Lexeme.tokenBehind, List.flatMap_append, List.flatMap_cons, List.length_append,
    Piece.chars]
  omega

/-- The spans of laid out tokens follow one another. -/
theorem pairwise_layout (keep : Bool) (before : List Char) (ps : List Piece) :
    (layout keep before ps).Pairwise fun a b => a.span.stop ≤ b.span.start := by
  induction ps generalizing before with
  | nil => exact List.Pairwise.nil
  | cons p ps ih =>
    rw [layout, List.pairwise_append]
    refine ⟨?_, ih _, ?_⟩
    · cases p.token? keep before with
      | none => exact List.Pairwise.nil
      | some t => exact List.pairwise_singleton _ _
    · intro a ha b hb
      rw [Option.mem_toList] at ha
      obtain ⟨l, rfl, -, rfl⟩ := Piece.token?_eq_some_iff.1 ha
      have hBehind := (span_of_mem_layout hb).1
      rw [List.length_append] at hBehind
      exact hBehind

-- ---------------------------------------------------------------------------
-- What stands under a span
-- ---------------------------------------------------------------------------

/-- Under the span of a token stand the characters of its lexeme. -/
theorem Lexeme.slice_tokenBehind (before : List Char) (l : Lexeme) (after : List Char) :
    (l.tokenBehind before).span.slice (before ++ (l.chars ++ after)) = l.chars := by
  unfold Span.slice tokenBehind
  rw [List.drop_left, Nat.add_sub_cancel_left, List.take_left]

/-- A literal without its closing quote leaves nothing behind. -/
theorem Piece.eq_nil_of_read_open {mark : QuoteMark} {body : Quoted.Body} {after : List Char}
    (h : read ((Lexeme.quoted mark body).chars ++ after) = some (.lexeme (.quoted mark body)))
    (hOpen : body.closed = false) : after = [] := by
  obtain ⟨c, rest, hText, -, hBegins⟩ := Piece.begins_of_read h
  cases hBegins with
  | quoted hFirst =>
    -- an open body is all that stands behind the quote, and so `after` adds nothing to it
    rw [Lexeme.chars, hFirst, Quoted.chars_of_open hOpen] at hText
    exact List.append_right_eq_self.1 hText

theorem QuoteMark.quote?_kind (mark : QuoteMark) : mark.kind.quote? = some mark.char := by
  cases mark <;> rfl

/-- A word is a keyword or an identifier. -/
theorem Lexeme.kind_word (cs : List Char) :
    (word cs).kind = .keyword ∨ (word cs).kind = .identifier := by
  rw [kind]
  split
  · exact .inl rfl
  · exact .inr rfl

theorem Lexeme.quote?_kind_word (cs : List Char) : (word cs).kind.quote? = none := by
  rcases kind_word cs with hKind | hKind <;> rw [hKind] <;> rfl

theorem Lexeme.isComment_word (cs : List Char) : (word cs).isComment = false := by
  rw [isComment]
  rcases kind_word cs with hKind | hKind <;> rw [hKind] <;> rfl

theorem Lexeme.isComment_quoted (mark : QuoteMark) (body : Quoted.Body) :
    (quoted mark body).isComment = false := by
  cases mark <;> rfl

/-- What is no literal shows all that it covers. -/
theorem Lexeme.shown_eq_chars {l : Lexeme} (h : l.kind.quote? = none) : l.shown = l.chars := by
  cases l with
  | quoted mark body =>
    rw [kind, QuoteMark.quote?_kind] at h
    cases h
  | word | lineComment | blockComment | number | delimiter | operator | unknown => rfl

/-- A lexeme that is read covers what its token says. -/
theorem Lexeme.covers_tokenBehind (before : List Char) {l : Lexeme} {after : List Char}
    (h : Piece.read (l.chars ++ after) = some (.lexeme l)) :
    (l.tokenBehind before).Covers (before ++ (l.chars ++ after)) := by
  have hSlice := l.slice_tokenBehind before after
  unfold Token.Covers
  rw [hSlice]
  unfold tokenBehind
  dsimp only
  rw [String.toList_ofList]
  -- quotes make the difference: a literal shows its body, and everything else what it covers
  cases l with
  | quoted mark body =>
    rw [kind, QuoteMark.quote?_kind]
    dsimp only
    cases hClosed : body.closed with
    | true => exact .inl (by simp [chars, shown, Quoted.Body.chars, hClosed])
    | false =>
      obtain rfl := Piece.eq_nil_of_read_open h hClosed
      exact .inr (by simp [chars, shown, Quoted.Body.chars, hClosed])
  | word cs => rcases kind_word cs with hKind | hKind <;> rw [hKind] <;> rfl
  | lineComment | blockComment | number | delimiter | operator | unknown => rfl

/-- No lexeme has the kind that marks the end. -/
theorem Lexeme.kind_ne_endOfInput (l : Lexeme) : l.kind ≠ .endOfInput := by
  cases l with
  | word cs => rcases kind_word cs with hKind | hKind <;> rw [hKind] <;> decide
  | quoted mark body => cases mark <;> simp [kind, QuoteMark.kind]
  | lineComment | blockComment | number | delimiter | operator | unknown => simp [kind]

/-- What is laid out for a text covers what it says. -/
theorem covers_of_mem_layout {keep : Bool} {before cs : List Char} {t : Token}
    (h : t ∈ layout keep before (pieces cs)) : t.Covers (before ++ cs) := by
  obtain ⟨behind, l, rest, rfl, rfl, hRead⟩ := exists_lexeme_of_mem_layout h
  have hCovers := l.covers_tokenBehind (before ++ behind) hRead
  rwa [List.append_assoc] at hCovers

/-- The mark of the end covers nothing, and its text is empty. -/
theorem Token.covers_endBehind (cs : List Char) : (Token.endBehind cs).Covers cs := by
  show (cs.drop cs.length).take (cs.length - cs.length) = "".toList
  rw [Nat.sub_self, List.take_zero]
  rfl

/-- No token that is laid out is empty. -/
theorem start_lt_stop_of_mem_layout {keep : Bool} {before cs : List Char} {t : Token}
    (h : t ∈ layout keep before (pieces cs)) : t.span.start < t.span.stop := by
  obtain ⟨behind, l, rest, -, rfl, hRead⟩ := exists_lexeme_of_mem_layout h
  have hFull := List.length_pos_iff.2 (Piece.chars_ne_nil hRead)
  exact Nat.lt_add_of_pos_right hFull

/-- Every character of a text is white space or belongs to a lexeme. -/
theorem isWhiteSpace_or_mem_lexeme {cs : List Char} {i : Nat} {c : Char} (h : cs[i]? = some c) :
    isWhiteSpace c = true ∨
      ∃ (qs : List Piece) (l : Lexeme) (rs : List Piece) (k : Nat),
        pieces cs = qs ++ .lexeme l :: rs ∧ i = (qs.flatMap Piece.chars).length + k ∧
          l.chars[k]? = some c := by
  rw [← flatMap_pieces cs] at h
  obtain ⟨qs, p, rs, k, hPieces, rfl, hChar⟩ := exists_piece_of_getElem? h
  have hRead := read_of_pieces_eq_append hPieces
  cases p with
  | blank ws =>
    left
    exact Piece.isWhiteSpace_of_read_blank hRead c (List.mem_of_getElem? hChar)
  | lexeme l =>
    right
    exact ⟨qs, l, rs, k, hPieces, rfl, hChar⟩

/-- The characters of a lexeme lie under the span of its token. -/
theorem Lexeme.contains_tokenBehind (before : List Char) {l : Lexeme} {k : Nat} {c : Char}
    (h : l.chars[k]? = some c) :
    (l.tokenBehind before).span.contains (before.length + k) = true := by
  have hInside : k < l.chars.length := (List.getElem?_eq_some_iff.1 h).1
  rw [Span.contains_eq_true_iff]
  exact ⟨Nat.le_add_right _ _, Nat.add_lt_add_left hInside _⟩

/-- Every character of a text is white space or lies under the span of a lexeme. -/
theorem isWhiteSpace_or_contains {cs : List Char} {i : Nat} {c : Char} (h : cs[i]? = some c) :
    isWhiteSpace c = true ∨
      ∃ (qs : List Piece) (l : Lexeme) (rs : List Piece), pieces cs = qs ++ .lexeme l :: rs ∧
        (l.tokenBehind (qs.flatMap Piece.chars)).span.contains i = true := by
  rcases isWhiteSpace_or_mem_lexeme h with hBlank | ⟨qs, l, rs, k, hPieces, rfl, hWithin⟩
  · exact .inl hBlank
  · exact .inr ⟨qs, l, rs, hPieces, l.contains_tokenBehind _ hWithin⟩

/-- The tokens of a text lie in it one behind the other, its mark of the end behind all of it. -/
theorem pairwise_tokensBehind (keep : Bool) (cs : List Char) :
    (tokensBehind keep [] cs).Pairwise fun a b => a.span.stop ≤ b.span.start := by
  rw [tokensBehind, List.pairwise_append]
  refine ⟨pairwise_layout keep [] _, List.pairwise_singleton _ _, ?_⟩
  intro a ha b hb
  have hStop := (span_of_mem_layout ha).2
  rw [List.nil_append, flatMap_pieces] at hStop
  rw [List.mem_singleton.1 hb]
  exact hStop

/-- No place lies under two tokens of a scan. -/
theorem eq_of_contains {s : String} {keep : Bool} {t u : Token} (ht : t ∈ scan s keep)
    (hu : u ∈ scan s keep) {i : Nat} (hUnder : t.span.contains i = true)
    (hAlso : u.span.contains i = true) : t = u := by
  have hOrder := pairwise_tokensBehind keep s.toList
  rw [← scan_eq_tokensBehind, List.pairwise_iff_getElem] at hOrder
  obtain ⟨j, hj, rfl⟩ := List.getElem_of_mem ht
  obtain ⟨k, hk, rfl⟩ := List.getElem_of_mem hu
  rw [Span.contains_eq_true_iff] at hUnder hAlso
  rcases Nat.lt_trichotomy j k with hBefore | rfl | hBehind
  · have hApart := hOrder j k hj hk hBefore
    omega
  · rfl
  · have hApart := hOrder k j hk hj hBehind
    omega

/-- Every token but the mark of the end lies over the place where it begins. -/
theorem contains_start_of_mem_scan {s : String} {keep : Bool} {t : Token} (h : t ∈ scan s keep)
    (hKind : t.kind ≠ .endOfInput) : t.span.contains t.span.start = true := by
  obtain ⟨before, l, rest, -, rfl, hRead⟩ := exists_lexeme_of_mem_scan h hKind
  have hFull := List.length_pos_iff.2 (Piece.chars_ne_nil hRead)
  exact l.contains_tokenBehind before (List.getElem?_eq_getElem hFull)

/-- A token of a scan stands where the text begins with its lexeme. -/
theorem exists_begins_of_mem_scan {s : String} {keep : Bool} {t : Token} (h : t ∈ scan s keep)
    (hKind : t.kind ≠ .endOfInput) :
    ∃ (before : List Char) (c : Char) (rest : List Char) (l : Lexeme),
      s.toList = before ++ c :: rest ∧ t = l.tokenBehind before ∧ Lexeme.Begins c rest l := by
  obtain ⟨before, l, rest, hText, rfl, hRead⟩ := exists_lexeme_of_mem_scan h hKind
  obtain ⟨c, cs, hAhead, -, hBegins⟩ := Piece.begins_of_read hRead
  rw [hAhead] at hText
  exact ⟨before, c, cs, l, hText, rfl, hBegins⟩

/-- A piece has at most one token, and a lexeme begins with a character that is no white space. -/
theorem Piece.length_token?_le (keep : Bool) (before : List Char) {p : Piece} {rest : List Char}
    (h : read (p.chars ++ rest) = some p) :
    (p.token? keep before).toList.length ≤ p.chars.countP fun c => !isWhiteSpace c := by
  cases p with
  | blank ws => exact Nat.zero_le _
  | lexeme l =>
    obtain ⟨c, cs, hText, hOther, -⟩ := begins_of_read h
    cases hChars : (lexeme l).chars with
    | nil => exact absurd hChars (chars_ne_nil h)
    | cons d ds =>
      rw [hChars] at hText
      obtain ⟨rfl, -⟩ := List.cons.inj hText
      have hFirst : 0 < (d :: ds).countP fun c => !isWhiteSpace c :=
        List.countP_pos_iff.2 ⟨d, List.mem_cons_self, by rw [hOther]; rfl⟩
      have hToken : ((lexeme l).token? keep before).toList.length ≤ 1 := by
        cases (lexeme l).token? keep before <;> simp
      omega

/-- Every token but the mark of the end takes a character that is no white space. -/
theorem length_tokensBehind_le (keep : Bool) (before cs : List Char) :
    (tokensBehind keep before cs).length ≤ 1 + cs.countP fun c => !isWhiteSpace c := by
  -- piece by piece: each one pays for its token with its first character
  induction cs using Piece.induction generalizing before with
  | nil =>
    rw [tokensBehind_nil, List.length_singleton]
    exact Nat.le_add_right 1 _
  | piece p rest hRead ih =>
    have hFirst := Piece.length_token?_le keep before hRead
    have hRest := ih (before ++ p.chars)
    rw [tokensBehind_append hRead, List.length_append, List.countP_append]
    omega

-- ---------------------------------------------------------------------------
-- The scan
-- ---------------------------------------------------------------------------

/-- **A scan that keeps comments divides the source.** Its spans follow one another, every token
but the last takes some of the source, under each span stands what the token says, and only white
space lies between them. -/
theorem scan_partition (s : String) : Partition s.toList (scan s true) := by
  have hWithin : ∀ t ∈ layout true [] (pieces s.toList), t.span.stop ≤ s.toList.length := by
    intro t ht
    have hStop := (span_of_mem_layout ht).2
    rwa [List.nil_append, flatMap_pieces] at hStop
  rw [scan_eq_tokensBehind, tokensBehind]
  refine ⟨?ordered, ?ends, ?covers, ?blank⟩
  case ordered => exact pairwise_tokensBehind true s.toList
  case ends =>
    refine ⟨_, _, rfl, ?_⟩
    intro t ht
    refine ⟨?_, start_lt_stop_of_mem_layout ht, hWithin t ht⟩
    obtain ⟨qs, l, rs, -, -, rfl⟩ := mem_layout_iff.1 ht
    exact l.kind_ne_endOfInput
  case covers =>
    intro t ht
    rcases List.mem_append.1 ht with hLaid | hEnd
    · exact covers_of_mem_layout hLaid
    · rw [List.mem_singleton] at hEnd
      rw [hEnd]
      exact Token.covers_endBehind s.toList
  case blank =>
    intro i c hChar hUncovered
    rcases isWhiteSpace_or_contains hChar with hBlank | ⟨qs, l, rs, hPieces, hInside⟩
    · exact hBlank
    · -- the lexeme over the place is laid out, as comments are kept, so the place is not uncovered
      have hLaid : l.tokenBehind (qs.flatMap Piece.chars) ∈ layout true [] (pieces s.toList) :=
        mem_layout_iff.2 ⟨qs, l, rs, hPieces, fun _ => rfl, rfl⟩
      rw [hUncovered _ (List.mem_append_left _ hLaid)] at hInside
      cases hInside

end CTokens
