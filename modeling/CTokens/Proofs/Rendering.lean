import CTokens.Proofs.Breaks
import CTokens.Proofs.Partition

/-!
# CTokens — writing lexemes down and scanning them again

A lexeme may be taken out of its source and written elsewhere. However the source went on, and be it
in the middle of an exponent or of a run of operators, the lexeme is scanned again as it was, when
white space stands before and behind it. So tokens are written down by their lexemes with white
space between them.

Main statements:

* `Sample`, `Rendered` — lexemes of any sources, and the texts in which they stand one behind the
  other;
* `Token.isUnclosed_tokenBehind` — it is seen in a token whether its lexeme is closed;
* `scan_rendered` — scanning such a text gives the tokens again.
-/

namespace CTokens

open Unicode

-- ---------------------------------------------------------------------------
-- What is seen in a token
-- ---------------------------------------------------------------------------

namespace Token

/-- Whether a token is a comment up to the end of its line. -/
def isLineComment (t : Token) : Bool :=
  t.kind == .comment && Lexeme.lineMark.isPrefixOf t.text.toList

/-- Whether a token lacks the mark that would close it. A literal then covers its text and one
quote, and a block comment does not end in a closing mark behind its opening mark. -/
def isUnclosed (t : Token) : Bool :=
  (t.kind.quote?.isSome && t.span.stop == t.span.start + t.text.length + 1) ||
    (t.kind == .comment && Comment.opening.isPrefixOf t.text.toList &&
      (decide (t.text.length < 4) || !Comment.closing.isSuffixOf t.text.toList))

end Token

/-- A text that holds a closing mark closes a block comment. -/
theorem Comment.closed_of_isInfix {cs : List Char} (h : closing <:+: cs) :
    (blockBody cs).closed = true := by
  induction cs with
  | nil => exact absurd (List.eq_nil_of_infix_nil h) (by decide)
  | cons c cs ih =>
    rw [blockBody]
    by_cases hMark : closing.isPrefixOf (c :: cs) = true
    · rw [if_pos hMark]
    · rw [if_neg hMark]
      rcases List.infix_cons_iff.1 h with hHere | hLater
      · exact absurd (List.isPrefixOf_iff_prefix.2 hHere) hMark
      · exact ih hLater

/-- It is seen in a token whether its lexeme is a line comment. -/
theorem Lexeme.isLineComment_tokenBehind (l : Lexeme) (before : List Char) :
    (l.tokenBehind before).isLineComment = l.isLineComment := by
  show (l.isComment && lineMark.isPrefixOf (String.ofList l.shown).toList) = _
  rw [String.toList_ofList]
  cases l with
  | word cs =>
    rw [isComment_word]
    rfl
  | quoted mark body =>
    rw [isComment_quoted]
    rfl
  | lineComment | blockComment | number | delimiter | operator | unknown => rfl

/-- A block comment is open unless it ends in a closing mark behind its opening mark. -/
theorem Comment.not_closed_eq {cs : List Char} {body : BlockBody} (h : blockBody cs = body) :
    (decide ((opening ++ body.chars).length < 4) ||
      !closing.isSuffixOf (opening ++ body.chars)) = !body.closed := by
  cases hClosed : body.closed with
  | true =>
    have hChars : body.chars = body.content ++ closing := by
      rw [BlockBody.chars, hClosed, if_pos rfl]
    have hSuffix : closing <:+ opening ++ body.chars := by
      rw [hChars, ← List.append_assoc]
      exact List.suffix_append _ _
    have hLong : ¬ (opening ++ body.chars).length < 4 := by
      rw [hChars, List.length_append, List.length_append]
      simp only [opening, closing, List.length_cons, List.length_nil]
      omega
    rw [decide_eq_false hLong, List.isSuffixOf_iff_suffix.2 hSuffix]
    rfl
  | false =>
    have hChars : body.chars = cs := h ▸ chars_of_open (h ▸ hClosed)
    rw [hChars]
    rcases Nat.lt_or_ge (opening ++ cs).length 4 with hShort | hLong
    · rw [decide_eq_true hShort, Bool.true_or]
      rfl
    · have hNone : ¬ closing <:+ opening ++ cs := by
        -- a closing mark behind the opening one would have closed the comment
        intro hSuffix
        have hFits : closing.length ≤ cs.length := by
          rw [List.length_append] at hLong
          exact Nat.le_of_add_le_add_left hLong
        have hBehind : closing <:+ cs :=
          List.suffix_of_suffix_length_le hSuffix (List.suffix_append _ _) hFits
        have hFound := closed_of_isInfix hBehind.isInfix
        rw [h, hClosed] at hFound
        cases hFound
      rw [← List.isSuffixOf_iff_suffix, Bool.not_eq_true] at hNone
      rw [hNone, Bool.not_false, Bool.or_true]

/-- A token shows that its lexeme lacks the mark that would close it. -/
theorem Lexeme.isUnclosed_tokenBehind {l : Lexeme} {rest : List Char} (before : List Char)
    (h : Piece.read (l.chars ++ rest) = some (.lexeme l)) :
    (l.tokenBehind before).isUnclosed = l.isOpen := by
  show ((l.kind.quote?.isSome && before.length + l.chars.length ==
      before.length + (String.ofList l.shown).length + 1) ||
    (l.isComment && Comment.opening.isPrefixOf (String.ofList l.shown).toList &&
      (decide ((String.ofList l.shown).length < 4) ||
        !Comment.closing.isSuffixOf (String.ofList l.shown).toList))) = _
  rw [String.toList_ofList, String.length_ofList]
  cases l with
  | blockComment body =>
    obtain ⟨c, cs, -, -, hBegins⟩ := Piece.begins_of_read h
    cases hBegins
    exact Comment.not_closed_eq rfl
  | quoted mark body =>
    rw [kind, QuoteMark.quote?_kind, isComment_quoted, shown, chars, isOpen, Quoted.Body.chars]
    cases body.closed with
    | true => simp; omega
    | false => simp; omega
  | word cs =>
    rw [quote?_kind_word, isComment_word]
    rfl
  | lineComment | number | delimiter | operator | unknown => rfl

-- ---------------------------------------------------------------------------
-- Lexemes of any sources
-- ---------------------------------------------------------------------------

/-- A token that some source has, other than the mark of its end. -/
structure Sample where
  source : String
  token : Token
  mem : token ∈ scan source true
  kind_ne : token.kind ≠ .endOfInput

/-- The lexeme of the token: the characters that it covers in its source. -/
def Sample.chars (x : Sample) : List Char := x.token.span.slice x.source.toList

/-- The texts in which the lexemes of samples stand one behind the other. White space stands between
them, and begins with a line break behind a comment up to the end of its line. Only the last lexeme
may lack the mark that would close it, and nothing stands behind it then. -/
inductive Rendered : List Sample → List Char → Prop where
  | nil : Rendered [] []
  | cons (x : Sample) (ws : List Char) (xs : List Sample) (text : List Char)
      (hBlank : ∀ c ∈ ws, isWhiteSpace c = true) (hApart : xs ≠ [] → ws ≠ [])
      (hLine : x.token.isLineComment = true → IsLineBreak ws)
      (hLast : x.token.isUnclosed = true → ws = [] ∧ xs = [])
      (hRest : Rendered xs text) : Rendered (x :: xs) (x.chars ++ (ws ++ text))

theorem Rendered.eq_nil {text : List Char} (h : Rendered [] text) : text = [] := by
  cases h
  rfl

/-- The token of a sample is that of a lexeme, which is read where the sample was taken. -/
theorem Sample.exists_lexeme (x : Sample) :
    ∃ (l : Lexeme) (before rest : List Char), x.token = l.tokenBehind before ∧ x.chars = l.chars ∧
      Piece.read (l.chars ++ rest) = some (.lexeme l) := by
  obtain ⟨before, l, rest, hText, hToken, hRead⟩ := exists_lexeme_of_mem_scan x.mem x.kind_ne
  refine ⟨l, before, rest, hToken, ?_, hRead⟩
  rw [Sample.chars, hToken, hText]
  exact l.slice_tokenBehind _ _

-- ---------------------------------------------------------------------------
-- Scanning what was written down
-- ---------------------------------------------------------------------------

/-- A text that is only there behind another does not change what that begins with. -/
theorem head?_append_of_nil {p : Char → Prop} {ws text : List Char} (hWs : ∀ c ∈ ws.head?, p c)
    (hText : ws = [] → text = []) : ∀ c ∈ (ws ++ text).head?, p c := by
  cases ws with
  | nil =>
    rw [hText rfl]
    exact hWs
  | cons c ws => exact hWs

/-- What stands behind a lexeme that was written down does not become part of it. -/
theorem Rendered.endsBefore {l : Lexeme} {ws text : List Char} {xs : List Sample}
    (hBlank : ∀ c ∈ ws, isWhiteSpace c = true) (hApart : xs ≠ [] → ws ≠ [])
    (hLine : l.isLineComment = true → IsLineBreak ws)
    (hLast : l.isOpen = true → ws = [] ∧ xs = []) (hRest : Rendered xs text) :
    l.EndsBefore (ws ++ text) := by
  have hText : ws = [] → text = [] := by
    intro hNone
    by_cases hXs : xs = []
    · exact (hXs ▸ hRest).eq_nil
    · exact absurd hNone (hApart hXs)
  refine ⟨?_, ?_, ?_⟩
  · exact head?_append_of_nil (fun c hc => hBlank c (List.mem_of_mem_head? hc)) hText
  · intro hIs
    exact head?_append_of_nil (hLine hIs) hText
  · intro hOpen
    obtain ⟨hWs, -⟩ := hLast hOpen
    rw [hWs, hText hWs]
    rfl

/-- The tokens of a text in which samples are written down have the kinds and the texts of the
samples. -/
theorem tokensBehind_rendered {xs : List Sample} {text : List Char} (h : Rendered xs text)
    (before : List Char) :
    (tokensBehind true before text).map (fun t => (t.kind, t.text)) =
      xs.map (fun x => (x.token.kind, x.token.text)) ++ [(.endOfInput, "")] := by
  induction h generalizing before with
  | nil =>
    rw [tokensBehind_nil]
    rfl
  | cons x ws xs text hBlank hApart hLine hLast hRest ih =>
    -- `around` and `rest` stood before and behind the lexeme in its own source
    obtain ⟨l, around, rest, hToken, hChars, hRead⟩ := x.exists_lexeme
    rw [hToken, l.isLineComment_tokenBehind] at hLine
    rw [hToken, Lexeme.isUnclosed_tokenBehind around hRead] at hLast
    have hEnds := Rendered.endsBefore hBlank hApart hLine hLast hRest
    rw [← List.append_nil l.chars] at hRead
    have hTokens := tokensBehind_lexeme_append hRead hEnds true before
    rw [List.append_nil, List.nil_append, tokensBehind_blank_append hBlank,
      Piece.token?_lexeme (fun _ => rfl), ← hChars] at hTokens
    rw [hTokens, Option.toList_some, List.singleton_append, List.map_cons, ih, List.map_cons,
      hToken]
    rfl

/-- **Lexemes can be written down and scanned again.** However their sources went on, lexemes with
white space between them are scanned to tokens of the same kinds and texts in the same order, and
nothing else before the end. -/
theorem scan_rendered {xs : List Sample} {ws text : List Char}
    (hBlank : ∀ c ∈ ws, isWhiteSpace c = true) (h : Rendered xs text) :
    (scan (String.ofList (ws ++ text)) true).map (fun t => (t.kind, t.text)) =
      xs.map (fun x => (x.token.kind, x.token.text)) ++ [(.endOfInput, "")] := by
  rw [scan_eq_tokensBehind, String.toList_ofList, tokensBehind_blank_append hBlank]
  exact tokensBehind_rendered h _

/-- A number whose exponent was given back, a comment up to the end of its line and a literal that
is not closed, each from a source of its own. -/
theorem scan_rendered_exponent :
    ∃ xs : List Sample, xs.map Sample.source = ["1e x", "// c\n2", "x \"ab"] ∧
      Rendered xs "1 // c\n\"ab".toList ∧
      (scan (String.ofList ([' '] ++ "1 // c\n\"ab".toList)) true).map
          (fun t => (t.kind, t.text)) =
        xs.map (fun x => (x.token.kind, x.token.text)) ++ [(.endOfInput, "")] := by
  let number : Sample :=
    ⟨"1e x", ⟨.number, "1", ⟨1, 1⟩, ⟨0, 1⟩⟩, by decide +kernel, by decide⟩
  let comment : Sample :=
    ⟨"// c\n2", ⟨.comment, "// c", ⟨1, 1⟩, ⟨0, 4⟩⟩, by decide +kernel, by decide⟩
  let literal : Sample :=
    ⟨"x \"ab", ⟨.stringLiteral, "ab", ⟨1, 3⟩, ⟨2, 5⟩⟩, by decide +kernel, by decide⟩
  have hLiteral : Rendered [literal] (literal.chars ++ ([] ++ [])) :=
    .cons literal [] [] [] nofun (fun hSome => absurd rfl hSome) nofun (fun _ => ⟨rfl, rfl⟩) .nil
  have hBreak : ∀ c ∈ ['\n'], isWhiteSpace c = true := List.forall_mem_singleton.2 (by decide)
  have hComment := Rendered.cons comment ['\n'] [literal] _ hBreak (fun _ => nofun)
    (fun _ c hc => by cases hc; rfl) (fun hOpen => absurd hOpen (by decide)) hLiteral
  have hSpace : ∀ c ∈ [' '], isWhiteSpace c = true := List.forall_mem_singleton.2 (by decide)
  have hNumber := Rendered.cons number [' '] [comment, literal] _ hSpace (fun _ => nofun)
    nofun nofun hComment
  have hText : number.chars ++ ([' '] ++ (comment.chars ++ (['\n'] ++
      (literal.chars ++ ([] ++ []))))) = "1 // c\n\"ab".toList := by decide
  rw [hText] at hNumber
  exact ⟨[number, comment, literal], rfl, hNumber, scan_rendered hSpace hNumber⟩

end CTokens
