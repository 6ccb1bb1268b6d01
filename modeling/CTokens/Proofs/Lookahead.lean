import CTokens.Proofs.Layout
import CTokens.Proofs.Numeral

/-!
# CTokens — bounded lookahead

How far a reader looks past what it takes. A run stops at one character that does not belong to
it; the closing mark of a comment and the closing quote of a literal are taken, so that nothing
behind them counts; an exponent is given back after its mark, its sign and one character that is no
digit. So no reader looks at more than three characters behind its result, and an edit that leaves
these three alone leaves the token alone.

A comment or a literal that is not closed runs into the edit, and is out of reach of the law in
both texts.

Main statements:

* `LooksAhead` — a reader that takes the same from every text with the same first characters;
* `Lexeme.looksAhead_read`, `Piece.read_append_congr` — three characters behind a piece decide it;
* `exists_common_tokens` — two texts with the same first characters have the same tokens up to
  three characters before the first difference;
* `scan_filter_congr` — the same for two sources.
-/

namespace CTokens

open Unicode

-- ---------------------------------------------------------------------------
-- Readers that look a bounded number of characters ahead
-- ---------------------------------------------------------------------------

/-- What `f` reads is decided by what it takes, which is `size` of its result, and the `n`
characters behind. -/
def LooksAhead {α : Type} (n : Nat) (f : List Char → α) (size : α → Nat) : Prop :=
  ∀ common rest rest' : List Char, size (f (common ++ rest)) + n ≤ common.length →
    f (common ++ rest') = f (common ++ rest)

namespace LooksAhead

variable {α β : Type} {n m : Nat} {f : List Char → α} {size : α → Nat}

/-- A reader that gets along with `n` characters gets along with more of them. -/
theorem mono (h : LooksAhead n f size) (hLe : n ≤ m) : LooksAhead m f size := by
  intro common rest rest' hRoom
  exact h common rest rest' (by omega)

/-- A test takes nothing, so that it is decided by the `n` first characters. -/
theorem test_eq {test : List Char → α} (h : LooksAhead n test fun _ => 0) {common : List Char}
    (hLength : n ≤ common.length) (rest rest' : List Char) :
    test (common ++ rest') = test (common ++ rest) :=
  h common rest rest' (by dsimp only; omega)

/-- A reader and then another on what the first leaves, which may depend on what it took. -/
theorem andThen {g : α → List Char → β} {size' : β → Nat} (hf : LooksAhead n f size)
    (hg : ∀ a, LooksAhead n (g a) size') :
    LooksAhead n (fun cs => (f cs, g (f cs) (cs.drop (size (f cs)))))
      (fun r => size r.1 + size' r.2) := by
  intro common rest rest' hRoom
  dsimp only at hRoom ⊢
  have hFirst := hf common rest rest' (by omega)
  have hTaken : size (f (common ++ rest)) ≤ common.length := by omega
  rw [hFirst, List.drop_append_of_le_length hTaken, List.drop_append_of_le_length hTaken]
  rw [List.drop_append_of_le_length hTaken] at hRoom
  rw [hg _ _ rest rest']
  rw [List.length_drop]
  omega

/-- A result may be turned into another that is at least as large. -/
theorem map {g : α → β} {size' : β → Nat} (hf : LooksAhead n f size)
    (hSize : ∀ a, size a ≤ size' (g a)) : LooksAhead n (fun cs => g (f cs)) size' := by
  intro common rest rest' hRoom
  dsimp only at hRoom ⊢
  have hLe := hSize (f (common ++ rest))
  rw [hf common rest rest' (by omega)]

/-- A choice between two readers, when the test needs no more characters than they do. -/
theorem ite {test : List Char → Bool} {g : List Char → α} (hTest : LooksAhead n test fun _ => 0)
    (hf : LooksAhead n f size) (hg : LooksAhead n g size) :
    LooksAhead n (fun cs => if test cs = true then f cs else g cs) size := by
  intro common rest rest' hRoom
  have hSame : test (common ++ rest') = test (common ++ rest) :=
    hTest.test_eq (by omega) rest rest'
  dsimp only at hRoom ⊢
  rw [hSame]
  by_cases hHolds : test (common ++ rest) = true
  · rw [if_pos hHolds] at hRoom ⊢
    rw [if_pos hHolds, hf common rest rest' hRoom]
  · rw [if_neg hHolds] at hRoom ⊢
    rw [if_neg hHolds, hg common rest rest' hRoom]

/-- What is known of the first character need not be looked at. -/
theorem cons (h : LooksAhead (n + 1) f size) (c : Char) :
    LooksAhead n (fun cs => f (c :: cs)) size := by
  intro common rest rest' hRoom
  exact h (c :: common) rest rest' (Nat.succ_le_succ hRoom)

/-- A reader that leaves out the first character has to see it nonetheless. -/
theorem tail (h : LooksAhead n f size) : LooksAhead (n + 1) (fun cs => f cs.tail) size := by
  intro common rest rest' hRoom
  match common with
  | [] =>
    rw [List.length_nil] at hRoom
    omega
  | c :: common => exact h common rest rest' (Nat.le_of_succ_le_succ hRoom)

theorem const (a : α) : LooksAhead n (fun _ => a) size := fun _ _ _ _ => rfl

end LooksAhead

/-- A run of characters looks at the one that ends it. -/
theorem looksAhead_takeWhile (p : Char → Bool) :
    LooksAhead 1 (List.takeWhile p) List.length := by
  intro common rest rest' hRoom
  rw [List.takeWhile_append] at hRoom
  split at hRoom
  · next hAll =>
    rw [List.length_append] at hRoom
    omega
  · next hStops => rw [List.takeWhile_append, List.takeWhile_append, if_neg hStops, if_neg hStops]

/-- Whether a text begins with `mark` is seen in as many characters. -/
theorem looksAhead_isPrefixOf (mark : List Char) :
    LooksAhead mark.length (fun cs => mark.isPrefixOf cs) fun _ => 0 := by
  intro common rest rest' hRoom
  have hCommon : ∀ tail, mark <+: common ++ tail ↔ mark <+: common := by
    intro tail
    constructor
    · intro hPrefix
      exact List.prefix_of_prefix_length_le hPrefix (List.prefix_append common tail) (by omega)
    · intro hPrefix
      exact hPrefix.trans (List.prefix_append common tail)
  rw [Bool.eq_iff_iff, List.isPrefixOf_iff_prefix, List.isPrefixOf_iff_prefix, hCommon, hCommon]

-- ---------------------------------------------------------------------------
-- Comments and literals
-- ---------------------------------------------------------------------------

/-- A reader that runs to a closing mark: it takes the whole text unless it finds the mark, and then
takes the same again whatever follows. -/
structure Delimited {α : Type} (f : List Char → α) (chars : α → List Char) (closed : α → Bool) :
    Prop where
  isPrefix : ∀ cs, chars (f cs) <+: cs
  whole : ∀ cs, closed (f cs) = false → chars (f cs) = cs
  again : ∀ cs, closed (f cs) = true → ∀ tail, f (chars (f cs) ++ tail) = f cs

namespace Delimited

variable {α : Type} {f : List Char → α} {chars : α → List Char} {closed : α → Bool}

/-- What follows what was taken may be replaced. Without the mark nothing may come in its place. -/
theorem append_congr (h : Delimited f chars closed) {common rest rest' : List Char}
    (hFits : (chars (f (common ++ rest))).length ≤ common.length)
    (hEnd : closed (f (common ++ rest)) = false → rest' = []) :
    f (common ++ rest') = f (common ++ rest) := by
  have hWithin : chars (f (common ++ rest)) <+: common :=
    List.prefix_of_prefix_length_le (h.isPrefix _) (List.prefix_append common rest) hFits
  -- what was taken lies within the common part, and `left` is what it leaves of that
  obtain ⟨left, hLeft⟩ := hWithin
  cases hMark : closed (f (common ++ rest)) with
  | false =>
    rw [h.whole _ hMark, List.length_append] at hFits
    have hRest : rest = [] := List.eq_nil_of_length_eq_zero (by omega)
    rw [hEnd hMark, hRest]
  | true =>
    calc f (common ++ rest') = f (chars (f (common ++ rest)) ++ (left ++ rest')) := by
          rw [← List.append_assoc, hLeft]
      _ = f (common ++ rest) := h.again _ hMark _

/-- One character behind what was taken shows that the text goes on, and so that the mark was
found. -/
theorem looksAhead (h : Delimited f chars closed) : LooksAhead 1 f (fun a => (chars a).length) := by
  intro common rest rest' hRoom
  dsimp only at hRoom
  refine h.append_congr (by omega) ?_
  intro hMark
  rw [h.whole _ hMark, List.length_append] at hRoom
  omega

end Delimited

/-- A block comment that is closed is read again whatever follows its mark. -/
theorem Comment.blockBody_chars_append {cs : List Char} (h : (blockBody cs).closed = true)
    (tail : List Char) : blockBody ((blockBody cs).chars ++ tail) = blockBody cs := by
  fun_induction blockBody cs with
  | case1 => cases h
  | case2 c rest hMark => rfl
  | case3 c rest hMark b ih =>
    -- the mark is not here, but `b` ends with it: both characters looked at belong to the body
    have hTwo : closing.length ≤ (c :: b.chars).length := by
      have hClosed : b.closed = true := h
      rw [BlockBody.chars, hClosed, if_pos rfl, List.length_cons, List.length_append]
      omega
    obtain ⟨t, ht⟩ := blockBody_isPrefix rest
    have hAhead : closing.isPrefixOf (c :: (b.chars ++ tail)) = closing.isPrefixOf (c :: rest) := by
      rw [← ht]
      exact (looksAhead_isPrefixOf closing).test_eq hTwo t tail
    show blockBody (c :: (b.chars ++ tail)) = _
    rw [blockBody, hAhead, if_neg hMark, ih h]

/-- The body of a block comment runs to the closing mark. -/
theorem Comment.delimited_blockBody : Delimited blockBody BlockBody.chars BlockBody.closed where
  isPrefix := blockBody_isPrefix
  whole _ hOpen := chars_of_open hOpen
  again _ hClosed := blockBody_chars_append hClosed

/-- A literal that is closed is read again whatever follows its quote. -/
theorem Quoted.body_chars_append {quote : Char} {cs : List Char}
    (h : (body quote cs).closed = true) (tail : List Char) :
    body quote ((body quote cs).chars quote ++ tail) = body quote cs := by
  -- the branches of `body`: the end of the text, the quote, an escape at the end, an escape, and
  -- any other character; in the last two the rest is read again by induction
  fun_induction body quote cs with
  | case1 => cases h
  | case2 rest =>
    show body quote (quote :: tail) = _
    rw [body.eq_def]
    exact if_pos rfl
  | case3 => cases h
  | case4 escaped rest hQuote ih =>
    rw [Body.chars_prepend, List.append_assoc]
    show body quote ('\\' :: escaped :: ((body quote rest).chars quote ++ tail)) = _
    rw [body.eq_def]
    dsimp only
    rw [if_neg hQuote, if_pos rfl, ih h]
  | case5 c rest hQuote hEscape ih =>
    rw [Body.chars_prepend, List.append_assoc]
    show body quote (c :: ((body quote rest).chars quote ++ tail)) = _
    rw [body.eq_def]
    dsimp only
    rw [if_neg hQuote, if_neg hEscape, ih h]

/-- The body of a literal runs to the closing quote. -/
theorem Quoted.delimited_body (quote : Char) :
    Delimited (body quote) (Body.chars quote) Body.closed where
  isPrefix := body_isPrefix quote
  whole _ hOpen := chars_of_open hOpen
  again _ hClosed := body_chars_append hClosed

-- ---------------------------------------------------------------------------
-- Numbers
-- ---------------------------------------------------------------------------

namespace Numeral

/-- A run of digits looks at the character that ends it. -/
theorem looksAhead_digits : LooksAhead 1 digits List.length := looksAhead_takeWhile Char.isDigit

/-- Whether a point belongs to a number is seen in the character behind it. -/
theorem looksAhead_fraction (whole : Bool) : LooksAhead 2 (fraction whole) List.length := by
  intro common rest rest' hRoom
  match common with
  | [] =>
    rw [List.length_nil] at hRoom
    omega
  | [c] =>
    simp only [List.length_cons, List.length_nil] at hRoom
    omega
  | c :: d :: common =>
    -- the point and what stands behind it are in the common part, and so the same in both texts
    rw [List.cons_append, List.cons_append] at hRoom ⊢
    rw [List.cons_append, List.cons_append]
    by_cases hPoint : c = '.'
    · subst hPoint
      rw [fraction_point] at hRoom ⊢
      rw [fraction_point]
      by_cases hTaken : (whole || d.isDigit) = true
      · rw [if_pos hTaken] at hRoom ⊢
        rw [List.length_cons, List.length_cons] at hRoom
        have hDigits : digits (d :: (common ++ rest')) = digits (d :: (common ++ rest)) :=
          looksAhead_digits (d :: common) rest rest' (by rw [List.cons_append]; omega)
        rw [if_pos hTaken, hDigits]
      · rw [if_neg hTaken, if_neg hTaken]
    · rw [fraction_of_ne whole hPoint, fraction_of_ne whole hPoint]

/-- A mantissa looks no further ahead than its fraction does. -/
theorem looksAhead_mantissa : LooksAhead 2 mantissa List.length := by
  have hParts := (looksAhead_digits.mono (by decide)).andThen
    fun whole => looksAhead_fraction (!whole.isEmpty)
  refine hParts.map (g := fun parts => parts.1 ++ parts.2) ?_
  intro parts
  exact Nat.le_of_eq List.length_append.symm

/-- Whether a mark and a sign stand here is seen in two characters. -/
theorem looksAhead_exponentLead : LooksAhead 2 exponentLead (fun _ => 0) := by
  intro common rest rest' hRoom
  match common with
  | [] =>
    rw [List.length_nil] at hRoom
    omega
  | [c] =>
    rw [List.length_cons, List.length_nil] at hRoom
    omega
  | c :: d :: common => rfl

/-- An exponent is given back when behind its mark and sign stands no digit: three characters. -/
theorem looksAhead_exponent : LooksAhead 3 exponent (fun r => r.chars.length) := by
  intro common rest rest' hRoom
  dsimp only at hRoom
  have hLead : exponentLead (common ++ rest') = exponentLead (common ++ rest) :=
    looksAhead_exponentLead.test_eq (by omega) rest rest'
  have hLe := length_exponentLead_le (common ++ rest)
  have hWithin : (exponentLead (common ++ rest)).length ≤ common.length := by omega
  refine exponent_congr hLead ?_
  intro hMark
  -- with a mark, the run of digits ends within the common part, also when it is empty
  have hPower := length_power_le hMark
  rw [List.drop_append_of_le_length hWithin] at hPower
  rw [List.drop_append_of_le_length hWithin, List.drop_append_of_le_length hWithin]
  refine looksAhead_digits _ rest rest' ?_
  rw [List.length_drop]
  omega

/-- A number looks three characters ahead, for the sake of its exponent. -/
theorem looksAhead_read : LooksAhead 3 read (fun r => r.chars.length) := by
  have hParts := (looksAhead_mantissa.mono (by decide)).andThen fun _ => looksAhead_exponent
  rw [show read = _ from funext read_eq]
  refine hParts.map
    (g := fun parts => (⟨parts.1 ++ parts.2.chars, parts.2.dangling⟩ : Reading)) ?_
  intro parts
  exact Nat.le_of_eq List.length_append.symm

end Numeral

-- ---------------------------------------------------------------------------
-- Lexemes and pieces
-- ---------------------------------------------------------------------------

/-- No operator has more than two characters. -/
theorem length_le_two_of_mem_operators {op : String} (h : op ∈ operators) :
    op.toList.length ≤ 2 := by
  have hAll : ∀ op ∈ operators, op.toList.length ≤ 2 := by decide
  exact hAll op h

/-- Which operator a text begins with is seen in two characters. -/
theorem Lexeme.looksAhead_operatorAt? : LooksAhead 2 operatorAt? fun _ => 0 := by
  intro common rest rest' hRoom
  unfold operatorAt?
  rw [← List.head?_filter, ← List.head?_filter]
  refine congrArg List.head? (List.filter_congr ?_)
  intro op hMem
  have hShort := length_le_two_of_mem_operators (mem_operatorsLongestFirst.1 hMem)
  exact (looksAhead_isPrefixOf op.toList).test_eq (by omega) rest rest'

/-- Whether a number begins here is seen in the character behind its first one. -/
theorem Numeral.looksAhead_opens (c : Char) : LooksAhead 1 (opens c) fun _ => 0 := by
  intro common rest rest' hRoom
  match common with
  | [] =>
    rw [List.length_nil] at hRoom
    omega
  | d :: common => rfl

/-- How a lexeme is read behind its first character `c`. Its text counts that character too, so two
characters more are three behind the lexeme. -/
theorem Lexeme.looksAhead_read (c : Char) : LooksAhead 2 (read c) fun l => l.chars.length := by
  show LooksAhead 2 (fun rest => read c rest) _
  unfold read
  -- `read` is a chain of tests, each of which needs two characters at most behind `c`; what is left
  -- is one reader for every branch
  refine .ite (((looksAhead_isPrefixOf lineMark).cons c).mono (by decide)) ?line
    (.ite (((looksAhead_isPrefixOf Comment.opening).cons c).mono (by decide)) ?block
      (.ite (.const _) ?word (.ite ((Numeral.looksAhead_opens c).mono (by decide)) ?number ?other)))
  case line =>
    refine (looksAhead_takeWhile _).tail.map (g := lineComment) ?_
    intro body
    rw [chars, List.length_append]
    omega
  case block =>
    refine Comment.delimited_blockBody.looksAhead.tail.map (g := blockComment) ?_
    intro body
    rw [chars, List.length_append]
    omega
  case word =>
    refine ((looksAhead_takeWhile continuesWord).mono (by decide)).map
      (g := fun cs => word (c :: cs)) ?_
    intro cs
    rw [chars, List.length_cons]
    omega
  case number =>
    exact (Numeral.looksAhead_read.cons c).map (g := number) fun reading => Nat.le_refl _
  case other =>
    cases hQuote : QuoteMark.ofChar? c with
    | some mark =>
      refine ((Quoted.delimited_body c).looksAhead.mono (by decide)).map (g := quoted mark) ?_
      intro body
      rw [chars, List.length_cons, QuoteMark.char_of_ofChar? hQuote]
      omega
    | none =>
      refine .ite (.const _) (.const _) ?_
      intro common rest rest' hRoom
      dsimp only at hRoom ⊢
      have hOperator : operatorAt? (c :: (common ++ rest')) = operatorAt? (c :: (common ++ rest)) :=
        (looksAhead_operatorAt?.cons c).test_eq (by omega) rest rest'
      rw [hOperator]

/-- Three characters behind a piece decide it. -/
theorem Piece.read_append_congr {common rest : List Char} {p : Piece}
    (h : read (common ++ rest) = some p) (hRoom : p.chars.length + 3 ≤ common.length)
    (rest' : List Char) : read (common ++ rest') = some p := by
  match common with
  | [] =>
    rw [List.length_nil] at hRoom
    omega
  | c :: common =>
    rw [List.cons_append, read] at h ⊢
    by_cases hBlank : isWhiteSpace c = true
    · rw [if_pos hBlank] at h ⊢
      cases h
      have hRun : ((c :: common ++ rest).takeWhile isWhiteSpace).length + 1 ≤
          (c :: common).length := by
        have hSize : ((c :: common ++ rest).takeWhile isWhiteSpace).length + 3 ≤
            (c :: common).length := hRoom
        omega
      have hSame : (c :: common ++ rest').takeWhile isWhiteSpace =
          (c :: common ++ rest).takeWhile isWhiteSpace :=
        looksAhead_takeWhile isWhiteSpace (c :: common) rest rest' hRun
      exact congrArg (fun cs => some (blank cs)) hSame
    · rw [if_neg hBlank] at h ⊢
      cases h
      have hLexeme : Lexeme.read c (common ++ rest') = Lexeme.read c (common ++ rest) :=
        Lexeme.looksAhead_read c common rest rest' (Nat.le_of_succ_le_succ hRoom)
      exact congrArg (fun l => some (lexeme l)) hLexeme

-- ---------------------------------------------------------------------------
-- Tokens
-- ---------------------------------------------------------------------------

section
variable {keep : Bool} {before : List Char}

/-- Tokens that are laid out behind a text end behind it. -/
theorem length_le_stop_of_mem_tokensBehind {cs : List Char} {t : Token}
    (h : t ∈ tokensBehind keep before cs) : before.length ≤ t.span.stop := by
  rcases mem_tokensBehind_iff.1 h with hLaid | rfl
  · obtain ⟨qs, l, rs, -, -, rfl⟩ := mem_layout_iff.1 hLaid
    show before.length ≤ (before ++ qs.flatMap Piece.chars).length + l.chars.length
    rw [List.length_append]
    omega
  · show before.length ≤ (before ++ cs).length
    rw [List.length_append]
    omega

/-- When the first piece of a text reaches behind the first `n` characters, so does every token. -/
theorem lt_stop_of_mem_tokensBehind {cs : List Char} {n : Nat} (hLength : n ≤ cs.length)
    (hRead : ∀ p, Piece.read cs = some p → n < p.chars.length + 3) {t : Token}
    (h : t ∈ tokensBehind keep before cs) : before.length + n < t.span.stop + 3 := by
  by_cases hNil : cs = []
  · subst hNil
    have hStop := length_le_stop_of_mem_tokensBehind h
    rw [List.length_nil] at hLength
    omega
  · obtain ⟨p, rest, rfl, hFirst⟩ := Piece.exists_read hNil
    have hReach := hRead p hFirst
    have hStop : before.length + p.chars.length ≤ t.span.stop := by
      rw [tokensBehind_append hFirst] at h
      rcases List.mem_append.1 h with hHead | hTail
      · rw [Option.mem_toList] at hHead
        obtain ⟨l, rfl, -, rfl⟩ := Piece.token?_eq_some_iff.1 hHead
        exact Nat.le_refl _
      · have hBehind := length_le_stop_of_mem_tokensBehind hTail
        rwa [List.length_append] at hBehind
    omega

/-- Two texts with the same first characters begin with the same tokens, and no other token of
either ends three characters before the first difference. -/
theorem exists_common_tokens (keep : Bool) (before common rest rest' : List Char) :
    ∃ ts us us' : List Token,
      tokensBehind keep before (common ++ rest) = ts ++ us ∧
      tokensBehind keep before (common ++ rest') = ts ++ us' ∧
      ∀ t ∈ us ++ us', before.length + common.length < t.span.stop + 3 := by
  -- on the length of the common part, from which each step takes the first piece
  induction hLength : common.length using Nat.strongRecOn generalizing before common with
  | ind n ih =>
    by_cases hInside : ∃ p, Piece.read (common ++ rest) = some p ∧ p.chars.length + 3 ≤ n
    · -- the first piece is the same in both texts, and the law holds behind it
      obtain ⟨p, hRead, hRoom⟩ := hInside
      rw [← hLength] at hRoom
      have hPrefix : p.chars <+: common :=
        List.prefix_of_prefix_length_le (Piece.read_isPrefix hRead) (List.prefix_append _ _)
          (by omega)
      obtain ⟨left, rfl⟩ := hPrefix
      have hRead' := Piece.read_append_congr hRead hRoom rest'
      have hPos := List.length_pos_iff.2 (Piece.chars_ne_nil hRead)
      rw [List.append_assoc] at hRead hRead' ⊢
      rw [List.length_append] at hLength
      obtain ⟨ts, us, us', hTokens, hTokens', hLate⟩ :=
        ih left.length (by omega) (before ++ p.chars) left rfl
      refine ⟨(p.token? keep before).toList ++ ts, us, us', ?_, ?_, ?_⟩
      · rw [tokensBehind_append hRead, hTokens, List.append_assoc]
      · rw [List.append_assoc, tokensBehind_append hRead', hTokens', List.append_assoc]
      · intro t ht
        have hStop := hLate t ht
        rw [List.length_append] at hStop
        omega
    · -- in both texts the first piece reaches too far
      have hRead : ∀ p, Piece.read (common ++ rest) = some p → n < p.chars.length + 3 := by
        intro p hp
        rcases Nat.lt_or_ge n (p.chars.length + 3) with hReach | hRoom
        · exact hReach
        · exact absurd ⟨p, hp, hRoom⟩ hInside
      have hRead' : ∀ p, Piece.read (common ++ rest') = some p → n < p.chars.length + 3 := by
        intro p hp
        rcases Nat.lt_or_ge n (p.chars.length + 3) with hReach | hRoom
        · exact hReach
        · have hRead := Piece.read_append_congr hp (by rw [hLength]; exact hRoom) rest
          exact absurd ⟨p, hRead, hRoom⟩ hInside
      refine ⟨[], _, _, rfl, rfl, ?_⟩
      intro t ht
      rcases List.mem_append.1 ht with hFirst | hSecond
      · exact lt_stop_of_mem_tokensBehind (by rw [List.length_append]; omega) hRead hFirst
      · exact lt_stop_of_mem_tokensBehind (by rw [List.length_append]; omega) hRead' hSecond

end

/-- Tokens that all end too late leave nothing behind the filter, whichever index they have. -/
theorem filter_zipIdx_append_of_late {ts us : List Token} {k : Nat}
    (h : ∀ t ∈ us, k < t.span.stop + 3) :
    (ts ++ us).zipIdx.filter (fun x => decide (x.1.span.stop + 3 ≤ k)) =
      ts.zipIdx.filter (fun x => decide (x.1.span.stop + 3 ≤ k)) := by
  rw [List.zipIdx_append, List.filter_append]
  have hNone : (us.zipIdx (0 + ts.length)).filter
      (fun x => decide (x.1.span.stop + 3 ≤ k)) = [] := by
    rw [List.filter_eq_nil_iff]
    intro x hx
    have hLate := h x.1 (List.fst_mem_of_mem_zipIdx hx)
    rw [decide_eq_true_eq]
    omega
  rw [hNone, List.append_nil]

/-- **Edits far enough behind a token cannot change it.** When two sources agree on their first `k`
characters, the tokens that end three characters before are the same in both, each with the same
index, kind, text, location and span. -/
theorem scan_filter_congr (s s' : String) (k : Nat) (keep : Bool)
    (hk : k ≤ min s.length s'.length) (h : s.toList.take k = s'.toList.take k) :
    (scan s keep).zipIdx.filter (fun x => decide (x.1.span.stop + 3 ≤ k)) =
      (scan s' keep).zipIdx.filter (fun x => decide (x.1.span.stop + 3 ≤ k)) := by
  have hLength : (s.toList.take k).length = k := by
    rw [List.length_take, String.length_toList]
    exact Nat.min_eq_left (Nat.le_min.1 hk).1
  obtain ⟨ts, us, us', hTokens, hTokens', hLate⟩ :=
    exists_common_tokens keep [] (s.toList.take k) (s.toList.drop k) (s'.toList.drop k)
  rw [List.take_append_drop] at hTokens
  rw [h, List.take_append_drop] at hTokens'
  rw [List.length_nil, Nat.zero_add, hLength] at hLate
  rw [scan_eq_tokensBehind, scan_eq_tokensBehind, hTokens, hTokens',
    filter_zipIdx_append_of_late fun t ht => hLate t (List.mem_append_left us' ht),
    filter_zipIdx_append_of_late fun t ht => hLate t (List.mem_append_right us ht)]

/-- The sixth character decides whether the number has an exponent. It stands three characters
behind the number's first digit, so the law speaks of what comes before the number only. -/
theorem scan_filter_congr_exponent :
    5 ≤ min "a 1e+x".length "a 1e+9".length ∧
      "a 1e+x".toList.take 5 = "a 1e+9".toList.take 5 ∧
      (scan "a 1e+x" true).zipIdx.filter (fun x => decide (x.1.span.stop + 3 ≤ 5)) =
        (scan "a 1e+9" true).zipIdx.filter (fun x => decide (x.1.span.stop + 3 ≤ 5)) :=
  ⟨by decide, by decide, scan_filter_congr "a 1e+x" "a 1e+9" 5 true (by decide) (by decide)⟩

end CTokens
