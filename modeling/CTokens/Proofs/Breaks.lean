import CTokens.Proofs.Lookahead
import CTokens.Proofs.Reading

/-!
# CTokens — breaks between lexemes

White space belongs to no word, number or operator, and neither does the end of a text. Where one of
them comes, every reader stops, whatever it might have looked at before. So a lexeme is read again
when the text behind it is cut off, or goes on with white space, however it went on before: what
stopped the lexeme was no part of it. Only an exponent that had to be given back may be lost.

Comments and literals may hold white space. A line comment ends at a line break only, and what is
not closed ends with the text alone.

Main statements:

* `StopsAtBreak` — a reader that takes the same up to a break, with `append` for one reader behind
  another;
* `Lexeme.plain_read_append` — a lexeme is read again before a break;
* `tokensBehind_lexeme_append` — and so its token is the same, and the tokens behind it are those of
  what follows.
-/

namespace CTokens

open Unicode

-- ---------------------------------------------------------------------------
-- White space
-- ---------------------------------------------------------------------------

/-- The text begins with white space or is empty. -/
def IsBreak (cs : List Char) : Prop := ∀ c ∈ cs.head?, isWhiteSpace c = true

/-- The text begins with a line break or is empty. -/
def IsLineBreak (cs : List Char) : Prop := ∀ c ∈ cs.head?, c = '\n'

theorem isBreak_nil : IsBreak [] := by
  intro c hc
  cases hc

theorem isBreak_cons {c : Char} {cs : List Char} (h : isWhiteSpace c = true) :
    IsBreak (c :: cs) := by
  intro d hd
  cases hd
  exact h

/-- The characters that words, numbers and operators are made of. -/
def isInner (c : Char) : Bool :=
  Lexeme.continuesWord c || c.isDigit || c == '.' || Numeral.isExponentMark c ||
    Numeral.isSign c || operators.any fun op => op.toList.contains c

/-- No white space is part of a word, a number or an operator. -/
theorem isInner_of_isWhiteSpace {c : Char} (h : isWhiteSpace c = true) : isInner c = false := by
  -- all white space is listed, so it can be looked through
  have hAll : ∀ r ∈ whiteSpaceRanges.ranges, ∀ n ∈ List.range' r.1 (r.2 + 1 - r.1),
      isInner (Char.ofNat n) = false := by
    decide +kernel
  obtain ⟨r, hr, hLow, hHigh⟩ := whiteSpaceRanges.covers_eq_true_iff.1 h
  have hc := hAll r hr c.toNat (List.mem_range'_1.2 (by omega))
  rwa [Char.ofNat_toNat] at hc

/-- A break does not begin with a character of a class of inner characters. -/
theorem IsBreak.head_of_isInner {tail : List Char} (h : IsBreak tail) {p : Char → Bool}
    (hp : ∀ c, p c = true → isInner c = true) : ∀ c ∈ tail.head?, p c = false := by
  intro c hc
  rw [← Bool.not_eq_true]
  intro hInner
  have hOuter := isInner_of_isWhiteSpace (h c hc)
  rw [hp c hInner] at hOuter
  cases hOuter

theorem isInner_of_continuesWord (c : Char) (h : Lexeme.continuesWord c = true) :
    isInner c = true := by
  simp [isInner, h]

theorem isInner_of_isDigit (c : Char) (h : c.isDigit = true) : isInner c = true := by
  simp [isInner, h]

/-- The characters of operators are inner ones. -/
theorem isInner_of_mem_operator {op : String} (hOp : op ∈ operators) {c : Char}
    (h : c ∈ op.toList) : isInner c = true := by
  have hAny : (operators.any fun op => op.toList.contains c) = true :=
    List.any_eq_true.2 ⟨op, hOp, List.contains_iff_mem.2 h⟩
  rw [isInner, hAny, Bool.or_true]

-- ---------------------------------------------------------------------------
-- Readers that stop at a break
-- ---------------------------------------------------------------------------

/-- What `f` takes does not depend on what follows, as long as a break follows in its place. -/
def StopsAtBreak (f : List Char → List Char) : Prop :=
  ∀ common rest tail : List Char, IsBreak tail → (f (common ++ rest)).length ≤ common.length →
    f (common ++ tail) = f (common ++ rest)

/-- A reader and then another on what the first leaves, which may depend on what it took. -/
theorem StopsAtBreak.append {f : List Char → List Char} {g : List Char → List Char → List Char}
    (hf : StopsAtBreak f) (hg : ∀ taken, StopsAtBreak (g taken)) :
    StopsAtBreak fun cs => f cs ++ g (f cs) (cs.drop (f cs).length) := by
  intro common rest tail hTail hFits
  dsimp only at hFits ⊢
  rw [List.length_append] at hFits
  have hFirst := hf common rest tail hTail (by omega)
  have hTaken : (f (common ++ rest)).length ≤ common.length := by omega
  rw [hFirst, List.drop_append_of_le_length hTaken, List.drop_append_of_le_length hTaken]
  rw [List.drop_append_of_le_length hTaken] at hFits
  rw [hg _ _ rest tail hTail]
  rw [List.length_drop]
  omega

/-- A run of characters stops before a character that does not belong to it, also when the run ended
where the text has been cut. -/
theorem takeWhile_append_congr {p : Char → Bool} {common rest tail : List Char}
    (hTail : ∀ c ∈ tail.head?, p c = false)
    (hFits : ((common ++ rest).takeWhile p).length ≤ common.length) :
    (common ++ tail).takeWhile p = (common ++ rest).takeWhile p := by
  rw [List.takeWhile_append] at hFits
  rw [List.takeWhile_append, List.takeWhile_append]
  -- the run may end inside of what is kept, or at the cut, where the rest gave nothing to it
  by_cases hAll : (common.takeWhile p).length = common.length
  · rw [if_pos hAll, List.length_append] at hFits
    have hRest : rest.takeWhile p = [] := List.eq_nil_of_length_eq_zero (by omega)
    have hStop : tail.takeWhile p = [] := by
      cases tail with
      | nil => rfl
      | cons c tail => exact List.takeWhile_cons_of_neg (ne_true_of_eq_false (hTail c rfl))
    rw [if_pos hAll, if_pos hAll, hRest, hStop]
  · rw [if_neg hAll, if_neg hAll]

namespace Numeral

/-- No break begins with a digit. -/
theorem stopsAtBreak_digits : StopsAtBreak digits := by
  intro common rest tail hTail hFits
  exact takeWhile_append_congr (hTail.head_of_isInner isInner_of_isDigit) hFits

/-- Where a number ends in its point, no digit follows, and none follows in a break. -/
theorem stopsAtBreak_fraction (whole : Bool) : StopsAtBreak (fraction whole) := by
  intro common rest tail hTail hFits
  cases common with
  | nil =>
    have hNone : fraction whole rest = [] := List.eq_nil_of_length_eq_zero (Nat.le_zero.1 hFits)
    have hOuter := hTail.head_of_isInner (p := (· == '.')) (by simp +contextual [isInner])
    rw [List.nil_append, List.nil_append, hNone]
    cases tail with
    | nil => rfl
    | cons c tail => exact fraction_of_ne whole (ne_of_beq_false (hOuter c rfl)) tail
  | cons c common =>
    by_cases hc : c = '.'
    · subst hc
      rw [List.cons_append, fraction_point_eq_digits] at hFits
      have hDigits : (digits (common ++ rest)).length ≤ common.length := by
        split at hFits
        · exact Nat.le_of_succ_le_succ hFits
        · next hNone =>
          simp only [Bool.or_eq_true, Bool.not_eq_true', not_or, Bool.not_eq_false] at hNone
          rw [List.isEmpty_iff.1 hNone.2]
          exact Nat.zero_le _
      rw [List.cons_append, List.cons_append, fraction_point_eq_digits, fraction_point_eq_digits,
        stopsAtBreak_digits common rest tail hTail hDigits]
    · exact (fraction_of_ne whole hc _).trans (fraction_of_ne whole hc _).symm

/-- Digits and a fraction stop at a break, since each of the two does. -/
theorem stopsAtBreak_mantissa : StopsAtBreak mantissa :=
  stopsAtBreak_digits.append fun whole => stopsAtBreak_fraction (!whole.isEmpty)

/-- Before a break, one character is too little for an exponent. -/
theorem exponent_chars_of_break {common tail : List Char} (hTail : IsBreak tail)
    (hShort : common.length < 2) : (exponent (common ++ tail)).chars = [] := by
  have hDigits : digits tail = [] := stopsAtBreak_digits [] [] tail hTail (Nat.le_refl 0)
  have hMark := hTail.head_of_isInner (p := isExponentMark) (by simp +contextual [isInner])
  have hSign := hTail.head_of_isInner (p := isSign) (by simp +contextual [isInner])
  match common with
  | [] =>
    have hLead : exponentLead tail = [] := by
      cases tail with
      | nil => rfl
      | cons c tail => simp [exponentLead, hMark c rfl]
    simp [exponent, hLead]
  | [mark] =>
    have hLead := exponentLead_cons mark hSign
    rw [List.singleton_append, exponent, hLead]
    by_cases hIs : isExponentMark mark = true
    · simp [hIs, hDigits]
    · simp [hIs]

/-- An exponent that is kept as a whole is read again, and one that is not kept was none. -/
theorem stopsAtBreak_exponent : StopsAtBreak fun cs => (exponent cs).chars := by
  intro common rest tail hTail hFits
  dsimp only at hFits ⊢
  -- mark and sign are two characters: where they are kept they are the same, and where they are not
  -- there was no exponent
  rcases Nat.lt_or_ge common.length 2 with hShort | hLong
  · rw [exponent_chars_of_break hTail hShort, exponent_chars_eq_nil (by omega)]
  · have hLead : exponentLead (common ++ tail) = exponentLead (common ++ rest) :=
      looksAhead_exponentLead.test_eq hLong rest tail
    have hLe := length_exponentLead_le (common ++ rest)
    refine congrArg Reading.chars (exponent_congr hLead ?_)
    intro hMark
    have hPower := length_power_le hMark
    have hWithin : (exponentLead (common ++ rest)).length ≤ common.length := by omega
    rw [List.drop_append_of_le_length hWithin] at hPower
    rw [List.drop_append_of_le_length hWithin, List.drop_append_of_le_length hWithin]
    refine stopsAtBreak_digits _ rest tail hTail ?_
    rw [List.length_drop]
    omega

/-- A number stops at a break, since a mantissa and an exponent do. -/
theorem stopsAtBreak_read : StopsAtBreak fun cs => (read cs).chars := by
  have hParts := stopsAtBreak_mantissa.append fun _ => stopsAtBreak_exponent
  rw [show read = _ from funext read_eq]
  exact hParts

end Numeral

-- ---------------------------------------------------------------------------
-- Lexemes before a break
-- ---------------------------------------------------------------------------

namespace Lexeme

/-- Whether a lexeme is a comment up to the end of its line. -/
def isLineComment : Lexeme → Bool
  | lineComment _ => true
  | _ => false

/-- Whether a lexeme lacks the mark that would close it. -/
def isOpen : Lexeme → Bool
  | blockComment body => !body.closed
  | quoted _ body => !body.closed
  | _ => false

/-- A lexeme without the exponent that had to be given back, which is no part of it. -/
def plain : Lexeme → Lexeme
  | number reading => number ⟨reading.chars, []⟩
  | l => l

/-- What may follow in place of what followed a lexeme, without becoming part of it. -/
structure EndsBefore (l : Lexeme) (tail : List Char) : Prop where
  blank : IsBreak tail
  line : l.isLineComment = true → IsLineBreak tail
  unclosed : l.isOpen = true → tail = []

/-- A mark without white space in it does not reach into a break. -/
theorem isPrefix_of_append_break {mark common tail : List Char} (hTail : IsBreak tail)
    (hMark : ∀ c ∈ mark, isInner c = true) (h : mark <+: common ++ tail) : mark <+: common := by
  -- a mark that reached beyond the kept part would begin the break
  rcases Nat.le_total mark.length common.length with hShort | hLong
  · exact List.prefix_of_prefix_length_le h (List.prefix_append common tail) hShort
  · obtain ⟨beyond, rfl⟩ :=
      List.prefix_of_prefix_length_le (List.prefix_append common tail) h hLong
    have hBeyond := (List.prefix_append_right_inj common).1 h
    cases beyond with
    | nil => exact ⟨[], by rw [List.append_nil, List.append_nil]⟩
    | cons c beyond =>
      obtain ⟨t, rfl⟩ := hBeyond
      have hOuter := isInner_of_isWhiteSpace (hTail c rfl)
      rw [hMark c (by simp)] at hOuter
      cases hOuter

/-- The operator that a text begins with is found again before a break. -/
theorem operatorAt?_append_break {common rest tail : List Char} (hTail : IsBreak tail)
    (hFits : ∀ op ∈ operatorAt? (common ++ rest), op.toList <+: common) :
    operatorAt? (common ++ tail) = operatorAt? (common ++ rest) := by
  -- before the break there are no operators that were not there before
  have hFewer : ∀ op ∈ operatorsLongestFirst, op.toList.isPrefixOf (common ++ tail) = true →
      op.toList.isPrefixOf (common ++ rest) = true := by
    intro op hOp hPrefix
    rw [List.isPrefixOf_iff_prefix] at hPrefix ⊢
    have hInner : ∀ c ∈ op.toList, isInner c = true := fun c hc =>
      isInner_of_mem_operator (mem_operatorsLongestFirst.1 hOp) hc
    exact (isPrefix_of_append_break hTail hInner hPrefix).trans (List.prefix_append common rest)
  cases hFound : operatorAt? (common ++ rest) with
  | none =>
    have hNone := List.find?_eq_none.1 hFound
    exact List.find?_eq_none.2 fun op hOp hPrefix => hNone op hOp (hFewer op hOp hPrefix)
  | some spelling =>
    obtain ⟨-, longer, others, hSplit, hLonger⟩ := List.find?_eq_some_iff_append.1 hFound
    refine List.find?_eq_some_iff_append.2 ⟨?_, longer, others, hSplit, ?_⟩
    · exact List.isPrefixOf_iff_prefix.2
        ((hFits spelling hFound).trans (List.prefix_append common tail))
    · intro op hOp
      have hMem : op ∈ operatorsLongestFirst := hSplit ▸ List.mem_append_left _ hOp
      have hNot := hLonger op hOp
      rw [Bool.not_eq_true', ← Bool.not_eq_true] at hNot ⊢
      exact fun hPrefix => hNot (hFewer op hMem hPrefix)

/-- Where a mark of two characters is ahead and two characters are kept, they are the mark. -/
theorem exists_cons_of_mark {a b c : Char} {common rest : List Char}
    (hMark : [a, b] <+: c :: (common ++ rest)) (hLong : 1 ≤ common.length) :
    ∃ common', c = a ∧ common = b :: common' := by
  obtain ⟨rfl, hRest⟩ := List.cons_prefix_cons.1 hMark
  cases common with
  | nil => cases hLong
  | cons d common =>
    rw [List.cons_append] at hRest
    obtain ⟨rfl, -⟩ := List.cons_prefix_cons.1 hRest
    exact ⟨common, rfl, rfl⟩

/-- Before a break, a number opens where it opened before, if the point of a number is kept together
with its digit. -/
theorem opens_append_break {c : Char} {common rest tail : List Char} (hTail : IsBreak tail)
    (hKept : Numeral.opens c (common ++ rest) = true → c = '.' → common ≠ []) :
    Numeral.opens c (common ++ tail) = Numeral.opens c (common ++ rest) := by
  cases common with
  | cons d common => rfl
  | nil =>
    have hDigits : Numeral.digits tail = [] :=
      Numeral.stopsAtBreak_digits [] [] tail hTail (Nat.le_refl 0)
    have hNone : ¬ tail.head?.any Char.isDigit = true := by
      rw [Numeral.head?_any_isDigit, hDigits]
      decide
    rw [List.nil_append, List.nil_append, Bool.eq_iff_iff, Numeral.opens_eq_true_iff]
    constructor
    · rintro (hDigit | ⟨-, hAny⟩)
      · exact Numeral.opens_eq_true_iff.2 (.inl hDigit)
      · exact absurd hAny hNone
    · intro hOpens
      rcases Numeral.opens_eq_true_iff.1 hOpens with hDigit | ⟨rfl, -⟩
      · exact .inl hDigit
      · exact absurd rfl (hKept hOpens rfl)

/-- A number is read again before a break, but for an exponent given back. -/
theorem number_append_break {c : Char} {common rest tail : List Char} (hTail : IsBreak tail)
    (hFits : (Numeral.read (c :: (common ++ rest))).chars.length ≤ common.length + 1)
    (hFirst : Numeral.opens c (common ++ rest) = true) :
    Numeral.opens c (common ++ tail) = true ∧
      (Numeral.read (c :: (common ++ tail))).chars =
        (Numeral.read (c :: (common ++ rest))).chars := by
  refine ⟨?_, Numeral.stopsAtBreak_read (c :: common) rest tail hTail hFits⟩
  rw [opens_append_break hTail, hFirst]
  rintro - rfl rfl
  rcases Numeral.opens_eq_true_iff.1 hFirst with hDigit | ⟨-, hAny⟩
  · cases hDigit
  · exact absurd (Nat.le_trans (Numeral.two_le_length_read_point hAny) hFits) (by decide)

/-- Before a break an operator is found again, and no comment opens in its place. -/
theorem Begins.operator_append_break {c : Char} {common rest tail : List Char} {spelling : String}
    (hTail : IsBreak tail) (hFits : spelling.toList.length ≤ common.length + 1)
    (hLine : ¬ lineMark <+: c :: (common ++ rest))
    (hBlock : ¬ Comment.opening <+: c :: (common ++ rest))
    (hFirst : operatorAt? (c :: (common ++ rest)) = some spelling) :
    Begins c (common ++ tail) (.operator spelling) := by
  have hKept : ∀ op ∈ operatorAt? (c :: common ++ rest), op.toList <+: c :: common := by
    intro op hOp
    obtain rfl : spelling = op := Option.some.inj (hFirst.symm.trans hOp)
    exact List.prefix_of_prefix_length_le (isPrefix_of_operatorAt? hFirst)
      (List.prefix_append (c :: common) rest) hFits
  have hNoMark (mark : List Char) (hMark : ∀ c ∈ mark, isInner c = true)
      (hNone : ¬ mark <+: c :: common ++ rest) : ¬ mark <+: c :: common ++ tail := by
    intro h
    have hWithin := isPrefix_of_append_break hTail hMark h
    exact hNone (hWithin.trans (List.prefix_append (c :: common) rest))
  refine .operator ?_ ?_ ((operatorAt?_append_break hTail hKept).trans hFirst)
  · exact hNoMark lineMark (List.all_eq_true.1 (by decide +kernel)) hLine
  · exact hNoMark Comment.opening (List.all_eq_true.1 (by decide +kernel)) hBlock

/-- A lexeme is read again when a break comes in the place of what followed it. -/
theorem plain_read_append {c : Char} {common rest tail : List Char}
    (hFits : (read c (common ++ rest)).chars.length ≤ common.length + 1)
    (hEnds : (read c (common ++ rest)).EndsBefore tail) :
    (read c (common ++ tail)).plain = (read c (common ++ rest)).plain := by
  have hBegins := begins_read c (common ++ rest)
  -- kind by kind: each kind has its own reason to end where it did
  generalize read c (common ++ rest) = l at hFits hEnds hBegins ⊢
  cases hBegins with
  | lineComment hMark =>
    have hBody : (Comment.lineBody (common ++ rest).tail).length + 1 ≤ common.length :=
      Nat.le_of_succ_le_succ hFits
    obtain ⟨common, rfl, rfl⟩ := exists_cons_of_mark hMark (by omega)
    have hSame : Comment.lineBody (common ++ tail) = Comment.lineBody (common ++ rest) := by
      refine takeWhile_append_congr ?_ (Nat.le_of_succ_le_succ hBody)
      intro d hd
      rw [hEnds.line rfl d hd]
      rfl
    exact congrArg (fun body => plain (lineComment body)) hSame
  | blockComment hMark =>
    have hBody : (Comment.blockBody (common ++ rest).tail).chars.length + 1 ≤ common.length :=
      Nat.le_of_succ_le_succ hFits
    obtain ⟨common, rfl, rfl⟩ := exists_cons_of_mark hMark (by omega)
    have hSame : Comment.blockBody (common ++ tail) = Comment.blockBody (common ++ rest) := by
      refine Comment.delimited_blockBody.append_congr (Nat.le_of_succ_le_succ hBody) ?_
      intro hOpen
      refine hEnds.unclosed ?_
      show (!(Comment.blockBody (common ++ rest)).closed) = true
      rw [hOpen]
      rfl
    exact congrArg (fun body => plain (blockComment body)) hSame
  | word hFirst =>
    have hSame : (common ++ tail).takeWhile continuesWord =
        (common ++ rest).takeWhile continuesWord :=
      takeWhile_append_congr (hEnds.blank.head_of_isInner isInner_of_continuesWord)
        (Nat.le_of_succ_le_succ hFits)
    rw [(Begins.word hFirst).read_eq, hSame]
  | number hFirst =>
    obtain ⟨hOpens, hSame⟩ := number_append_break hEnds.blank hFits hFirst
    rw [(Begins.number hOpens).read_eq]
    exact congrArg (fun cs => number ⟨cs, []⟩) hSame
  | @quoted mark hFirst =>
    subst hFirst
    have hSame : Quoted.body mark.char (common ++ tail) =
        Quoted.body mark.char (common ++ rest) := by
      refine (Quoted.delimited_body mark.char).append_congr (Nat.le_of_succ_le_succ hFits) ?_
      intro hOpen
      refine hEnds.unclosed ?_
      show (!(Quoted.body mark.char (common ++ rest)).closed) = true
      rw [hOpen]
      rfl
    rw [(Begins.quoted rfl).read_eq, hSame]
  | delimiter hFirst => rw [(Begins.delimiter hFirst).read_eq]
  | @operator spelling hLine hBlock hFirst =>
    rw [(Begins.operator_append_break hEnds.blank hFits hLine hBlock hFirst).read_eq]
  | unknown hWord hNumber hQuote hDelimiter hOperator =>
    have hSame : operatorAt? (c :: common ++ tail) = operatorAt? (c :: common ++ rest) := by
      refine operatorAt?_append_break hEnds.blank ?_
      intro op hOp
      cases hOperator.symm.trans hOp
    have hNone : Numeral.opens c (common ++ tail) = false := by
      rw [opens_append_break hEnds.blank, hNumber]
      intro hOpens
      rw [hNumber] at hOpens
      cases hOpens
    rw [(Begins.unknown hWord hNone hQuote hDelimiter (hSame.trans hOperator)).read_eq]

end Lexeme

-- ---------------------------------------------------------------------------
-- Tokens before a break
-- ---------------------------------------------------------------------------

/-- A piece that is a lexeme is read again before a break, but for an exponent given back. -/
theorem Piece.exists_read_append {common rest tail : List Char} {l : Lexeme}
    (h : read (common ++ rest) = some (.lexeme l)) (hFits : l.chars.length ≤ common.length)
    (hEnds : l.EndsBefore tail) :
    ∃ l', read (common ++ tail) = some (.lexeme l') ∧ l'.plain = l.plain := by
  cases common with
  | nil => exact absurd (List.eq_nil_of_length_eq_zero (Nat.le_zero.1 hFits)) (chars_ne_nil h)
  | cons c common =>
    obtain ⟨d, ds, hText, hInk, hBegins⟩ := Piece.begins_of_read h
    obtain ⟨rfl, rfl⟩ := List.cons.inj hText
    obtain rfl := hBegins.read_eq
    refine ⟨Lexeme.read c (common ++ tail), ?_, Lexeme.plain_read_append hFits hEnds⟩
    rw [List.cons_append, read, if_neg (ne_true_of_eq_false hInk)]

theorem Lexeme.chars_plain (l : Lexeme) : l.plain.chars = l.chars := by
  cases l <;> rfl

/-- An exponent given back leaves no trace in the token. -/
theorem Piece.token?_plain (keep : Bool) (before : List Char) (l : Lexeme) :
    token? keep before (.lexeme l.plain) = token? keep before (.lexeme l) := by
  cases l <;> rfl

/-- A lexeme has its token again when a break comes in the place of what followed it, at once or
further on, and behind it come the tokens of what follows then. -/
theorem tokensBehind_lexeme_append {l : Lexeme} {kept rest tail : List Char}
    (h : Piece.read (l.chars ++ kept ++ rest) = some (.lexeme l)) (hEnds : l.EndsBefore tail)
    (keep : Bool) (before : List Char) :
    tokensBehind keep before (l.chars ++ kept ++ tail) =
      (Piece.token? keep before (.lexeme l)).toList ++
        tokensBehind keep (before ++ l.chars) (kept ++ tail) := by
  obtain ⟨l', hRead, hPlain⟩ := Piece.exists_read_append h
    (by rw [List.length_append]; exact Nat.le_add_right _ _) hEnds
  -- an exponent given back goes neither into the characters nor into the token
  have hChars : l.chars = l'.chars := by rw [← l.chars_plain, ← hPlain, l'.chars_plain]
  rw [List.append_assoc] at hRead ⊢
  rw [hChars] at hRead ⊢
  rw [← Piece.token?_plain keep before l, ← hPlain, Piece.token?_plain]
  exact tokensBehind_append (p := .lexeme l') hRead

/-- White space at the beginning of a text is passed over. -/
theorem tokensBehind_takeWhile (keep : Bool) (before cs : List Char) :
    tokensBehind keep before cs =
      tokensBehind keep (before ++ cs.takeWhile isWhiteSpace) (cs.dropWhile isWhiteSpace) := by
  cases cs with
  | nil => rw [List.takeWhile_nil, List.dropWhile_nil, List.append_nil]
  | cons c cs =>
    by_cases hBlank : isWhiteSpace c = true
    · have hText := List.takeWhile_append_dropWhile (p := isWhiteSpace) (l := c :: cs)
      have hRead : Piece.read ((Piece.blank ((c :: cs).takeWhile isWhiteSpace)).chars ++
          (c :: cs).dropWhile isWhiteSpace) =
          some (.blank ((c :: cs).takeWhile isWhiteSpace)) := by
        rw [Piece.chars, hText, Piece.read, if_pos hBlank]
      have hTokens := @tokensBehind_append keep before _ _ hRead
      rw [Piece.chars, hText] at hTokens
      exact hTokens
    · rw [List.takeWhile_cons_of_neg hBlank, List.dropWhile_cons_of_neg hBlank, List.append_nil]

/-- White space in front of a text moves its tokens and does nothing else. -/
theorem tokensBehind_blank_append {ws : List Char} (h : ∀ c ∈ ws, isWhiteSpace c = true)
    (keep : Bool) (before cs : List Char) :
    tokensBehind keep before (ws ++ cs) = tokensBehind keep (before ++ ws) cs := by
  rw [tokensBehind_takeWhile keep before, tokensBehind_takeWhile keep (before ++ ws),
    List.takeWhile_append_of_pos h, List.dropWhile_append_of_pos h, List.append_assoc]

end CTokens
