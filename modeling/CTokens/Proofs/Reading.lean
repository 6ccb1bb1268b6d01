import CTokens.Lexeme.Basic
import CTokens.Proofs.Numeral

/-!
# CTokens — what a text begins with

Reading asks for one kind of lexeme after the other. The order of the questions hardly matters: no
two kinds begin with the same character, but for the slash of comments and operators and the point
of numbers and unknown characters. `Lexeme.Begins` says for each kind when a text begins with a
lexeme of it, and proofs about reading go by its cases.

`LongestPrefix` says what it is to be the longest of the words of some sort that a text begins with.

Main statements:

* `Lexeme.begins_read` — the text begins with the lexeme that is read;
* `Lexeme.Begins.read_eq` — a lexeme that the text begins with is the one that is read.
-/

namespace CTokens

open Unicode

/-- The longest of the words that a text begins with. -/
structure LongestPrefix (IsWord : List Char → Prop) (cs word : List Char) : Prop where
  isPrefix : word <+: cs
  isWord : IsWord word
  longest : ∀ other, other <+: cs → IsWord other → other.length ≤ word.length

namespace Lexeme

/-- The text that goes on with `rest` behind `c` begins with a lexeme. Only an operator has to give
way to another kind, and an unknown character to all of them. -/
inductive Begins (c : Char) (rest : List Char) : Lexeme → Prop where
  | lineComment (hMark : lineMark <+: c :: rest) :
      Begins c rest (.lineComment (Comment.lineBody rest.tail))
  | blockComment (hMark : Comment.opening <+: c :: rest) :
      Begins c rest (.blockComment (Comment.blockBody rest.tail))
  | word (hFirst : opensWord c = true) : Begins c rest (.word (c :: rest.takeWhile continuesWord))
  | number (hFirst : Numeral.opens c rest = true) :
      Begins c rest (.number (Numeral.read (c :: rest)))
  | quoted {mark : QuoteMark} (hFirst : mark.char = c) :
      Begins c rest (.quoted mark (Quoted.body c rest))
  | delimiter (hFirst : c ∈ delimiters) : Begins c rest (.delimiter c)
  | operator {spelling : String} (hLine : ¬ lineMark <+: c :: rest)
      (hBlock : ¬ Comment.opening <+: c :: rest)
      (hFirst : operatorAt? (c :: rest) = some spelling) : Begins c rest (.operator spelling)
  | unknown (hWord : opensWord c = false) (hNumber : Numeral.opens c rest = false)
      (hQuote : QuoteMark.ofChar? c = none) (hDelimiter : c ∉ delimiters)
      (hOperator : operatorAt? (c :: rest) = none) : Begins c rest (.unknown c)

/-- Whatever is read, the text begins with it. -/
theorem begins_read (c : Char) (rest : List Char) : Begins c rest (read c rest) := by
  -- the questions in the order in which they are asked; every one that was answered with no is left
  -- as a fact for those behind it
  unfold read
  split
  · next hMark => exact .lineComment (List.isPrefixOf_iff_prefix.1 hMark)
  next hLine =>
  split
  · next hMark => exact .blockComment (List.isPrefixOf_iff_prefix.1 hMark)
  next hBlock =>
  split
  · next hFirst => exact .word hFirst
  next hWord =>
  split
  · next hFirst => exact .number hFirst
  next hNumber =>
  split
  · next hQuote => exact .quoted (QuoteMark.char_of_ofChar? hQuote)
  next hQuote =>
  rw [Bool.not_eq_true] at hWord hNumber
  split
  · next hDelimiter => exact .delimiter (List.contains_iff_mem.1 hDelimiter)
  next hDelimiter =>
  split
  · next hOperator =>
    exact .operator (fun h => hLine (List.isPrefixOf_iff_prefix.2 h))
      (fun h => hBlock (List.isPrefixOf_iff_prefix.2 h)) hOperator
  · next hOperator =>
    exact .unknown hWord hNumber hQuote (fun h => hDelimiter (List.contains_iff_mem.2 h)) hOperator

-- ---------------------------------------------------------------------------
-- No two kinds begin alike
-- ---------------------------------------------------------------------------

/-- The marks that open comments begin with a slash. -/
theorem eq_slash_of_isPrefix {mark c : Char} {rest : List Char} (h : ['/', mark] <+: c :: rest) :
    c = '/' :=
  (List.cons_prefix_cons.1 h).1.symm

/-- No word begins with a digit. -/
theorem opensWord_of_isDigit {c : Char} (h : c.isDigit = true) : opensWord c = false := by
  have hAll : ∀ n : Fin 0x3A, 0x30 ≤ n.val → opensWord (Char.ofNat n.val) = false := by
    decide +kernel
  simp only [Char.isDigit, ge_iff_le, Bool.and_eq_true, decide_eq_true_eq,
    UInt32.le_iff_toNat_le] at h
  have hc := hAll ⟨c.toNat, Nat.lt_succ_of_le h.2⟩ h.1
  rwa [Char.ofNat_toNat] at hc

/-- Whether a character is none that a word or a number begins with. -/
def isSign (c : Char) : Bool := !opensWord c && !c.isDigit && c != '.'

/-- No word and no number begins with a delimiter. -/
theorem isSign_of_mem_delimiters {c : Char} (h : c ∈ delimiters) : isSign c = true := by
  have hAll : delimiters.all isSign = true := by decide +kernel
  exact List.all_eq_true.1 hAll c h

/-- An operator begins with a sign that is no quote and no delimiter. -/
theorem first_of_operatorAt? {c : Char} {rest : List Char} {spelling : String}
    (h : operatorAt? (c :: rest) = some spelling) :
    isSign c = true ∧ QuoteMark.ofChar? c = none ∧ c ∉ delimiters := by
  have hAll : ∀ op ∈ operators, op.toList ≠ [] ∧ isSign (op.toList.headD ' ') = true ∧
      QuoteMark.ofChar? (op.toList.headD ' ') = none ∧ op.toList.headD ' ' ∉ delimiters := by
    decide +kernel
  obtain ⟨hFull, hFirst⟩ := hAll spelling (mem_operators_of_operatorAt? h)
  have hPrefix := isPrefix_of_operatorAt? h
  cases hChars : spelling.toList with
  | nil => exact absurd hChars hFull
  | cons d ds =>
    rw [hChars] at hPrefix hFirst
    rw [← (List.cons_prefix_cons.1 hPrefix).1]
    exact hFirst

/-- Where no operator is found, no slash stands, since a slash alone is one. -/
theorem ne_slash_of_operatorAt? {c : Char} {rest : List Char}
    (h : operatorAt? (c :: rest) = none) : c ≠ '/' := by
  rintro rfl
  have hMem : "/" ∈ operatorsLongestFirst := mem_operatorsLongestFirst.2 (by decide)
  have hNone := List.find?_eq_none.1 h "/" hMem
  exact hNone (List.isPrefixOf_iff_prefix.2 ⟨rest, rfl⟩)

/-- No comment begins with anything but a slash. -/
theorem not_comment_of_ne_slash {c : Char} (hc : c ≠ '/') (rest : List Char) :
    ¬ lineMark.isPrefixOf (c :: rest) = true ∧ ¬ Comment.opening.isPrefixOf (c :: rest) = true := by
  constructor
  · intro h
    exact hc (eq_slash_of_isPrefix (List.isPrefixOf_iff_prefix.1 h))
  · intro h
    exact hc (eq_slash_of_isPrefix (List.isPrefixOf_iff_prefix.1 h))

/-- Where a sign stands, neither a word nor a number begins. -/
theorem not_word_not_number_of_isSign {c : Char} (h : isSign c = true) (rest : List Char) :
    ¬ opensWord c = true ∧ ¬ Numeral.opens c rest = true := by
  simp only [isSign, Bool.and_eq_true, Bool.not_eq_true', bne_iff_ne] at h
  obtain ⟨⟨hWord, hDigit⟩, hPoint⟩ := h
  exact ⟨ne_true_of_eq_false hWord, by simp [Numeral.opens, hDigit, hPoint]⟩

/-- A text begins with one lexeme only, and that one is read. The questions that come before the one
for its kind are answered by its first character, or by the mark of a comment. -/
theorem Begins.read_eq {c : Char} {rest : List Char} {l : Lexeme} (h : Begins c rest l) :
    read c rest = l := by
  cases h with
  | lineComment hMark => rw [read, if_pos (List.isPrefixOf_iff_prefix.2 hMark)]
  | blockComment hMark =>
    have hLine : ¬ lineMark.isPrefixOf (c :: rest) = true := by
      obtain ⟨t, ht⟩ := hMark
      rw [← ht]
      exact Bool.false_ne_true
    rw [read, if_neg hLine, if_pos (List.isPrefixOf_iff_prefix.2 hMark)]
  | word hFirst =>
    have hc : c ≠ '/' := by
      rintro rfl
      exact absurd hFirst (by decide +kernel)
    obtain ⟨hLine, hBlock⟩ := not_comment_of_ne_slash hc rest
    rw [read, if_neg hLine, if_neg hBlock, if_pos hFirst]
  | number hFirst =>
    have hWord : opensWord c = false := by
      rcases Numeral.opens_eq_true_iff.1 hFirst with hDigit | ⟨rfl, -⟩
      · exact opensWord_of_isDigit hDigit
      · decide +kernel
    have hc : c ≠ '/' := by
      rintro rfl
      exact absurd hFirst (by simp [Numeral.opens])
    obtain ⟨hLine, hBlock⟩ := not_comment_of_ne_slash hc rest
    rw [read, if_neg hLine, if_neg hBlock, if_neg (ne_true_of_eq_false hWord), if_pos hFirst]
  | @quoted mark hFirst =>
    subst hFirst
    have hSign : isSign mark.char = true := by cases mark <;> decide +kernel
    have hQuote : QuoteMark.ofChar? mark.char = some mark := by cases mark <;> rfl
    obtain ⟨hLine, hBlock⟩ :=
      not_comment_of_ne_slash (c := mark.char) (by cases mark <;> decide) rest
    obtain ⟨hWord, hNumber⟩ := not_word_not_number_of_isSign hSign rest
    rw [read, if_neg hLine, if_neg hBlock, if_neg hWord, if_neg hNumber, hQuote]
  | delimiter hFirst =>
    have hAll : (delimiters.all fun c => decide (c ≠ '/' ∧ QuoteMark.ofChar? c = none)) = true := by
      decide
    obtain ⟨hc, hQuote⟩ := of_decide_eq_true (List.all_eq_true.1 hAll c hFirst)
    obtain ⟨hLine, hBlock⟩ := not_comment_of_ne_slash hc rest
    obtain ⟨hWord, hNumber⟩ := not_word_not_number_of_isSign (isSign_of_mem_delimiters hFirst) rest
    rw [read, if_neg hLine, if_neg hBlock, if_neg hWord, if_neg hNumber, hQuote]
    exact if_pos (List.contains_iff_mem.2 hFirst)
  | @operator spelling hLine hBlock hFirst =>
    rw [← List.isPrefixOf_iff_prefix] at hLine hBlock
    obtain ⟨hSign, hQuote, hDelimiter⟩ := first_of_operatorAt? hFirst
    obtain ⟨hWord, hNumber⟩ := not_word_not_number_of_isSign hSign rest
    rw [read, if_neg hLine, if_neg hBlock, if_neg hWord, if_neg hNumber, hQuote, hFirst]
    exact if_neg fun h => hDelimiter (List.contains_iff_mem.1 h)
  | unknown hWord hNumber hQuote hDelimiter hOperator =>
    obtain ⟨hLine, hBlock⟩ := not_comment_of_ne_slash (ne_slash_of_operatorAt? hOperator) rest
    rw [read, if_neg hLine, if_neg hBlock, if_neg (ne_true_of_eq_false hWord),
      if_neg (ne_true_of_eq_false hNumber), hQuote, hOperator]
    exact if_neg fun h => hDelimiter (List.contains_iff_mem.1 h)

end Lexeme

/-- A text whose first piece is a lexeme begins with it, and not with white space. -/
theorem Piece.begins_of_read {cs : List Char} {l : Lexeme} (h : read cs = some (.lexeme l)) :
    ∃ c rest, cs = c :: rest ∧ isWhiteSpace c = false ∧ Lexeme.Begins c rest l := by
  cases cs with
  | nil => cases h
  | cons c rest =>
    rw [read] at h
    by_cases hBlank : isWhiteSpace c = true
    · rw [if_pos hBlank] at h
      cases h
    · rw [if_neg hBlank] at h
      obtain rfl := Piece.lexeme.inj (Option.some.inj h)
      rw [Bool.not_eq_true] at hBlank
      exact ⟨c, rest, rfl, hBlank, Lexeme.begins_read c rest⟩

end CTokens
