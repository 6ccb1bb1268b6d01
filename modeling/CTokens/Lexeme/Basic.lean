import CTokens.Lexeme.Comment
import CTokens.Lexeme.Numeral
import CTokens.Lexeme.Quoted
import CTokens.Token
import CTokens.Unicode.Alphanumeric
import CTokens.Unicode.WhiteSpace
import CTokens.Vocabulary

/-!
# CTokens — lexemes

A source is a sequence of pieces: runs of white space and lexemes. Which piece stands at the
beginning of a text is decided by the text alone, so reading needs no state: `Piece.read` gives
the first piece, and what follows it is read in the same way.

Reading never fails. A literal or block comment that is not closed runs to the end of the text, a
number leaves out an exponent that has no digits, and a character that begins nothing else is a
lexeme by itself.

Main statements:

* `Lexeme.read_isPrefix`, `Piece.read_isPrefix` — a piece covers what the text begins with;
* `Piece.chars_ne_nil` — no piece is empty, so reading makes progress.
-/

namespace CTokens

open Unicode

-- ---------------------------------------------------------------------------
-- Kinds of lexemes
-- ---------------------------------------------------------------------------

/-- The two quotes that delimit literals. -/
inductive QuoteMark where
  | double
  | single
deriving DecidableEq, Repr

namespace QuoteMark

/-- The character of a quote. -/
def char : QuoteMark → Char
  | double => '\x22'
  | single => '\x27'

/-- The quote that a character is, if it is one. -/
def ofChar? (c : Char) : Option QuoteMark :=
  if c = double.char then some double
  else if c = single.char then some single
  else none

/-- What a literal between such quotes is. -/
def kind : QuoteMark → TokenKind
  | double => .stringLiteral
  | single => .charLiteral

theorem char_of_ofChar? {c : Char} {q : QuoteMark} (h : ofChar? c = some q) : q.char = c := by
  unfold ofChar? at h
  split at h
  · next hc => cases h; exact hc.symm
  · split at h
    · next hc => cases h; exact hc.symm
    · cases h

end QuoteMark

/-- A lexeme, with what was found while it was read. -/
inductive Lexeme where
  /-- A comment up to the end of its line. -/
  | lineComment (body : List Char)
  /-- A comment between marks; `body.closed` tells whether the closing mark is there. -/
  | blockComment (body : Comment.BlockBody)
  /-- A keyword or an identifier. -/
  | word (chars : List Char)
  /-- A number, with the exponent that had to be given back. -/
  | number (reading : Numeral.Reading)
  /-- A string or character literal; `body.closed` tells whether the closing quote is there. -/
  | quoted (mark : QuoteMark) (body : Quoted.Body)
  /-- A punctuation mark. -/
  | delimiter (char : Char)
  /-- An operator. -/
  | operator (spelling : String)
  /-- A character that begins nothing else. -/
  | unknown (char : Char)
deriving DecidableEq, Repr

namespace Lexeme

/-- The two slashes of a line comment. -/
def lineMark : List Char := ['/', '/']

/-- The characters that a lexeme covers. -/
def chars : Lexeme → List Char
  | lineComment body => lineMark ++ body
  | blockComment body => Comment.opening ++ body.chars
  | word cs => cs
  | number reading => reading.chars
  | quoted mark body => mark.char :: body.chars mark.char
  | delimiter c => [c]
  | operator spelling => spelling.toList
  | unknown c => [c]

/-- The characters that a token for the lexeme shows: all of them, but for the quotes of a
literal. -/
def shown : Lexeme → List Char
  | quoted _ body => body.content
  | l => l.chars

/-- How a lexeme is classified. -/
def kind : Lexeme → TokenKind
  | lineComment _ => .comment
  | blockComment _ => .comment
  | word cs => if isKeyword (String.ofList cs) then .keyword else .identifier
  | number _ => .number
  | quoted mark _ => mark.kind
  | delimiter _ => .delimiter
  | operator _ => .operator
  | unknown _ => .unknown

/-- Whether a lexeme is a comment. -/
def isComment (l : Lexeme) : Bool := l.kind == .comment

-- ---------------------------------------------------------------------------
-- Reading a lexeme
-- ---------------------------------------------------------------------------

/-- Whether a character can begin a word. -/
def opensWord (c : Char) : Bool := isAlphabetic c || c == '_'

/-- Whether a character can continue a word. -/
def continuesWord (c : Char) : Bool := isAlphanumeric c || c == '_'

/-- The longest operator that a text begins with. -/
def operatorAt? (cs : List Char) : Option String :=
  operatorsLongestFirst.find? fun spelling => spelling.toList.isPrefixOf cs

/-- Read the lexeme that begins with `c` and goes on in `rest`. The order of the questions
matters: a slash is asked for comments before it is an operator, and a point for a number before
it is unknown. -/
def read (c : Char) (rest : List Char) : Lexeme :=
  if lineMark.isPrefixOf (c :: rest) then
    .lineComment (Comment.lineBody rest.tail)
  else if Comment.opening.isPrefixOf (c :: rest) then
    .blockComment (Comment.blockBody rest.tail)
  else if opensWord c then
    .word (c :: rest.takeWhile continuesWord)
  else if Numeral.opens c rest then
    .number (Numeral.read (c :: rest))
  else
    match QuoteMark.ofChar? c with
    | some mark => .quoted mark (Quoted.body c rest)
    | none =>
      if isDelimiter c then .delimiter c
      else
        match operatorAt? (c :: rest) with
        | some spelling => .operator spelling
        | none => .unknown c

/-- An operator found at the beginning of a text is in the table. -/
theorem mem_operators_of_operatorAt? {cs : List Char} {spelling : String}
    (h : operatorAt? cs = some spelling) : spelling ∈ operators :=
  mem_operatorsLongestFirst.1 (List.mem_of_find?_eq_some h)

/-- The text begins with the operator that is found. -/
theorem isPrefix_of_operatorAt? {cs : List Char} {spelling : String}
    (h : operatorAt? cs = some spelling) : spelling.toList <+: cs :=
  List.isPrefixOf_iff_prefix.1 (by simpa using List.find?_some h)

/-- A mark of two characters and a part that the text behind it begins with. -/
private theorem mark_append_isPrefix {a b c : Char} {rest part : List Char}
    (hMark : [a, b].isPrefixOf (c :: rest) = true) (hPart : part <+: rest.tail) :
    [a, b] ++ part <+: c :: rest := by
  obtain ⟨t, ht⟩ := List.isPrefixOf_iff_prefix.1 hMark
  cases rest with
  | nil => simp at ht
  | cons d rest =>
    simp only [List.cons_append, List.nil_append, List.cons.injEq] at ht
    obtain ⟨rfl, rfl, rfl⟩ := ht
    simpa using hPart

/-- A lexeme is what the text begins with. -/
theorem read_isPrefix (c : Char) (rest : List Char) : (read c rest).chars <+: c :: rest := by
  unfold read
  split
  · next hMark => exact mark_append_isPrefix hMark (Comment.lineBody_isPrefix _)
  split
  · next hMark => exact mark_append_isPrefix hMark (Comment.blockBody_isPrefix _)
  split
  · exact List.cons_prefix_cons.2 ⟨rfl, List.takeWhile_prefix _⟩
  split
  · exact Numeral.read_isPrefix _
  split
  · next mark hQuote =>
    rw [chars, QuoteMark.char_of_ofChar? hQuote]
    exact List.cons_prefix_cons.2 ⟨rfl, Quoted.body_isPrefix _ _⟩
  split
  · exact List.cons_prefix_cons.2 ⟨rfl, List.nil_prefix⟩
  split
  · next hOperator => exact isPrefix_of_operatorAt? hOperator
  · exact List.cons_prefix_cons.2 ⟨rfl, List.nil_prefix⟩

/-- A lexeme takes some of the text. -/
theorem read_chars_ne_nil (c : Char) (rest : List Char) : (read c rest).chars ≠ [] := by
  unfold read
  split
  · simp [chars, lineMark]
  split
  · simp [chars, Comment.opening]
  split
  · simp [chars]
  split
  · next hNumber => exact Numeral.read_ne_nil hNumber
  split
  · simp [chars]
  split
  · simp [chars]
  split
  · next spelling hOperator =>
    have hmem := mem_operators_of_operatorAt? hOperator
    have hAll : ∀ op ∈ operators, op.toList ≠ [] := by decide
    exact hAll spelling hmem
  · simp [chars]

end Lexeme

-- ---------------------------------------------------------------------------
-- Pieces of a source
-- ---------------------------------------------------------------------------

/-- A run of white space, or a lexeme. -/
inductive Piece where
  | blank (chars : List Char)
  | lexeme (lexeme : Lexeme)
deriving DecidableEq, Repr

namespace Piece

/-- The characters that a piece covers. -/
def chars : Piece → List Char
  | blank cs => cs
  | lexeme l => l.chars

/-- Read the piece that a text begins with. Only the empty text has none. -/
def read : List Char → Option Piece
  | [] => none
  | c :: rest =>
    if isWhiteSpace c then some (.blank ((c :: rest).takeWhile isWhiteSpace))
    else some (.lexeme (Lexeme.read c rest))

/-- A piece is what the text begins with. -/
theorem read_isPrefix {cs : List Char} {p : Piece} (h : read cs = some p) : p.chars <+: cs := by
  match cs with
  | [] => cases h
  | c :: rest =>
    simp only [read] at h
    split at h
    · cases h; exact List.takeWhile_prefix _
    · cases h; exact Lexeme.read_isPrefix c rest

/-- A piece takes some of the text. -/
theorem chars_ne_nil {cs : List Char} {p : Piece} (h : read cs = some p) : p.chars ≠ [] := by
  match cs with
  | [] => cases h
  | c :: rest =>
    simp only [read] at h
    split at h
    · next hBlank => cases h; simp [chars, hBlank]
    · cases h; exact Lexeme.read_chars_ne_nil c rest

/-- What follows the first piece is shorter than the text. -/
theorem length_drop_lt {cs : List Char} {p : Piece} (h : read cs = some p) :
    (cs.drop p.chars.length).length < cs.length := by
  have hPos := List.length_pos_iff.2 (chars_ne_nil h)
  have hLe := (read_isPrefix h).length_le
  rw [List.length_drop]
  omega

end Piece

end CTokens
