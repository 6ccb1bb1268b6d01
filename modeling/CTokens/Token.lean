import CTokens.Word

/-!
# CTokens — tokens

A token is a classified stretch of source text together with the place where it stands: the line
and column at which it begins, and the span of character offsets it covers. Lines and columns
count from one, offsets from zero, and all of them count characters.
-/

namespace CTokens

-- ---------------------------------------------------------------------------
-- Places in a source
-- ---------------------------------------------------------------------------

/-- A line and a column, both counted from one. -/
structure Location where
  line : Nat
  column : Nat
deriving DecidableEq, Repr

namespace Location

/-- Locations are ordered by line, and by column within a line. -/
def compare (a b : Location) : Ordering :=
  (Ord.compare a.line b.line).then (Ord.compare a.column b.column)

instance : Ord Location := ⟨compare⟩

instance : LT Location := ⟨fun a b => a.line < b.line ∨ (a.line = b.line ∧ a.column < b.column)⟩

instance (a b : Location) : Decidable (a < b) :=
  inferInstanceAs (Decidable (a.line < b.line ∨ (a.line = b.line ∧ a.column < b.column)))

/-- The order decides as the comparison does. -/
theorem compare_eq_lt_iff {a b : Location} : compare a b = .lt ↔ a < b := by
  show compare a b = .lt ↔ a.line < b.line ∨ (a.line = b.line ∧ a.column < b.column)
  unfold compare
  rw [Ordering.then_eq_lt, Nat.compare_eq_lt, Nat.compare_eq_lt, Nat.compare_eq_eq]

/-- A location is written as its line and its column with a colon between them. -/
def display (l : Location) : String := toString l.line ++ ":" ++ toString l.column

end Location

/-- A half-open range of character offsets. -/
structure Span where
  start : Nat
  stop : Nat
deriving DecidableEq, Repr

namespace Span

/-- The number of offsets in the range; a range that runs backwards has none to give. -/
def length (s : Span) : Except Fault Nat := Word.sub s.stop s.start

/-- Whether the range ends where it begins. -/
def isEmpty (s : Span) : Bool := s.start == s.stop

/-- Whether an offset lies in the range. -/
def contains (s : Span) (offset : Nat) : Bool :=
  decide (s.start ≤ offset) && decide (offset < s.stop)

theorem contains_eq_true_iff {s : Span} {offset : Nat} :
    s.contains offset = true ↔ s.start ≤ offset ∧ offset < s.stop := by
  simp [contains]

end Span

-- ---------------------------------------------------------------------------
-- Tokens
-- ---------------------------------------------------------------------------

/-- What a token is. -/
inductive TokenKind where
  | keyword
  | identifier
  | number
  | stringLiteral
  | charLiteral
  | operator
  | delimiter
  | comment
  | endOfInput
  | unknown
deriving DecidableEq, Repr

namespace TokenKind

/-- Every kind, in the order in which equal counts are listed. -/
def all : List TokenKind :=
  [.keyword, .identifier, .number, .stringLiteral, .charLiteral, .operator, .delimiter, .comment,
    .endOfInput, .unknown]

theorem mem_all (k : TokenKind) : k ∈ all := by cases k <;> decide

/-- The name under which a kind is listed. -/
def name : TokenKind → String
  | .keyword => "Keyword"
  | .identifier => "Identifier"
  | .number => "Number"
  | .stringLiteral => "StringLiteral"
  | .charLiteral => "CharLiteral"
  | .operator => "Operator"
  | .delimiter => "Delimiter"
  | .comment => "Comment"
  | .endOfInput => "EndOfInput"
  | .unknown => "Unknown"

end TokenKind

/-- A classified stretch of source text. The text of a string or character literal is what stands
between its quotes; the span covers the quotes as well. -/
structure Token where
  kind : TokenKind
  text : String
  location : Location
  span : Span
deriving DecidableEq, Repr

namespace Token

/-- Whether the token marks the end of the source. -/
def isEndOfInput (t : Token) : Bool := t.kind == .endOfInput

/-- A token is written as its kind, its text as it is, and its location. -/
def display (t : Token) : String :=
  t.kind.name ++ "('" ++ t.text ++ "') at " ++ t.location.display

end Token

end CTokens
