import CTokens.Token

/-!
# CTokens — the cursor

A cursor stands between two characters of a source and knows its offset, line and column.
Stepping over a character is the only move that changes line and column, apart from going back to
a checkpoint. The characters still ahead are kept beside the offset, so that looking at them takes
no search.

A checkpoint may be given to a cursor over another source. Its offset can then lie beyond the end:
nothing is ahead, and the operations that cut a piece out of the source fault.
-/

namespace CTokens

/-- A remembered offset with its line and column. -/
structure Checkpoint where
  position : Nat
  line : Nat
  column : Nat
deriving DecidableEq, Repr

/-- A place in a source. -/
structure Cursor where
  input : List Char
  position : Nat
  line : Nat
  column : Nat
  /-- The characters ahead. -/
  rest : List Char
  rest_eq : rest = input.drop position

namespace Cursor

/-- The beginning of a text. -/
def start (input : List Char) : Cursor :=
  { input := input, position := 0, line := 1, column := 1, rest := input, rest_eq := rfl }

/-- The beginning of a source. -/
def ofString (source : String) : Cursor := start source.toList

-- ---------------------------------------------------------------------------
-- Looking
-- ---------------------------------------------------------------------------

/-- The character ahead, if there is one. -/
def peek? (c : Cursor) : Option Char := c.rest.head?

/-- The character `n` places further on, if there is one. -/
def peekAhead (c : Cursor) (n : Nat) : Except Fault (Option Char) := do
  let offset ← Word.add c.position n
  return c.input[offset]?

/-- Whether the text ahead begins with `s`. -/
def startsWith (c : Cursor) (s : String) : Except Fault Bool :=
  if c.position ≤ c.input.length then .ok (s.toList.isPrefixOf c.rest) else .error .outOfRange

/-- Whether no character is ahead. -/
def isAtEnd (c : Cursor) : Bool := decide (c.input.length ≤ c.position)

/-- The number of characters in the source. -/
def sourceLength (c : Cursor) : Nat := c.input.length

/-- The line and column of the cursor. -/
def location (c : Cursor) : Location := ⟨c.line, c.column⟩

/-- The offsets from `start` up to the cursor. -/
def spanFrom (c : Cursor) (start : Nat) : Span := ⟨start, c.position⟩

/-- The text from `start` up to the cursor. -/
def sliceFrom (c : Cursor) (start : Nat) : Except Fault String :=
  if start ≤ c.position ∧ c.position ≤ c.input.length then
    .ok (String.ofList ((c.input.drop start).take (c.position - start)))
  else
    .error .outOfRange

-- ---------------------------------------------------------------------------
-- Moving
-- ---------------------------------------------------------------------------

/-- The cursor behind the character `ch` that is ahead. A line break leads to the first column of
the next line. -/
def past (c : Cursor) (ch : Char) : Cursor :=
  { input := c.input
    position := c.position + 1
    line := if ch = '\n' then c.line + 1 else c.line
    column := if ch = '\n' then 1 else c.column + 1
    rest := c.rest.tail
    rest_eq := by rw [c.rest_eq, List.tail_drop] }

/-- Step over the character ahead. At the end the cursor stays where it is. -/
def advance (c : Cursor) : Cursor :=
  match c.peek? with
  | none => c
  | some ch => c.past ch

/-- Step over the next `n` characters. -/
def skip (c : Cursor) : Nat → Cursor
  | 0 => c
  | n + 1 => c.advance.skip n

/-- The number of characters ahead that all satisfy `p`, up to the first that does not. -/
def countWhile (c : Cursor) (p : Char → Bool) : Nat := (c.rest.takeWhile p).length

/-- Step over the characters ahead while they satisfy `p`. -/
def advanceWhile (c : Cursor) (p : Char → Bool) : Cursor := c.skip (c.countWhile p)

-- ---------------------------------------------------------------------------
-- Going back
-- ---------------------------------------------------------------------------

/-- Remember where the cursor stands. -/
def checkpoint (c : Cursor) : Checkpoint := ⟨c.position, c.line, c.column⟩

/-- Stand where a checkpoint was taken. -/
def restore (c : Cursor) (saved : Checkpoint) : Cursor :=
  { input := c.input
    position := saved.position
    line := saved.line
    column := saved.column
    rest := c.input.drop saved.position
    rest_eq := rfl }

-- ---------------------------------------------------------------------------
-- What moving does to the text ahead
-- ---------------------------------------------------------------------------

@[simp] theorem rest_advance (c : Cursor) : c.advance.rest = c.rest.tail := by
  unfold advance peek?
  cases h : c.rest with
  | nil => simp [h]
  | cons ch rest => simp [past, h]

@[simp] theorem rest_skip (c : Cursor) (n : Nat) : (c.skip n).rest = c.rest.drop n := by
  induction n generalizing c with
  | zero => rfl
  | succ n ih => rw [skip, ih, rest_advance, List.drop_tail]

@[simp] theorem input_advance (c : Cursor) : c.advance.input = c.input := by
  unfold advance
  split <;> rfl

@[simp] theorem input_skip (c : Cursor) (n : Nat) : (c.skip n).input = c.input := by
  induction n generalizing c with
  | zero => rfl
  | succ n ih => rw [skip, ih, input_advance]

end Cursor

end CTokens
