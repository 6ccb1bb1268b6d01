/-!
# CTokens — machine words

Offsets, lines, columns and heights are natural numbers that fit in a word of 64 bits. Arithmetic
on numbers that come from outside is checked: a sum that does not fit, a difference below zero
and an index beyond the end are faults, and a fault ends the operation that meets it.
-/

namespace CTokens

/-- Why an operation could not be carried out. -/
inductive Fault where
  /-- A sum does not fit in a word. -/
  | overflow
  /-- A difference lies below zero. -/
  | underflow
  /-- An offset or a token index names nothing. -/
  | outOfRange
deriving DecidableEq, Repr

namespace Word

/-- The greatest word, one less than the 64th power of two. -/
def limit : Nat := 0xFFFFFFFFFFFFFFFF

/-- The sum, if it fits in a word. -/
def add (a b : Nat) : Except Fault Nat :=
  if a + b ≤ limit then .ok (a + b) else .error .overflow

/-- The difference, if it is not below zero. -/
def sub (a b : Nat) : Except Fault Nat :=
  if b ≤ a then .ok (a - b) else .error .underflow

/-- The sum, cut at the greatest word. -/
def addClamped (a b : Nat) : Nat := min (a + b) limit

end Word

end CTokens
