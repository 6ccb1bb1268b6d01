/-!
# CTokens — comments

A line comment runs from its two slashes up to the next line break, which it leaves alone. A block
comment runs from its opening mark to the next closing mark behind it: the star of the opening
mark cannot close the comment again. A block comment that is not closed runs to the end of the
text.

Main statements:

* `blockBody_isPrefix` — the body, and the closing mark if there is one, are what the text begins
  with;
* `content_of_open`, `chars_of_open` — a block comment that is not closed leaves nothing behind.
-/

namespace CTokens.Comment

/-- What follows the two slashes of a line comment. -/
def lineBody (cs : List Char) : List Char := cs.takeWhile fun c => c != '\n'

theorem lineBody_isPrefix (cs : List Char) : lineBody cs <+: cs := List.takeWhile_prefix _

/-- What stands between the marks of a block comment, and whether the closing mark was found. -/
structure BlockBody where
  content : List Char
  closed : Bool
deriving DecidableEq, Repr

/-- The characters that open a block comment. -/
def opening : List Char := ['/', '*']

/-- The characters that close a block comment. -/
def closing : List Char := ['*', '/']

/-- Read what follows the opening mark of a block comment. -/
def blockBody : List Char → BlockBody
  | [] => ⟨[], false⟩
  | c :: rest =>
    if closing.isPrefixOf (c :: rest) then ⟨[], true⟩
    else
      let b := blockBody rest
      { b with content := c :: b.content }

/-- The characters that a body covers: its content, and the mark that closes it. -/
def BlockBody.chars (b : BlockBody) : List Char := b.content ++ if b.closed then closing else []

/-- The body, and the closing mark if there is one, are what the text begins with. -/
theorem blockBody_isPrefix (cs : List Char) : (blockBody cs).chars <+: cs := by
  fun_induction blockBody cs with
  | case1 => simp [BlockBody.chars]
  | case2 c rest h => simpa [BlockBody.chars] using List.isPrefixOf_iff_prefix.1 h
  | case3 c rest h b ih => exact List.cons_prefix_cons.2 ⟨rfl, ih⟩

/-- A block comment that is not closed takes the rest of the text. -/
theorem content_of_open {cs : List Char} (h : (blockBody cs).closed = false) :
    (blockBody cs).content = cs := by
  fun_induction blockBody cs with
  | case1 => rfl
  | case2 => cases h
  | case3 c rest _ b ih => simpa using ih h

theorem chars_of_open {cs : List Char} (h : (blockBody cs).closed = false) :
    (blockBody cs).chars = cs := by
  rw [BlockBody.chars, h, content_of_open h]
  exact List.append_nil cs

end CTokens.Comment
