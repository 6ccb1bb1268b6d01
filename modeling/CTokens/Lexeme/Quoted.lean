/-!
# CTokens — quoted literals

A string or character literal runs from its quote to the next quote of the same sort that is not
escaped. A backslash escapes the one character behind it, whichever that is, a line break
included. A literal that is not closed runs to the end of the text.

Main statements:

* `body_isPrefix` — the content, and the quote if there is one, are what the text begins with;
* `content_of_open`, `chars_of_open` — a literal that is not closed leaves nothing behind.
-/

namespace CTokens.Quoted

/-- The content of a literal, and whether its closing quote was found. -/
structure Body where
  content : List Char
  closed : Bool
deriving DecidableEq, Repr

/-- Put characters in front of the content. -/
def Body.prepend (cs : List Char) (b : Body) : Body := { b with content := cs ++ b.content }

/-- Read the content of a literal that `quote` has opened. -/
def body (quote : Char) : List Char → Body
  | [] => ⟨[], false⟩
  | c :: rest =>
    if c = quote then ⟨[], true⟩
    else if c = '\\' then
      match rest with
      | [] => ⟨[c], false⟩
      | escaped :: rest => (body quote rest).prepend [c, escaped]
    else (body quote rest).prepend [c]

/-- The characters that a body covers: its content, and the quote that closes it. -/
def Body.chars (quote : Char) (b : Body) : List Char :=
  b.content ++ if b.closed then [quote] else []

theorem Body.chars_prepend (quote : Char) (cs : List Char) (b : Body) :
    (b.prepend cs).chars quote = cs ++ b.chars quote := by
  unfold Body.chars Body.prepend
  exact List.append_assoc ..

/-- The content, and the quote if there is one, are what the text begins with. -/
theorem body_isPrefix (quote : Char) (cs : List Char) : (body quote cs).chars quote <+: cs := by
  fun_induction body quote cs with
  | case1 => simp [Body.chars]
  | case2 rest => simp [Body.chars]
  | case3 => simp [Body.chars]
  | case4 _ escaped rest ih =>
    rw [Body.chars_prepend]
    exact (List.prefix_append_right_inj _).2 ih
  | case5 c rest _ _ ih =>
    rw [Body.chars_prepend]
    exact (List.prefix_append_right_inj _).2 ih

/-- A literal that is not closed takes the rest of the text. -/
theorem content_of_open {quote : Char} {cs : List Char}
    (h : (body quote cs).closed = false) : (body quote cs).content = cs := by
  fun_induction body quote cs with
  | case1 => rfl
  | case2 rest => cases h
  | case3 => rfl
  | case4 _ escaped rest ih => simpa [Body.prepend] using ih h
  | case5 c rest _ _ ih => simpa [Body.prepend] using ih h

theorem chars_of_open {quote : Char} {cs : List Char} (h : (body quote cs).closed = false) :
    (body quote cs).chars quote = cs := by
  rw [Body.chars, h, content_of_open h]
  exact List.append_nil cs

end CTokens.Quoted
