/-!
# CTokens — number literals

A number literal has an integer part, a fraction and an exponent, each of which may be missing:
`12`, `12.`, `.5`, `1.5`, `1e10`, `1.2E-3`. Digits are the ten ASCII digits. An exponent mark
without a digit behind it (and behind its sign) is not part of the literal; what was tried and
given back is kept as the dangling part.

Main statement:

* `chars_append_dangling_isPrefix` — literal and dangling part are what the text begins with.
-/

namespace CTokens.Numeral

/-- The digits that a text begins with. -/
def digits (cs : List Char) : List Char := cs.takeWhile Char.isDigit

/-- A point and the digits behind it. The point alone belongs to the literal only when `whole`
says that digits stand before it. -/
def fraction (whole : Bool) : List Char → List Char
  | '.' :: rest =>
    if whole || rest.head?.any Char.isDigit then '.' :: digits rest else []
  | _ => []

/-- Whether a character can introduce an exponent. -/
def isExponentMark (c : Char) : Bool := c == 'e' || c == 'E'

/-- Whether a character is the sign of an exponent. -/
def isSign (c : Char) : Bool := c == '+' || c == '-'

/-- The mark and the sign that a text begins with. Without a mark there is no sign either. -/
def exponentLead : List Char → List Char
  | [] => []
  | mark :: rest =>
    if isExponentMark mark then
      match rest with
      | [] => [mark]
      | sign :: _ => if isSign sign then [mark, sign] else [mark]
    else []

/-- A number literal at the beginning of a text. -/
structure Reading where
  /-- The characters of the literal. -/
  chars : List Char
  /-- The exponent mark and sign that follow the literal without being part of it. -/
  dangling : List Char
deriving DecidableEq, Repr

/-- Read the number literal that a text begins with. -/
def read (cs : List Char) : Reading :=
  let whole := digits cs
  let afterWhole := cs.drop whole.length
  let point := fraction (!whole.isEmpty) afterWhole
  let afterPoint := afterWhole.drop point.length
  let lead := exponentLead afterPoint
  let power := digits (afterPoint.drop lead.length)
  if lead.isEmpty || power.isEmpty then
    { chars := whole ++ point, dangling := lead }
  else
    { chars := whole ++ point ++ lead ++ power, dangling := [] }

/-- Whether a number literal begins with `c` when `rest` follows: a digit does, and a point that
stands before a digit. -/
def opens (c : Char) (rest : List Char) : Bool :=
  c.isDigit || (c == '.' && rest.head?.any Char.isDigit)

-- ---------------------------------------------------------------------------
-- Each part is what the text begins with
-- ---------------------------------------------------------------------------

theorem digits_isPrefix (cs : List Char) : digits cs <+: cs := List.takeWhile_prefix _

theorem fraction_isPrefix (whole : Bool) (cs : List Char) : fraction whole cs <+: cs := by
  unfold fraction
  split
  · split
    · exact List.cons_prefix_cons.2 ⟨rfl, digits_isPrefix _⟩
    · exact List.nil_prefix
  · exact List.nil_prefix

theorem exponentLead_isPrefix (cs : List Char) : exponentLead cs <+: cs := by
  match cs with
  | [] => exact List.nil_prefix
  | [mark] => simp only [exponentLead]; split <;> simp
  | mark :: sign :: rest =>
    simp only [exponentLead]
    split
    · split <;> simp
    · exact List.nil_prefix

/-- A part that a text begins with, followed by a part that the remainder begins with. -/
theorem append_isPrefix_of_drop {a b cs : List Char} (ha : a <+: cs)
    (hb : b <+: cs.drop a.length) : a ++ b <+: cs := by
  obtain ⟨t, rfl⟩ := ha
  rw [List.drop_left] at hb
  exact (List.prefix_append_right_inj a).2 hb

/-- A number and what is given back behind it are what the text begins with. -/
theorem chars_append_dangling_isPrefix (cs : List Char) :
    (read cs).chars ++ (read cs).dangling <+: cs := by
  unfold read
  dsimp only
  split
  · have hLead := append_isPrefix_of_drop (digits_isPrefix cs)
      (append_isPrefix_of_drop (fraction_isPrefix (!(digits cs).isEmpty) _)
        (exponentLead_isPrefix _))
    simpa only [List.append_assoc] using hLead
  · have hPower := append_isPrefix_of_drop (digits_isPrefix cs)
      (append_isPrefix_of_drop (fraction_isPrefix (!(digits cs).isEmpty) _)
        (append_isPrefix_of_drop (exponentLead_isPrefix _) (digits_isPrefix _)))
    simpa only [List.append_assoc, List.append_nil] using hPower

/-- A number is what the text begins with. -/
theorem read_isPrefix (cs : List Char) : (read cs).chars <+: cs :=
  (List.prefix_append _ _).trans (chars_append_dangling_isPrefix cs)

/-- Where a number literal opens, there is something to read. -/
theorem read_ne_nil {c : Char} {rest : List Char} (h : opens c rest = true) :
    (read (c :: rest)).chars ≠ [] := by
  have hfirst : digits (c :: rest) ++ fraction (!(digits (c :: rest)).isEmpty)
      ((c :: rest).drop (digits (c :: rest)).length) ≠ [] := by
    by_cases hc : c.isDigit = true
    · simp [digits, hc]
    · simp only [opens, hc, Bool.false_or, Bool.and_eq_true, beq_iff_eq] at h
      obtain ⟨rfl, hdigit⟩ := h
      have hnone : digits ('.' :: rest) = [] := by simp [digits, hc]
      rw [hnone]
      simp [fraction, hdigit]
  unfold read
  dsimp only
  split
  · exact hfirst
  · intro hnil
    rw [List.append_eq_nil_iff, List.append_eq_nil_iff] at hnil
    exact hfirst hnil.1.1

end CTokens.Numeral
