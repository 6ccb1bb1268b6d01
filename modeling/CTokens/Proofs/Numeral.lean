import CTokens.Lexeme.Numeral

/-!
# CTokens — the parts of a number

A number is a mantissa and an exponent. The mantissa is read first, and the exponent from what it
leaves; neither is ever taken back by the other.

Main statements:

* `Numeral.read_eq` — reading a number is reading its mantissa and then its exponent;
* `Numeral.dangling_read` — an exponent is given back when a mark follows a number without one.
-/

namespace CTokens.Numeral

/-- The digits that a text begins with, and the point and digits behind them. -/
def mantissa (cs : List Char) : List Char :=
  digits cs ++ fraction (!(digits cs).isEmpty) (cs.drop (digits cs).length)

/-- The exponent that a text begins with. An exponent without digits is no part of a number. -/
def exponent (cs : List Char) : Reading :=
  let lead := exponentLead cs
  let power := digits (cs.drop lead.length)
  if lead.isEmpty || power.isEmpty then { chars := [], dangling := lead }
  else { chars := lead ++ power, dangling := [] }

/-- A number is its mantissa, and the exponent that stands behind it. -/
theorem read_eq (cs : List Char) :
    read cs =
      { chars := mantissa cs ++ (exponent (cs.drop (mantissa cs).length)).chars
        dangling := (exponent (cs.drop (mantissa cs).length)).dangling } := by
  have hDrop : cs.drop (mantissa cs).length =
      (cs.drop (digits cs).length).drop
        (fraction (!(digits cs).isEmpty) (cs.drop (digits cs).length)).length := by
    rw [mantissa, List.length_append, List.drop_drop]
  rw [hDrop]
  unfold read exponent
  dsimp only
  split
  · rw [List.append_nil]
    rfl
  · rw [mantissa]
    simp only [List.append_assoc]

theorem isDigit_of_mem_digits {cs : List Char} : ∀ c ∈ digits cs, c.isDigit = true :=
  List.all_eq_true.1 List.all_takeWhile

theorem isExponentMark_iff {c : Char} : isExponentMark c = true ↔ c = 'e' ∨ c = 'E' := by
  rw [isExponentMark, Bool.or_eq_true, beq_iff_eq, beq_iff_eq]

theorem isSign_iff {c : Char} : isSign c = true ↔ c = '+' ∨ c = '-' := by
  rw [isSign, Bool.or_eq_true, beq_iff_eq, beq_iff_eq]

/-- A number begins with a digit, or with a point that a digit follows. -/
theorem opens_eq_true_iff {c : Char} {rest : List Char} :
    opens c rest = true ↔ c.isDigit = true ∨ (c = '.' ∧ rest.head?.any Char.isDigit = true) := by
  rw [opens, Bool.or_eq_true, Bool.and_eq_true, beq_iff_eq]

/-- Behind a point the next character counts, unless digits stand before it. -/
theorem fraction_point (whole : Bool) (c : Char) (cs : List Char) :
    fraction whole ('.' :: c :: cs) =
      if whole || c.isDigit then '.' :: digits (c :: cs) else [] := rfl

/-- A digit is next when there is a run of digits. -/
theorem head?_any_isDigit (cs : List Char) : cs.head?.any Char.isDigit = !(digits cs).isEmpty := by
  cases cs with
  | nil => rfl
  | cons c cs => by_cases hc : c.isDigit = true <;> simp [digits, hc]

/-- A point belongs to a number when digits stand before it or behind it. -/
theorem fraction_point_eq_digits (whole : Bool) (cs : List Char) :
    fraction whole ('.' :: cs) =
      if whole || !(digits cs).isEmpty then '.' :: digits cs else [] := by
  rw [← head?_any_isDigit]
  rfl

/-- A number that begins with its point has a digit behind it. -/
theorem two_le_length_read_point {cs : List Char} (h : cs.head?.any Char.isDigit = true) :
    2 ≤ (read ('.' :: cs)).chars.length := by
  have hDigits : digits cs ≠ [] := by
    rw [head?_any_isDigit] at h
    rintro hNil
    rw [hNil] at h
    cases h
  have hMantissa : mantissa ('.' :: cs) = '.' :: digits cs := by
    show fraction false ('.' :: cs) = _
    rw [fraction_point_eq_digits, List.isEmpty_eq_false_iff.2 hDigits]
    rfl
  have hLength := List.length_pos_iff.2 hDigits
  rw [read_eq, hMantissa, List.length_append, List.length_cons]
  omega

theorem fraction_of_ne (whole : Bool) {c : Char} (h : c ≠ '.') (cs : List Char) :
    fraction whole (c :: cs) = [] := by
  unfold fraction
  split
  · next heq => exact absurd (List.cons.inj heq).1 h
  · rfl

/-- A fraction is empty, or a point that digits stand before or behind. -/
theorem fraction_eq_nil_or (whole : Bool) (cs : List Char) :
    fraction whole cs = [] ∨
      ∃ rest, fraction whole cs = '.' :: digits rest ∧ (whole = true ∨ digits rest ≠ []) := by
  cases cs with
  | nil => exact .inl rfl
  | cons c rest =>
    by_cases hPoint : c = '.'
    · subst hPoint
      rw [fraction_point_eq_digits]
      by_cases hTaken : (whole || !(digits rest).isEmpty) = true
      · rw [if_pos hTaken]
        refine .inr ⟨rest, rfl, ?_⟩
        simpa using hTaken
      · rw [if_neg hTaken]
        exact .inl rfl
    · exact .inl (fraction_of_ne whole hPoint rest)

/-- The lead of an exponent is its mark, and the sign behind it if there is one. -/
theorem length_exponentLead {mark : Char} (hMark : isExponentMark mark = true)
    (rest : List Char) :
    (exponentLead (mark :: rest)).length = 1 + if rest.head?.any isSign then 1 else 0 := by
  cases rest with
  | nil => simp [exponentLead, hMark]
  | cons sign rest => by_cases hSign : isSign sign = true <;> simp [exponentLead, hMark, hSign]

theorem exponentLead_of_not_mark {mark : Char} (hMark : isExponentMark mark = false)
    (rest : List Char) : exponentLead (mark :: rest) = [] := by
  cases rest <;> simp [exponentLead, hMark]

/-- The lead of an exponent is empty, or a mark, or a mark and a sign. -/
theorem exponentLead_eq_nil_or (cs : List Char) :
    exponentLead cs = [] ∨ ∃ mark, (mark = 'e' ∨ mark = 'E') ∧
      (exponentLead cs = [mark] ∨
        ∃ sign, (sign = '+' ∨ sign = '-') ∧ exponentLead cs = [mark, sign]) := by
  cases cs with
  | nil => exact .inl rfl
  | cons mark rest =>
    by_cases hMark : isExponentMark mark = true
    · refine .inr ⟨mark, isExponentMark_iff.1 hMark, ?_⟩
      cases rest with
      | nil => exact .inl (if_pos hMark)
      | cons sign rest =>
        by_cases hSign : isSign sign = true
        · exact .inr ⟨sign, isSign_iff.1 hSign, by rw [exponentLead, if_pos hMark, if_pos hSign]⟩
        · exact .inl (by rw [exponentLead, if_pos hMark, if_neg hSign])
    · rw [Bool.not_eq_true] at hMark
      exact .inl (exponentLead_of_not_mark hMark rest)

/-- The lead of an exponent is a mark and at most a sign. -/
theorem length_exponentLead_le (cs : List Char) : (exponentLead cs).length ≤ 2 := by
  rcases exponentLead_eq_nil_or cs with hNone | ⟨mark, -, hPlain | ⟨sign, -, hSigned⟩⟩
  · rw [hNone]
    exact Nat.zero_le 2
  · rw [hPlain]
    exact Nat.le_succ 1
  · rw [hSigned]
    exact Nat.le_refl 2

/-- A mark that no sign follows leads alone. -/
theorem exponentLead_cons (mark : Char) {cs : List Char}
    (h : ∀ sign ∈ cs.head?, isSign sign = false) :
    exponentLead (mark :: cs) = if isExponentMark mark then [mark] else [] := by
  cases cs with
  | nil => rfl
  | cons sign cs =>
    have hSign := h sign rfl
    rw [exponentLead]
    simp only [hSign, Bool.false_eq_true, if_false]

/-- An exponent is told by its lead, and behind a mark by its digits. -/
theorem exponent_congr {cs cs' : List Char} (hLead : exponentLead cs' = exponentLead cs)
    (hPower : exponentLead cs ≠ [] →
      digits (cs'.drop (exponentLead cs).length) = digits (cs.drop (exponentLead cs).length)) :
    exponent cs' = exponent cs := by
  unfold exponent
  dsimp only
  rw [hLead]
  by_cases hMark : exponentLead cs = []
  · rw [hMark]
    rfl
  · rw [hPower hMark]

/-- Behind a lead the digits decide whether there is an exponent. -/
theorem exponent_of_lead {cs : List Char} (h : exponentLead cs ≠ []) :
    exponent cs =
      if digits (cs.drop (exponentLead cs).length) = [] then ⟨[], exponentLead cs⟩
      else ⟨exponentLead cs ++ digits (cs.drop (exponentLead cs).length), []⟩ := by
  rw [exponent, List.isEmpty_eq_false_iff.2 h, Bool.false_or]
  simp only [List.isEmpty_iff]

/-- The digits of an exponent are part of it, unless there are none. -/
theorem length_power_le {cs : List Char} (h : exponentLead cs ≠ []) :
    (digits (cs.drop (exponentLead cs).length)).length ≤
      (exponent cs).chars.length - (exponentLead cs).length := by
  by_cases hPower : digits (cs.drop (exponentLead cs).length) = []
  · rw [hPower]
    exact Nat.zero_le _
  · rw [exponent_of_lead h, if_neg hPower, List.length_append]
    omega

/-- An exponent that is not empty has a mark and a digit. -/
theorem exponent_chars_eq_nil {cs : List Char} (h : (exponent cs).chars.length < 2) :
    (exponent cs).chars = [] := by
  unfold exponent at h ⊢
  dsimp only at h ⊢
  split at h
  · next hNone => rw [if_pos hNone]
  · next hTaken =>
    simp only [Bool.or_eq_true, List.isEmpty_iff, not_or] at hTaken
    have hMark := List.length_pos_iff.2 hTaken.1
    have hDigit := List.length_pos_iff.2 hTaken.2
    rw [List.length_append] at h
    omega

-- ---------------------------------------------------------------------------
-- What is given back
-- ---------------------------------------------------------------------------

/-- A fraction has nothing but digits and points in it. -/
theorem digit_or_point_of_mem_fraction {whole : Bool} {cs : List Char} {c : Char}
    (h : c ∈ fraction whole cs) : c.isDigit = true ∨ c = '.' := by
  rcases fraction_eq_nil_or whole cs with hNone | ⟨rest, hPoint, -⟩
  · rw [hNone] at h
    cases h
  · rw [hPoint] at h
    rcases List.mem_cons.1 h with rfl | hDigit
    · exact .inr rfl
    · exact .inl (isDigit_of_mem_digits c hDigit)

/-- A mantissa has nothing but digits and points in it. -/
theorem digit_or_point_of_mem_mantissa {cs : List Char} {c : Char} (h : c ∈ mantissa cs) :
    c.isDigit = true ∨ c = '.' := by
  rcases List.mem_append.1 h with hDigit | hFraction
  · exact .inl (isDigit_of_mem_digits c hDigit)
  · exact digit_or_point_of_mem_fraction hFraction

/-- No mark of an exponent stands in a mantissa. -/
theorem any_isExponentMark_mantissa (cs : List Char) :
    (mantissa cs).any isExponentMark = false := by
  rw [List.any_eq_false]
  intro c hc hMark
  rw [isExponentMark_iff] at hMark
  rcases digit_or_point_of_mem_mantissa hc with hDigit | rfl
  · rcases hMark with rfl | rfl
    · exact absurd hDigit (by decide)
    · exact absurd hDigit (by decide)
  · exact absurd hMark (by decide)

/-- The lead of an exponent has its mark in it, unless it is empty. -/
theorem any_isExponentMark_exponentLead {cs : List Char} (h : exponentLead cs ≠ []) :
    (exponentLead cs).any isExponentMark = true := by
  rcases exponentLead_eq_nil_or cs with hNone | ⟨mark, hMark, hPlain | ⟨sign, -, hSigned⟩⟩
  · exact absurd hNone h
  · rw [hPlain, List.any_cons, isExponentMark_iff.2 hMark, Bool.true_or]
  · rw [hSigned, List.any_cons, isExponentMark_iff.2 hMark, Bool.true_or]

/-- What is given back behind a number is the lead of an exponent, unless the number has one. -/
theorem dangling_read (cs : List Char) :
    (read cs).dangling =
      if (read cs).chars.any isExponentMark then []
      else exponentLead (cs.drop (read cs).chars.length) := by
  rw [read_eq]
  dsimp only
  -- the mantissa has no mark, so it is the exponent alone that decides
  rw [List.any_append, any_isExponentMark_mantissa, Bool.false_or]
  unfold exponent
  dsimp only
  split
  · rw [List.any_nil, if_neg Bool.false_ne_true, List.append_nil]
  · next hTaken =>
    rw [Bool.or_eq_true, List.isEmpty_iff, not_or] at hTaken
    rw [List.any_append, any_isExponentMark_exponentLead hTaken.1, Bool.true_or, if_pos rfl]

/-- The lead of an exponent has nothing but marks and signs in it. -/
theorem mark_or_sign_of_mem_exponentLead {cs : List Char} {c : Char} (h : c ∈ exponentLead cs) :
    isExponentMark c = true ∨ isSign c = true := by
  rw [isExponentMark_iff, isSign_iff]
  rcases exponentLead_eq_nil_or cs with hNone | ⟨mark, hMark, hPlain | ⟨sign, hSign, hSigned⟩⟩
  · rw [hNone] at h
    cases h
  · rw [hPlain, List.mem_singleton] at h
    exact .inl (h ▸ hMark)
  · rw [hSigned, List.mem_cons, List.mem_singleton] at h
    rcases h with rfl | rfl
    · exact .inl hMark
    · exact .inr hSign

/-- A number and what is given back behind it consist of digits, points, marks and signs. -/
theorem forms_of_mem_read {cs : List Char} {c : Char}
    (h : c ∈ (read cs).chars ++ (read cs).dangling) :
    c.isDigit = true ∨ c = '.' ∨ isExponentMark c = true ∨ isSign c = true := by
  rw [read_eq, List.append_assoc] at h
  dsimp only at h
  -- what is given back is either the whole lead or nothing, so the cases are those of `exponent`
  rcases List.mem_append.1 h with hMantissa | hExponent
  · rcases digit_or_point_of_mem_mantissa hMantissa with hDigit | hPoint
    · exact .inl hDigit
    · exact .inr (.inl hPoint)
  · unfold exponent at hExponent
    dsimp only at hExponent
    split at hExponent
    · exact .inr (.inr (mark_or_sign_of_mem_exponentLead hExponent))
    · rw [List.append_nil] at hExponent
      rcases List.mem_append.1 hExponent with hLead | hPower
      · exact .inr (.inr (mark_or_sign_of_mem_exponentLead hLead))
      · exact .inl (isDigit_of_mem_digits c hPower)

end CTokens.Numeral
