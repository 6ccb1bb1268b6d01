import CTokens.Proofs.Breaks
import CTokens.Proofs.Partition
import CTokens.Stepping

/-!
# CTokens — the grammar of numbers

A number is a mantissa with or without an exponent. The grammar only says which words are numbers.
That a reader which takes digit after digit, and goes back over an exponent without digits, finds
the longest of them comes from two facts about the parts. A mantissa is taken as a whole, whatever
follows; and where an exponent follows one, the mantissa ends there, since no mark of an exponent is
a digit or a point. So in a longer number either the mantissa would be longer, or the exponent
behind the same mantissa.

A cursor that reads a number steps over its digits, tries an exponent and goes back to a checkpoint
if it finds no digit in it. In the end it stands where stepping over the characters of the number,
one by one, would have led.

Main results:

* `Numeral.longestPrefix_read` — reading finds the longest number that a text begins with;
* `Cursor.overNumber_eq` — where a cursor stands behind a number, and what it tells of its way;
* `scan_number_longest` — the numbers of a scan, and the pass that gives one.
-/

namespace CTokens

-- ---------------------------------------------------------------------------
-- The grammar
-- ---------------------------------------------------------------------------

namespace Numeral

/-- One digit or more. -/
def IsDigits (cs : List Char) : Prop := cs ≠ [] ∧ ∀ c ∈ cs, c.isDigit = true

/-- Digits before a point, behind it or on both sides; without a point they stand alone. -/
inductive IsMantissa : List Char → Prop
  | whole {ds : List Char} (hWhole : IsDigits ds) : IsMantissa ds
  | point {ds fs : List Char} (hWhole : IsDigits ds) (hFraction : ∀ c ∈ fs, c.isDigit = true) :
      IsMantissa (ds ++ '.' :: fs)
  | fraction {fs : List Char} (hFraction : IsDigits fs) : IsMantissa ('.' :: fs)

/-- A mark and digits behind it, or behind a sign. -/
inductive IsExponent : List Char → Prop
  | plain {mark : Char} {ds : List Char} (hMark : mark = 'e' ∨ mark = 'E') (hPower : IsDigits ds) :
      IsExponent (mark :: ds)
  | signed {mark sign : Char} {ds : List Char} (hMark : mark = 'e' ∨ mark = 'E')
      (hSign : sign = '+' ∨ sign = '-') (hPower : IsDigits ds) : IsExponent (mark :: sign :: ds)

/-- A mantissa with or without an exponent. -/
inductive IsNumber : List Char → Prop
  | plain {ms : List Char} (hMantissa : IsMantissa ms) : IsNumber ms
  | scaled {ms es : List Char} (hMantissa : IsMantissa ms) (hExponent : IsExponent es) :
      IsNumber (ms ++ es)

-- ---------------------------------------------------------------------------
-- What is read belongs to the grammar
-- ---------------------------------------------------------------------------

/-- A run of digits is one of the grammar, unless it is empty. -/
theorem isDigits_digits {cs : List Char} (h : digits cs ≠ []) : IsDigits (digits cs) :=
  ⟨h, isDigit_of_mem_digits⟩

/-- What is taken for a mantissa is one. -/
theorem isMantissa_mantissa {cs : List Char} (h : mantissa cs ≠ []) : IsMantissa (mantissa cs) := by
  unfold mantissa at h ⊢
  -- without digits in front, digits have to stand behind the point
  by_cases hWhole : digits cs = []
  · rw [hWhole, List.nil_append] at h ⊢
    rcases fraction_eq_nil_or false (cs.drop 0) with hNone | ⟨rest, hPoint, hDigits⟩
    · exact absurd hNone h
    · have hSome : digits rest ≠ [] := hDigits.resolve_left Bool.false_ne_true
      show IsMantissa (fraction false (cs.drop 0))
      rw [hPoint]
      exact .fraction (isDigits_digits hSome)
  · rcases fraction_eq_nil_or (!(digits cs).isEmpty) (cs.drop (digits cs).length) with
      hNone | ⟨rest, hPoint, -⟩
    · rw [hNone, List.append_nil]
      exact .whole (isDigits_digits hWhole)
    · rw [hPoint]
      exact .point (isDigits_digits hWhole) isDigit_of_mem_digits

/-- What is taken for an exponent is one. -/
theorem isExponent_exponent {cs : List Char} (h : (exponent cs).chars ≠ []) :
    IsExponent (exponent cs).chars := by
  unfold exponent at h ⊢
  dsimp only at h ⊢
  split at h
  · exact absurd rfl h
  · next hTaken =>
    rw [if_neg hTaken]
    simp only [Bool.or_eq_true, List.isEmpty_iff, not_or] at hTaken
    obtain ⟨hLead, hPower⟩ := hTaken
    have hDigits := isDigits_digits hPower
    rcases exponentLead_eq_nil_or cs with hNone | ⟨mark, hMark, hPlain | ⟨sign, hSign, hSigned⟩⟩
    · exact absurd hNone hLead
    · rw [hPlain] at hDigits ⊢
      exact .plain hMark hDigits
    · rw [hSigned] at hDigits ⊢
      exact .signed hMark hSign hDigits

/-- Where a number opens there is a mantissa. -/
theorem mantissa_ne_nil {c : Char} {rest : List Char} (h : opens c rest = true) :
    mantissa (c :: rest) ≠ [] := by
  rcases opens_eq_true_iff.1 h with hDigit | ⟨rfl, hDigit⟩
  · simp [mantissa, digits, hDigit]
  · show fraction false ('.' :: rest) ≠ []
    rw [fraction, hDigit]
    exact List.cons_ne_nil _ _

/-- What is read where a number opens is a number. -/
theorem isNumber_read {c : Char} {rest : List Char} (h : opens c rest = true) :
    IsNumber (read (c :: rest)).chars := by
  have hMantissa := isMantissa_mantissa (mantissa_ne_nil h)
  rw [read_eq]
  dsimp only
  by_cases hNone : (exponent ((c :: rest).drop (mantissa (c :: rest)).length)).chars = []
  · rw [hNone, List.append_nil]
    exact .plain hMantissa
  · exact .scaled hMantissa (isExponent_exponent hNone)

-- ---------------------------------------------------------------------------
-- No longer number is there
-- ---------------------------------------------------------------------------

/-- Digits are taken as a whole, whatever follows them. -/
theorem digits_append {ds : List Char} (h : ∀ c ∈ ds, c.isDigit = true) (rest : List Char) :
    digits (ds ++ rest) = ds ++ digits rest := List.takeWhile_append_of_pos h

/-- A mantissa is taken as a whole, whatever follows it. -/
theorem IsMantissa.isPrefix_mantissa {ms : List Char} (h : IsMantissa ms) (rest : List Char) :
    ms <+: mantissa (ms ++ rest) := by
  unfold mantissa
  cases h with
  | whole hWhole =>
    rw [digits_append hWhole.2, List.append_assoc]
    exact List.prefix_append ms _
  | @point ds fs hWhole hFraction =>
    have hDigits : digits (ds ++ '.' :: fs ++ rest) = ds := by
      rw [List.append_assoc, digits_append hWhole.2]
      exact List.append_nil ds
    have hSome : (!ds.isEmpty) = true := by
      rw [List.isEmpty_eq_false_iff.2 hWhole.1]
      rfl
    rw [hDigits, List.append_assoc, List.drop_left, List.cons_append, fraction_point_eq_digits,
      hSome, Bool.true_or, if_pos rfl, digits_append hFraction, ← List.cons_append,
      ← List.append_assoc]
    exact List.prefix_append _ _
  | @fraction fs hFraction =>
    have hSome : (!(digits (fs ++ rest)).isEmpty) = true := by
      rw [digits_append hFraction.2, List.isEmpty_eq_false_iff.2 (by simp [hFraction.1])]
      rfl
    show '.' :: fs <+: CTokens.Numeral.fraction false ('.' :: (fs ++ rest))
    rw [fraction_point_eq_digits, hSome, Bool.or_true, if_pos rfl, digits_append hFraction.2,
      ← List.cons_append]
    exact List.prefix_append _ _

/-- Where an exponent follows a mantissa, no more than the mantissa is taken. -/
theorem IsMantissa.mantissa_append {ms es : List Char} (hMantissa : IsMantissa ms)
    (hExponent : IsExponent es) (rest : List Char) : mantissa (ms ++ (es ++ rest)) = ms := by
  obtain ⟨more, hMore⟩ := hMantissa.isPrefix_mantissa (es ++ rest)
  -- what is taken beyond the mantissa would be the beginning of the exponent
  have hAhead : more <+: es ++ rest := by
    rw [← List.prefix_append_right_inj ms, hMore]
    exact append_isPrefix_of_drop (digits_isPrefix _) (fraction_isPrefix _ _)
  cases more with
  | nil => rw [← hMore, List.append_nil]
  | cons c more =>
    -- a mantissa is made of digits and a point, and the mark of an exponent is neither
    have hTaken : c.isDigit = true ∨ c = '.' := by
      have hMem : c ∈ ms ++ c :: more := List.mem_append_right _ List.mem_cons_self
      rw [hMore] at hMem
      exact digit_or_point_of_mem_mantissa hMem
    have hMark : c = 'e' ∨ c = 'E' := by
      cases hExponent with
      | plain hMark hPower => exact (List.cons_prefix_cons.1 hAhead).1 ▸ hMark
      | signed hMark hSign hPower => exact (List.cons_prefix_cons.1 hAhead).1 ▸ hMark
    rcases hMark with rfl | rfl
    · exact absurd hTaken (by decide)
    · exact absurd hTaken (by decide)

/-- Behind a mark, and behind a sign, all digits are taken. -/
theorem isPrefix_exponent_of_lead {lead ds rest : List Char}
    (hLead : exponentLead (lead ++ ds ++ rest) = lead) (hSome : lead ≠ []) (hPower : IsDigits ds) :
    lead ++ ds <+: (exponent (lead ++ ds ++ rest)).chars := by
  have hDigits : digits ((lead ++ ds ++ rest).drop lead.length) = ds ++ digits rest := by
    rw [List.append_assoc, List.drop_left, digits_append hPower.2]
  have hNone : (lead.isEmpty || (ds ++ digits rest).isEmpty) = false := by
    simp [hSome, hPower.1]
  rw [exponent, hLead, hDigits, hNone, if_neg Bool.false_ne_true, ← List.append_assoc]
  exact List.prefix_append _ _

/-- An exponent is taken as a whole, whatever follows it. -/
theorem IsExponent.isPrefix_exponent {es : List Char} (h : IsExponent es) (rest : List Char) :
    es <+: (exponent (es ++ rest)).chars := by
  cases h with
  | @plain mark ds hMark hPower =>
    have hLead : exponentLead (mark :: (ds ++ rest)) = [mark] := by
      rw [exponentLead_cons, if_pos (isExponentMark_iff.2 hMark)]
      intro sign hFirst
      have hDigit : sign.isDigit = true := by
        obtain ⟨d, ds', rfl⟩ := List.exists_cons_of_ne_nil hPower.1
        obtain rfl : d = sign := Option.some.inj hFirst
        exact hPower.2 d List.mem_cons_self
      rw [← Bool.not_eq_true, isSign_iff]
      rintro (rfl | rfl)
      · exact absurd hDigit (by decide)
      · exact absurd hDigit (by decide)
    exact @isPrefix_exponent_of_lead [mark] ds rest hLead (List.cons_ne_nil _ _) hPower
  | @signed mark sign ds hMark hSign hPower =>
    have hLead : exponentLead (mark :: sign :: (ds ++ rest)) = [mark, sign] := by
      rw [exponentLead, if_pos (isExponentMark_iff.2 hMark), if_pos (isSign_iff.2 hSign)]
    exact @isPrefix_exponent_of_lead [mark, sign] ds rest hLead (List.cons_ne_nil _ _) hPower

/-- Reading finds the longest number that a text begins with. -/
theorem longestPrefix_read {c : Char} {rest : List Char} (h : opens c rest = true) :
    LongestPrefix IsNumber (c :: rest) (read (c :: rest)).chars := by
  refine ⟨read_isPrefix _, isNumber_read h, ?_⟩
  intro other hPrefix hOther
  obtain ⟨tail, hText⟩ := hPrefix
  rw [read_eq]
  dsimp only
  rw [← hText, List.length_append]
  cases hOther with
  | plain hMantissa =>
    have hWithin := (hMantissa.isPrefix_mantissa tail).length_le
    omega
  | @scaled ms es hMantissa hExponent =>
    -- the mantissa is the same, and so the exponents are to be compared
    have hWithin := (hExponent.isPrefix_exponent tail).length_le
    rw [List.append_assoc, hMantissa.mantissa_append hExponent, List.drop_left,
      List.length_append]
    omega

end Numeral

-- ---------------------------------------------------------------------------
-- Stepping over a number
-- ---------------------------------------------------------------------------

namespace Cursor

/-- Stepping on from where stepping has led is one way. -/
theorem skip_skip (c : Cursor) (m n : Nat) : (c.skip m).skip n = c.skip (m + n) := by
  induction m generalizing c with
  | zero => rw [skip, Nat.zero_add]
  | succ m ih => rw [skip, ih, Nat.add_right_comm, skip]

/-- Going back to a checkpoint leads to where it was taken, with everything that a cursor knows. -/
theorem restore_checkpoint {c c' : Cursor} (h : c'.input = c.input) :
    c'.restore c.checkpoint = c := by
  obtain ⟨input, position, line, column, rest, rfl⟩ := c
  obtain rfl : c'.input = input := h
  rfl

theorem advanceWhile_isDigit (c : Cursor) :
    c.advanceWhile Char.isDigit = c.skip (Numeral.digits c.rest).length := rfl

/-- A cursor steps over the fraction that reading finds. -/
theorem overFraction_eq (c : Cursor) (whole : Bool) :
    c.overFraction whole = c.skip (Numeral.fraction whole c.rest).length := by
  unfold overFraction peek?
  cases hRest : c.rest with
  | nil => rfl
  | cons d ds =>
    by_cases hPoint : d = '.'
    · subst hPoint
      have hNext : ('.' :: ds)[1]? = ds.head? := by
        rw [List.getElem?_cons_succ, List.head?_eq_getElem?]
      rw [hNext, Numeral.head?_any_isDigit, Numeral.fraction_point_eq_digits]
      by_cases hTaken : (whole || !(Numeral.digits ds).isEmpty) = true
      · rw [if_pos hTaken, if_pos ⟨rfl, Bool.or_eq_true _ _ ▸ hTaken⟩, advanceWhile_isDigit,
          rest_advance, hRest]
        rfl
      · rw [if_neg hTaken, if_neg fun h => hTaken (Bool.or_eq_true _ _ ▸ h.2)]
        rfl
    · rw [Numeral.fraction_of_ne whole hPoint, if_neg fun h => hPoint (Option.some.inj h.1)]
      rfl

/-- A cursor steps over the mantissa that reading finds. -/
theorem overMantissa_eq (c : Cursor) :
    c.overMantissa = c.skip (Numeral.mantissa c.rest).length := by
  have hWhole : decide (0 < c.countWhile Char.isDigit) = !(Numeral.digits c.rest).isEmpty := by
    show decide (0 < (Numeral.digits c.rest).length) = _
    cases Numeral.digits c.rest <;> rfl
  rw [overMantissa, hWhole, overFraction_eq, advanceWhile_isDigit, rest_skip, skip_skip,
    Numeral.mantissa, List.length_append]

/-- The lead of an exponent is stepped over by its mark and its sign. -/
theorem skip_exponentLead {c : Cursor} {mark : Char} {rest : List Char}
    (hAhead : c.rest = mark :: rest) (hMark : Numeral.isExponentMark mark = true) :
    (if c.advance.peek?.any Numeral.isSign then c.advance.advance else c.advance) =
      c.skip (Numeral.exponentLead c.rest).length := by
  unfold peek?
  rw [rest_advance, hAhead, Numeral.length_exponentLead hMark, List.tail_cons]
  by_cases hSign : rest.head?.any Numeral.isSign = true
  · rw [if_pos hSign, if_pos hSign]
    rfl
  · rw [if_neg hSign, if_neg hSign]
    rfl

/-- Where a mark is ahead, a cursor stands behind the exponent in the end, or where it was. -/
theorem overExponent_eq {c : Cursor} {mark : Char} {rest : List Char}
    (hAhead : c.rest = mark :: rest) (hMark : Numeral.isExponentMark mark = true) :
    c.overExponent = (c.skip (Numeral.exponent c.rest).chars.length,
      (Lexeme.number (Numeral.exponent c.rest)).recovery? c) := by
  have hLead : Numeral.exponentLead c.rest ≠ [] := by
    have hLength := Numeral.length_exponentLead hMark rest
    rw [hAhead, ← List.length_pos_iff]
    omega
  have hCount : (c.skip (Numeral.exponentLead c.rest).length).countWhile Char.isDigit =
      (Numeral.digits (c.rest.drop (Numeral.exponentLead c.rest).length)).length := by
    rw [countWhile, rest_skip]
    rfl
  unfold overExponent
  dsimp only
  rw [skip_exponentLead hAhead hMark, hCount, advanceWhile_isDigit, rest_skip, skip_skip,
    Numeral.exponent_of_lead hLead]
  -- without digits the cursor goes back, with them it stays behind them
  by_cases hPower : Numeral.digits (c.rest.drop (Numeral.exponentLead c.rest).length) = []
  · rw [if_pos hPower, hPower, List.length_nil, if_neg (Nat.lt_irrefl 0),
      restore_checkpoint (input_skip c _)]
    simp [Lexeme.recovery?, hLead, skip]
  · rw [if_neg hPower, if_pos (List.length_pos_iff.2 hPower), List.length_append]
    rfl

/-- What is told of a number is told from behind its mantissa. -/
theorem recovery?_number_append (c : Cursor) (cs : List Char) (reading : Numeral.Reading) :
    (Lexeme.number ⟨cs ++ reading.chars, reading.dangling⟩).recovery? c =
      (Lexeme.number reading).recovery? (c.skip cs.length) := by
  unfold Lexeme.recovery?
  dsimp only
  rw [skip_skip, List.length_append, Nat.add_assoc]

/-- A cursor that has read a number stands where stepping over its characters, one by one, would
have led, and tells of the exponent that it gave back. -/
theorem overNumber_eq (c : Cursor) :
    c.overNumber = (c.skip (Numeral.read c.rest).chars.length,
      (Lexeme.number (Numeral.read c.rest)).recovery? c) := by
  -- both ways go to behind the mantissa first, so it is enough to compare what they do from there
  have hBehind := c.rest_skip (Numeral.mantissa c.rest).length
  rw [overNumber, overMantissa_eq, Numeral.read_eq, recovery?_number_append, List.length_append,
    ← skip_skip, ← hBehind]
  generalize c.skip (Numeral.mantissa c.rest).length = behind
  unfold peek?
  cases hAhead : behind.rest with
  | nil => rfl
  | cons mark rest =>
    by_cases hMark : Numeral.isExponentMark mark = true
    · rw [← hAhead, overExponent_eq hAhead hMark, hAhead]
      exact if_pos hMark
    · have hLead := Numeral.exponentLead_of_not_mark (Bool.eq_false_iff.2 hMark) rest
      have hNone : Numeral.exponent (mark :: rest) = ⟨[], []⟩ := by
        rw [Numeral.exponent, hLead]
        rfl
      rw [hNone]
      exact if_neg hMark

-- no digit stands behind the sign, so the cursor goes back to before the mark
example :
    ((Cursor.ofString "1.e+x").overNumber.1.location, (Cursor.ofString "1.e+x").overNumber.2) =
      (⟨1, 3⟩, some (.exponentGivenBack ⟨1, 5⟩)) := by
  decide

end Cursor

-- ---------------------------------------------------------------------------
-- The numbers of a scan
-- ---------------------------------------------------------------------------

/-- Only numbers have the kind of numbers. -/
theorem Lexeme.exists_eq_number {l : Lexeme} (h : l.kind = .number) :
    ∃ reading, l = .number reading := by
  cases l with
  | number reading => exact ⟨reading, rfl⟩
  | word cs =>
    rw [kind] at h
    split at h <;> cases h
  | quoted mark body => cases mark <;> cases h
  | lineComment | blockComment | delimiter | operator | unknown => cases h

/-- Where a number opens, the piece that is read is that number. -/
theorem Piece.read_number {c : Char} {rest : List Char} (h : Numeral.opens c rest = true) :
    read (c :: rest) = some (.lexeme (.number (Numeral.read (c :: rest)))) := by
  have hInner : isInner c = true := by
    rcases Numeral.opens_eq_true_iff.1 h with hDigit | ⟨rfl, -⟩
    · exact isInner_of_isDigit c hDigit
    · decide +kernel
  have hOther : ¬ Unicode.isWhiteSpace c = true := by
    intro hBlank
    rw [isInner_of_isWhiteSpace hBlank] at hInner
    cases hInner
  rw [read, if_neg hOther, (Lexeme.Begins.number h).read_eq]

/-- **Numbers follow their grammar.** Every number of a scan is the longest number that the source
goes on with from there. And a cursor before a digit, or before a point and a digit, steps over the
longest number ahead and stands behind it, with its offset, line and column, as if it had stepped
over the characters one by one, whether or not it has tried an exponent and gone back: that is the
pass which gives the number. -/
theorem scan_number_longest :
    (∀ (s : String) (keep : Bool), ∀ t ∈ scan s keep, t.kind = .number →
      LongestPrefix Numeral.IsNumber (s.toList.drop t.span.start) t.text.toList) ∧
    ∀ (c : Cursor) (first : Char) (rest : List Char), c.rest = first :: rest →
      Numeral.opens first rest = true →
      ∃ text, LongestPrefix Numeral.IsNumber c.rest text ∧
        c.overNumber.1 = c.skip text.length ∧
        ∀ stream : TokenStream, stream.cursor = c →
          stream.pass = .emitted
            ⟨.number, String.ofList text, c.location, c.overNumber.1.spanFrom c.position⟩
            c.overNumber.2 { stream with cursor := c.overNumber.1 } := by
  refine ⟨?tokens, ?cursor⟩
  case tokens =>
    intro s keep t ht hNumber
    obtain ⟨before, c, rest, l, hText, rfl, hBegins⟩ :=
      exists_begins_of_mem_scan ht (by rw [hNumber]; decide)
    obtain ⟨reading, rfl⟩ := Lexeme.exists_eq_number hNumber
    cases hBegins with
    | number hOpens =>
      have hLongest := Numeral.longestPrefix_read hOpens
      show LongestPrefix _ (s.toList.drop before.length) (String.ofList _).toList
      rw [hText, List.drop_left, String.toList_ofList]
      exact hLongest
  case cursor =>
    intro c first rest hAhead hOpens
    -- the cursor stands where reading ends, and a pass reads the same number there
    rw [Cursor.overNumber_eq]
    refine ⟨(Numeral.read c.rest).chars, ?_, rfl, ?_⟩
    · rw [hAhead]
      exact Numeral.longestPrefix_read hOpens
    · rintro stream rfl
      have hRead := Piece.read_number hOpens
      rw [← hAhead] at hRead
      unfold TokenStream.pass
      rw [hRead]
      rfl

end CTokens
