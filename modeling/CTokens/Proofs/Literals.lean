import CTokens.Proofs.Partition

/-!
# CTokens — the content of literals

The content of a literal is a sequence of units. A backslash and the character behind it are one
unit, and every character but the backslash and the quote is one alone. So the quote that closes a
literal is the first that is no part of a unit, and how many backslashes stand before it tells
whether it is. Where the text ends first, it may end in a backslash that escapes nothing; this
belongs to the content and to no unit.

In the other direction every sequence of units between quotes is read as it is, whatever follows. In
particular a text can be written as a literal: with a backslash before every backslash and every
quote it is a sequence of units.

Main results:

* `Quoted.exists_units` — what the content of a literal is, and how it ends;
* `Quoted.EndsBehind.longestPrefix` — it is the longest sequence of units;
* `tokensBehind_units` — units between quotes are a literal, whatever follows;
* `scan_literal` — the literals of a scan, and the scan of a literal.
-/

namespace CTokens

namespace Quoted

variable {quote : Char}

/-- A sequence of units: a backslash and the character behind it, whichever that is, or one
character that is neither a backslash nor the quote. -/
inductive IsUnits (quote : Char) : List Char → Prop
  | nil : IsUnits quote []
  | escaped (c : Char) {cs : List Char} (hRest : IsUnits quote cs) : IsUnits quote ('\\' :: c :: cs)
  | plain {c : Char} {cs : List Char} (hQuote : c ≠ quote) (hBackslash : c ≠ '\\')
      (hRest : IsUnits quote cs) : IsUnits quote (c :: cs)

/-- What a body is behind whose units `after` is ahead: the quote closes it, or the text has ended,
perhaps in a backslash that escapes nothing. -/
inductive EndsBehind (quote : Char) (units : List Char) : (after : List Char) → Body → Prop
  | closed (rest : List Char) : EndsBehind quote units (quote :: rest) ⟨units, true⟩
  | unclosed : EndsBehind quote units [] ⟨units, false⟩
  | stray : EndsBehind quote units ['\\'] ⟨units ++ ['\\'], false⟩

-- ---------------------------------------------------------------------------
-- What a body consists of
-- ---------------------------------------------------------------------------

/-- Units that come before do not change how a body ends. -/
theorem EndsBehind.prepend {units after : List Char} {b : Body} (h : EndsBehind quote units after b)
    (cs : List Char) : EndsBehind quote (cs ++ units) after (b.prepend cs) := by
  cases h with
  | closed rest => exact .closed rest
  | unclosed => exact .unclosed
  | stray =>
    rw [Body.prepend, ← List.append_assoc]
    exact .stray

/-- A body consists of units, up to where it ends. -/
theorem exists_units (quote : Char) (cs : List Char) :
    ∃ units after, cs = units ++ after ∧ IsUnits quote units ∧
      EndsBehind quote units after (body quote cs) := by
  -- the first three branches of `body` end it in the three ways of `EndsBehind`; in the other two a
  -- unit comes before a shorter body
  fun_induction body quote cs with
  | case1 => exact ⟨[], [], rfl, .nil, .unclosed⟩
  | case2 rest => exact ⟨[], quote :: rest, rfl, .nil, .closed rest⟩
  | case3 => exact ⟨[], ['\\'], rfl, .nil, .stray⟩
  | case4 c rest hQuote ih =>
    obtain ⟨units, after, rfl, hUnits, hEnds⟩ := ih
    exact ⟨'\\' :: c :: units, after, rfl, .escaped c hUnits, hEnds.prepend ['\\', c]⟩
  | case5 c rest hQuote hBackslash ih =>
    obtain ⟨units, after, rfl, hUnits, hEnds⟩ := ih
    exact ⟨c :: units, after, rfl, .plain hQuote hBackslash hUnits, hEnds.prepend [c]⟩

/-- Where a body ends, no unit begins. -/
theorem EndsBehind.eq_nil_of_isUnits (hQuote : quote ≠ '\\') {units after other : List Char}
    {b : Body} (h : EndsBehind quote units after b) (hOther : IsUnits quote other)
    (hPrefix : other <+: after) : other = [] := by
  -- a unit begins with a backslash that has a character behind it, or with a character that is
  -- neither backslash nor quote: `after` begins with neither
  cases hOther with
  | nil => rfl
  | escaped c hRest =>
    cases h with
    | closed rest => exact absurd (List.cons_prefix_cons.1 hPrefix).1.symm hQuote
    | unclosed => cases List.prefix_nil.1 hPrefix
    | stray => cases List.prefix_nil.1 (List.cons_prefix_cons.1 hPrefix).2
  | plain hOutside hBackslash hRest =>
    cases h with
    | closed rest => exact absurd (List.cons_prefix_cons.1 hPrefix).1 hOutside
    | unclosed => cases List.prefix_nil.1 hPrefix
    | stray => exact absurd (List.cons_prefix_cons.1 hPrefix).1 hBackslash

/-- Two sequences of units that a text begins with are cut alike, so that none is longer than one
behind which no unit begins. -/
theorem IsUnits.length_le {units after other : List Char} (hUnits : IsUnits quote units)
    (hOther : IsUnits quote other) (hPrefix : other <+: units ++ after)
    (hNone : ∀ more, IsUnits quote more → more <+: after → more = []) :
    other.length ≤ units.length := by
  -- on the units that are ahead: the other sequence is cut at the same place, as its first
  -- character tells which kind of unit it begins with
  induction hUnits generalizing other with
  | nil =>
    exact Nat.le_of_eq (congrArg List.length (hNone other hOther hPrefix))
  | escaped c hRest ih =>
    cases hOther with
    | nil => exact Nat.zero_le _
    | escaped d hMore =>
      have hBehind := (List.cons_prefix_cons.1 (List.cons_prefix_cons.1 hPrefix).2).2
      exact Nat.add_le_add_right (ih hMore hBehind) 2
    | plain hQuote hBackslash hMore =>
      exact absurd (List.cons_prefix_cons.1 hPrefix).1 hBackslash
  | plain hQuote hBackslash hRest ih =>
    cases hOther with
    | nil => exact Nat.zero_le _
    | escaped d hMore => exact absurd (List.cons_prefix_cons.1 hPrefix).1.symm hBackslash
    | plain hQuote' hBackslash' hMore =>
      exact Nat.succ_le_succ (ih hMore (List.cons_prefix_cons.1 hPrefix).2)

/-- The units of a body are the longest sequence of units that stands there. -/
theorem EndsBehind.longestPrefix (hQuote : quote ≠ '\\') {units after : List Char} {b : Body}
    (h : EndsBehind quote units after b) (hUnits : IsUnits quote units) :
    LongestPrefix (IsUnits quote) (units ++ after) units := by
  refine ⟨List.prefix_append units after, hUnits, ?_⟩
  intro other hPrefix hOther
  refine hUnits.length_le hOther hPrefix ?_
  intro more hMore hAhead
  exact h.eq_nil_of_isUnits hQuote hMore hAhead

-- ---------------------------------------------------------------------------
-- What units between quotes are read as
-- ---------------------------------------------------------------------------

/-- The quote closes a body. -/
theorem body_quote (quote : Char) (rest : List Char) : body quote (quote :: rest) = ⟨[], true⟩ := by
  cases rest with
  | nil => exact if_pos rfl
  | cons c rest => exact if_pos rfl

/-- A character that is neither the quote nor a backslash belongs to the body. -/
theorem body_plain {c : Char} (hQuote : c ≠ quote) (hBackslash : c ≠ '\\') (rest : List Char) :
    body quote (c :: rest) = (body quote rest).prepend [c] := by
  cases rest with
  | nil => simp [body, hQuote, hBackslash]
  | cons d rest => rw [body, if_neg hQuote, if_neg hBackslash]

/-- Units belong to the body altogether, whatever follows them. -/
theorem body_units_append (hQuote : quote ≠ '\\') {units : List Char} (h : IsUnits quote units)
    (rest : List Char) : body quote (units ++ rest) = (body quote rest).prepend units := by
  induction h with
  | nil => rfl
  | escaped c hRest ih =>
    rw [List.cons_append, List.cons_append, body, if_neg hQuote.symm, if_pos rfl, ih]
    rfl
  | plain hOutside hBackslash hRest ih =>
    rw [List.cons_append, body_plain hOutside hBackslash, ih]
    rfl

/-- A text as the content of a literal, with a backslash before every backslash and every quote. -/
def escape (quote : Char) (cs : List Char) : List Char :=
  cs.flatMap fun c => if c = '\\' ∨ c = quote then ['\\', c] else [c]

/-- With its backslashes and quotes escaped, a text is a sequence of units. -/
theorem isUnits_escape (quote : Char) (cs : List Char) : IsUnits quote (escape quote cs) := by
  induction cs with
  | nil => exact .nil
  | cons c cs ih =>
    rw [escape, List.flatMap_cons]
    by_cases hEscaped : c = '\\' ∨ c = quote
    · rw [if_pos hEscaped]
      exact .escaped c ih
    · rw [if_neg hEscaped]
      rw [not_or] at hEscaped
      exact .plain hEscaped.2 hEscaped.1 ih

end Quoted

-- ---------------------------------------------------------------------------
-- The literals of a scan
-- ---------------------------------------------------------------------------

theorem QuoteMark.char_ne_backslash (mark : QuoteMark) : mark.char ≠ '\\' := by
  cases mark <;> decide

/-- Only literals stand between quotes. -/
theorem Lexeme.exists_eq_quoted {l : Lexeme} {q : Char} (h : l.kind.quote? = some q) :
    ∃ mark body, l = .quoted mark body ∧ mark.char = q := by
  cases l with
  | quoted mark body =>
    rw [kind, QuoteMark.quote?_kind] at h
    exact ⟨mark, body, rfl, Option.some.inj h⟩
  | word cs =>
    rw [quote?_kind_word] at h
    cases h
  | lineComment | blockComment | number | delimiter | operator | unknown => cases h

/-- Units between quotes are a literal, whatever follows. -/
theorem tokensBehind_units {mark : QuoteMark} {units : List Char}
    (h : Quoted.IsUnits mark.char units) (keep : Bool) (before rest : List Char) :
    tokensBehind keep before (mark.char :: units ++ mark.char :: rest) =
      ⟨mark.kind, String.ofList units, Location.behind before,
          ⟨before.length, before.length + (units.length + 2)⟩⟩ ::
        tokensBehind keep (before ++ (mark.char :: units ++ [mark.char])) rest := by
  have hBody : Quoted.body mark.char (units ++ mark.char :: rest) = ⟨units, true⟩ := by
    rw [Quoted.body_units_append mark.char_ne_backslash h, Quoted.body_quote]
    exact congrArg (fun cs => Quoted.Body.mk cs true) (List.append_nil units)
  have hBegins : Lexeme.Begins mark.char (units ++ mark.char :: rest)
      (.quoted mark (Quoted.body mark.char (units ++ mark.char :: rest))) := .quoted rfl
  -- a literal is read by its quote, so the quote must not be skipped as white space
  have hOther : ¬ Unicode.isWhiteSpace mark.char = true := by
    cases mark <;> decide +kernel
  have hText : (Lexeme.quoted mark ⟨units, true⟩).chars = mark.char :: units ++ [mark.char] := rfl
  have hRead : Piece.read ((Lexeme.quoted mark ⟨units, true⟩).chars ++ rest) =
      some (.lexeme (.quoted mark ⟨units, true⟩)) := by
    rw [hText, List.append_assoc, List.singleton_append, List.cons_append, Piece.read,
      if_neg hOther, hBegins.read_eq, hBody]
  have hToken : Piece.token? keep before (.lexeme (.quoted mark ⟨units, true⟩)) =
      some ⟨mark.kind, String.ofList units, Location.behind before,
        ⟨before.length, before.length + (units.length + 2)⟩⟩ := by
    rw [Piece.token?, Lexeme.isComment_quoted, Bool.false_and, if_neg Bool.false_ne_true,
      Lexeme.tokenBehind, hText, List.length_append]
    rfl
  have hTokens := @tokensBehind_append keep before (.lexeme (.quoted mark ⟨units, true⟩)) rest hRead
  rw [hToken, Piece.chars, hText, List.append_assoc] at hTokens
  exact hTokens

/-- **Literals end at the first quote that is not escaped, and what is escaped comes back.** Behind
its quote, a literal of a scan consists of the longest sequence of units that stands there. It ends
behind the quote that comes next, or with the source; a backslash that the source ends in belongs to
its text as well. And every sequence of units between quotes is scanned to a literal with that text,
whatever follows, so that a text with a backslash before its backslashes and quotes is scanned to
one literal. -/
theorem scan_literal :
    (∀ (s : String) (keep : Bool), ∀ t ∈ scan s keep, ∀ q, t.kind.quote? = some q →
      ∃ units after, s.toList.drop t.span.start = q :: (units ++ after) ∧
        LongestPrefix (Quoted.IsUnits q) (units ++ after) units ∧
        ((after.head? = some q ∧ t.text.toList = units ∧
            t.span.stop = t.span.start + 1 + units.length + 1) ∨
          (after = [] ∧ t.text.toList = units ∧ t.span.stop = s.length) ∨
          (after = ['\\'] ∧ t.text.toList = units ++ ['\\'] ∧ t.span.stop = s.length))) ∧
    (∀ (mark : QuoteMark) (units rest : List Char) (keep : Bool),
      Quoted.IsUnits mark.char units →
        (scan (String.ofList (mark.char :: units ++ mark.char :: rest)) keep).head? =
          some ⟨mark.kind, String.ofList units, ⟨1, 1⟩, ⟨0, units.length + 2⟩⟩) ∧
    ∀ (mark : QuoteMark) (cs : List Char) (keep : Bool),
      (scan (String.ofList (mark.char :: Quoted.escape mark.char cs ++ [mark.char])) keep).map
        (fun t => (t.kind, t.text)) =
          [(mark.kind, String.ofList (Quoted.escape mark.char cs)), (.endOfInput, "")] := by
  refine ⟨?tokens, ?units, ?escaped⟩
  case tokens =>
    intro s keep t ht q hQuote
    have hKind : t.kind ≠ .endOfInput := by
      intro hEnd
      rw [hEnd] at hQuote
      cases hQuote
    obtain ⟨before, c, rest, l, hText, rfl, hBegins⟩ := exists_begins_of_mem_scan ht hKind
    obtain ⟨mark, body, rfl, rfl⟩ := Lexeme.exists_eq_quoted hQuote
    cases hBegins with
    | quoted hFirst =>
      subst hFirst
      -- what stands behind the quote is the units of the body and where it ends; the three endings
      -- are the three cases of the law
      obtain ⟨units, after, rfl, hUnits, hEnds⟩ := Quoted.exists_units mark.char rest
      have hLongest := hEnds.longestPrefix mark.char_ne_backslash hUnits
      refine ⟨units, after, ?_, hLongest, ?_⟩
      · rw [hText]
        exact List.drop_left
      · have hLength := congrArg List.length hText
        rw [String.length_toList, List.length_append, List.length_cons] at hLength
        simp only [Lexeme.tokenBehind, Lexeme.shown, Lexeme.chars, String.toList_ofList]
        -- the body is now known by how it ends alone
        generalize Quoted.body mark.char (units ++ after) = body at hEnds
        cases hEnds with
        | closed rest =>
          refine .inl ⟨rfl, rfl, ?_⟩
          show before.length + ((units ++ [mark.char]).length + 1) = _
          rw [List.length_append, List.length_singleton]
          omega
        | unclosed => exact .inr (.inl ⟨rfl, rfl, hLength.symm⟩)
        | stray =>
          refine .inr (.inr ⟨rfl, rfl, ?_⟩)
          show before.length + ((units ++ ['\\'] ++ []).length + 1) = _
          rw [List.append_nil]
          exact hLength.symm
  case units =>
    intro mark units rest keep hUnits
    rw [scan_eq_tokensBehind, String.toList_ofList, tokensBehind_units hUnits, List.head?_cons,
      List.length_nil, Nat.zero_add]
    rfl
  case escaped =>
    intro mark cs keep
    -- the escaped text is a sequence of units, and nothing follows its quote
    have hUnits := Quoted.isUnits_escape mark.char cs
    rw [scan_eq_tokensBehind, String.toList_ofList, tokensBehind_units hUnits, tokensBehind_nil]
    rfl

end CTokens
