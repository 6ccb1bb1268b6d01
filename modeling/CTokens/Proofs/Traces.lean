import CTokens.Proofs.Recoveries
import CTokens.Proofs.Rendering
import CTokens.Trace

/-!
# CTokens — the trace told from the tokens

The trace holds nothing that the tokens do not tell. A token of a scan that keeps comments shows
whether its lexeme had to be recovered from: an unknown character by its kind, a literal or comment
that is not closed by its text and its span, and an exponent that was given back by what follows the
number in the source. Conversely no recovery is made without such a token, also where comments are
dropped and where tokens are asked for one at a time.

A number that has an exponent gives none back, whatever follows it: `1e5e` is a number and a word.

Main results:

* `Lexeme.recovery?_tokenBehind` — a token tells of the recovery of its lexeme;
* `TokenStream.recoveriesOfTimes_eq` — tokens that are asked for one at a time make the recoveries
  of the whole stream;
* `traces_eq_recoveries_of_tokens` — the traces of a source are the recoveries that its tokens tell
  of.
-/

namespace CTokens

-- ---------------------------------------------------------------------------
-- What a token tells of
-- ---------------------------------------------------------------------------

namespace Token

/-- The recovery from an exponent, where `rest` follows a number in the source. It is made when a
mark follows a number that has none, and reached the place behind the mark and its sign. -/
def exponentGivenBack? (t : Token) : List Char → Option Recovery
  | [] => none
  | mark :: rest =>
    if Numeral.isExponentMark mark && !t.text.toList.any Numeral.isExponentMark then
      let sign := if rest.head?.any Numeral.isSign then 1 else 0
      some (.exponentGivenBack
        ⟨t.location.line, t.location.column + t.text.length + 1 + sign⟩)
    else none

/-- The recovery that a token of a source tells of, if it tells of one. -/
def recovery? (source : List Char) (t : Token) : Option Recovery :=
  match t.kind with
  | .unknown => some (.unknownCharacter (t.text.toList.headD ' ') t.location)
  | .stringLiteral | .charLiteral =>
    if t.isUnclosed then some (.literalClosed t.kind t.location) else none
  | .comment => if t.isUnclosed then some (.commentClosed t.location) else none
  | .number => t.exponentGivenBack? (source.drop t.span.stop)
  | .keyword | .identifier | .operator | .delimiter | .endOfInput => none

end Token

/-- Neither a number nor what it gives back goes over a line break. -/
theorem Numeral.notMem_lineBreak_read (cs : List Char) :
    '\n' ∉ (read cs).chars ++ (read cs).dangling := by
  intro hBreak
  rcases forms_of_mem_read hBreak with hDigit | hPoint | hMark | hSign
  · exact absurd hDigit (by decide)
  · exact absurd hPoint (by decide)
  · exact absurd hMark (by decide)
  · exact absurd hSign (by decide)

/-- The token of a number tells of the exponent that was given back behind it. -/
theorem Lexeme.exponentGivenBack?_tokenBehind (before : List Char) {reading : Numeral.Reading}
    {rest : List Char}
    (h : Piece.read (reading.chars ++ rest) = some (.lexeme (.number reading))) :
    ((number reading).tokenBehind before).exponentGivenBack? rest =
      (number reading).recoveryBehind? before := by
  have hRead : Numeral.read (reading.chars ++ rest) = reading := by
    obtain ⟨c, cs, hText, -, hBegins⟩ := Piece.begins_of_read h
    rw [hText]
    cases hBegins
    rfl
  have hDangling := Numeral.dangling_read (reading.chars ++ rest)
  have hBreak := Numeral.notMem_lineBreak_read (reading.chars ++ rest)
  rw [hRead] at hBreak hDangling
  rw [List.drop_left] at hDangling
  rw [recoveryBehind?, List.append_assoc, Location.behind_append_of_notMem before hBreak,
    List.length_append, hDangling]
  have hText : ((number reading).tokenBehind before).text.toList = reading.chars :=
    String.toList_ofList
  have hLength : ((number reading).tokenBehind before).text.length = reading.chars.length :=
    String.length_ofList
  cases rest with
  | nil => simp [Token.exponentGivenBack?, Numeral.exponentLead]
  | cons mark rest =>
    rw [Token.exponentGivenBack?, hText, hLength]
    by_cases hHas : reading.chars.any Numeral.isExponentMark = true
    · -- the number has an exponent of its own
      simp [hHas]
    · rw [Bool.not_eq_true] at hHas
      cases hMark : Numeral.isExponentMark mark with
      | false => simp [hHas, Numeral.exponentLead_of_not_mark hMark]
      | true =>
        have hLead := Numeral.length_exponentLead hMark rest
        have hSome : (Numeral.exponentLead (mark :: rest)).isEmpty = false := by
          rw [List.isEmpty_eq_false_iff, ← List.length_pos_iff]
          omega
        simp only [hHas, hSome, hLead, Bool.not_false, Bool.and_true, Bool.false_eq_true, if_true,
          if_false, tokenBehind, Option.some.injEq, Recovery.exponentGivenBack.injEq,
          Location.mk.injEq, true_and]
        omega

/-- A token tells of the recovery of its lexeme. -/
theorem Lexeme.recovery?_tokenBehind (before : List Char) {l : Lexeme} {rest : List Char}
    (h : Piece.read (l.chars ++ rest) = some (.lexeme l)) :
    (l.tokenBehind before).recovery? (before ++ (l.chars ++ rest)) = l.recoveryBehind? before := by
  have hUnclosed := l.isUnclosed_tokenBehind before h
  cases l with
  | number reading =>
    have hBehind : (before ++ ((number reading).chars ++ rest)).drop
        ((number reading).tokenBehind before).span.stop = rest := by
      show _ = rest
      rw [← List.append_assoc, show ((number reading).tokenBehind before).span.stop =
        (before ++ (number reading).chars).length from List.length_append.symm, List.drop_left]
    show ((number reading).tokenBehind before).exponentGivenBack? _ = _
    rw [hBehind]
    exact exponentGivenBack?_tokenBehind before h
  | blockComment body =>
    show (if ((blockComment body).tokenBehind before).isUnclosed then _ else _) = _
    rw [hUnclosed, isOpen, recoveryBehind?]
    cases body.closed <;> rfl
  | quoted mark body =>
    have hKind : ((quoted mark body).tokenBehind before).recovery? (before ++
        ((quoted mark body).chars ++ rest)) =
          if ((quoted mark body).tokenBehind before).isUnclosed then
            some (.literalClosed mark.kind (Location.behind before)) else none := by
      cases mark <;> rfl
    rw [hKind, hUnclosed, isOpen, recoveryBehind?]
    cases body.closed <;> rfl
  | lineComment body =>
    show (if ((lineComment body).tokenBehind before).isUnclosed then _ else _) = _
    rw [hUnclosed]
    rfl
  | word cs =>
    unfold Token.recovery? tokenBehind
    rcases kind_word cs with hKind | hKind <;> rw [hKind] <;> rfl
  | unknown c =>
    show some (Recovery.unknownCharacter ((String.ofList [c]).toList.headD ' ') _) = _
    rw [String.toList_ofList]
    rfl
  | delimiter | operator => rfl

-- ---------------------------------------------------------------------------
-- What the tokens of a text tell of
-- ---------------------------------------------------------------------------

/-- The recoveries of pieces are those that their tokens tell of. -/
theorem trail_eq_filterMap (before cs : List Char) :
    trail before (pieces cs) =
      (layout true before (pieces cs)).filterMap (Token.recovery? (before ++ cs)) := by
  induction cs using Piece.induction generalizing before with
  | nil => rw [pieces_nil, trail, layout, List.filterMap_nil]
  | piece p rest hRead ih =>
    have hFirst : (p.token? true before).toList.filterMap
        (Token.recovery? (before ++ (p.chars ++ rest))) = (p.recoveryBehind? before).toList := by
      cases p with
      | blank ws => rfl
      | lexeme l =>
        rw [Piece.token?_lexeme (fun _ => rfl), Option.toList_some, List.filterMap_cons]
        have hToken := l.recovery?_tokenBehind before hRead
        rw [show (Piece.lexeme l).chars = l.chars from rfl, hToken]
        show _ = (l.recoveryBehind? before).toList
        cases l.recoveryBehind? before <;> rfl
    rw [pieces_append hRead, trail, layout, List.filterMap_append, hFirst, ih, List.append_assoc]

/-- The recoveries of a source are those that its tokens tell of, comments among them. -/
theorem recoveries_eq_filterMap (s : String) (keep : Bool) :
    recoveries s keep = (scan s true).filterMap (Token.recovery? s.toList) := by
  rw [recoveries_eq_trail, trail_eq_filterMap, scan_eq_tokensBehind, tokensBehind,
    List.filterMap_append]
  exact (List.append_nil _).symm

-- ---------------------------------------------------------------------------
-- One token at a time
-- ---------------------------------------------------------------------------

namespace TokenStream

/-- The recoveries that are made while a stream is asked for a token `n` times. -/
def recoveriesOfTimes (s : TokenStream) : Nat → List Recovery
  | 0 => []
  | n + 1 => s.next.recoveries ++ s.next.stream.recoveriesOfTimes n

theorem next_of_ended {s : TokenStream} (h : s.pass = .ended) : s.next = ⟨none, [], s⟩ := by
  rw [next]
  split
  · rfl
  · next hPass => rw [h] at hPass; cases hPass
  · next hPass => rw [h] at hPass; cases hPass

theorem next_of_emitted {s s' : TokenStream} {t : Token} {r : Option Recovery}
    (h : s.pass = .emitted t r s') : s.next = ⟨some t, r.toList, s'⟩ := by
  rw [next]
  split
  · next hPass => rw [h] at hPass; cases hPass
  · next hPass => rw [h] at hPass; cases hPass; rfl
  · next hPass => rw [h] at hPass; cases hPass

/-- A pass without a token leaves the answer to the stream behind it. -/
theorem next_of_skipped {s s' : TokenStream} {r : Option Recovery} (h : s.pass = .skipped r s') :
    s.next = { s'.next with recoveries := r.toList ++ s'.next.recoveries } := by
  rw [next]
  split
  · next hPass => rw [h] at hPass; cases hPass
  · next hPass => rw [h] at hPass; cases hPass
  · next hPass => rw [h] at hPass; cases hPass; rfl

/-- What a stream gives is its next token and the recoveries on the way to it, and then what the
stream behind that token gives. Behind the last token nothing is left. -/
theorem drain_next (s : TokenStream) :
    s.drain.tokens = s.next.token.toList ++ s.next.stream.drain.tokens ∧
      s.drain.recoveries = s.next.recoveries ++ s.next.stream.drain.recoveries ∧
      (s.next.token = none → s.next.stream.pass = .ended) := by
  induction s using TokenStream.next.induct with
  | case1 s hPass =>
    rw [next_of_ended hPass]
    exact ⟨rfl, rfl, fun _ => hPass⟩
  | case2 s t r s' hPass =>
    rw [next_of_emitted hPass, tokens_drain, recoveries_drain, hPass]
    exact ⟨rfl, rfl, nofun⟩
  | case3 s r s' hPass ih =>
    obtain ⟨hTokens, hRecoveries, hEnded⟩ := ih
    rw [next_of_skipped hPass, tokens_drain, recoveries_drain, hPass]
    exact ⟨hTokens, (congrArg _ hRecoveries).trans (List.append_assoc ..).symm, hEnded⟩

/-- A stream that has ended recovers from nothing more. -/
theorem recoveriesOfTimes_of_ended {s : TokenStream} (h : s.pass = .ended) (n : Nat) :
    s.recoveriesOfTimes n = [] := by
  induction n with
  | zero => rfl
  | succ n ih =>
    rw [recoveriesOfTimes, next_of_ended h]
    exact ih

/-- A stream that is asked once more than it has tokens makes all its recoveries. -/
theorem recoveriesOfTimes_eq {s : TokenStream} {n : Nat} (h : s.drain.tokens.length < n) :
    s.recoveriesOfTimes n = s.drain.recoveries := by
  induction n generalizing s with
  | zero => exact absurd h (Nat.not_lt_zero _)
  | succ n ih =>
    obtain ⟨hTokens, hRecoveries, hEnded⟩ := s.drain_next
    rw [recoveriesOfTimes, hRecoveries]
    -- a stream that does not answer is at its end, so the questions left recover from nothing
    cases hToken : s.next.token with
    | none =>
      have hPass := hEnded hToken
      rw [recoveriesOfTimes_of_ended hPass, recoveries_drain, hPass]
    | some t =>
      rw [hTokens, hToken, Option.toList_some, List.singleton_append, List.length_cons] at h
      rw [ih (Nat.lt_of_succ_lt_succ h)]

end TokenStream

-- ---------------------------------------------------------------------------
-- Traces
-- ---------------------------------------------------------------------------

/-- **A trace is what the tokens tell of.** Whether comments are kept or not, and whether the tokens
are asked for all at once or one at a time, the recoveries in the trace are those that the tokens of
the source, comments among them, tell of in their order. A scan of the whole source adds a record of
what is scanned in front and a record of how many tokens came out behind, and no other records of
the finest level. -/
theorem traces_eq_recoveries_of_tokens (s : String) (keep : Bool) :
    streamTrace s keep = ((scan s true).filterMap (Token.recovery? s.toList)).map .recovered ∧
      (∀ later, streamTrace s keep =
        ((TokenStream.ofSource s keep).recoveriesOfTimes
          ((scan s keep).length + 1 + later)).map .recovered) ∧
      scanTrace s keep =
        .began s.length keep :: streamTrace s keep ++ [.completed (scan s keep).length] ∧
      (scanTrace s keep).filter (fun r => r.level == .trace) = streamTrace s keep := by
  refine ⟨?tokens, ?oneAtATime, rfl, ?finest⟩
  case tokens => rw [streamTrace, recoveries_eq_filterMap]
  case oneAtATime =>
    intro later
    have hAll : (scan s keep).length < (scan s keep).length + 1 + later := by omega
    rw [TokenStream.recoveriesOfTimes_eq hAll]
    rfl
  case finest =>
    have hFinest : ∀ r ∈ streamTrace s keep, (r.level == .trace) = true := by
      intro r hr
      obtain ⟨recovery, -, rfl⟩ := List.mem_map.1 hr
      rfl
    rw [scanTrace, List.filter_append, List.filter_append, List.filter_eq_self.2 hFinest]
    exact List.append_nil _

/-- An exponent is given back behind the second number only, which has none. -/
example : (scan "1e5e 2.ex \"a /*" true).filterMap (Token.recovery? "1e5e 2.ex \"a /*".toList) =
    [.exponentGivenBack ⟨1, 9⟩, .literalClosed .stringLiteral ⟨1, 11⟩] := by decide +kernel

end CTokens
