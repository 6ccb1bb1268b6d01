import CTokens.Proofs.Traces

/-!
# CTokens — tokens one at a time

A stream that is asked again and again gives the tokens of the whole scan in their order and then
nothing, for ever. Every answer takes finitely many passes: a pass that gives no token moves the
cursor on, whether it steps over white space or over a comment that is not wanted, and the cursor
never moves beyond the end. Between two answers the stream holds nothing but its place in the
source: it stands where the token that it gave last ends.

Main results:

* `TokenStream.exists_skip_of_skipped`, `TokenStream.exists_skip_of_emitted` — what a pass does to
  the cursor;
* `TokenStream.exists_answers_next` — how many passes an answer takes at most;
* `TokenStream.nextTimes_eq` — what asking again and again gives;
* `scan_stream` — the stream of a source against its scan.
-/

namespace CTokens

open Unicode

-- ---------------------------------------------------------------------------
-- What a pass does to the cursor
-- ---------------------------------------------------------------------------

namespace Cursor

/-- Stepping over characters moves the cursor by as many as there are. -/
theorem position_skip (c : Cursor) (n : Nat) :
    (c.skip n).position = c.position + min n c.rest.length := by
  induction n generalizing c with
  | zero => rw [skip, Nat.zero_min, Nat.add_zero]
  | succ n ih =>
    have hStep : c.advance.position = c.position + min 1 c.rest.length := by
      unfold advance peek?
      cases c.rest with
      | nil => rfl
      | cons ch rest => simp [past]
    rw [skip, ih, hStep, rest_advance, List.length_tail]
    omega

/-- The cursor stands where the characters ahead begin. -/
theorem length_rest (c : Cursor) : c.rest.length = c.input.length - c.position := by
  rw [c.rest_eq, List.length_drop]

end Cursor

namespace TokenStream

variable {s s' : TokenStream} {t : Token} {r : Option Recovery}

/-- A pass that gives no token steps over some of the characters ahead. -/
theorem exists_skip_of_skipped (h : s.pass = .skipped r s') :
    ∃ n, 0 < n ∧ n ≤ s.cursor.rest.length ∧ s'.cursor = s.cursor.skip n := by
  unfold pass at h
  split at h
  · split at h <;> cases h
  · next p hRead =>
    have hSome := List.length_pos_iff.2 (Piece.chars_ne_nil hRead)
    have hAhead := (Piece.read_isPrefix hRead).length_le
    refine ⟨p.chars.length, hSome, hAhead, ?_⟩
    dsimp only at h
    split at h
    · cases h; rfl
    · split at h
      · cases h; rfl
      · cases h

/-- A pass that gives a token steps over the characters of the token and stands where its span
ends. The mark of the end has none. -/
theorem exists_skip_of_emitted (h : s.pass = .emitted t r s') :
    ∃ n, n ≤ s.cursor.rest.length ∧ s'.cursor = s.cursor.skip n ∧
      s'.cursor.position = t.span.stop := by
  unfold pass at h
  split at h
  · split at h
    · cases h
    · cases h
      exact ⟨0, Nat.zero_le _, rfl, rfl⟩
  · next p hRead =>
    have hAhead := (Piece.read_isPrefix hRead).length_le
    dsimp only at h
    split at h
    · cases h
    · split at h
      · cases h
      · next l _ =>
        cases h
        exact ⟨l.chars.length, hAhead, rfl, rfl⟩

/-- A pass that gives no token moves the cursor on, and not beyond the end. -/
theorem position_lt_of_skipped (h : s.pass = .skipped r s') :
    s.cursor.position < s'.cursor.position ∧
      s'.cursor.position ≤ s'.cursor.input.length := by
  obtain ⟨n, hSome, hAhead, hCursor⟩ := exists_skip_of_skipped h
  have hRest := s.cursor.length_rest
  rw [hCursor, Cursor.position_skip, Cursor.input_skip]
  omega

-- ---------------------------------------------------------------------------
-- How an answer comes about
-- ---------------------------------------------------------------------------

/-- An answer after a number of passes. The last of them gives a token or finds that the stream has
ended, and the others go on behind what they have skipped. -/
inductive Answers : TokenStream → Nat → Yield → Prop
  | ended {s : TokenStream} (hPass : s.pass = .ended) : Answers s 1 ⟨none, [], s⟩
  | emitted {s s' : TokenStream} {t : Token} {r : Option Recovery}
      (hPass : s.pass = .emitted t r s') : Answers s 1 ⟨some t, r.toList, s'⟩
  | skipped {s s' : TokenStream} {r : Option Recovery} {passes : Nat} {y : Yield}
      (hPass : s.pass = .skipped r s') (hLater : Answers s' passes y) :
      Answers s (passes + 1) { y with recoveries := r.toList ++ y.recoveries }

/-- An answer takes no more passes than there are characters ahead, and one. -/
theorem exists_answers_next (s : TokenStream) :
    ∃ passes, passes ≤ s.cursor.rest.length + 1 ∧ Answers s passes s.next := by
  -- on the passes that `next` takes: the first two cases answer at once, and the last one has
  -- skipped a piece, so that fewer characters are ahead
  induction s using next.induct with
  | case1 s hPass =>
    rw [next_of_ended hPass]
    exact ⟨1, Nat.le_add_left 1 _, .ended hPass⟩
  | case2 s t r s' hPass =>
    rw [next_of_emitted hPass]
    exact ⟨1, Nat.le_add_left 1 _, .emitted hPass⟩
  | case3 s r s' hPass ih =>
    obtain ⟨passes, hFew, hAnswers⟩ := ih
    have hLess := rest_lt_of_skipped hPass
    rw [next_of_skipped hPass]
    exact ⟨passes + 1, by omega, .skipped hPass hAnswers⟩

/-- The passes come to one answer. -/
theorem Answers.eq_next {passes : Nat} {y : Yield} (h : Answers s passes y) : y = s.next := by
  induction h with
  | ended hPass => exact (next_of_ended hPass).symm
  | emitted hPass => exact (next_of_emitted hPass).symm
  | skipped hPass _ ih => rw [next_of_skipped hPass, ih]

-- ---------------------------------------------------------------------------
-- Asking again and again
-- ---------------------------------------------------------------------------

/-- The stream behind `n` answers. -/
def behindTimes (s : TokenStream) : Nat → TokenStream
  | 0 => s
  | n + 1 => s.next.stream.behindTimes n

theorem behindTimes_succ (s : TokenStream) (n : Nat) :
    s.behindTimes (n + 1) = (s.behindTimes n).next.stream := by
  induction n generalizing s with
  | zero => rfl
  | succ n ih => exact ih s.next.stream

/-- Asking again and again gives the tokens of the stream in their order, and then nothing. -/
theorem nextTimes_eq (s : TokenStream) (n : Nat) :
    s.nextTimes n = (List.range n).map fun i => s.drain.tokens[i]? := by
  induction n generalizing s with
  | zero => rfl
  | succ n ih =>
    obtain ⟨hTokens, -, hEnded⟩ := s.drain_next
    rw [nextTimes, ih, List.range_succ_eq_map, List.map_cons, List.map_map]
    cases hToken : s.next.token with
    | some t =>
      rw [hTokens, hToken]
      rfl
    | none =>
      -- a stream that has ended once has ended for good
      have hNone : s.next.stream.drain.tokens = [] := by
        rw [tokens_drain, hEnded hToken]
      rw [hTokens, hToken, hNone]
      rfl

/-- A stream stands in a text, between what its passes have stepped over and what is ahead. -/
def StandsIn (s : TokenStream) (cs : List Char) : Prop :=
  ∃ before after, s.cursor = Cursor.between before after ∧ before ++ after = cs

/-- Stepping on does not lead out of the text. -/
theorem StandsIn.of_skip {cs : List Char} (h : s.StandsIn cs) {n : Nat}
    (hCursor : s'.cursor = s.cursor.skip n) : s'.StandsIn cs := by
  have hStands : (s.cursor.skip n).StandsIn cs := Cursor.StandsIn.skip h n
  rw [← hCursor] at hStands
  exact hStands

/-- Asking a stream leaves it in its text, where the token that it gave ends. -/
theorem StandsIn.next {cs : List Char} (h : s.StandsIn cs) :
    s.next.stream.StandsIn cs ∧
      ∀ t, s.next.token = some t → s.next.stream.cursor.position = t.span.stop := by
  induction s using TokenStream.next.induct with
  | case1 s hPass =>
    rw [next_of_ended hPass]
    refine ⟨h, ?_⟩
    intro t hToken
    cases hToken
  | case2 s t r s' hPass =>
    obtain ⟨n, -, hCursor, hStop⟩ := exists_skip_of_emitted hPass
    rw [next_of_emitted hPass]
    exact ⟨h.of_skip hCursor, fun _ hToken => Option.some.inj hToken ▸ hStop⟩
  | case3 s r s' hPass ih =>
    obtain ⟨n, -, -, hCursor⟩ := exists_skip_of_skipped hPass
    rw [next_of_skipped hPass]
    exact ih (h.of_skip hCursor)

/-- However often it is asked, a stream stays in its text. -/
theorem StandsIn.behindTimes {cs : List Char} (h : s.StandsIn cs) (n : Nat) :
    (s.behindTimes n).StandsIn cs := by
  induction n generalizing s with
  | zero => exact h
  | succ n ih => exact ih h.next.1

/-- Where a stream stands in a text is told by its offset. -/
theorem StandsIn.cursor_eq {cs : List Char} (h : s.StandsIn cs) :
    s.cursor = Cursor.between (cs.take s.cursor.position) (cs.drop s.cursor.position) := by
  obtain ⟨before, after, hHere, rfl⟩ := h
  rw [hHere, Cursor.position_between, List.take_left, List.drop_left]

theorem standsIn_ofSource (source : String) (keep : Bool) :
    (ofSource source keep).StandsIn source.toList := ⟨[], source.toList, rfl, rfl⟩

end TokenStream

-- ---------------------------------------------------------------------------
-- The stream of a source
-- ---------------------------------------------------------------------------

/-- **A stream gives the scan of its source, token by token.** A scan has at most one token more
than the source has characters that are no white space. Asked any number of times, the stream gives
the tokens of the scan in their order and then nothing for ever. Behind a token its cursor, with
line, column and the text ahead, stands where the span of the token ends. And every answer of any
stream comes about, and no other: a pass without a token moves the cursor on within the source, so
no more passes are needed than there are characters ahead, and one. -/
theorem scan_stream (s : String) (keep : Bool) :
    (scan s keep).length ≤ 1 + s.toList.countP (fun c => !isWhiteSpace c) ∧
      (∀ n, (TokenStream.ofSource s keep).nextTimes n =
        (List.range n).map fun i => (scan s keep)[i]?) ∧
      (∀ n t, ((TokenStream.ofSource s keep).behindTimes n).next.token = some t →
        ((TokenStream.ofSource s keep).behindTimes (n + 1)).cursor.position = t.span.stop ∧
          ((TokenStream.ofSource s keep).behindTimes (n + 1)).cursor =
            Cursor.between (s.toList.take t.span.stop) (s.toList.drop t.span.stop)) ∧
      ∀ stream : TokenStream,
        (∀ r stream', stream.pass = .skipped r stream' →
          stream.cursor.position < stream'.cursor.position ∧
            stream'.cursor.position ≤ stream'.cursor.input.length) ∧
        (∃ passes, passes ≤ stream.cursor.rest.length + 1 ∧ stream.Answers passes stream.next) ∧
        ∀ passes y, stream.Answers passes y → y = stream.next := by
  refine ⟨?few, TokenStream.nextTimes_eq _, ?stands, fun stream => ⟨?moves, ?comes, ?alone⟩⟩
  case few =>
    rw [scan_eq_tokensBehind]
    exact length_tokensBehind_le keep [] s.toList
  case stands =>
    intro n t hToken
    have hHere := (TokenStream.standsIn_ofSource s keep).behindTimes n
    obtain ⟨hNext, hStop⟩ := hHere.next
    rw [TokenStream.behindTimes_succ]
    have hPosition := hStop t hToken
    refine ⟨hPosition, ?_⟩
    rw [← hPosition]
    exact hNext.cursor_eq
  case moves => exact fun _ _ => TokenStream.position_lt_of_skipped
  case comes => exact stream.exists_answers_next
  case alone => exact fun _ _ => TokenStream.Answers.eq_next

end CTokens
