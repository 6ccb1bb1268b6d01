import CTokens.Recovery

/-!
# CTokens — token streams

A stream gives the tokens of a source one at a time. It moves in passes: a pass steps over white
space or a comment that is not wanted, or over a lexeme that becomes a token. When the source is
exhausted the stream gives one token that marks the end of the input, and then nothing for ever.

Main statements:

* `rest_lt_of_skipped` — a pass that gives no token steps over some of the source;
* `remaining_lt_of_emitted` — a pass that gives a token leaves less for the passes after it.

Together they end every loop over the passes, that of one token (`next`) and that of all of them
(`drain`).
-/

namespace CTokens

-- ---------------------------------------------------------------------------
-- Streams and passes
-- ---------------------------------------------------------------------------

/-- The tokens of a source that are still to come. -/
structure TokenStream where
  cursor : Cursor
  /-- Whether comments become tokens. -/
  keepComments : Bool
  /-- Whether the end of the input has been given. -/
  finished : Bool

namespace TokenStream

/-- The tokens of a text, from its beginning. -/
def start (input : List Char) (keepComments : Bool) : TokenStream :=
  { cursor := Cursor.start input, keepComments := keepComments, finished := false }

/-- The tokens of a source, from its beginning. -/
def ofSource (source : String) (keepComments : Bool) : TokenStream :=
  start source.toList keepComments

/-- What a pass comes to. -/
inductive Pass where
  /-- Nothing is left, and the end of the input has been given before. -/
  | ended
  /-- A piece of the source gave no token. -/
  | skipped (recovery : Option Recovery) (stream : TokenStream)
  /-- A token was found. -/
  | emitted (token : Token) (recovery : Option Recovery) (stream : TokenStream)

end TokenStream

/-- The token that marks the end of the input. -/
def Token.endOfInput (c : Cursor) : Token :=
  { kind := .endOfInput, text := "", location := c.location, span := c.spanFrom c.position }

/-- The token for a lexeme that begins at a cursor. -/
def Lexeme.token (l : Lexeme) (c : Cursor) : Token :=
  { kind := l.kind
    text := String.ofList l.shown
    location := c.location
    span := (c.skip l.chars.length).spanFrom c.position }

namespace TokenStream

/-- Deal with the piece of the source that is ahead. -/
def pass (s : TokenStream) : Pass :=
  match Piece.read s.cursor.rest with
  | none =>
    if s.finished then .ended
    else .emitted (Token.endOfInput s.cursor) none { s with finished := true }
  | some piece =>
    let beyond := { s with cursor := s.cursor.skip piece.chars.length }
    match piece with
    | .blank _ => .skipped none beyond
    | .lexeme l =>
      if l.isComment && !s.keepComments then .skipped (l.recovery? s.cursor) beyond
      else .emitted (l.token s.cursor) (l.recovery? s.cursor) beyond

/-- How much there is left to do: the characters ahead, and the end of the input. -/
def remaining (s : TokenStream) : Nat := s.cursor.rest.length + if s.finished then 0 else 1

/-- A pass without a token leaves fewer characters ahead. -/
theorem rest_lt_of_skipped {s s' : TokenStream} {r : Option Recovery}
    (h : s.pass = .skipped r s') : s'.cursor.rest.length < s.cursor.rest.length := by
  unfold pass at h
  split at h
  · split at h <;> cases h
  · next piece hPiece =>
    have hLt := Piece.length_drop_lt hPiece
    dsimp only at h
    split at h
    · cases h; simpa using hLt
    · split at h
      · cases h; simpa using hLt
      · cases h

theorem finished_of_skipped {s s' : TokenStream} {r : Option Recovery}
    (h : s.pass = .skipped r s') : s'.finished = s.finished := by
  unfold pass at h
  split at h
  · split at h <;> cases h
  · dsimp only at h
    split at h
    · cases h; rfl
    · split at h
      · cases h; rfl
      · cases h

/-- A pass without a token leaves less to do. -/
theorem remaining_lt_of_skipped {s s' : TokenStream} {r : Option Recovery}
    (h : s.pass = .skipped r s') : s'.remaining < s.remaining := by
  have hRest := rest_lt_of_skipped h
  unfold remaining
  rw [finished_of_skipped h]
  omega

/-- A pass with a token leaves less to do: the mark of the end is given once. -/
theorem remaining_lt_of_emitted {s s' : TokenStream} {t : Token} {r : Option Recovery}
    (h : s.pass = .emitted t r s') : s'.remaining < s.remaining := by
  unfold pass at h
  split at h
  · next hNone =>
    split at h
    · cases h
    · next hOpen => cases h; simp [remaining, hOpen]
  · next piece hPiece =>
    have hLt := Piece.length_drop_lt hPiece
    dsimp only at h
    split at h
    · cases h
    · split at h
      · cases h
      · cases h; simp only [remaining, Cursor.rest_skip]; omega

-- ---------------------------------------------------------------------------
-- One token
-- ---------------------------------------------------------------------------

/-- What asking a stream for a token comes to: the token, if there is one, the recoveries that
were made on the way, and the stream behind it. -/
structure Yield where
  token : Option Token
  recoveries : List Recovery
  stream : TokenStream

/-- Pass on until a token is found or the stream has ended. -/
def next (s : TokenStream) : Yield :=
  match _h : s.pass with
  | .ended => ⟨none, [], s⟩
  | .emitted t r s' => ⟨some t, r.toList, s'⟩
  | .skipped r s' =>
    let y := s'.next
    { y with recoveries := r.toList ++ y.recoveries }
termination_by s.cursor.rest.length
decreasing_by exact rest_lt_of_skipped _h

/-- What asking a stream for a token `n` times comes to. -/
def nextTimes (s : TokenStream) : Nat → List (Option Token)
  | 0 => []
  | n + 1 =>
    let y := s.next
    y.token :: y.stream.nextTimes n

-- ---------------------------------------------------------------------------
-- All tokens
-- ---------------------------------------------------------------------------

/-- All that a stream gives: its tokens, and the recoveries made for them, both in order. -/
structure Harvest where
  tokens : List Token
  recoveries : List Recovery
deriving DecidableEq, Repr

/-- Pass on until the stream has ended. -/
def drain (s : TokenStream) : Harvest :=
  match _h : s.pass with
  | .ended => ⟨[], []⟩
  | .skipped r s' =>
    let later := s'.drain
    { later with recoveries := r.toList ++ later.recoveries }
  | .emitted t r s' =>
    let later := s'.drain
    ⟨t :: later.tokens, r.toList ++ later.recoveries⟩
termination_by s.remaining
decreasing_by
  · exact remaining_lt_of_skipped _h
  · exact remaining_lt_of_emitted _h

end TokenStream

/-- The tokens of a source, the last of which marks the end of the input. -/
def scan (source : String) (keepComments : Bool) : List Token :=
  (TokenStream.ofSource source keepComments).drain.tokens

/-- The recoveries made while a source is scanned, in order. -/
def recoveries (source : String) (keepComments : Bool) : List Recovery :=
  (TokenStream.ofSource source keepComments).drain.recoveries

end CTokens
