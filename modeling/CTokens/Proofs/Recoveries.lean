import CTokens.Proofs.Layout
import CTokens.Proofs.Reading

/-!
# CTokens — the recoveries of a scan

Recoveries are laid out like tokens: a lexeme has its recovery from itself and from the text behind
it. Unlike tokens they are all given, whether or not comments are wanted.

Main statements:

* `TokenStream.recoveries_drain_between`, `recoveries_eq_trail` — the recoveries of a stream are
  those of the pieces ahead.
-/

namespace CTokens

-- ---------------------------------------------------------------------------
-- Recoveries of pieces
-- ---------------------------------------------------------------------------

/-- The recovery of a lexeme that follows a text, if it has one. -/
def Lexeme.recoveryBehind? (before : List Char) : Lexeme → Option Recovery
  | blockComment body =>
    if body.closed then none else some (.commentClosed (Location.behind before))
  | number reading =>
    if reading.dangling.isEmpty then none
    else some (.exponentGivenBack (Location.behind (before ++ reading.chars ++ reading.dangling)))
  | quoted mark body =>
    if body.closed then none else some (.literalClosed mark.kind (Location.behind before))
  | unknown char => some (.unknownCharacter char (Location.behind before))
  | lineComment _ | word _ | delimiter _ | operator _ => none

/-- The recovery of a piece that follows a text, if it has one. -/
def Piece.recoveryBehind? (before : List Char) : Piece → Option Recovery
  | .blank _ => none
  | .lexeme l => l.recoveryBehind? before

/-- The recoveries of pieces that follow a text. -/
def trail (before : List Char) : List Piece → List Recovery
  | [] => []
  | p :: ps => (p.recoveryBehind? before).toList ++ trail (before ++ p.chars) ps

/-- A number that gives back an exponent is followed by it. -/
theorem Numeral.dangling_isPrefix {reading : Numeral.Reading} {rest : List Char}
    (h : Piece.read (reading.chars ++ rest) = some (.lexeme (.number reading))) :
    reading.dangling <+: rest := by
  obtain ⟨c, cs, hText, -, hBegins⟩ := Piece.begins_of_read h
  cases hBegins
  have hWhole : (read (c :: cs)).chars ++ (read (c :: cs)).dangling <+:
      (read (c :: cs)).chars ++ rest := by
    rw [hText]
    exact chars_append_dangling_isPrefix (c :: cs)
  exact (List.prefix_append_right_inj _).1 hWhole

/-- The recovery that a cursor makes of a piece is told by the text behind. -/
theorem Piece.recovery?_between (before : List Char) {p : Piece} {rest : List Char}
    (h : read (p.chars ++ rest) = some p) :
    p.recovery? (Cursor.between before (p.chars ++ rest)) = p.recoveryBehind? before := by
  cases p with
  | blank ws => rfl
  | lexeme l =>
    cases l with
    | number reading =>
      -- the recovery stands behind the exponent, which the number does not cover
      obtain ⟨t, rfl⟩ := Numeral.dangling_isPrefix h
      show (if reading.dangling.isEmpty then none else
        some (Recovery.exponentGivenBack ((Cursor.between before (reading.chars ++
          (reading.dangling ++ t))).skip
            (reading.chars.length + reading.dangling.length)).location)) = _
      rw [← List.length_append, ← List.append_assoc, Cursor.skip_between,
        Cursor.location_between, ← List.append_assoc]
      rfl
    | lineComment | blockComment | word | quoted | delimiter | operator | unknown => rfl

-- ---------------------------------------------------------------------------
-- A stream gives the recoveries of what is ahead
-- ---------------------------------------------------------------------------

namespace TokenStream

/-- What a stream recovers from in its next pass comes first, and then what the stream behind it
recovers from. -/
theorem recoveries_drain (s : TokenStream) :
    s.drain.recoveries = match s.pass with
      | .ended => []
      | .skipped r s' => r.toList ++ s'.drain.recoveries
      | .emitted _ r s' => r.toList ++ s'.drain.recoveries := by
  rw [drain]
  split
  · next hPass => rw [hPass]
  · next hPass => rw [hPass]
  · next hPass => rw [hPass]

/-- At the end of the text there is nothing to recover from. -/
theorem recoveries_drain_between_nil (keep : Bool) (before : List Char) :
    (between keep before []).drain.recoveries = [] := by
  rw [recoveries_drain]
  show [] ++ TokenStream.Harvest.recoveries (drain _) = _
  rw [recoveries_drain]
  rfl

/-- A stream recovers from what the pieces of the text ahead ask for. -/
theorem recoveries_drain_between (keep : Bool) (before after : List Char) :
    (between keep before after).drain.recoveries = trail before (pieces after) := by
  induction after using Piece.induction generalizing before with
  | nil => rw [pieces_nil, trail, recoveries_drain_between_nil]
  | piece p rest hRead ih =>
    rw [pieces_append hRead, trail, ← ih, recoveries_drain, pass_between_append keep before hRead,
      Piece.recovery?_between before hRead]
    cases p.token? keep before with
    | none => rfl
    | some t => rfl

end TokenStream

/-- The recoveries of a source are those of its pieces, whether or not comments are kept. -/
theorem recoveries_eq_trail (s : String) (keep : Bool) :
    recoveries s keep = trail [] (pieces s.toList) :=
  TokenStream.recoveries_drain_between keep [] s.toList

end CTokens
