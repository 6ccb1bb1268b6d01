import CTokens.Explorer.Palette
import CTokens.Text.Runs
import CTokens.Text.Split
import CTokens.Unicode.Control

/-!
# CTokens — owners of characters

The token list paints the source: every token takes the characters of its span, and a later token
takes them from an earlier one. The owner map tells for each character which token it belongs to,
and shows lines of the source in the colours of their owners.

The map is made for one token list and may be shown with another. A character whose owner is not
in that list cannot be shown.
-/

namespace CTokens

/-- The characters of a source and, for each of them, the index of the token that owns it. -/
structure OwnerMap where
  chars : List Char
  owners : List (Option Nat)
deriving DecidableEq, Repr

namespace OwnerMap

-- ---------------------------------------------------------------------------
-- Painting
-- ---------------------------------------------------------------------------

/-- Give the characters of a span to the token with index `i`. -/
def paint (owners : List (Option Nat)) (i : Nat) (span : Span) : List (Option Nat) :=
  owners.mapIdx fun offset owner => if span.contains offset then some i else owner

/-- Give the characters of a span to a token, if the span lies within the source. -/
def paintToken (owners : List (Option Nat)) (indexed : Token × Nat) :
    Except Fault (List (Option Nat)) :=
  let span := indexed.1.span
  if span.start ≤ span.stop ∧ span.stop ≤ owners.length then
    .ok (paint owners indexed.2 span)
  else
    .error .outOfRange

/-- The owners that a token list gives to the characters of a text. -/
def ofChars (chars : List Char) (tokens : List Token) : Except Fault OwnerMap := do
  let owners ← tokens.zipIdx.foldlM paintToken (List.replicate chars.length none)
  return { chars := chars, owners := owners }

/-- The owners that a token list gives to the characters of a source. -/
def ofTokens (source : String) (tokens : List Token) : Except Fault OwnerMap :=
  ofChars source.toList tokens

/-- Painting changes owners, never how many there are. -/
@[simp] theorem length_owners_paint (owners : List (Option Nat)) (i : Nat) (span : Span) :
    (paint owners i span).length = owners.length := List.length_mapIdx

-- ---------------------------------------------------------------------------
-- Looking up
-- ---------------------------------------------------------------------------

/-- The index of the token that owns the character at an offset, if there is one. -/
def ownerOf? (m : OwnerMap) (offset : Nat) : Option Nat := m.owners[offset]?.join

/-- The lines of the source, each character with its owner. -/
def lines (m : OwnerMap) : List (List (Char × Option Nat)) :=
  Text.split (fun cell => cell.1 == '\n') (m.chars.zip m.owners)

/-- The number of lines of the source. -/
def lineCount (m : OwnerMap) : Nat := m.lines.length

/-- The offset at which a line begins. -/
def lineStart (m : OwnerMap) (line : Nat) : Nat := Text.startOf m.lines line

/-- The offsets of a line, from where it begins up to the line break before the next one, or to the
end of the source. -/
def lineRange (m : OwnerMap) (line : Nat) : Span :=
  { start := m.lineStart line
    stop := if line + 1 < m.lineCount then m.lineStart (line + 1) - 1 else m.chars.length }

-- ---------------------------------------------------------------------------
-- Showing
-- ---------------------------------------------------------------------------

/-- The character that stands for `c` on the screen. -/
def visible (c : Char) : Char := if Unicode.isControl c then ' ' else c

/-- How characters of an owner look. The owner has to be in the token list. -/
def styleOf (owner : Option Nat) (tokens : List Token) (selected : Nat) : Except Fault Style :=
  match owner with
  | none => .ok Palette.gap
  | some i =>
    match tokens[i]? with
    | none => .error .outOfRange
    | some t =>
      let style := Palette.ofKind t.kind
      .ok (if i = selected then style.under Palette.selectedToken else style)

/-- A run of characters with one owner, as it looks. -/
def segment (tokens : List Token) (selected : Nat) (run : Option Nat × List Char) :
    Except Fault Segment := do
  let style ← styleOf run.1 tokens selected
  return { text := String.ofList (run.2.map visible), style := style }

/-- A line of the source in the colours of its owners. Neighbouring characters with one owner are
one segment. -/
def highlight (m : OwnerMap) (line : Nat) (tokens : List Token) (selected : Nat) :
    Except Fault (List Segment) :=
  match m.lines[line]? with
  | none => .error .outOfRange
  | some cells => (Text.runs cells).mapM (segment tokens selected)

end OwnerMap

end CTokens
