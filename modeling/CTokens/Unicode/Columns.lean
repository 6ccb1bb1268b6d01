import CTokens.Unicode.Emoji
import CTokens.Unicode.Pictographic
import CTokens.Unicode.Wide
import CTokens.Unicode.ZeroWidth

/-!
# CTokens — columns

The number of columns that a grapheme cluster takes on a terminal. It is the sum over its
characters, but for emoji: a modifier, a selector or a joiner makes one picture of several
characters, and a picture takes two columns.
-/

namespace CTokens.Unicode

/-- The number of columns that a character takes by itself. Control characters take one, too. -/
def columnsOf (c : Char) : Nat :=
  if c = '\u17a4' then 2
  else if c = '\u17d8' then 3
  else if isZeroWidth c then 0
  else if isWide c then 2
  else 1

/-- The sign that asks for the character before it to be drawn as a picture. -/
def pictureSelector : Char := '\ufe0f'

/-- The sign that makes one picture of its neighbours. -/
def joiner : Char := '\u200d'

/-- Whether a character can be drawn as a picture on request. -/
def takesSelector (c : Char) : Bool :=
  isPictographic c || c.isDigit || c == '#' || c == '*'

/-- What stands behind a character. -/
inductive Follower where
  | text
  | lineFeed
  | modifier
  | picture
  /-- A joiner and a picture. -/
  | joinedPicture
  | selector
  /-- A selector, a joiner and a picture. -/
  | joinedSelector
deriving DecidableEq, Repr

/-- Put a character in front of a text of which the columns and the first character are known.
What is joined to a picture behind it adds no column, and nor does what takes a modifier. -/
def Follower.put (c : Char) (behind : Nat × Follower) : Nat × Follower :=
  let (columns, next) := behind
  let joined := next == .joinedPicture
  let picture := columns + if joined then 0 else 2
  if c = '\n' then (columns + 1, .lineFeed)
  else if c = '\r' ∧ next = .lineFeed then (columns, .text)
  else if c = pictureSelector then (columns, if joined then .joinedSelector else .selector)
  else if c = joiner then
    (columns, if next = .picture ∨ next = .modifier then .joinedPicture else .text)
  else if isModifier c then (picture, .modifier)
  else if next = .modifier ∧ isModifierBase c then (columns, .picture)
  else if next = .selector ∧ takesSelector c then (columns + 2, .picture)
  else if next = .joinedSelector ∧ takesSelector c then (columns, .picture)
  else if isPictographic c ∧ isWide c then (picture, .picture)
  else (columns + columnsOf c, .text)

/-- The number of columns that a cluster takes. -/
def columns (cluster : List Char) : Nat := (cluster.foldr Follower.put (0, .text)).1

/-- A printable character of ASCII takes one column. -/
theorem columns_of_ascii {c : Char} (h : 0x20 ≤ c.toNat) (h' : c.toNat ≤ 0x7E) :
    columns [c] = 1 :=
  of_ascii (p := fun c => columns [c] = 1) (by decide +kernel) h h'

end CTokens.Unicode
