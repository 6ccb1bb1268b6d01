import CTokens.Word

/-!
# CTokens — viewports

A viewport shows some rows of a longer column: `height` of them from row `offset` on. To bring a
row into view the viewport moves no further than it has to.
-/

namespace CTokens

namespace Viewport

/-- The offset from which `height` rows show row `line`, as near to `offset` as can be. -/
def follow (offset line height : Nat) : Except Fault Nat :=
  if line < offset then .ok line
  else do
    let bottom ← Word.add offset height
    if bottom ≤ line then
      let next ← Word.add line 1
      Word.sub next height
    else
      return offset

end Viewport

/-- Where the source pane is scrolled to. -/
structure Scroll where
  offset : Nat
  /-- Whether the next frame has to bring the selected token into view. -/
  follow : Bool
deriving DecidableEq, Repr

namespace Scroll

/-- The top of the source. -/
def top : Scroll := { offset := 0, follow := false }

/-- Bring row `line` into view, if that is wanted, and do not scroll past the end of `total`
rows. -/
def settle (s : Scroll) (line total height : Nat) : Except Fault Scroll := do
  let offset ← if s.follow then Viewport.follow s.offset line height else pure s.offset
  return { offset := min offset (total - height), follow := false }

end Scroll

end CTokens
