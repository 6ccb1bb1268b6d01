/-!
# CTokens — styles

A style says how text looks: its colours, where they are set, and whether it is bold, italic or
underlined. Laying one style over another replaces the colours that the upper one sets and adds
its emphasis.
-/

namespace CTokens

/-- A colour of the terminal. -/
inductive Color where
  | rgb (red green blue : Nat)
  | black
deriving DecidableEq, Repr

/-- How text looks. A colour that is not set is left as the terminal has it. -/
structure Style where
  fg : Option Color := none
  bg : Option Color := none
  bold : Bool := false
  italic : Bool := false
  underlined : Bool := false
deriving DecidableEq, Repr

namespace Style

/-- Text as the terminal shows it by itself. -/
def plain : Style := {}

/-- Lay `upper` over a style. -/
def under (lower upper : Style) : Style :=
  { fg := upper.fg <|> lower.fg
    bg := upper.bg <|> lower.bg
    bold := lower.bold || upper.bold
    italic := lower.italic || upper.italic
    underlined := lower.underlined || upper.underlined }

@[simp] theorem plain_under (s : Style) : plain.under s = s := by
  cases s with
  | mk fg bg => cases fg <;> cases bg <;> simp [under, plain]

end Style

/-- Text in one style. -/
structure Segment where
  text : String
  style : Style
deriving DecidableEq, Repr

namespace Segment

/-- Lay a style over all of a text. -/
def overlay (upper : Style) (segments : List Segment) : List Segment :=
  segments.map fun s => { s with style := s.style.under upper }

end Segment

end CTokens
