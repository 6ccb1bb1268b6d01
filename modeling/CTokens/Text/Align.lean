/-!
# CTokens — aligned text

Columns of a table are made by filling text up with spaces. A text that is too long for its
column keeps its length.
-/

namespace CTokens.Text

/-- Fill up with spaces on the left. -/
def alignRight (width : Nat) (s : String) : String :=
  String.ofList (List.replicate (width - s.length) ' ') ++ s

/-- Fill up with spaces on the right. -/
def alignLeft (width : Nat) (s : String) : String :=
  s ++ String.ofList (List.replicate (width - s.length) ' ')

end CTokens.Text
