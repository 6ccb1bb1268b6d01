import CTokens.CommandLine.LogFilter
import CTokens.Text.ControlSequence

/-!
# CTokens — the log

Recoveries are logged as they happen, each on a line of its own, if the log filter lets them
through. Terminal colours set off the level, the names of the fields and the equals signs.
-/

namespace CTokens.CommandLine.Log

/-- The target of the records that scanning logs. -/
def target : String := "cscan::lexer::scanner"

/-- The field that holds the message of a record. -/
def messageField : String := "message"

/-- A field of a record. -/
def field (entry : String × String) : String :=
  " " ++ Text.attributed "3" entry.1 ++ Text.attributed "2" "=" ++ entry.2

/-- The line for a recovery: the level in magenta, the message, and the fields. -/
def line (r : Recovery) : String :=
  Text.attributed "35" (TraceRecord.recovered r).level.name ++ " " ++ r.message ++
    String.join (r.fields.map field)

/-- Whether a filter lets a recovery through. -/
def admits (f : LogFilter) (r : Recovery) : Bool :=
  f.admits target (messageField :: r.fields.map Prod.fst) (TraceRecord.recovered r).level

/-- The lines for recoveries. -/
def lines (f : LogFilter) (rs : List Recovery) : List String :=
  (rs.filter (admits f)).map line

end CTokens.CommandLine.Log
