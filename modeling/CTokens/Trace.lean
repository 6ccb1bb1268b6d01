import CTokens.Text.Escape
import CTokens.TokenStream

/-!
# CTokens — the trace of a scan

A scan leaves a trace: every recovery, in the order of the source. A scan of the whole source is
framed by a record of what is scanned and a record of how many tokens came out; tokens that are
asked for one at a time leave the recoveries alone.
-/

namespace CTokens

-- ---------------------------------------------------------------------------
-- Recoveries as records
-- ---------------------------------------------------------------------------

/-- How much a record matters. -/
inductive Level where
  | trace
  | debug
  | info
  | warn
  | error
deriving DecidableEq, Repr

namespace Level

/-- The name under which a level is written. -/
def name : Level → String
  | trace => "TRACE"
  | debug => "DEBUG"
  | info => "INFO"
  | warn => "WARN"
  | error => "ERROR"

/-- Levels by how much they matter, the finest detail first. -/
def rank : Level → Nat
  | trace => 0
  | debug => 1
  | info => 2
  | warn => 3
  | error => 4

end Level

namespace Recovery

/-- What a recovery is called. -/
def message : Recovery → String
  | exponentGivenBack _ => "exponent without digits rolled back"
  | literalClosed _ _ => "unterminated literal closed at end of input"
  | commentClosed _ => "unterminated block comment closed at end of input"
  | unknownCharacter _ _ => "unknown character"

/-- What a recovery is about, by name. -/
def fields : Recovery → List (String × String)
  | exponentGivenBack reached => [("location", reached.display)]
  | literalClosed kind start => [("kind", kind.name), ("location", start.display)]
  | commentClosed start => [("location", start.display)]
  | unknownCharacter char location =>
    [("ch", Text.quoteChar char), ("location", location.display)]

end Recovery

-- ---------------------------------------------------------------------------
-- Traces
-- ---------------------------------------------------------------------------

/-- A record of a trace. -/
inductive TraceRecord where
  /-- A scan of a whole source begins. -/
  | began (chars : Nat) (keepComments : Bool)
  | recovered (recovery : Recovery)
  /-- A scan of a whole source is done. -/
  | completed (count : Nat)
deriving DecidableEq, Repr

namespace TraceRecord

/-- What a record is called. -/
def name : TraceRecord → String
  | began _ _ => "scan"
  | recovered r => r.message
  | completed _ => "scan complete"

/-- How much a record matters: recoveries are the finest detail. -/
def level : TraceRecord → Level
  | began _ _ => .debug
  | recovered _ => .trace
  | completed _ => .debug

end TraceRecord

/-- The trace of asking for the tokens one at a time. -/
def streamTrace (source : String) (keepComments : Bool) : List TraceRecord :=
  (recoveries source keepComments).map .recovered

/-- The trace of scanning the whole source. -/
def scanTrace (source : String) (keepComments : Bool) : List TraceRecord :=
  [.began source.length keepComments] ++ streamTrace source keepComments ++
    [.completed (scan source keepComments).length]

end CTokens
