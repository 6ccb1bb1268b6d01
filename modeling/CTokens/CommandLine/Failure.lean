import CTokens.Text.Escape

/-!
# CTokens — failures

Scanning cannot fail; reading a file, writing the listing and setting up the log can. A failure
is shown to people as a sentence, and in full detail as the value that it is.
-/

namespace CTokens.CommandLine

/-- What sort of trouble input or output ran into. -/
inductive IoKind where
  | notFound
  | permissionDenied
  | notADirectory
  | isADirectory
  | invalidFilename
  | invalidData
  | brokenPipe
  | other
deriving DecidableEq, Repr

namespace IoKind

/-- The name under which a kind is shown. -/
def name : IoKind → String
  | notFound => "NotFound"
  | permissionDenied => "PermissionDenied"
  | notADirectory => "NotADirectory"
  | isADirectory => "IsADirectory"
  | invalidFilename => "InvalidFilename"
  | invalidData => "InvalidData"
  | brokenPipe => "BrokenPipe"
  | other => "Other"

end IoKind

/-- A record as it is shown in full: its name, and its fields by name. -/
def shownRecord (name : String) (fields : List (String × String)) : String :=
  name ++ " \x7b " ++ ", ".intercalate (fields.map fun f => f.1 ++ ": " ++ f.2) ++ " \x7d"

/-- Trouble with input or output. -/
inductive IoError where
  /-- The system refused, with a code of its own. -/
  | system (code : Nat) (kind : IoKind) (message : String)
  /-- A rule for the data was broken. -/
  | described (kind : IoKind) (message : String)
  /-- Trouble that was reported from elsewhere. -/
  | custom (kind : IoKind) (text : String)
deriving DecidableEq, Repr

namespace IoError

/-- The error as a sentence. -/
def display : IoError → String
  | system code _ message => message ++ " (os error " ++ toString code ++ ")"
  | described _ message => message
  | custom _ text => text

/-- The error in full detail. -/
def detail : IoError → String
  | system code kind message =>
    shownRecord "Os"
      [("code", toString code), ("kind", kind.name), ("message", Text.quote message)]
  | described kind message =>
    shownRecord "Error" [("kind", kind.name), ("message", Text.quote message)]
  | custom kind text => shownRecord "Custom" [("kind", kind.name), ("error", Text.quote text)]

end IoError

/-- Why the command failed. -/
inductive Failure where
  /-- The file could not be read. -/
  | readInput (path : String) (cause : IoError)
  /-- The screen could not be drawn, or the listing not be written. -/
  | io (cause : IoError)
  /-- The log could not be set up. -/
  | logging (reason : String)
deriving DecidableEq, Repr

namespace Failure

/-- The failure as a sentence. -/
def display : Failure → String
  | readInput path cause => "cannot read '" ++ path ++ "': " ++ cause.display
  | io cause => "I/O error: " ++ cause.display
  | logging reason => "failed to initialize logging: " ++ reason

/-- The failure in full detail. -/
def detail : Failure → String
  | readInput path cause =>
    shownRecord "ReadInput" [("path", Text.quote path), ("source", cause.detail)]
  | io cause => "Io(" ++ cause.detail ++ ")"
  | logging reason => "Logging(" ++ Text.quote reason ++ ")"

/-- The trouble that caused the failure, if there was any. -/
def cause? : Failure → Option IoError
  | readInput _ cause => some cause
  | io cause => some cause
  | logging _ => none

end Failure

end CTokens.CommandLine
