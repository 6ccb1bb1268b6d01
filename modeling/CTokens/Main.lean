import CTokens.CommandLine.Run

/-!
# CTokens — the command

The command as it runs on a system: arguments, environment, the file, and the two outputs.
-/

namespace CTokens.CommandLine

/-- The trouble that reading a file ran into. -/
def IoError.ofSystem : IO.Error → IoError
  | .noFileOrDirectory _ code message => .system code.toNat .notFound message
  | .permissionDenied _ code message => .system code.toNat .permissionDenied message
  | .inappropriateType _ code message =>
    .system code.toNat (if code = 20 then .notADirectory else .isADirectory) message
  | e => .custom .other e.toString

/-- The content of a file, or the trouble that reading it ran into. -/
def contentOf (name : String) : IO (Except IoError ByteArray) := do
  match ← (IO.FS.readBinFile name).toBaseIO with
  | .ok content => return .ok content
  | .error e => return .error (IoError.ofSystem e)

/-- Show what a run leaves. -/
def Outcome.report (o : Outcome) : IO UInt32 := do
  (← IO.getStdout).putStr o.out
  for line in o.err do
    IO.eprintln line
  return o.status.toUInt32

end CTokens.CommandLine

open CTokens.CommandLine in
/-- Run the command. -/
def main (arguments : List String) : IO UInt32 := do
  let env : Environment :=
    { choice := ← IO.getEnv "CSCAN_KEEP_COMMENTS", logFilter := ← IO.getEnv "RUST_LOG" }
  match plan arguments env with
  | .done outcome => outcome.report
  | .work job none => (job.finish demoSource).report
  | .work job (some name) => do
    let content ← contentOf name
    (finishWith job name content).report
