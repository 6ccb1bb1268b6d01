import CTokens.CommandLine.Arguments
import CTokens.CommandLine.Directory
import CTokens.CommandLine.Help
import CTokens.CommandLine.Log
import CTokens.Listing

/-!
# CTokens — runs of the command

A run reads its arguments, then the source, and then prints the listing, while the log goes to
the error output. It ends early with help, with a misuse of the arguments, or with a source that
cannot be read. Which file to read is known before anything is read, so a run is planned first
and finished with the content of the file.
-/

namespace CTokens.CommandLine

/-- The settings that a run finds in its environment. -/
structure Environment where
  /-- Whether comments are kept. -/
  choice : Option String
  /-- Which records are logged. -/
  logFilter : Option String
deriving DecidableEq, Repr

/-- What a run leaves: its exit status, the text it printed, and the lines of its error output. -/
structure Outcome where
  status : Nat
  out : String
  err : List String
deriving DecidableEq, Repr

namespace Outcome

/-- A run that went well. -/
def success (out : String) (err : List String) : Outcome := { status := 0, out := out, err := err }

/-- A run that failed. -/
def failure (f : Failure) : Outcome :=
  { status := 1, out := "", err := ["Error: " ++ f.detail] }

/-- A run whose arguments make no sense. -/
def misuse (e : UsageError) : Outcome :=
  { status := 2, out := "", err := (Text.split (· == '\n') e.message.toList).map String.ofList }

end Outcome

/-- The source that is scanned where no file is given. -/
def demoSource : String :=
  "\n" ++
  "int main() \x7b\n" ++
  "    int z = 5;\n" ++
  "    float x = 3.14;\n" ++
  "    float y = .5e-1;\n" ++
  "    // single line comment\n" ++
  "    /* multi\n" ++
  "       line comment */\n" ++
  "    x += y * 2;\n" ++
  "    if (x >= 1.0 && x != 0) x++; //another comment\n" ++
  "    return 0;\n" ++
  "\x7d\n"

/-- What is to be done with the source. -/
structure Job where
  keepComments : Bool
  print : Bool
  filter : LogFilter
deriving DecidableEq, Repr

namespace Job

/-- Print the listing. The explorer needs a terminal, which is not at hand here. -/
def finish (j : Job) (source : String) : Outcome :=
  if j.print then
    .success (printedListing source j.keepComments)
      (Log.lines j.filter (recoveries source j.keepComments))
  else .failure (.io (.described .other "the explorer needs a terminal"))

end Job

/-- What a run is to do: nothing more, or a job with a source from a file or with the built-in
one. -/
inductive Plan where
  | done (outcome : Outcome)
  | work (job : Job) (file : Option String)
deriving DecidableEq, Repr

/-- Plan a run. -/
def plan (arguments : List String) (env : Environment) : Plan :=
  match Request.read arguments env.choice with
  | .error (.misuse e) => .done (.misuse e)
  | .error .help => .done (.success (help env.choice) [])
  | .error .version => .done (.success version [])
  | .ok r =>
    let job : Job :=
      { keepComments := r.keepComments
        print := r.print
        filter := LogFilter.choose env.logFilter r.verbosity }
    .work job r.file

/-- The text that a file holds. -/
def decode (content : ByteArray) : Except IoError String :=
  match String.fromUTF8? content with
  | some text => .ok text
  | none => .error (.described .invalidData "stream did not contain valid UTF-8")

/-- Finish a job with the content of its file. -/
def finishWith (job : Job) (name : String) (content : Except IoError ByteArray) : Outcome :=
  match content >>= decode with
  | .ok source => job.finish source
  | .error e => .failure (.readInput name e)

/-- Run the command in a directory. -/
def run (d : Directory) (arguments : List String) (env : Environment) : Outcome :=
  match plan arguments env with
  | .done outcome => outcome
  | .work job none => job.finish demoSource
  | .work job (some name) => finishWith job name (d.read name)

end CTokens.CommandLine
