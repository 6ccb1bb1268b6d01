import CTokens.Text.ControlSequence

/-!
# CTokens — arguments

The command takes a file and options. Options are written out behind two dashes or, several of
them together, as letters behind one; two dashes alone end the options, and one dash alone is a
file. The first argument that makes no sense ends the reading, and so does a request for help or
for the version.

Whether comments are kept can also be set in the environment, where the option does not say so.
-/

namespace CTokens.CommandLine

-- ---------------------------------------------------------------------------
-- Options
-- ---------------------------------------------------------------------------

/-- The options of the command. -/
inductive Flag where
  | keepComments
  | print
  | verbose
  | help
  | version
deriving DecidableEq, Repr

namespace Flag

/-- Every option. -/
def all : List Flag := [.keepComments, .print, .verbose, .help, .version]

/-- The letter of an option. -/
def letter : Flag → Char
  | keepComments => 'k'
  | print => 'p'
  | verbose => 'v'
  | help => 'h'
  | version => 'V'

/-- The word of an option. -/
def word : Flag → String
  | keepComments => "keep-comments"
  | print => "print"
  | verbose => "verbose"
  | help => "help"
  | version => "version"

/-- An option as messages name it. Dots follow the one that may be repeated. -/
def shown : Flag → String
  | verbose => "--verbose..."
  | flag => "--" ++ flag.word

/-- The option with a given letter. -/
def ofLetter? (c : Char) : Option Flag := all.find? fun flag => flag.letter == c

/-- The option with a given word. -/
def ofWord? (word : String) : Option Flag := all.find? fun flag => flag.word == word

end Flag

-- ---------------------------------------------------------------------------
-- Misuse
-- ---------------------------------------------------------------------------

/-- What can be wrong with the arguments. -/
inductive UsageError where
  /-- An option that does not exist, or a second file. -/
  | unexpectedArgument (shown : String)
  /-- An option was given a value. -/
  | unexpectedValue (value : String) (flag : Flag)
  /-- An option was given twice. -/
  | repeated (flag : Flag)
  /-- The file has no name. -/
  | missingFile
  /-- The environment has the setting for comments without a value. -/
  | missingChoice
  /-- The environment has a value for comments that is neither true nor false. -/
  | invalidChoice (value : String)
deriving DecidableEq, Repr

namespace UsageError

/-- What is wrong, in yellow and between quotes. -/
def fault (s : String) : String := "'" ++ Text.attributed "33" s ++ "'"

/-- What the command knows, in bold and between quotes. -/
def known (s : String) : String := "'" ++ Text.attributed "1" s ++ "'"

/-- The message for a misuse, as a terminal gets it. -/
def attributedMessage (e : UsageError) : String :=
  let text := match e with
    | unexpectedArgument shown => "unexpected argument " ++ fault shown ++ " found"
    | unexpectedValue value flag =>
      "unexpected value " ++ fault value ++ " for " ++ known flag.shown ++
        " found; no more were expected"
    | repeated flag => "the argument " ++ fault flag.shown ++ " cannot be used multiple times"
    | missingFile => "a value is required for " ++ known "[FILE]" ++ " but none was supplied"
    | missingChoice =>
      "a value is required for " ++ known Flag.keepComments.shown ++ " but none was supplied"
    | invalidChoice value =>
      "invalid value " ++ fault value ++ " for " ++ known Flag.keepComments.shown
  Text.attributed "31" "error:" ++ " " ++ text

/-- The message for a misuse. Control sequences are taken out, also those that it quotes. -/
def message (e : UsageError) : String := Text.plain e.attributedMessage

end UsageError

/-- Why the reading of arguments ended before anything was to be done. -/
inductive Stop where
  | misuse (error : UsageError)
  | help
  | version
deriving DecidableEq, Repr

-- ---------------------------------------------------------------------------
-- Requests
-- ---------------------------------------------------------------------------

/-- What the arguments ask for. -/
structure Request where
  keepComments : Bool := false
  /-- Whether the listing is to be printed instead of opening the explorer. -/
  print : Bool := false
  verbosity : Nat := 0
  file : Option String := none
deriving DecidableEq, Repr

namespace Request

/-- The file has to have a name. -/
def checkFile (r : Request) : Except Stop Request :=
  if r.file = some "" then .error (.misuse .missingFile) else .ok r

/-- Take an option. A file that stands before it is checked first. -/
def takeFlag (r : Request) (flag : Flag) : Except Stop Request := do
  let r ← r.checkFile
  match flag with
  | .keepComments =>
    if r.keepComments then .error (.misuse (.repeated flag))
    else .ok { r with keepComments := true }
  | .print =>
    if r.print then .error (.misuse (.repeated flag))
    else .ok { r with print := true }
  | .verbose => .ok { r with verbosity := r.verbosity + 1 }
  | .help => .error .help
  | .version => .error .version

/-- Take a file. There can be one only. -/
def takeFile (r : Request) (name : String) : Except Stop Request :=
  match r.file with
  | none => .ok { r with file := some name }
  | some _ => .error (.misuse (.unexpectedArgument name))

/-- Take an option by its letter. -/
def takeLetter (r : Request) (c : Char) : Except Stop Request :=
  match Flag.ofLetter? c with
  | none => .error (.misuse (.unexpectedArgument (String.ofList ['-', c])))
  | some flag => r.takeFlag flag

/-- Take an option by what stands behind its two dashes: its word, and a value if there is an
equals sign. No option takes a value. -/
def takeWord (r : Request) (text : List Char) : Except Stop Request :=
  let word := String.ofList (text.takeWhile (· != '='))
  match Flag.ofWord? word, text.dropWhile (· != '=') with
  | none, _ => .error (.misuse (.unexpectedArgument ("--" ++ word)))
  | some flag, [] => r.takeFlag flag
  | some flag, _ :: value => .error (.misuse (.unexpectedValue (String.ofList value) flag))

/-- Take an argument that stands before the end of the options. -/
def takeArgument (r : Request) (argument : String) : Except Stop Request :=
  match argument.toList with
  | '-' :: '-' :: text => r.takeWord text
  | '-' :: c :: cs => (c :: cs).foldlM takeLetter r
  | _ => r.takeFile argument

/-- Take the arguments one after another. -/
def takeAll (r : Request) : List String → Except Stop Request
  | [] => .ok r
  | argument :: rest =>
    if argument = "--" then rest.foldlM takeFile r
    else do
      let r ← r.takeArgument argument
      r.takeAll rest

/-- What the environment says about comments counts where the option does not. -/
def takeChoice (r : Request) (choice : Option String) : Except Stop Request :=
  if r.keepComments then .ok r
  else
    match choice with
    | none => .ok r
    | some value =>
      if value = "true" then .ok { r with keepComments := true }
      else if value = "false" then .ok r
      else if value = "" then .error (.misuse .missingChoice)
      else .error (.misuse (.invalidChoice value))

/-- Read the arguments, and what the environment says about comments. -/
def read (arguments : List String) (choice : Option String) : Except Stop Request := do
  let r ← takeAll {} arguments
  let r ← r.checkFile
  r.takeChoice choice

end Request

end CTokens.CommandLine
