import CTokens.CommandLine.Failure
import CTokens.Text.Split

/-!
# CTokens — directories

The files that a run of the command can read, by name. A name that begins with a slash is found
from the root, any other one from the working directory, above which there is only the root. A
name leads through places, one for every part of it between slashes, and has to end at a file.
-/

namespace CTokens.CommandLine

/-- A place in the file system: the parts that lead to it, from the root or from the working
directory. -/
structure Place where
  absolute : Bool
  parts : List (List Char)
deriving DecidableEq, Repr

namespace Place

/-- The longest part of a name, in bytes. -/
def longestPart : Nat := 255

/-- The longest name, in bytes. -/
def longestName : Nat := 4095

/-- The place above. -/
def above (p : Place) : Place :=
  match p.parts with
  | [] => { absolute := true, parts := [] }
  | _ => { p with parts := p.parts.dropLast }

/-- The place that one part of a name leads to. -/
def enter (p : Place) (part : List Char) : Place :=
  if part = [] ∨ part = ['.'] then p
  else if part = ['.', '.'] then p.above
  else { p with parts := p.parts ++ [part] }

/-- The parts of a name, and the place that they start from. -/
def route (name : String) : Place × List (List Char) :=
  let start : Place := { absolute := name.toList.head? = some '/', parts := [] }
  (start, Text.split (· == '/') name.toList)

/-- The place that a name stands for. -/
def ofName (name : String) : Place :=
  let (start, parts) := route name
  parts.foldl enter start

/-- Whether one place lies at or below another. -/
def isWithin (p q : Place) : Bool := p.absolute == q.absolute && q.parts.isPrefixOf p.parts

end Place

/-- Files by name. -/
structure Directory where
  files : List (String × ByteArray)

namespace Directory

/-- A name, or a part of one, that is too long. -/
def nameTooLong : IoError := .system 36 .invalidFilename "File name too long"

/-- A name that leads nowhere. -/
def notFound : IoError := .system 2 .notFound "No such file or directory"

/-- A name that goes on behind a file. -/
def notADirectory : IoError := .system 20 .notADirectory "Not a directory"

/-- A name that ends at a directory. -/
def isADirectory : IoError := .system 21 .isADirectory "Is a directory"

/-- The content of the file at a place. -/
def fileAt? (d : Directory) (p : Place) : Option ByteArray :=
  (d.files.find? fun f => Place.ofName f.1 == p).map Prod.snd

/-- Whether a place is a directory: the beginnings are, and what files lie below. -/
def isDirectory (d : Directory) (p : Place) : Bool :=
  p.parts.isEmpty || d.files.any fun f => (Place.ofName f.1).isWithin p

/-- Go one part of a name further. -/
def walk (d : Directory) (p : Place) (part : List Char) : Except IoError Place :=
  if (d.fileAt? p).isSome then .error notADirectory
  else if Place.longestPart < (String.ofList part).utf8ByteSize then .error nameTooLong
  else
    let next := p.enter part
    if (d.fileAt? next).isSome || d.isDirectory next then .ok next else .error notFound

/-- Read the file with a given name. -/
def read (d : Directory) (name : String) : Except IoError ByteArray :=
  if Place.longestName < name.utf8ByteSize then .error nameTooLong
  else do
    let (start, parts) := Place.route name
    let place ← parts.foldlM d.walk start
    match d.fileAt? place with
    | some content => .ok content
    | none => .error isADirectory

end Directory

end CTokens.CommandLine
