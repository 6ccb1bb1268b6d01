import CTokens.CommandLine.Arguments

/-!
# CTokens — help

What the command says about itself. Headings are underlined and literals bold on a terminal;
elsewhere the control sequences are taken out again, and with them those of the environment.
-/

namespace CTokens.CommandLine

/-- The column in which the descriptions of options begin. -/
def descriptionColumn : Nat := 23

/-- What the environment says about comments, as the help shows it. A line break in it leads to
the column of the descriptions. -/
def shownChoice (choice : Option String) : String :=
  let indent := List.replicate descriptionColumn ' '
  String.ofList ((choice.getD "").toList.flatMap fun c => if c = '\n' then c :: indent else [c])

namespace Flag

/-- What an option does. -/
def description (choice : Option String) : Flag → String
  | keepComments =>
    "Emit comment tokens instead of discarding comments [env: CSCAN_KEEP_COMMENTS=" ++
      shownChoice choice ++ "]"
  | print => "Print the token listing instead of opening the explorer"
  | verbose => "Increase log verbosity (-v info, -vv debug); RUST_LOG overrides"
  | help => "Print help"
  | version => "Print version"

/-- The line of an option in the help. -/
def helpLine (choice : Option String) (flag : Flag) : String :=
  let indent := descriptionColumn - 6 - flag.shown.length
  "  " ++ Text.attributed "1" (String.ofList ['-', flag.letter]) ++ ", " ++
    Text.attributed "1" flag.shown ++ String.ofList (List.replicate indent ' ') ++
    flag.description choice ++ "\n"

end Flag

/-- A heading. -/
def heading (text : String) : String := Text.attributed "4" text

/-- The help, with the present setting for comments, as a terminal gets it. -/
def attributedHelp (choice : Option String) : String :=
  "Split C source into classified tokens\n" ++
  "\n" ++
  heading "Usage:" ++ " " ++ Text.attributed "1" "cscan" ++ " [OPTIONS] [FILE]\n" ++
  "\n" ++
  heading "Arguments:" ++ "\n" ++
  "  [FILE]  C source file (default: a built-in demo program)\n" ++
  "\n" ++
  heading "Options:" ++ "\n" ++
  String.join (Flag.all.map (Flag.helpLine choice))

/-- The help, with the present setting for comments. -/
def help (choice : Option String) : String := Text.plain (attributedHelp choice)

/-- The version. -/
def version : String := "cscan 0.1.0\n"

end CTokens.CommandLine
