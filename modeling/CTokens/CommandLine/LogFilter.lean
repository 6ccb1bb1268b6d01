import CTokens.Text.Split
import CTokens.Trace
import CTokens.Unicode.Alphanumeric

/-!
# CTokens — log filters

A log filter is a list of directives with commas between them, such as `warn,cscan=trace`. A
directive has up to three parts: the target whose records it is about, a scope in brackets, and
behind an equals sign the least important level that it lets through. A word alone is a level if
it names one, and a target otherwise. A directive without a level lets everything through.

The scope names a span, a field that records have to have, or both. Scans are not logged inside
spans, and values of fields are not looked at until a span is entered, so a scope with a span or
a value applies to no record. Of the directives that apply to a record the most specific one
decides: the longest target, then the one that asks for a field.

A filter with a directive that is not well formed is no filter at all.
-/

namespace CTokens.CommandLine

open Unicode

-- ---------------------------------------------------------------------------
-- Thresholds
-- ---------------------------------------------------------------------------

/-- The least important level that is let through, or none if nothing is. -/
abbrev Threshold := Option Level

namespace Threshold

/-- Whether a level is let through. -/
def admits (t : Threshold) (level : Level) : Bool :=
  t.any fun least => decide (least.rank ≤ level.rank)

/-- The thresholds by number. -/
def numbered : List Threshold :=
  [none, some .error, some .warn, some .info, some .debug, some .trace]

/-- The thresholds by name. -/
def named : List (String × Threshold) :=
  [("error", some .error), ("warn", some .warn), ("info", some .info), ("debug", some .debug),
    ("trace", some .trace), ("off", none)]

/-- The number that decimal digits are written for. A plus sign may stand before them. -/
def number? (text : List Char) : Option Nat :=
  let digits := if text.head? = some '+' then text.tail else text
  if digits.isEmpty || !digits.all Char.isDigit then none
  else some (digits.foldl (fun n c => 10 * n + (c.toNat - '0'.toNat)) 0)

/-- Read a threshold, by number or by name. Names may be written in capitals. -/
def read? (text : List Char) : Option Threshold :=
  match number? text with
  | some n => numbered[n]?
  | none => named.lookup (String.ofList (text.map Char.toLower))

end Threshold

-- ---------------------------------------------------------------------------
-- Directives
-- ---------------------------------------------------------------------------

/-- A directive that can apply to records. -/
structure Directive where
  /-- How the targets of the records begin. -/
  target : Option String
  /-- A field that the records have. -/
  field : Option String
  threshold : Threshold
deriving DecidableEq, Repr

/-- What a text is as a directive. -/
inductive DirectiveText where
  /-- It is not well formed. -/
  | invalid
  /-- It is well formed, and applies to no record. -/
  | idle
  | directive (d : Directive)
deriving DecidableEq, Repr

namespace DirectiveText

/-- White space before and behind a text. -/
structure Margins where
  before : List Char
  behind : List Char

/-- A text without its margins, and the margins. -/
def trim (text : List Char) : List Char × Margins :=
  let start := text.dropWhile isWhiteSpace
  let behind := (start.reverse.takeWhile isWhiteSpace).reverse
  (start.take (start.length - behind.length), ⟨text.takeWhile isWhiteSpace, behind⟩)

/-- Read what follows a target or a scope: nothing, or a level behind an equals sign. White space
around a directive spoils its level. -/
def levelPart (margins : Margins) : List Char → Option Threshold
  | [] => some (some .trace)
  | '=' :: text =>
    if !margins.before.isEmpty then none
    else if (text ++ margins.behind).isEmpty then some (some .trace)
    else Threshold.read? (text ++ margins.behind)
  | _ => none

/-- A directive that is no more than a word. White space around the word keeps it from being a
level, and from being how a target begins. -/
def ofWord (margins : Margins) (word : List Char) : DirectiveText :=
  if !margins.before.isEmpty || !margins.behind.isEmpty then idle
  else
    match Threshold.read? word with
    | some threshold => directive { target := none, field := none, threshold := threshold }
    | none =>
      directive { target := some (String.ofList word), field := none, threshold := some .trace }

/-- Read the field of a scope, from behind its brace, and what follows the scope. The field must
not be empty. -/
def fieldPart (text : List Char) : Option (List Char × List Char) :=
  let field := text.takeWhile (· != '}')
  match field, text.drop field.length with
  | [], _ => none
  | _, '}' :: ']' :: rest => some (field, rest)
  | _, _ => none

/-- Read a directive from the bracket of its scope on. -/
def ofScope (margins : Margins) (target : List Char) (text : List Char) : DirectiveText :=
  let span := text.takeWhile fun c => c != ']' && c != '{'
  match text.drop span.length with
  | ']' :: rest => if (levelPart margins rest).isSome then idle else invalid
  | '{' :: rest =>
    match fieldPart rest with
    | none => invalid
    | some (field, rest) =>
      match levelPart margins rest with
      | none => invalid
      | some threshold =>
        if !span.isEmpty || field.contains '=' || !margins.before.isEmpty then idle
        else
          directive
            { target := if target.isEmpty then none else some (String.ofList target)
              field := some (String.ofList field)
              threshold := threshold }
  | _ => invalid

/-- Whether a directive can begin with a character. -/
def opens (c : Char) : Bool := c == '[' || c == '-' || c == ':' || c == '_' || isAlphanumeric c

/-- Read a directive. -/
def read (text : List Char) : DirectiveText :=
  let (text, margins) := trim text
  if !text.head?.any opens then invalid
  else
    let target := text.takeWhile fun c => c != '=' && c != '['
    match text.drop target.length with
    | [] => ofWord margins target
    | '[' :: rest => ofScope margins target rest
    | rest =>
      match levelPart margins rest with
      | none => invalid
      | some threshold =>
        directive
          { target := some (String.ofList target), field := none, threshold := threshold }

end DirectiveText

namespace Directive

/-- Whether the directive applies to records with a target and fields. -/
def appliesTo (d : Directive) (target : String) (fields : List String) : Bool :=
  d.target.all (fun t => t.toList.isPrefixOf target.toList) && d.field.all fields.contains

/-- Directives are compared by how specific they are: by the length of their targets, and then by
their fields, of which none comes first. -/
def compareSpecificity (a b : Directive) : Ordering :=
  (compare (a.target.getD "").length (b.target.getD "").length).then
    (compare (a.field.getD "") (b.field.getD ""))

/-- The more specific one of two directives, and of equally specific ones the second. -/
def moreSpecific (a b : Directive) : Directive :=
  if compareSpecificity a b = .gt then a else b

end Directive

-- ---------------------------------------------------------------------------
-- Filters
-- ---------------------------------------------------------------------------

/-- The directives of a filter that can apply to records. -/
abbrev LogFilter := List Directive

namespace LogFilter

/-- Add what a text is as a directive to a filter, if it is well formed. -/
def add (f : LogFilter) (text : List Char) : Option LogFilter :=
  match DirectiveText.read text with
  | .invalid => none
  | .idle => some f
  | .directive d => some (f ++ [d])

/-- Read a filter. Nothing between two commas is no directive. -/
def read? (text : String) : Option LogFilter :=
  let texts := (Text.split (· == ',') text.toList).filter fun t => !t.isEmpty
  texts.foldlM add []

/-- The filter that counts where none is given: warnings, and what the verbosity adds. -/
def byVerbosity (verbosity : Nat) : LogFilter :=
  let least := if verbosity = 0 then Level.warn else if verbosity = 1 then .info else .debug
  [{ target := none, field := none, threshold := some least }]

/-- The filter of a run: the one that the environment gives, or the one for the verbosity. An
empty text lets errors through. -/
def choose (setting : Option String) (verbosity : Nat) : LogFilter :=
  match setting with
  | none => byVerbosity verbosity
  | some "" => [{ target := none, field := none, threshold := some .error }]
  | some text => (read? text).getD (byVerbosity verbosity)

/-- The directive that decides about records with a target and fields. -/
def decisive? (f : LogFilter) (target : String) (fields : List String) : Option Directive :=
  (f.filter fun d => d.appliesTo target fields).foldl
    (fun best d => some (best.elim d fun b => b.moreSpecific d)) none

/-- Whether a record is let through. -/
def admits (f : LogFilter) (target : String) (fields : List String) (level : Level) : Bool :=
  (f.decisive? target fields).any fun d => Threshold.admits d.threshold level

end LogFilter

end CTokens.CommandLine
