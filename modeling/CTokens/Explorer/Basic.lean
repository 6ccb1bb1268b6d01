import CTokens.Explorer.SourcePane
import CTokens.Explorer.StatusBar
import CTokens.Explorer.TokenPane
import CTokens.TokenStream

/-!
# CTokens — the explorer

The explorer shows a source and its tokens side by side. Its state holds the tokens of the last
scan and the owner map that was made for them, what is selected, and where the panes are
scrolled to. Keys select tokens, move the focus, scroll the source, and keep or discard comments;
drawing a frame settles the scroll positions.

The fields may also be written from outside. Then source, tokens and owner map need not belong
together until the next scan, and drawing faults when it meets a token that is gone.
-/

namespace CTokens

/-- The panes that can have the focus. -/
inductive Pane where
  | source
  | tokens
deriving DecidableEq, Repr

namespace Pane

/-- The pane that does not have the focus. -/
def other : Pane → Pane
  | source => tokens
  | tokens => source

end Pane

/-- The state of the explorer. -/
structure Explorer where
  source : String
  keepComments : Bool
  tokens : List Token
  owners : OwnerMap
  /-- The index of the selected token. -/
  selected : Nat
  focus : Pane
  scroll : Scroll
  list : ListState
  quitting : Bool
  status : String
deriving DecidableEq, Repr

namespace Explorer

-- ---------------------------------------------------------------------------
-- Counting tokens
-- ---------------------------------------------------------------------------

/-- How many tokens of each kind there are, most frequent kinds first, equally frequent ones in
the order of the kinds. Kinds that do not occur are left out. -/
def census (tokens : List Token) : List (TokenKind × Nat) :=
  let counts := TokenKind.all.map fun kind => (kind, tokens.countP fun t => t.kind == kind)
  (counts.filter fun entry => entry.2 != 0).mergeSort fun a b => decide (b.2 ≤ a.2)

/-- The census in words. The end of the input is not worth mentioning. -/
def summarize (tokens : List Token) : String :=
  let entries := (census tokens).filter fun entry => entry.1 != .endOfInput
  if entries.isEmpty then "Empty input"
  else ", ".intercalate (entries.map fun entry => toString entry.2 ++ " " ++ entry.1.name)

/-- The census of the tokens on show, in words. -/
def summary (e : Explorer) : String := summarize e.tokens

-- ---------------------------------------------------------------------------
-- Selecting and scanning
-- ---------------------------------------------------------------------------

/-- Select the token with a given index, or the last one if there are not so many. The next frame
brings it into view. -/
def select (e : Explorer) (index : Nat) : Explorer :=
  let chosen := min index (e.tokens.length - 1)
  { e with
    selected := chosen
    list := e.list.select chosen
    scroll := { e.scroll with follow := true } }

/-- Explore a source. The first token is selected and the token list has the focus. -/
def start (source : String) (keepComments : Bool) : Except Fault Explorer := do
  let tokens := scan source keepComments
  let owners ← OwnerMap.ofTokens source tokens
  let e : Explorer :=
    { source := source
      keepComments := keepComments
      tokens := tokens
      owners := owners
      selected := 0
      focus := .tokens
      scroll := Scroll.top
      list := ListState.start
      quitting := false
      status := summarize tokens }
  return e.select 0

/-- The offset at which the selected token begins, or the beginning of the source. -/
def anchor (e : Explorer) : Nat :=
  match e.tokens[e.selected]? with
  | none => 0
  | some t => t.span.start

/-- Scan the source again. The first token that does not begin before the selected one did is
selected, or the last token if there is none. -/
def rescan (e : Explorer) : Except Fault Explorer := do
  let tokens := scan e.source e.keepComments
  let owners ← OwnerMap.ofTokens e.source tokens
  let index := tokens.findIdx fun t => decide (e.anchor ≤ t.span.start)
  return { e with tokens := tokens, owners := owners }.select index

/-- What the status says of a choice about comments. -/
def announcement (e : Explorer) : String :=
  (if e.keepComments then "Comments kept: " else "Comments discarded: ") ++ e.summary

/-- Keep comments if they were discarded, and the other way round. -/
def toggleComments (e : Explorer) : Except Fault Explorer := do
  let scanned ← { e with keepComments := !e.keepComments }.rescan
  return { scanned with status := scanned.announcement }

-- ---------------------------------------------------------------------------
-- Keys
-- ---------------------------------------------------------------------------

/-- The keys that the explorer tells apart. -/
inductive Key where
  | char (c : Char)
  | escape
  | tab
  | up
  | down
  | pageUp
  | pageDown
  | first
  | last
  /-- Any other key. -/
  | other
deriving DecidableEq, Repr

/-- The number of tokens that paging moves by. -/
def page : Nat := 10

/-- Move up: the selection in the token list, the view in the source. -/
def moveUp (e : Explorer) : Explorer :=
  match e.focus with
  | .tokens => e.select (e.selected - 1)
  | .source => { e with scroll := { e.scroll with offset := e.scroll.offset - 1 } }

/-- Move down: the selection in the token list, the view in the source. -/
def moveDown (e : Explorer) : Except Fault Explorer :=
  match e.focus with
  | .tokens => do
    let index ← Word.add e.selected 1
    return e.select index
  | .source =>
    .ok { e with scroll := { e.scroll with offset := Word.addClamped e.scroll.offset 1 } }

/-- Do what a key asks for. -/
def press (e : Explorer) : Key → Except Fault Explorer
  | .char 'q' | .char 'Q' | .escape => .ok { e with quitting := true }
  | .char 'c' => e.toggleComments
  | .tab => .ok { e with focus := e.focus.other }
  | .up => .ok e.moveUp
  | .down => e.moveDown
  | .pageUp => .ok (e.select (e.selected - page))
  | .pageDown => do
    let index ← Word.add e.selected page
    return e.select index
  | .first => .ok (e.select 0)
  | .last => .ok (e.select Word.limit)
  | .char _ | .other => .ok e

-- ---------------------------------------------------------------------------
-- Drawing
-- ---------------------------------------------------------------------------

/-- The number of columns of the source pane: 60 percent of the screen, rounded to the
nearest. -/
def sourceWidth (width : Nat) : Nat := (6 * width + 5) / 10

/-- Draw a frame of given size: the panes, and the status bar in the last row. The frame comes
with the state that drawing leaves. -/
def draw (e : Explorer) (width height : Nat) : Except Fault (Frame × Explorer) := do
  let (sourcePane, scroll) ← SourcePane.draw e.owners e.tokens e.selected (e.focus == .source)
    e.scroll (sourceWidth width) (height - 1)
  let (tokenPane, list) := TokenPane.draw e.tokens (e.focus == .tokens) e.list
    (width - sourceWidth width) (height - 1)
  let bar ← StatusBar.draw e.status e.selected e.tokens e.keepComments width
  let frame := Frame.beside sourcePane tokenPane ++ if height = 0 then [] else [bar]
  return (frame, { e with scroll := scroll, list := list })

end Explorer

end CTokens
