import CTokens.Explorer.Basic

/-!
# CTokens — sessions

A session is what happens to an explorer one after another: keys, selections, scans, frames, and
writes to its fields. It ends early when a step faults. Asking to quit does not end it: the explorer
goes on doing what it is told.

On a terminal the explorer runs in a loop that draws a frame, waits for a key and answers it. The
loop does look whether it is to quit, each time behind a frame. What is left out of it is the
terminal itself, which may fail, and the time that is spent waiting.
-/

namespace CTokens.Explorer

/-- A write to a field of the explorer. -/
inductive Write where
  /-- Another source, which is not scanned yet. -/
  | source (value : String)
  /-- Another wish about comments, for the next scan. -/
  | keepComments (value : Bool)
  /-- Other tokens. The owner map stays as it is. -/
  | tokens (value : List Token)
  /-- Another selection. The token list keeps its own. -/
  | selected (value : Nat)
  | scrollOffset (value : Nat)
  | scrollFollow (value : Bool)
  | status (value : String)
deriving DecidableEq, Repr

/-- Write to a field. -/
def write (e : Explorer) : Write → Explorer
  | .source value => { e with source := value }
  | .keepComments value => { e with keepComments := value }
  | .tokens value => { e with tokens := value }
  | .selected value => { e with selected := value }
  | .scrollOffset value => { e with scroll := { e.scroll with offset := value } }
  | .scrollFollow value => { e with scroll := { e.scroll with follow := value } }
  | .status value => { e with status := value }

/-- A step of a session. -/
inductive Action where
  | press (key : Key)
  | select (index : Nat)
  | rescan
  | draw (width height : Nat)
  | write (write : Write)
deriving DecidableEq, Repr

/-- Take a step. A frame that is drawn is shown and forgotten. -/
def step (e : Explorer) : Action → Except Fault Explorer
  | .press key => e.press key
  | .select index => .ok (e.select index)
  | .rescan => e.rescan
  | .draw width height => do
    let (_, drawn) ← e.draw width height
    return drawn
  | .write w => .ok (e.write w)

/-- Take steps one after another. -/
def run (e : Explorer) (actions : List Action) : Except Fault Explorer := actions.foldlM step e

/-- Explore a source and take steps. -/
def session (source : String) (keepComments : Bool) (actions : List Action) :
    Except Fault Explorer := do
  let e ← start source keepComments
  e.run actions

-- ---------------------------------------------------------------------------
-- The loop
-- ---------------------------------------------------------------------------

/-- What may happen to a key. -/
inductive KeyMotion where
  | press
  | hold
  | release
deriving DecidableEq, Repr

/-- What a terminal reports. -/
inductive Event where
  | key (key : Key) (motion : KeyMotion)
  /-- Anything but a key, such as another size of the screen. -/
  | other
deriving DecidableEq, Repr

/-- A round of the loop: the size of the screen at its beginning, and what the terminal reports
before the wait is over, if it reports anything. -/
structure Round where
  width : Nat
  height : Nat
  event : Option Event
deriving DecidableEq, Repr

/-- Answer what a terminal reports. Only a key that is pressed has an answer. -/
def answer (e : Explorer) : Option Event → Except Fault Explorer
  | some (.key key .press) => e.press key
  | _ => .ok e

/-- Draw frames and answer keys, round by round, until the explorer is to quit. The frame comes
first, so there is one more behind the key that quits. Where the rounds run out before, the loop
waits for another one. -/
def loop (e : Explorer) : List Round → Except Fault Explorer
  | [] => .ok e
  | round :: rounds => do
    let drawn ← e.step (.draw round.width round.height)
    if drawn.quitting then return drawn
    let answered ← drawn.answer round.event
    answered.loop rounds

/-- Explore a source on a terminal. -/
def explore (source : String) (keepComments : Bool) (rounds : List Round) :
    Except Fault Explorer := do
  let e ← start source keepComments
  e.loop rounds

end CTokens.Explorer
