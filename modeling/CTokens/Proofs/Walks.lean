import CTokens.Proofs.Classes
import CTokens.Proofs.Grammar
import Mathlib.Data.List.Induction

/-!
# CTokens — cursors that go to and fro

A cursor is moved by single steps and by runs of steps, it is remembered by checkpoints, and it is
sent back to them. Going back sets offset, line and column without a look at the text. They are
right all the same, since a checkpoint knows nothing but what a cursor knew: wherever a walk leads,
the cursor stands between two parts of the source, and each of the checkpoints marks such a place.

A place is told by its offset. So the offset of a checkpoint tells its line and its column, and what
a cursor reads from there on depends on nothing that it did before.

Main results:

* `Cursor.Walk.Within.move` — every move leads to a place of the source;
* `Checkpoint.Marks.eq_iff` — checkpoints of one source differ when their offsets do;
* `Cursor.advanceWhile_eq` — a run of steps is a loop of single steps;
* `Cursor.walk_wellPlaced` — where a walk leads, and what can be read from there.
-/

namespace CTokens

open Cursor (between)

-- ---------------------------------------------------------------------------
-- Places of a text
-- ---------------------------------------------------------------------------

/-- A checkpoint remembers a place of a text. -/
def Checkpoint.Marks (saved : Checkpoint) (text : List Char) : Prop :=
  ∃ before after, saved = (between before after).checkpoint ∧ before ++ after = text

namespace Checkpoint

variable {saved : Checkpoint} {text : List Char}

/-- The offset of a place lies in the text, and its line and column are those behind as many
characters. -/
theorem Marks.place (h : saved.Marks text) :
    saved.position ≤ text.length ∧
      (⟨saved.line, saved.column⟩ : Location) = Location.behind (text.take saved.position) := by
  obtain ⟨before, after, rfl, rfl⟩ := h
  refine ⟨?_, ?_⟩
  · show before.length ≤ (before ++ after).length
    rw [List.length_append]
    exact Nat.le_add_right _ _
  · show Location.behind before = Location.behind ((before ++ after).take before.length)
    rw [List.take_left]

/-- A place of a text is told by its offset. -/
theorem Marks.eq_iff {a b : Checkpoint} (ha : a.Marks text) (hb : b.Marks text) :
    a = b ↔ a.position = b.position := by
  refine ⟨congrArg position, fun hPosition => ?_⟩
  have hLocation := ha.place.2
  rw [hPosition, ← hb.place.2, Location.mk.injEq] at hLocation
  obtain ⟨hLine, hColumn⟩ := hLocation
  rw [Checkpoint.mk.injEq]
  exact ⟨hPosition, hLine, hColumn⟩

end Checkpoint

namespace Cursor

variable {c : Cursor} {text : List Char}

/-- A cursor that stands in a text holds that text. -/
theorem StandsIn.input_eq (h : c.StandsIn text) : c.input = text := by
  obtain ⟨before, after, rfl, rfl⟩ := h
  rfl

/-- A checkpoint marks the place where it is taken. -/
theorem StandsIn.checkpoint (h : c.StandsIn text) : c.checkpoint.Marks text := by
  obtain ⟨before, after, rfl, hText⟩ := h
  exact ⟨before, after, rfl, hText⟩

/-- Going back leads to a place of the text, wherever the cursor stood. -/
theorem StandsIn.restore (h : c.StandsIn text) {saved : Checkpoint} (hSaved : saved.Marks text) :
    (c.restore saved).StandsIn text := by
  obtain ⟨before, after, rfl, hText⟩ := hSaved
  -- the checkpoint was taken in the same text, so what lies behind it and ahead of it is there
  have hInput : c.input = (between before after).input := h.input_eq.trans hText.symm
  rw [restore_checkpoint hInput]
  exact ⟨before, after, rfl, hText⟩

-- ---------------------------------------------------------------------------
-- What can be read from a place
-- ---------------------------------------------------------------------------

/-- A run of steps is the loop that goes on as long as the character ahead satisfies `p`. -/
theorem advanceWhile_eq (c : Cursor) (p : Char → Bool) :
    c.advanceWhile p = if c.peek?.any p then c.advance.advanceWhile p else c := by
  unfold advanceWhile countWhile peek?
  rw [rest_advance]
  cases c.rest with
  | nil => rfl
  | cons ch rest =>
    rw [List.head?_cons, Option.any_some, List.takeWhile_cons, List.tail_cons]
    cases p ch with
    | true => rfl
    | false => rfl

/-- A run of steps puts the characters that satisfy `p` behind the cursor, up to the first that does
not. -/
theorem advanceWhile_between (before after : List Char) (p : Char → Bool) :
    (between before after).advanceWhile p =
      between (before ++ after.takeWhile p) (after.dropWhile p) := by
  have hSkip := skip_between before (after.takeWhile p) (after.dropWhile p)
  rwa [List.takeWhile_append_dropWhile] at hSkip

/-- The text from a place that lies behind up to the cursor is what stands between the two. -/
theorem sliceFrom_between (before word after : List Char) :
    (between (before ++ word) after).sliceFrom before.length = .ok (String.ofList word) := by
  have hInside : before.length ≤ (before ++ word).length ∧
      (before ++ word).length ≤ (before ++ word ++ after).length := by
    simp only [List.length_append]
    omega
  have hWord : ((before ++ word ++ after).drop before.length).take
      ((before ++ word).length - before.length) = word := by
    rw [List.append_assoc, List.drop_left, List.length_append, Nat.add_sub_cancel_left,
      List.take_left]
  exact (if_pos hInside).trans (congrArg (fun cs => Except.ok (String.ofList cs)) hWord)

/-- At a place of a text it can be told what the text goes on with. -/
theorem StandsIn.startsWith (h : c.StandsIn text) (s : String) :
    ∃ holds, c.startsWith s = .ok holds ∧
      (holds = true ↔ s.toList <+: text.drop c.position) := by
  obtain ⟨before, after, rfl, rfl⟩ := h
  have hInside : (between before after).position ≤ (between before after).input.length := by
    show before.length ≤ (before ++ after).length
    rw [List.length_append]
    exact Nat.le_add_right _ _
  refine ⟨_, if_pos hInside, ?_⟩
  rw [position_between, List.drop_left]
  exact List.isPrefixOf_iff_prefix

/-- At a place of a text a run of steps takes the longest word ahead whose characters all satisfy
`p`. It tells the length of that word, and the text from the place on is that word. -/
theorem StandsIn.advanceWhile (h : c.StandsIn text) (p : Char → Bool) :
    ∃ word, LongestPrefix (fun word => ∀ ch ∈ word, p ch = true) (text.drop c.position) word ∧
      c.countWhile p = word.length ∧
      (c.advanceWhile p).position = c.position + word.length ∧
      (c.advanceWhile p).sliceFrom c.position = .ok (String.ofList word) := by
  obtain ⟨before, after, rfl, rfl⟩ := h
  rw [position_between, List.drop_left, advanceWhile_between]
  exact ⟨after.takeWhile p, longestPrefix_takeWhile p after, rfl,
    List.length_append, sliceFrom_between before _ _⟩

-- ---------------------------------------------------------------------------
-- Walks
-- ---------------------------------------------------------------------------

/-- What moves a cursor or remembers where it stands. A run whose condition changes on the way takes
some number of steps, as do so many single ones. -/
inductive Move where
  | advance
  | advanceWhile (p : Char → Bool)
  | checkpoint
  /-- Go back to the checkpoint that was taken when there were `index` of them. -/
  | restore (index : Nat)

/-- A cursor on its way, with the checkpoints that were taken, the first of them first. -/
structure Walk where
  cursor : Cursor
  taken : List Checkpoint

namespace Walk

/-- The cursor at the beginning of a source. -/
def start (source : String) : Walk := { cursor := ofString source, taken := [] }

/-- Make a move. There is no way back to a checkpoint that was not taken. -/
def move (w : Walk) : Move → Walk
  | .advance => { w with cursor := w.cursor.advance }
  | .advanceWhile p => { w with cursor := w.cursor.advanceWhile p }
  | .checkpoint => { w with taken := w.taken ++ [w.cursor.checkpoint] }
  | .restore index =>
    match w.taken[index]? with
    | none => w
    | some saved => { w with cursor := w.cursor.restore saved }

/-- The cursor and all checkpoints are places of a text. -/
structure Within (w : Walk) (text : List Char) : Prop where
  cursor : w.cursor.StandsIn text
  taken : ∀ saved ∈ w.taken, saved.Marks text

/-- A walk begins at a place of its source. -/
theorem within_start (source : String) : (start source).Within source.toList :=
  ⟨⟨[], source.toList, rfl, rfl⟩, nofun⟩

/-- Every move leads to a place of the text. -/
theorem Within.move {w : Walk} {text : List Char} (h : w.Within text) (m : Move) :
    (w.move m).Within text := by
  cases m with
  | advance => exact ⟨h.cursor.advance, h.taken⟩
  | advanceWhile p => exact ⟨h.cursor.skip _, h.taken⟩
  | checkpoint =>
    refine ⟨h.cursor, ?_⟩
    show ∀ saved ∈ w.taken ++ [w.cursor.checkpoint], saved.Marks text
    rw [List.forall_mem_append, List.forall_mem_singleton]
    exact ⟨h.taken, h.cursor.checkpoint⟩
  | restore index =>
    cases hSaved : w.taken[index]? with
    | none =>
      have hStays : w.move (.restore index) = w := by simp only [Walk.move, hSaved]
      rw [hStays]
      exact h
    | some saved =>
      have hBack : w.move (.restore index) = { w with cursor := w.cursor.restore saved } := by
        simp only [Walk.move, hSaved]
      rw [hBack]
      exact ⟨h.cursor.restore (h.taken saved (List.mem_of_getElem? hSaved)), h.taken⟩

end Walk

/-- Start at the beginning of a source and make moves. -/
def walk (source : String) (moves : List Move) : Walk := moves.foldl Walk.move (.start source)

/-- Whatever the moves are, the cursor and all checkpoints are places of the source. -/
theorem within_walk (source : String) (moves : List Move) :
    (walk source moves).Within source.toList := by
  -- the last move starts at a place of the source, and no move leads anywhere else
  induction moves using List.reverseRecOn with
  | nil => exact Walk.within_start source
  | append_singleton moves m ih =>
    rw [walk, List.foldl_append, List.foldl_cons, List.foldl_nil]
    exact ih.move m

/-- **A cursor knows where it stands.** It may step on, run on, take checkpoints and go back to any
of them, as often as it likes. Its offset lies in the source, and its line and column are those
behind as many characters; the same holds of the checkpoints, so any two that are taken on the way,
or could be taken now, are equal when their offsets are. From there a run steps on while the
character ahead satisfies the condition. It takes the longest word of such characters, tells the
length of that word, and leaves it behind as the text from the old offset on. And it can always be
told whether the source goes on with a given text. -/
theorem walk_wellPlaced (source : String) (moves : List Move) :
    let text := source.toList
    let c := (walk source moves).cursor
    let taken := (walk source moves).taken
    c.sourceLength = source.length ∧ c.position ≤ c.sourceLength ∧
      c.location = Location.behind (text.take c.position) ∧
      (∀ saved ∈ taken, saved.position ≤ c.sourceLength ∧
        (⟨saved.line, saved.column⟩ : Location) = Location.behind (text.take saved.position)) ∧
      (∀ a ∈ c.checkpoint :: taken, ∀ b ∈ c.checkpoint :: taken,
        a = b ↔ a.position = b.position) ∧
      (∀ p, c.advanceWhile p = (if c.peek?.any p then c.advance.advanceWhile p else c) ∧
        ∃ word, LongestPrefix (fun word => ∀ ch ∈ word, p ch = true) (text.drop c.position) word ∧
          c.countWhile p = word.length ∧
          (c.advanceWhile p).position = c.position + word.length ∧
          (c.advanceWhile p).sliceFrom c.position = .ok (String.ofList word)) ∧
      ∀ s : String, ∃ holds, c.startsWith s = .ok holds ∧
        (holds = true ↔ s.toList <+: text.drop c.position) := by
  intro text c taken
  have hWithin : (walk source moves).Within text := within_walk source moves
  have hMarks : ∀ saved ∈ c.checkpoint :: taken, saved.Marks text := by
    rw [List.forall_mem_cons]
    exact ⟨hWithin.cursor.checkpoint, hWithin.taken⟩
  have hLength : c.sourceLength = text.length := congrArg List.length hWithin.cursor.input_eq
  obtain ⟨hPosition, hLocation⟩ := hWithin.cursor.checkpoint.place
  rw [hLength]
  refine ⟨String.length_toList, hPosition, hLocation, ?places, ?offsets, ?runs,
    hWithin.cursor.startsWith⟩
  case places => exact fun saved hSaved => (hWithin.taken saved hSaved).place
  case offsets => exact fun a ha b hb => (hMarks a ha).eq_iff (hMarks b hb)
  case runs => exact fun p => ⟨advanceWhile_eq c p, hWithin.cursor.advanceWhile p⟩

/-- The cursor goes back over a line break, forward again, and back once more by the same
checkpoint. Then it stands before the mark of an exponent, in the first line. -/
theorem walk_wellPlaced_behind_restores :
    let moves : List Move := [.advance, .checkpoint, .advanceWhile (· != '+'), .checkpoint,
      .restore 0, .restore 1, .restore 0]
    let c := (walk "1e\n+" moves).cursor
    (walk "1e\n+" moves).taken = [⟨1, 1, 2⟩, ⟨3, 2, 1⟩] ∧ c.location = ⟨1, 2⟩ ∧
      (⟨1, 1, 2⟩ ∈ (walk "1e\n+" moves).taken ∧
        (⟨1, 2⟩ : Location) = Location.behind ("1e\n+".toList.take 1)) ∧
      (∃ word, LongestPrefix (fun word => ∀ ch ∈ word, (ch != '\n') = true) "e\n+".toList word ∧
        c.countWhile (· != '\n') = word.length) ∧
      c.startsWith "e\n" = .ok true := by
  intro moves c
  have hTaken : (walk "1e\n+" moves).taken = [⟨1, 1, 2⟩, ⟨3, 2, 1⟩] := by decide
  obtain ⟨-, -, -, hPlaces, -, hRuns, hStarts⟩ := walk_wellPlaced "1e\n+" moves
  have hFirst : ⟨1, 1, 2⟩ ∈ (walk "1e\n+" moves).taken := by
    rw [hTaken]
    exact List.mem_cons_self
  obtain ⟨word, hLongest, hCount, -⟩ := (hRuns (· != '\n')).2
  obtain ⟨holds, hHolds, hIff⟩ := hStarts "e\n"
  refine ⟨hTaken, by decide, ⟨hFirst, (hPlaces _ hFirst).2⟩, ⟨word, hLongest, hCount⟩, ?_⟩
  rw [hHolds, hIff.2 (by decide)]

end Cursor

end CTokens
