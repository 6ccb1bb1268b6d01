import CTokens.Cursor

/-!
# CTokens — positions

Where a cursor stands follows from the text behind it alone: its offset is the length of that
text, its line counts the line breaks in it, and its column counts the characters behind the last
of them. Moving and going back keep the three in step because each of them is this one function of
the text behind.

Positions compose. What follows a text begins where the text ends, and a location inside of it is
a location of the whole once it is carried there: on the first line the columns are shifted, on
every later line the lines are.

Main statements:

* `Location.behind_append` — the location behind two texts is that behind the second, carried to
  that behind the first;
* `Location.behind_lt_append` — whatever is appended to a text moves the location behind it on;
* `Cursor.skip_between` — a cursor that steps over a text stands between what lay behind it with
  that text, and the rest;
* `Cursor.StandsIn.skip` — a cursor that steps on stays in its text.
-/

namespace CTokens

-- ---------------------------------------------------------------------------
-- Locations
-- ---------------------------------------------------------------------------

namespace Location

/-- The location behind a text: one line more than it has line breaks, and one column more than it
has characters behind the last of them. -/
def behind (cs : List Char) : Location :=
  ⟨1 + cs.count '\n', 1 + (cs.reverse.takeWhile (· != '\n')).length⟩

/-- The place of a location `l` of a text that begins at `base`. -/
def after (base l : Location) : Location :=
  if l.line = 1 then ⟨base.line, base.column + l.column - 1⟩
  else ⟨base.line + l.line - 1, l.column⟩

/-- The characters of a text without a line break all stand on its last line. -/
private theorem lastLine_append_of_notMem {a b : List Char} (h : '\n' ∉ b) :
    ((a ++ b).reverse.takeWhile (· != '\n')).length =
      b.length + (a.reverse.takeWhile (· != '\n')).length := by
  have hAll : ∀ c ∈ b.reverse, (c != '\n') = true := by
    intro c hc
    rw [List.mem_reverse] at hc
    rw [bne_iff_ne]
    rintro rfl
    exact h hc
  rw [List.reverse_append, List.takeWhile_append_of_pos hAll, List.length_append,
    List.length_reverse]

/-- The last line of a text is unchanged by what stands before one of its line breaks. -/
private theorem lastLine_append_of_mem {a b : List Char} (h : '\n' ∈ b) :
    (a ++ b).reverse.takeWhile (· != '\n') = b.reverse.takeWhile (· != '\n') := by
  have hStops : (b.reverse.takeWhile (· != '\n')).length ≠ b.reverse.length := by
    intro hLength
    have hWhole := (List.takeWhile_prefix (l := b.reverse) (· != '\n')).eq_of_length hLength
    have hAll := List.all_takeWhile (l := b.reverse) (p := (· != '\n'))
    rw [hWhole, List.all_eq_true] at hAll
    have hBreak := hAll '\n' (List.mem_reverse.2 h)
    simp at hBreak
  rw [List.reverse_append, List.takeWhile_append, if_neg hStops]

/-- Behind a text without a line break the location is on the same line, as many columns further. -/
theorem behind_append_of_notMem (a : List Char) {b : List Char} (h : '\n' ∉ b) :
    behind (a ++ b) = ⟨(behind a).line, (behind a).column + b.length⟩ := by
  have hCount : b.count '\n' = 0 := List.count_eq_zero.2 h
  simp only [behind, lastLine_append_of_notMem h, List.count_append, hCount, Location.mk.injEq]
  omega

/-- The location behind `a ++ b` is the location behind `b`, carried to where `a` ends. -/
theorem behind_append (a b : List Char) : behind (a ++ b) = (behind a).after (behind b) := by
  by_cases h : '\n' ∈ b
  · -- the last line begins in `b`
    have hLine : (behind b).line ≠ 1 := by
      have hCount := List.count_pos_iff.2 h
      show 1 + b.count '\n' ≠ 1
      omega
    rw [after, if_neg hLine]
    simp only [behind, lastLine_append_of_mem h, List.count_append, Location.mk.injEq, and_true]
    omega
  · -- the last line of `a` goes on through all of `b`
    have hAlone : behind b = ⟨1, 1 + b.length⟩ := behind_append_of_notMem [] h
    rw [behind_append_of_notMem a h, hAlone, after, if_pos rfl]
    simp only [Location.mk.injEq, true_and]
    omega

/-- What is appended to a text moves the location behind it on. -/
theorem behind_lt_append (a : List Char) {b : List Char} (hb : b ≠ []) :
    behind a < behind (a ++ b) := by
  by_cases h : '\n' ∈ b
  · -- on a later line
    have hCount := List.count_pos_iff.2 h
    refine Or.inl ?_
    show 1 + a.count '\n' < 1 + (a ++ b).count '\n'
    rw [List.count_append]
    omega
  · -- further on in the same line
    have hLength := List.length_pos_iff.2 hb
    rw [behind_append_of_notMem a h]
    exact Or.inr ⟨rfl, Nat.lt_add_of_pos_right hLength⟩

end Location

-- ---------------------------------------------------------------------------
-- Cursors
-- ---------------------------------------------------------------------------

namespace Cursor

/-- The cursor between two parts of a source. -/
def between (before after : List Char) : Cursor :=
  { input := before ++ after
    position := before.length
    line := (Location.behind before).line
    column := (Location.behind before).column
    rest := after
    rest_eq := List.drop_left.symm }

@[simp] theorem position_between (before after : List Char) :
    (between before after).position = before.length := rfl

@[simp] theorem location_between (before after : List Char) :
    (between before after).location = Location.behind before := rfl

/-- Stepping over a character puts it behind the cursor. -/
theorem advance_between (before : List Char) (c : Char) (after : List Char) :
    (between before (c :: after)).advance = between (before ++ [c]) after := by
  have hBehind := Location.behind_append before [c]
  unfold advance peek? past between
  by_cases hc : c = '\n'
  · subst hc
    rw [hBehind]
    simp [Location.behind, Location.after]
  · rw [hBehind]
    simp [Location.behind, Location.after, hc]

/-- Stepping over a text puts all of it behind the cursor. -/
theorem skip_between (before cs after : List Char) :
    (between before (cs ++ after)).skip cs.length = between (before ++ cs) after := by
  induction cs generalizing before with
  | nil => rw [List.nil_append, List.append_nil]; rfl
  | cons c cs ih =>
    rw [List.cons_append, List.length_cons, skip, advance_between, ih, List.append_assoc]
    rfl

/-- A cursor stands between two parts of a text. -/
def StandsIn (c : Cursor) (text : List Char) : Prop :=
  ∃ before after, c = between before after ∧ before ++ after = text

/-- A single step does not lead out of the text. At its end there is none to take. -/
theorem StandsIn.advance {c : Cursor} {text : List Char} (h : c.StandsIn text) :
    c.advance.StandsIn text := by
  obtain ⟨before, after, rfl, rfl⟩ := h
  cases after with
  | nil => exact ⟨before, [], rfl, rfl⟩
  | cons ch after =>
    rw [advance_between]
    exact ⟨before ++ [ch], after, rfl, List.append_assoc before [ch] after⟩

/-- Stepping on does not lead out of the text. -/
theorem StandsIn.skip {c : Cursor} {text : List Char} (h : c.StandsIn text) (n : Nat) :
    (c.skip n).StandsIn text := by
  induction n generalizing c with
  | zero => exact h
  | succ n ih => exact ih h.advance

end Cursor

end CTokens
