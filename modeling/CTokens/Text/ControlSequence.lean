/-!
# CTokens — control sequences

A terminal takes some of what it is sent for commands: control characters, and sequences that the
escape character begins. Text gets its attributes by such sequences, and text that does not go to
a terminal is freed from them. White space stays, and so do all characters beyond ASCII outside
of sequences.

White space within a sequence is text as well. The text goes on behind it, and the sequence does
so with the next control character.

Main statements:

* `isShown_of_mem_plain` — freed text has no control characters but white space;
* `plain_eq_self` — text without control characters stays as it is.
-/

namespace CTokens.Text

/-- Text with the attribute that has a given code. -/
def attributed (code text : String) : String :=
  "\x1b[" ++ code ++ "m" ++ text ++ "\x1b[0m"

-- ---------------------------------------------------------------------------
-- Characters
-- ---------------------------------------------------------------------------

/-- White space among the control characters. -/
def isSpacing (c : Char) : Bool := c == '\t' || c == '\n' || c == '\x0c' || c == '\r'

/-- Whether a character lies beyond ASCII. -/
def isBeyondAscii (c : Char) : Bool := decide (0x80 ≤ c.toNat)

/-- Whether a character is between two bounds, both included. -/
def isWithin (c lo hi : Char) : Bool := decide (lo ≤ c) && decide (c ≤ hi)

/-- Whether a character is shown outside of sequences. -/
def isShown (c : Char) : Bool := isBeyondAscii c || isWithin c ' ' '~' || isSpacing c

/-- Whether a character has the byte that ends a string, in the encoding of the text. -/
def hasTerminator (c : Char) : Bool := (String.utf8EncodeChar c).contains 0x9C

-- ---------------------------------------------------------------------------
-- Sequences
-- ---------------------------------------------------------------------------

/-- Where in a sequence a character stands. -/
inductive Position where
  /-- Outside of sequences. -/
  | outside
  /-- Behind the escape character. -/
  | escape
  /-- Behind the intermediate characters of an escape sequence. -/
  | escapeIntermediate
  /-- Among the parameters of a control sequence. -/
  | control
  /-- At the head of a device string: at its beginning, among its parameters, or behind its
  intermediate characters. -/
  | deviceEntry
  | deviceParameter
  | deviceIntermediate
  /-- In the body of a device string, or in a string without a head. -/
  | body
  /-- In a command to the operating system. -/
  | systemCommand
deriving DecidableEq, Repr

namespace Position

/-- Whether white space at a position is shown. -/
def showsSpacing : Position → Bool
  | outside | escape | escapeIntermediate | control => true
  | _ => false

/-- The position behind a printable character of ASCII. -/
def afterPrintable (p : Position) (c : Char) : Position :=
  match p with
  | outside => .outside
  | escape =>
    if isWithin c ' ' '/' then .escapeIntermediate
    else if c = '[' then .control
    else if c = ']' then .systemCommand
    else if c = 'P' then .deviceEntry
    else if c = 'X' ∨ c = '^' ∨ c = '_' then .body
    else .outside
  | escapeIntermediate => if isWithin c ' ' '/' then .escapeIntermediate else .outside
  | control => if isWithin c '@' '~' then .outside else .control
  | deviceEntry =>
    if isWithin c ' ' '/' then .deviceIntermediate
    else if isWithin c '0' '?' then .deviceParameter
    else .body
  | deviceParameter =>
    if isWithin c ' ' '/' then .deviceIntermediate
    else if isWithin c '0' ';' then .deviceParameter
    else .body
  | deviceIntermediate => if isWithin c ' ' '/' then .deviceIntermediate else .body
  | body => .body
  | systemCommand => .systemCommand

/-- The position behind a character. -/
def after (p : Position) (c : Char) : Position :=
  if c = '\x1b' then .escape
  else if c = '\x18' ∨ c = '\x1a' then .outside
  else if p = .systemCommand ∧ c = '\x07' then .outside
  else if p = .body ∧ hasTerminator c then .outside
  else if isWithin c ' ' '~' then p.afterPrintable c
  else p

/-- Whether a character at a position is shown. -/
def shows (p : Position) (c : Char) : Bool :=
  (p == .outside && isShown c) || (p.showsSpacing && isSpacing c)

end Position

/-- What is shown of a text from a position on, where `textGoesOn` says whether the character before
was shown. -/
def plainFrom (textGoesOn : Bool) (p : Position) : List Char → List Char
  | [] => []
  | c :: cs =>
    if textGoesOn && isShown c then
      c :: plainFrom true (if isBeyondAscii c then .outside else p) cs
    else if p.shows c then c :: plainFrom true (p.after c) cs
    else plainFrom false (p.after c) cs

/-- A text without control sequences and control characters. -/
def plain (s : String) : String := String.ofList (plainFrom false .outside s.toList)

-- ---------------------------------------------------------------------------
-- Laws
-- ---------------------------------------------------------------------------

/-- What is shown at some position is no control character. -/
theorem isShown_of_shows {p : Position} {c : Char} (h : p.shows c = true) :
    isShown c = true := by
  simp only [Position.shows, Bool.or_eq_true, Bool.and_eq_true] at h
  rcases h with h | h
  · exact h.2
  · simp [isShown, h.2]

theorem isShown_of_mem_plainFrom {goesOn : Bool} {p : Position} {cs : List Char} {c : Char}
    (h : c ∈ plainFrom goesOn p cs) : isShown c = true := by
  induction cs generalizing goesOn p with
  | nil => cases h
  | cons d cs ih =>
    rw [plainFrom] at h
    split at h
    · next hd =>
      rcases List.mem_cons.1 h with rfl | h
      · exact (Bool.and_eq_true _ _ ▸ hd).2
      · exact ih h
    split at h
    · next hd =>
      rcases List.mem_cons.1 h with rfl | h
      · exact isShown_of_shows hd
      · exact ih h
    · exact ih h

/-- A text without control sequences has no control characters either. -/
theorem isShown_of_mem_plain {s : String} {c : Char} (h : c ∈ (plain s).toList) :
    isShown c = true := by
  rw [plain, String.toList_ofList] at h
  exact isShown_of_mem_plainFrom h

/-- Characters that are shown do not begin a control sequence. -/
theorem after_outside {c : Char} (h : isShown c = true) : Position.outside.after c = .outside := by
  have hEscape : c ≠ '\x1b' := by rintro rfl; exact absurd h (by decide)
  rw [Position.after, if_neg hEscape]
  split
  · rfl
  split
  · rfl
  split
  · rfl
  split <;> rfl

theorem plainFrom_eq_self {goesOn : Bool} {cs : List Char} (h : ∀ c ∈ cs, isShown c = true) :
    plainFrom goesOn .outside cs = cs := by
  induction cs generalizing goesOn with
  | nil => rfl
  | cons c cs ih =>
    have hc := h c List.mem_cons_self
    have hcs : ∀ d ∈ cs, isShown d = true := fun d hd => h d (List.mem_cons_of_mem c hd)
    rw [plainFrom]
    split
    · rw [ite_self, ih hcs]
    · have hShows : Position.outside.shows c = true := by simp [Position.shows, hc]
      rw [if_pos hShows, after_outside hc, ih hcs]

/-- A text of characters that are shown is left as it is. -/
theorem plain_eq_self {s : String} (h : ∀ c ∈ s.toList, isShown c = true) : plain s = s := by
  rw [plain, plainFrom_eq_self h, String.ofList_toList]

end CTokens.Text
