import CTokens.Explorer.TokenPane
import CTokens.Proofs.Displays
import CTokens.Unicode.Control

/-!
# CTokens — escaped text read back

What is escaped can be read back. A backslash opens an escape and nothing else does, since a
backslash of the text is escaped itself; so a text that looks like an escape is not taken for one.
Which characters a rule escapes does not matter for that. A cell may show a mark by its code point
where the mark comes first and as it is everywhere else, and both are read as the mark.

What is shown is printable, and no control character is. A row of the token list puts such a cell
behind a location and the name of a kind, so it takes one line.

Main results:

* `Unicode.isControl_of_isPrintable` — no printable character is a control character;
* `Text.escapeChar_cases` — the three ways in which a character is shown;
* `Text.unescape_cell` — a cell is read back as its text;
* `TokenPane.row_readBack` — a row is one printable line and tells the text of its token.
-/

namespace CTokens

open Unicode

-- ---------------------------------------------------------------------------
-- Printable characters
-- ---------------------------------------------------------------------------

namespace Unicode

/-- The characters of ASCII that are no control characters are printable. -/
theorem isPrintable_of_ascii {c : Char} (h : 0x20 ≤ c.toNat) (h' : c.toNat ≤ 0x7E) :
    isPrintable c = true :=
  of_ascii (p := fun c => isPrintable c = true) (by decide +kernel) h h'

/-- No printable character is a control character. -/
theorem isControl_of_isPrintable {c : Char} (h : isPrintable c = true) : isControl c = false := by
  rw [← Bool.not_eq_true]
  intro hControl
  -- the control characters are two of the ranges that are not printable
  have hLow : (0x0, 0x1F) ∈ unprintableRanges.ranges := List.mem_cons_self
  have hHigh : (0x7F, 0xA0) ∈ unprintableRanges.ranges :=
    List.mem_cons_of_mem _ List.mem_cons_self
  have hCovered : unprintableRanges.covers c.toNat = true := by
    rw [RangeTable.covers_eq_true_iff]
    simp only [isControl, Bool.or_eq_true, Bool.and_eq_true, decide_eq_true_eq] at hControl
    rcases hControl with hBelow | ⟨hFrom, hBelow⟩
    · exact ⟨_, hLow, Nat.zero_le _, Nat.le_of_lt_succ hBelow⟩
    · exact ⟨_, hHigh, hFrom, Nat.le_of_lt hBelow⟩
  rw [isPrintable, hCovered] at h
  cases h

end Unicode

namespace Text

-- ---------------------------------------------------------------------------
-- How a character is shown
-- ---------------------------------------------------------------------------

/-- What may stand behind the backslash of an escape, with the character that is meant. -/
def escapeLetters : List (Char × Char) :=
  [('0', '\x00'), ('t', '\t'), ('r', '\r'), ('n', '\n'), ('\x27', '\x27'), ('\x22', '\x22'),
   ('\\', '\\')]

/-- A character is shown by a letter behind a backslash, by its code point, or as it is. No
backslash is shown as it is. -/
theorem escapeChar_cases (rule : EscapeRule) (c : Char) :
    (∃ letter, (letter, c) ∈ escapeLetters ∧ escapeChar rule c = ['\\', letter]) ∨
      escapeChar rule c = codePoint c ∨
      (c ≠ '\\' ∧ isPrintable c = true ∧ escapeChar rule c = [c]) := by
  unfold escapeChar
  split
  · next h => exact .inl ⟨'0', by rw [h]; decide, rfl⟩
  split
  · next h => exact .inl ⟨'t', by rw [h]; decide, rfl⟩
  split
  · next h => exact .inl ⟨'r', by rw [h]; decide, rfl⟩
  split
  · next h => exact .inl ⟨'n', by rw [h]; decide, rfl⟩
  split
  · next h => exact .inl ⟨'\\', by rw [h]; decide, rfl⟩
  next hBackslash =>
  -- a quote that the rule escapes stands for itself
  split
  · next h => exact .inl ⟨c, by rw [h.1]; decide, rfl⟩
  split
  · next h => exact .inl ⟨c, by rw [h.1]; decide, rfl⟩
  split
  · exact .inr (.inl rfl)
  · next hShown =>
    rw [Bool.or_eq_true, not_or, Bool.not_eq_true', Bool.not_eq_false] at hShown
    exact .inr (.inr ⟨hBackslash, hShown.2, rfl⟩)

/-- The digits of a code point are among sixteen. -/
theorem mem_toDigits_sixteen {n : Nat} {c : Char} (h : c ∈ Nat.toDigits 16 n) :
    ∃ d, d < 16 ∧ c = Nat.digitChar d := by
  -- a number of more than one digit is written by its sixteenth part and one digit more
  induction n using Nat.strongRecOn with
  | ind n ih =>
    rcases Nat.lt_or_ge n 16 with hLow | hHigh
    · rw [Nat.toDigits_of_lt_base hLow, List.mem_singleton] at h
      exact ⟨n, hLow, h⟩
    · rw [Nat.toDigits_of_base_le (by decide) hHigh, List.mem_append, List.mem_singleton] at h
      rcases h with hEarlier | hLast
      · exact ih (n / 16) (by omega) hEarlier
      · exact ⟨n % 16, Nat.mod_lt n (by decide), hLast⟩

/-- A code point is written in printable characters. -/
theorem isPrintable_of_mem_codePoint {c d : Char} (h : d ∈ codePoint c) : isPrintable d = true := by
  have hOpenings : ['\\', 'u', '{'].all isPrintable = true := by decide +kernel
  have hDigits : ∀ n < 16, isPrintable (Nat.digitChar n) = true := by decide +kernel
  rw [codePoint, List.mem_append, List.mem_append] at h
  rcases h with (hOpening | hDigit) | hClosing
  · exact List.all_eq_true.1 hOpenings d hOpening
  · obtain ⟨n, hn, rfl⟩ := mem_toDigits_sixteen hDigit
    exact hDigits n hn
  · rw [List.mem_singleton.1 hClosing]
    decide +kernel

/-- What is shown of a character is printable. -/
theorem isPrintable_of_mem_escapeChar {rule : EscapeRule} {c d : Char}
    (h : d ∈ escapeChar rule c) : isPrintable d = true := by
  have hLetters : (escapeLetters.map Prod.fst).all isPrintable = true := by decide +kernel
  rcases escapeChar_cases rule c with ⟨letter, hLetter, hShown⟩ | hShown | ⟨-, hPrintable, hShown⟩
  · rw [hShown, List.mem_pair] at h
    rcases h with rfl | rfl
    · decide +kernel
    · exact List.all_eq_true.1 hLetters d (List.mem_map_of_mem hLetter)
  · rw [hShown] at h
    exact isPrintable_of_mem_codePoint h
  · rw [hShown, List.mem_singleton] at h
    rwa [h]

/-- All that a cell shows is printable. -/
theorem isPrintable_of_mem_cell {cs : List Char} {d : Char} (h : d ∈ cell cs) :
    isPrintable d = true := by
  cases cs with
  | nil => cases h
  | cons c cs =>
    rcases List.mem_append.1 h with hFirst | hLater
    · exact isPrintable_of_mem_escapeChar hFirst
    · obtain ⟨c', -, hShown⟩ := List.mem_flatMap.1 hLater
      exact isPrintable_of_mem_escapeChar hShown

-- ---------------------------------------------------------------------------
-- Reading back
-- ---------------------------------------------------------------------------

/-- The value of a hexadecimal digit. -/
def hexValue? (c : Char) : Option Nat := "0123456789abcdef".toList.idxOf? c

/-- The character with a code point, if there is one. -/
def charOf? (n : Nat) : Option Char := if n.isValidChar then some (Char.ofNat n) else none

/-- How far an escape has been read. -/
inductive EscapeState where
  | outside
  /-- The backslash has been read. -/
  | opened
  /-- The letter of a code point has been read. -/
  | marked
  /-- The brace of a code point has been read, and the digits so far have a value, if there are
  any. -/
  | within (value : Option Nat)
deriving DecidableEq

/-- How far an escape has been read behind one more character, and the character that has been told
by then, if one has. -/
def EscapeState.next? (state : EscapeState) (c : Char) : Option (EscapeState × Option Char) :=
  match state with
  | .outside => some (if c = '\\' then (.opened, none) else (.outside, some c))
  | .opened =>
    if c = 'u' then some (.marked, none)
    else (escapeLetters.lookup c).map fun meant => (.outside, some meant)
  | .marked => if c = '{' then some (.within none, none) else none
  | .within value =>
    if c = '}' then (value.bind charOf?).map fun meant => (.outside, some meant)
    else (hexValue? c).map fun digit => (.within (some (16 * value.getD 0 + digit)), none)

/-- Read on. An escape that is unknown or does not end cannot be read. -/
def unescapeFrom (state : EscapeState) : List Char → Option (List Char)
  | [] => if state = .outside then some [] else none
  | c :: cs =>
    match state.next? c with
    | none => none
    | some (next, told) => (unescapeFrom next cs).map (told.toList ++ ·)

/-- A text without its escapes: what they mean stands in their place. -/
def unescape (cs : List Char) : Option (List Char) := unescapeFrom .outside cs

/-- Reading goes on behind a character with what it has told. -/
theorem unescapeFrom_cons {state next : EscapeState} {c : Char} {told : Option Char}
    (h : state.next? c = some (next, told)) (cs : List Char) :
    unescapeFrom state (c :: cs) = (unescapeFrom next cs).map (told.toList ++ ·) := by
  rw [unescapeFrom, h]

/-- Where a character tells nothing yet, what follows tells all. -/
theorem unescapeFrom_cons_of_none {state next : EscapeState} {c : Char}
    (h : state.next? c = some (next, none)) (cs : List Char) :
    unescapeFrom state (c :: cs) = unescapeFrom next cs := by
  rw [unescapeFrom_cons h]
  exact Option.map_id'

/-- A letter behind a backslash is read as the character that it means. -/
theorem unescapeFrom_letter {letter c : Char} (h : (letter, c) ∈ escapeLetters) (rest : List Char) :
    unescapeFrom .outside ('\\' :: letter :: rest) = (unescapeFrom .outside rest).map (c :: ·) := by
  have hMeans : ∀ p ∈ escapeLetters, EscapeState.opened.next? p.1 = some (.outside, some p.2) := by
    decide
  rw [unescapeFrom_cons_of_none rfl, unescapeFrom_cons (hMeans _ h)]
  rfl

/-- A digit of a code point is added behind those before it. -/
theorem next?_within_digit (value : Option Nat) {d : Nat} (h : d < 16) :
    (EscapeState.within value).next? (Nat.digitChar d) =
      some (.within (some (16 * value.getD 0 + d)), none) := by
  have hDigits : ∀ d < 16, Nat.digitChar d ≠ '}' ∧ hexValue? (Nat.digitChar d) = some d := by
    decide
  obtain ⟨hOpen, hValue⟩ := hDigits d h
  rw [EscapeState.next?, if_neg hOpen, hValue]
  rfl

/-- The digits of a number are read as its value. -/
theorem unescapeFrom_toDigits (n : Nat) (rest : List Char) :
    unescapeFrom (.within none) (Nat.toDigits 16 n ++ rest) =
      unescapeFrom (.within (some n)) rest := by
  induction n using Nat.strongRecOn generalizing rest with
  | ind n ih =>
    rcases Nat.lt_or_ge n 16 with hLow | hHigh
    · rw [Nat.toDigits_of_lt_base hLow, List.singleton_append,
        unescapeFrom_cons_of_none (next?_within_digit none hLow), Option.getD_none, Nat.mul_zero,
        Nat.zero_add]
    · -- the last digit is read behind those of the sixteenth part
      have hLast := next?_within_digit (some (n / 16)) (Nat.mod_lt n (show 0 < 16 by decide))
      rw [Nat.toDigits_of_base_le (by decide) hHigh, List.append_assoc, ih (n / 16) (by omega),
        List.singleton_append, unescapeFrom_cons_of_none hLast, Option.getD_some, Nat.div_add_mod]

theorem charOf?_toNat (c : Char) : charOf? c.toNat = some c := by
  have hValid : c.toNat.isValidChar := c.valid
  rw [charOf?, if_pos hValid, Char.ofNat_toNat]

/-- A character shown by its code point is read as the character. -/
theorem unescapeFrom_codePoint (c : Char) (rest : List Char) :
    unescapeFrom .outside (codePoint c ++ rest) = (unescapeFrom .outside rest).map (c :: ·) := by
  have hEnd : (EscapeState.within (some c.toNat)).next? '}' = some (.outside, some c) := by
    rw [EscapeState.next?, if_pos rfl, Option.bind_some, charOf?_toNat, Option.map_some]
  rw [codePoint, List.append_assoc, List.append_assoc]
  -- backslash, letter and brace tell nothing, the digits tell the number, and the brace behind them
  -- tells the character
  show unescapeFrom .outside ('\\' :: 'u' :: '{' :: (Nat.toDigits 16 c.toNat ++ '}' :: rest)) = _
  rw [unescapeFrom_cons_of_none rfl, unescapeFrom_cons_of_none rfl, unescapeFrom_cons_of_none rfl,
    unescapeFrom_toDigits, unescapeFrom_cons hEnd]
  rfl

/-- What is shown of a character is read as the character, whatever follows it. -/
theorem unescapeFrom_escapeChar (rule : EscapeRule) (c : Char) (rest : List Char) :
    unescapeFrom .outside (escapeChar rule c ++ rest) =
      (unescapeFrom .outside rest).map (c :: ·) := by
  rcases escapeChar_cases rule c with ⟨letter, hLetter, hShown⟩ | hShown | ⟨hPlain, -, hShown⟩
  · rw [hShown]
    exact unescapeFrom_letter hLetter rest
  · rw [hShown]
    exact unescapeFrom_codePoint c rest
  · have hTold : EscapeState.outside.next? c = some (.outside, some c) := by
      rw [EscapeState.next?, if_neg hPlain]
    rw [hShown, List.singleton_append, unescapeFrom_cons hTold]
    rfl

/-- What is escaped by any rule is read back. -/
theorem unescape_escape (rule : EscapeRule) (cs : List Char) :
    unescape (escape rule cs) = some cs := by
  induction cs with
  | nil => rfl
  | cons c cs ih =>
    rw [escape, List.flatMap_cons, unescape, unescapeFrom_escapeChar]
    exact congrArg (Option.map (c :: ·)) ih

/-- A cell is read back as its text. -/
theorem unescape_cell (cs : List Char) : unescape (cell cs) = some cs := by
  cases cs with
  | nil => rfl
  | cons c cs =>
    rw [cell, unescape, unescapeFrom_escapeChar]
    exact congrArg (Option.map (c :: ·)) (unescape_escape withinCell cs)

-- a text that looks like an escape keeps its backslash, where the escape itself loses it
example :
    cell "\\u\x7b41\x7d".toList = "\\\\u\x7b41\x7d".toList ∧
      unescape "\\u\x7b41\x7d".toList = some ['A'] := by
  decide +kernel

end Text

-- ---------------------------------------------------------------------------
-- Rows of the token list
-- ---------------------------------------------------------------------------

/-- Alignment puts spaces in front, which are printable. -/
theorem Text.isPrintable_of_mem_alignRight {width : Nat} {s : String}
    (hText : ∀ c ∈ s.toList, isPrintable c = true) :
    ∀ c ∈ (alignRight width s).toList, isPrintable c = true := by
  rw [alignRight, String.toList_append, String.toList_ofList, List.forall_mem_append]
  refine ⟨fun c hSpace => ?_, hText⟩
  rw [List.eq_of_mem_replicate hSpace]
  decide +kernel

/-- Alignment puts spaces behind, which are printable. -/
theorem Text.isPrintable_of_mem_alignLeft {width : Nat} {s : String}
    (hText : ∀ c ∈ s.toList, isPrintable c = true) :
    ∀ c ∈ (alignLeft width s).toList, isPrintable c = true := by
  rw [alignLeft, String.toList_append, String.toList_ofList, List.forall_mem_append]
  refine ⟨hText, fun c hSpace => ?_⟩
  rw [List.eq_of_mem_replicate hSpace]
  decide +kernel

/-- Numbers are printable. -/
theorem Text.isPrintable_of_mem_toString (n : Nat) :
    ∀ c ∈ (toString n).toList, isPrintable c = true := by
  intro c hDigit
  have hRange : 48 ≤ c.toNat ∧ c.toNat ≤ 57 :=
    Char.isDigit_iff_toNat.1 (isDigit_of_mem_toString hDigit)
  exact isPrintable_of_ascii (by omega) (by omega)

/-- The names of the kinds are printable. -/
theorem TokenKind.isPrintable_of_mem_name (k : TokenKind) :
    ∀ c ∈ k.name.toList, isPrintable c = true := by
  have hAll : ∀ k ∈ all, k.name.toList.all isPrintable = true := by decide +kernel
  exact List.all_eq_true.1 (hAll k (mem_all k))

namespace TokenPane

/-- All of a row is printable. -/
theorem isPrintable_of_mem_row (t : Token) :
    ∀ segment ∈ row t, ∀ c ∈ segment.text.toList, isPrintable c = true := by
  rw [row, List.forall_mem_cons, List.forall_mem_cons, List.forall_mem_singleton]
  refine ⟨?location, ?kind, ?text⟩
  case location =>
    rw [String.toList_append, String.toList_append, List.forall_mem_append, List.forall_mem_append]
    refine ⟨⟨?line, ?colon⟩, ?column⟩
    case line => exact Text.isPrintable_of_mem_alignRight (Text.isPrintable_of_mem_toString _)
    case colon =>
      have hColon : ":".toList.all isPrintable = true := by decide +kernel
      exact List.all_eq_true.1 hColon
    case column => exact Text.isPrintable_of_mem_alignLeft (Text.isPrintable_of_mem_toString _)
  case kind => exact Text.isPrintable_of_mem_alignLeft (TokenKind.isPrintable_of_mem_name t.kind)
  case text =>
    rw [String.toList_ofList]
    exact fun c hShown => Text.isPrintable_of_mem_cell hShown

/-- **A row is one printable line and hides nothing of the text.** It has a location, a kind and a
text. None of them holds a character that is not printable, so there is no control character and no
line break in the row. And the text of the token is read back from the text of the row, which
differs for tokens that differ in their texts. -/
theorem row_readBack :
    (∀ t : Token, ∃ location kind text, row t = [location, kind, text] ∧
      (∀ segment ∈ row t, ∀ c ∈ segment.text.toList,
        isPrintable c = true ∧ isControl c = false) ∧
      Text.unescape text.text.toList = some t.text.toList) ∧
    ∀ t t' : Token,
      (row t)[2]?.map Segment.text = (row t')[2]?.map Segment.text ↔ t.text = t'.text := by
  have hText (t : Token) : (row t)[2]?.map Segment.text =
      some (String.ofList (Text.cell t.text.toList)) := rfl
  refine ⟨fun t => ⟨_, _, _, rfl, ?printable, ?readBack⟩, fun t t' => ⟨?injective, ?congr⟩⟩
  case printable =>
    intro segment hSegment c hc
    have hPrintable := isPrintable_of_mem_row t segment hSegment c hc
    exact ⟨hPrintable, isControl_of_isPrintable hPrintable⟩
  case readBack =>
    rw [String.toList_ofList]
    exact Text.unescape_cell t.text.toList
  case injective =>
    intro hSame
    rw [hText, hText, Option.some.injEq, ← String.toList_inj, String.toList_ofList,
      String.toList_ofList] at hSame
    -- equal cells are read back as equal texts
    have hRead := congrArg Text.unescape hSame
    rw [Text.unescape_cell, Text.unescape_cell, Option.some.injEq] at hRead
    exact String.toList_injective hRead
  case congr =>
    intro hSame
    rw [hText, hText, hSame]

/-- A comment that opens with a mark and holds another one, a line break, and what looks like the
escape of a letter. -/
theorem row_readBack_of_comment :
    let t : Token := ⟨.comment, "\u0301/*\u0301\n\\u\x7b41\x7d*/", ⟨3, 7⟩, ⟨0, 12⟩⟩
    let letter : Token := { t with text := "A" }
    (row t)[2]?.map Segment.text = some "\\u\x7b301\x7d/*\u0301\\n\\\\u\x7b41\x7d*/" ∧
      (∀ segment ∈ row t, '\n' ∉ segment.text.toList) ∧
      (row t)[2]?.map Segment.text ≠ (row letter)[2]?.map Segment.text := by
  intro t letter
  obtain ⟨hRead, hTells⟩ := row_readBack
  obtain ⟨location, kind, text, -, hPrintable, -⟩ := hRead t
  refine ⟨by decide +kernel, ?_, fun hSame => absurd ((hTells t letter).1 hSame) (by decide)⟩
  intro segment hSegment hBreak
  exact absurd (hPrintable segment hSegment '\n' hBreak).2 (by decide)

end TokenPane

end CTokens
