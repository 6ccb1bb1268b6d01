import CTokens.Proofs.Displays
import CTokens.Proofs.Owners
import CTokens.Proofs.Traces

/-!
# CTokens — the lines of a printed listing

A line break ends what is printed of a token, and the text of the token is printed as it is. So a
token whose text has line breaks takes a line more for each of them, and its other lines may look
like anything, even like other tokens. Such texts are those of literals and block comments: all that
other tokens consist of stands on one line.

Main statements:

* `Text.split_entries` — the parts of entries that are ended by breaks are those of each entry;
* `Token.lineBreak_mem_text` — which tokens can have a line break in their text;
* `printedListing_lines` — the lines of a printed listing, and when there is one for each token.
-/

namespace CTokens

open Unicode

-- ---------------------------------------------------------------------------
-- Entries that are ended by breaks
-- ---------------------------------------------------------------------------

namespace Text

variable {α : Type} {isBreak : α → Bool}

/-- A break ends the last part of what stands before it. -/
theorem split_append_break {mark : α} (h : isBreak mark = true) (as bs : List α) :
    split isBreak (as ++ mark :: bs) = split isBreak as ++ split isBreak bs := by
  induction as with
  | nil => exact split_cons_of_break h bs
  | cons a as ih =>
    cases hBreak : isBreak a with
    | true => simp [split_cons_of_break hBreak, ih]
    | false =>
      obtain ⟨part, later, hSplit, hCons⟩ := exists_split_cons hBreak as
      obtain ⟨part', later', hSplit', hCons'⟩ := exists_split_cons hBreak (as ++ mark :: bs)
      rw [hSplit', hSplit] at ih
      obtain ⟨rfl, rfl⟩ := List.cons.inj ih
      rw [List.cons_append, hCons', hCons]
      rfl

/-- The parts of entries that are ended by breaks are those of each entry, and nothing behind the
last break. -/
theorem split_entries {mark : α} (h : isBreak mark = true) (entries : List (List α)) :
    split isBreak (entries.flatMap (· ++ [mark])) = entries.flatMap (split isBreak) ++ [[]] := by
  induction entries with
  | nil => rfl
  | cons entry entries ih =>
    rw [List.flatMap_cons, List.append_assoc, List.singleton_append, split_append_break h, ih,
      List.flatMap_cons, List.append_assoc]

/-- Without breaks there is one part only. -/
theorem split_of_notMem {as : List α} (h : ∀ a ∈ as, isBreak a = false) :
    split isBreak as = [as] := by
  induction as with
  | nil => rfl
  | cons a as ih =>
    obtain ⟨part, later, hSplit, hCons⟩ := exists_split_cons (h a List.mem_cons_self) as
    rw [ih fun b hb => h b (List.mem_cons_of_mem a hb)] at hSplit
    obtain ⟨rfl, rfl⟩ := List.cons.inj hSplit
    exact hCons

/-- Entries have a part more than there are entries for every break in one of them. -/
theorem length_flatMap_split (isBreak : α → Bool) (entries : List (List α)) :
    (entries.flatMap (split isBreak)).length = entries.length + entries.flatten.countP isBreak := by
  induction entries with
  | nil => rfl
  | cons entry entries ih =>
    simp only [List.flatMap_cons, List.flatten_cons, List.length_append, List.length_cons,
      List.countP_append, length_split, ih]
    omega

/-- Entries are parts just when there is no break in them. -/
theorem flatMap_split_eq_self_iff {entries : List (List α)} :
    entries.flatMap (split isBreak) = entries ↔
      ∀ entry ∈ entries, ∀ a ∈ entry, isBreak a = false := by
  constructor
  · intro h
    have hLength := length_flatMap_split isBreak entries
    rw [h] at hLength
    have hNone : entries.flatten.countP isBreak = 0 := by omega
    intro entry hEntry a ha
    rw [← Bool.not_eq_true]
    exact List.countP_eq_zero.1 hNone a (List.mem_flatten_of_mem hEntry ha)
  · intro h
    induction entries with
    | nil => rfl
    | cons entry entries ih =>
      rw [List.forall_mem_cons] at h
      rw [List.flatMap_cons, split_of_notMem h.1, ih h.2, List.singleton_append]

end Text

-- ---------------------------------------------------------------------------
-- Line breaks in what is written of a token
-- ---------------------------------------------------------------------------

/-- What is written of a token has a line break where its text has one, and nowhere else. -/
theorem Token.lineBreak_mem_display_iff {t : Token} :
    '\n' ∈ t.display.toList ↔ '\n' ∈ t.text.toList := by
  have hName : '\n' ∉ t.kind.name.toList := TokenKind.notMem_name rfl
  have hPlace : '\n' ∉ t.location.display.toList := Location.notMem_display rfl (by decide)
  rw [toList_display]
  simp [hName, hPlace]

/-- The lexemes that can show a line break are literals and block comments. -/
theorem Lexeme.exists_of_lineBreak_mem_shown {c : Char} {rest : List Char} {l : Lexeme}
    (hInk : isWhiteSpace c = false) (h : Begins c rest l) (hBreak : '\n' ∈ l.shown) :
    (∃ mark body, l = .quoted mark body) ∨ ∃ body, l = .blockComment body := by
  -- what a word, a number or an operator is made of is no white space, and so no line break; the
  -- first character of a lexeme is none either
  have hOuter : ¬ isInner '\n' = true := by
    rw [isInner_of_isWhiteSpace (by decide)]
    exact Bool.false_ne_true
  have hFirst : '\n' ≠ c := by
    rintro rfl
    exact absurd hInk (by decide)
  cases h with
  | blockComment => exact .inr ⟨_, rfl⟩
  | quoted => exact .inl ⟨_, _, rfl⟩
  | lineComment =>
    rcases List.mem_append.1 hBreak with hMark | hBody
    · exact absurd hMark (by decide)
    · exact absurd (List.all_eq_true.1 List.all_takeWhile _ hBody) (by decide)
  | word =>
    rcases List.mem_cons.1 hBreak with hHead | hTail
    · exact absurd hHead hFirst
    · have hContinues := List.all_eq_true.1 List.all_takeWhile _ hTail
      exact absurd (isInner_of_continuesWord _ hContinues) hOuter
  | number => exact absurd (List.mem_append_left _ hBreak) (Numeral.notMem_lineBreak_read _)
  | operator _ _ hOperator =>
    have hKnown := mem_operators_of_operatorAt? hOperator
    exact absurd (isInner_of_mem_operator hKnown hBreak) hOuter
  | delimiter | unknown => exact absurd (List.mem_singleton.1 hBreak) hFirst

/-- The tokens of a scan that can have a line break in their text are literals and block comments.
-/
theorem Token.lineBreak_mem_text {s : String} {keep : Bool} {t : Token} (h : t ∈ scan s keep)
    (hBreak : '\n' ∈ t.text.toList) :
    t.kind = .stringLiteral ∨ t.kind = .charLiteral ∨
      (t.kind = .comment ∧ Comment.opening <+: t.text.toList) := by
  rw [scan_eq_tokensBehind] at h
  rcases mem_tokensBehind_iff.1 h with hLaid | rfl
  · obtain ⟨before, l, rest, -, hToken, hRead⟩ := exists_lexeme_of_mem_layout hLaid
    rw [List.nil_append] at hToken
    subst hToken
    obtain ⟨c, cs, -, hInk, hBegins⟩ := Piece.begins_of_read hRead
    have hText : (l.tokenBehind before).text.toList = l.shown := String.toList_ofList
    rw [hText] at hBreak ⊢
    rcases l.exists_of_lineBreak_mem_shown hInk hBegins hBreak with ⟨mark, body, rfl⟩ | ⟨body, rfl⟩
    · cases mark with
      | double => exact .inl rfl
      | single => exact .inr (.inl rfl)
    · exact .inr (.inr ⟨rfl, List.prefix_append _ _⟩)
  · -- the mark of the end has no text
    cases hBreak

-- ---------------------------------------------------------------------------
-- The lines that are printed
-- ---------------------------------------------------------------------------

/-- What is printed are the entries of the listing, each ended by a line break. -/
theorem toList_printedListing (s : String) (keep : Bool) :
    (printedListing s keep).toList =
      ((scan s keep).map (·.display.toList)).flatMap (· ++ ['\n']) := by
  simp only [printedListing, listing, String.toList_join, List.flatMap_map, String.toList_append]
  rfl

/-- **A token takes one line of the printed listing, unless its text has line breaks.** The lines
that are printed are those of what is written of each token, one token behind the other, and nothing
behind the last line break. Just when no text has a line break there is one line for each token,
which is what is written of it. Literals and block comments are the only tokens whose text can have
one. -/
theorem printedListing_lines (s : String) (keep : Bool) :
    Text.split (· == '\n') (printedListing s keep).toList =
      ((scan s keep).flatMap fun t => Text.split (· == '\n') t.display.toList) ++ [[]] ∧
    (Text.split (· == '\n') (printedListing s keep).toList =
        (scan s keep).map (·.display.toList) ++ [[]] ↔
      ∀ t ∈ scan s keep, '\n' ∉ t.text.toList) ∧
    ∀ t ∈ scan s keep, '\n' ∈ t.text.toList →
      t.kind = .stringLiteral ∨ t.kind = .charLiteral ∨
        (t.kind = .comment ∧ Comment.opening <+: t.text.toList) := by
  have hLines : Text.split (· == '\n') (printedListing s keep).toList =
      ((scan s keep).map (·.display.toList)).flatMap (Text.split (· == '\n')) ++ [[]] := by
    rw [toList_printedListing]
    exact Text.split_entries rfl _
  refine ⟨?lines, ?each, fun t ht hBreak => Token.lineBreak_mem_text ht hBreak⟩
  case lines => rw [hLines, List.flatMap_map]
  case each =>
    -- an entry is one line when it has no break, and it has one where its text does
    rw [hLines, List.append_left_inj, Text.flatMap_split_eq_self_iff, List.forall_mem_map]
    refine forall₂_congr fun t _ => ?_
    rw [← Token.lineBreak_mem_display_iff]
    simp only [beq_eq_false_iff_ne, ne_eq, List.forall_mem_ne']

/-- There are two tokens and three lines where a literal goes on behind a line break. -/
theorem printedListing_lines_of_literal :
    Text.split (· == '\n') (printedListing "\"a\nb\"" false).toList ≠
      (scan "\"a\nb\"" false).map (·.display.toList) ++ [[]] := by
  decide +kernel

/-- The second line that is printed of a comment may look like a token of its own. -/
theorem printedListing_lines_of_comment :
    let text := "/*\nNumber('1') at 2:1\n*/"
    let t : Token := ⟨.comment, text, ⟨1, 1⟩, ⟨0, 24⟩⟩
    (t ∈ scan text true ∧ '\n' ∈ t.text.toList) ∧
      (t.kind = .stringLiteral ∨ t.kind = .charLiteral ∨
        (t.kind = .comment ∧ Comment.opening <+: t.text.toList)) ∧
      Text.split (· == '\n') (printedListing text true).toList =
        ["Comment('/*", "Number('1') at 2:1", "*/') at 1:1", "EndOfInput('') at 3:3", ""].map
          String.toList := by
  intro text t
  have hMem : t ∈ scan text true := by decide +kernel
  have hBreak : '\n' ∈ t.text.toList := by decide
  obtain ⟨hLines, -, hText⟩ := printedListing_lines text true
  refine ⟨⟨hMem, hBreak⟩, hText t hMem hBreak, hLines.trans ?_⟩
  decide +kernel

end CTokens
