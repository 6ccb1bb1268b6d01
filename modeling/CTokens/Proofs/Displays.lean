import CTokens.Listing
import CTokens.Proofs.Locations
import Mathlib.Data.List.Basic

/-!
# CTokens — what is written of a token

A token is written as its kind, its text and its location. The text stands between quotes as it is:
it may hold quotes, brackets and line breaks, and it may look like the end of what is written. What
is written can be taken apart all the same. No name of a kind has a bracket in it, so the kind ends
before the first one; and no location has a quote in it, so the text ends before the last one.

Tokens of one scan differ in their locations, so what is written of them differs as well.

Main statements:

* `Text.eq_of_append_first`, `Text.eq_of_append_last` — a sequence is taken apart at a mark in one
  way only, when one side does not have the mark;
* `Location.display_injective` — what is written of a location tells its line and its column;
* `display_unambiguous` — what is written of a token tells all but its span, and which token of a
  scan it is.
-/

namespace CTokens

-- ---------------------------------------------------------------------------
-- Taking a sequence apart at a mark
-- ---------------------------------------------------------------------------

namespace Text

variable {α : Type} [DecidableEq α] {mark : α} {before behind before' behind' : List α}

/-- The first mark is in one place only. -/
theorem eq_of_append_first (h : before ++ mark :: behind = before' ++ mark :: behind')
    (hNone : mark ∉ before) (hNone' : mark ∉ before') : before = before' ∧ behind = behind' := by
  have hLength : before.length = before'.length := by
    have hPlace := congrArg (List.idxOf mark) h
    rwa [List.idxOf_append_of_notMem hNone, List.idxOf_append_of_notMem hNone',
      List.idxOf_cons_self, List.idxOf_cons_self] at hPlace
  obtain ⟨hBefore, hBehind⟩ := List.append_inj h hLength
  exact ⟨hBefore, (List.cons.inj hBehind).2⟩

/-- The last mark is in one place only. -/
theorem eq_of_append_last (h : before ++ mark :: behind = before' ++ mark :: behind')
    (hNone : mark ∉ behind) (hNone' : mark ∉ behind') : before = before' ∧ behind = behind' := by
  have hBackwards : behind.reverse ++ mark :: before.reverse =
      behind'.reverse ++ mark :: before'.reverse := by
    simpa using congrArg List.reverse h
  -- read backwards, the last mark is the first one
  obtain ⟨hBehind, hBefore⟩ := eq_of_append_first hBackwards
    (mt List.mem_reverse.1 hNone) (mt List.mem_reverse.1 hNone')
  exact ⟨List.reverse_injective hBefore, List.reverse_injective hBehind⟩

-- ---------------------------------------------------------------------------
-- Decimal numbers
-- ---------------------------------------------------------------------------

/-- A number is written in digits. -/
theorem isDigit_of_mem_toString {n : Nat} {c : Char} (h : c ∈ (toString n).toList) :
    c.isDigit = true := by
  rw [Nat.toString_eq_ofList_toDigits, String.toList_ofList] at h
  exact Nat.isDigit_of_mem_toDigits (by decide) (by decide) h

/-- What is written of a number tells it: its digits can be read back. -/
theorem toString_injective : Function.Injective (toString : Nat → String) := by
  refine Function.LeftInverse.injective (g := fun s => Nat.ofDigitChars 10 s.toList 0) fun n => ?_
  show Nat.ofDigitChars 10 (toString n).toList 0 = n
  rw [Nat.toString_eq_ofList_toDigits, String.toList_ofList]
  exact Nat.ofDigitChars_ten_toDigits

end Text

-- ---------------------------------------------------------------------------
-- Locations
-- ---------------------------------------------------------------------------

namespace Location

/-- What is written of a location, with its colon in it. -/
theorem toList_display (l : Location) :
    l.display.toList = (toString l.line).toList ++ ':' :: (toString l.column).toList := by
  simp only [display, String.toList_append, List.append_assoc]
  rfl

/-- A location is written in digits and one colon. -/
theorem digit_or_colon_of_mem_display {l : Location} {c : Char} (h : c ∈ l.display.toList) :
    c.isDigit = true ∨ c = ':' := by
  rw [toList_display, List.mem_append, List.mem_cons] at h
  rcases h with hLine | hColon | hColumn
  · exact .inl (Text.isDigit_of_mem_toString hLine)
  · exact .inr hColon
  · exact .inl (Text.isDigit_of_mem_toString hColumn)

theorem notMem_display {l : Location} {c : Char} (hDigit : c.isDigit = false) (hColon : c ≠ ':') :
    c ∉ l.display.toList := by
  intro hMem
  rcases digit_or_colon_of_mem_display hMem with h | h
  · rw [h] at hDigit
    cases hDigit
  · exact hColon h

/-- What is written of a location tells its line and its column. -/
theorem display_injective : Function.Injective display := by
  intro a b h
  have hNoColon (n : Nat) : ':' ∉ (toString n).toList := fun hMem =>
    absurd (Text.isDigit_of_mem_toString hMem) (by decide)
  have hChars := congrArg String.toList h
  rw [toList_display, toList_display] at hChars
  obtain ⟨hLine, hColumn⟩ := Text.eq_of_append_first hChars (hNoColon _) (hNoColon _)
  rw [Location.mk.injEq]
  exact ⟨Text.toString_injective (String.toList_injective hLine),
    Text.toString_injective (String.toList_injective hColumn)⟩

theorem ne_of_lt {a b : Location} (h : a < b) : a ≠ b := by
  rintro rfl
  rcases h with hLine | ⟨-, hColumn⟩
  · exact Nat.lt_irrefl _ hLine
  · exact Nat.lt_irrefl _ hColumn

end Location

-- ---------------------------------------------------------------------------
-- Tokens
-- ---------------------------------------------------------------------------

namespace TokenKind

/-- The name of a kind is written in letters. -/
theorem isAlpha_of_mem_name {k : TokenKind} {c : Char} (h : c ∈ k.name.toList) :
    c.isAlpha = true := by
  have hAll : ∀ k ∈ all, k.name.toList.all Char.isAlpha = true := by decide
  exact List.all_eq_true.1 (hAll k (mem_all k)) c h

theorem notMem_name {k : TokenKind} {c : Char} (h : c.isAlpha = false) : c ∉ k.name.toList := by
  intro hMem
  rw [isAlpha_of_mem_name hMem] at h
  cases h

theorem name_injective : Function.Injective name := by
  have hAll : ∀ a ∈ all, ∀ b ∈ all, a.name = b.name → a = b := by decide
  exact fun a b => hAll a (mem_all a) b (mem_all b)

end TokenKind

namespace Token

/-- What is written of a token, with the first bracket and the last quote in it. -/
theorem toList_display (t : Token) :
    t.display.toList = t.kind.name.toList ++
      '(' :: ('\x27' :: t.text.toList ++
        '\x27' :: (") at ".toList ++ t.location.display.toList)) := by
  simp only [display, String.toList_append, List.append_assoc]
  rfl

/-- What is written of a token tells its kind, its text and its location. -/
theorem display_eq_iff {a b : Token} :
    a.display = b.display ↔ a.kind = b.kind ∧ a.text = b.text ∧ a.location = b.location := by
  constructor
  · intro h
    have hNoBracket (k : TokenKind) : '(' ∉ k.name.toList := TokenKind.notMem_name rfl
    have hNoQuote (l : Location) : '\x27' ∉ ") at ".toList ++ l.display.toList := by
      rw [List.mem_append]
      exact not_or.2 ⟨by decide, Location.notMem_display rfl (by decide)⟩
    have hChars := congrArg String.toList h
    rw [toList_display, toList_display] at hChars
    -- the text may hold brackets and quotes of its own, so it is cut off from both sides: the kind
    -- at the first bracket, the location at the last quote
    obtain ⟨hName, hRest⟩ := Text.eq_of_append_first hChars (hNoBracket _) (hNoBracket _)
    obtain ⟨hText, hTail⟩ := Text.eq_of_append_last hRest (hNoQuote _) (hNoQuote _)
    have hPlace := List.append_cancel_left hTail
    exact ⟨TokenKind.name_injective (String.toList_injective hName),
      String.toList_injective (List.cons.inj hText).2,
      Location.display_injective (String.toList_injective hPlace)⟩
  · rintro ⟨hKind, hText, hLocation⟩
    rw [display, display, hKind, hText, hLocation]

end Token

-- ---------------------------------------------------------------------------
-- The tokens of a scan
-- ---------------------------------------------------------------------------

/-- No two tokens of a scan have one location. -/
theorem pairwise_location_scan (s : String) (keep : Bool) :
    (scan s keep).Pairwise fun a b => a.location ≠ b.location := by
  rw [scan_eq_tokensBehind]
  refine (pairwise_start_tokensBehind keep s.toList).imp_of_mem ?_
  intro a b ha hb hOrder
  exact Location.ne_of_lt (location_lt_of_start_lt ha hb hOrder)

/-- **What is written of a token is unambiguous.** It tells the kind, the text and the location of
the token, whatever the text is. So in the listing of a source every entry stands for one token. -/
theorem display_unambiguous :
    (∀ a b : Token, a.display = b.display ↔
      a.kind = b.kind ∧ a.text = b.text ∧ a.location = b.location) ∧
    ∀ (s : String) (keep : Bool), (listing s keep).Nodup := by
  refine ⟨fun a b => Token.display_eq_iff, fun s keep => ?_⟩
  rw [listing, List.Nodup, List.pairwise_map]
  refine (pairwise_location_scan s keep).imp ?_
  intro a b hApart hSame
  exact hApart (Token.display_eq_iff.1 hSame).2.2

end CTokens
