import CTokens.Proofs.Partition

/-!
# CTokens — the locations of tokens

A token says where it stands twice, by an offset and by a line and a column. The two agree: the
location is the one behind as many characters as the offset counts. So tokens are in the same order
by either, and no two of them stand in the same place.

Main statements:

* `exists_isPrefix_of_mem_tokensBehind` — every token stands behind a first part of the text;
* `pairwise_start_tokensBehind` — the tokens of a text begin one behind the other;
* `location_lt_of_start_lt` — a token that begins before another has a smaller location;
* `scan_location` — the locations of a scan are right, and increase as the offsets do.
-/

namespace CTokens

/-- Every token stands behind a first part of the text, the mark of the end behind all of it. -/
theorem exists_isPrefix_of_mem_tokensBehind {keep : Bool} {cs : List Char} {t : Token}
    (h : t ∈ tokensBehind keep [] cs) :
    ∃ pre, pre <+: cs ∧ t.span.start = pre.length ∧ t.location = Location.behind pre := by
  rcases mem_tokensBehind_iff.1 h with hLaid | rfl
  · obtain ⟨pre, l, rest, rfl, rfl, -⟩ := exists_lexeme_of_mem_layout hLaid
    exact ⟨pre, List.prefix_append pre _, rfl, rfl⟩
  · exact ⟨cs, List.prefix_refl cs, rfl, rfl⟩

/-- The tokens of a text begin one behind the other: each but the last takes some of the text. -/
theorem pairwise_start_tokensBehind (keep : Bool) (cs : List Char) :
    (tokensBehind keep [] cs).Pairwise fun a b => a.span.start < b.span.start := by
  rw [tokensBehind, List.pairwise_append]
  refine ⟨?laid, List.pairwise_singleton _ _, ?last⟩
  case laid =>
    refine (pairwise_layout keep [] (pieces cs)).imp_of_mem ?_
    intro a b ha _ hOrder
    exact Nat.lt_of_lt_of_le (start_lt_stop_of_mem_layout ha) hOrder
  case last =>
    intro a ha b hb
    rw [List.mem_singleton] at hb
    subst hb
    have hStop := (span_of_mem_layout ha).2
    rw [List.nil_append, flatMap_pieces] at hStop
    exact Nat.lt_of_lt_of_le (start_lt_stop_of_mem_layout ha) hStop

/-- Of two tokens the one that begins first has the smaller location. -/
theorem location_lt_of_start_lt {keep : Bool} {cs : List Char} {a b : Token}
    (ha : a ∈ tokensBehind keep [] cs) (hb : b ∈ tokensBehind keep [] cs)
    (hOrder : a.span.start < b.span.start) : a.location < b.location := by
  obtain ⟨pre, hPre, hStartA, hLocationA⟩ := exists_isPrefix_of_mem_tokensBehind ha
  obtain ⟨pre', hPre', hStartB, hLocationB⟩ := exists_isPrefix_of_mem_tokensBehind hb
  rw [hStartA, hStartB] at hOrder
  -- the shorter first part begins the longer one
  obtain ⟨between, rfl⟩ := List.prefix_of_prefix_length_le hPre hPre' (Nat.le_of_lt hOrder)
  rw [hLocationA, hLocationB]
  refine Location.behind_lt_append pre ?_
  rintro rfl
  rw [List.append_nil] at hOrder
  exact Nat.lt_irrefl _ hOrder

/-- **Positions are right for every token.** A token is on the line that follows as many line breaks
as stand before its offset, in the column that follows as many characters as stand behind the last
of them. Along the tokens of a scan the locations increase, as the offsets do. -/
theorem scan_location (s : String) (keep : Bool) :
    (∀ t ∈ scan s keep, t.location = Location.behind (s.toList.take t.span.start)) ∧
      (scan s keep).Pairwise fun a b =>
        a.span.start < b.span.start ∧ a.location < b.location := by
  rw [scan_eq_tokensBehind]
  refine ⟨?right, ?increasing⟩
  case right =>
    intro t ht
    obtain ⟨pre, ⟨post, hText⟩, hStart, hLocation⟩ := exists_isPrefix_of_mem_tokensBehind ht
    rw [hLocation, hStart, ← hText, List.take_left]
  case increasing =>
    refine (pairwise_start_tokensBehind keep s.toList).imp_of_mem ?_
    intro a b ha hb hOrder
    exact ⟨hOrder, location_lt_of_start_lt ha hb hOrder⟩

end CTokens
