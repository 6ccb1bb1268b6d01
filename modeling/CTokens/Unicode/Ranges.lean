/-!
# CTokens — ranges of code points

A property of characters is given as a table of closed ranges of code points. A table carries the
proof that its ranges ascend, so looking a code point up may stop early.

Main statements:

* `RangeTable.covers_eq_true_iff` — a code point is covered exactly when it lies in one of the
  ranges, so the early end of the search loses nothing;
* `of_ascii` — what can be checked for the printable characters of ASCII one by one.
-/

namespace CTokens.Unicode

-- ---------------------------------------------------------------------------
-- Tables
-- ---------------------------------------------------------------------------

/-- Every range is non-empty and ends before the next one begins. -/
def ascending : List (Nat × Nat) → Bool
  | [] => true
  | [(lo, hi)] => decide (lo ≤ hi)
  | (lo, hi) :: (lo', hi') :: rest =>
    decide (lo ≤ hi) && decide (hi < lo') && ascending ((lo', hi') :: rest)

/-- Closed ranges of code points, in ascending order. -/
structure RangeTable where
  ranges : List (Nat × Nat)
  ascends : ascending ranges = true

/-- Whether `n` lies in one of the ranges. The search stops at the first range that begins
beyond `n`, since the ranges ascend. -/
def search : List (Nat × Nat) → Nat → Bool
  | [], _ => false
  | (lo, hi) :: rest, n =>
    if n < lo then false
    else if n ≤ hi then true
    else search rest n

/-- Whether a code point lies in one of the ranges of a table. -/
def RangeTable.covers (table : RangeTable) (n : Nat) : Bool := search table.ranges n

-- ---------------------------------------------------------------------------
-- Membership
-- ---------------------------------------------------------------------------

theorem ascending_tail {r : Nat × Nat} {rs : List (Nat × Nat)}
    (h : ascending (r :: rs) = true) : ascending rs = true := by
  match rs with
  | [] => rfl
  | _ :: _ =>
    simp only [ascending, Bool.and_eq_true] at h
    exact h.2

/-- No range is empty. -/
theorem ascending_head {r : Nat × Nat} {rs : List (Nat × Nat)}
    (h : ascending (r :: rs) = true) : r.1 ≤ r.2 := by
  match rs with
  | [] => simpa [ascending] using h
  | _ :: _ =>
    simp only [ascending, Bool.and_eq_true, decide_eq_true_eq] at h
    exact h.1.1

/-- Later ranges begin beyond the end of the first one. -/
theorem end_lt_of_mem {r : Nat × Nat} {rs : List (Nat × Nat)}
    (h : ascending (r :: rs) = true) {s : Nat × Nat} (hs : s ∈ rs) : r.2 < s.1 := by
  induction rs generalizing r with
  | nil => cases hs
  | cons q rs ih =>
    have hrq : r.2 < q.1 := by
      simp only [ascending, Bool.and_eq_true, decide_eq_true_eq] at h
      exact h.1.2
    rcases List.mem_cons.1 hs with rfl | hs
    · exact hrq
    · have hq := ascending_head (ascending_tail h)
      have := ih (ascending_tail h) hs
      omega

/-- Searching ascending ranges finds the one that a code point lies in, if there is one. -/
theorem search_eq_true_iff {rs : List (Nat × Nat)} (h : ascending rs = true) {n : Nat} :
    search rs n = true ↔ ∃ r ∈ rs, r.1 ≤ n ∧ n ≤ r.2 := by
  induction rs with
  | nil => simp [search]
  | cons r rs ih =>
    obtain ⟨lo, hi⟩ := r
    have hbound := ascending_head h
    have hlater : ∀ s ∈ rs, hi < s.1 := fun s hs => end_lt_of_mem h hs
    simp only [search, List.mem_cons, exists_eq_or_imp]
    by_cases hlo : n < lo
    · -- the search ends here, and the ranges behind this one begin even further up
      simp only [if_pos hlo, Bool.false_eq_true, false_iff]
      rintro (⟨hge, -⟩ | ⟨s, hs, hge, -⟩)
      · exact absurd hlo (Nat.not_lt.2 hge)
      · have := hlater s hs
        omega
    · by_cases hhi : n ≤ hi
      · simp only [if_neg hlo, if_pos hhi, true_iff]
        exact Or.inl ⟨Nat.le_of_not_lt hlo, hhi⟩
      · simp only [if_neg hlo, if_neg hhi, ih (ascending_tail h)]
        constructor
        · exact Or.inr
        · rintro (⟨-, hle⟩ | hs)
          · exact absurd hle hhi
          · exact hs

/-- A table covers what lies in one of its ranges. -/
theorem RangeTable.covers_eq_true_iff (table : RangeTable) {n : Nat} :
    table.covers n = true ↔ ∃ r ∈ table.ranges, r.1 ≤ n ∧ n ≤ r.2 :=
  search_eq_true_iff table.ascends

-- ---------------------------------------------------------------------------
-- Characters of ASCII
-- ---------------------------------------------------------------------------

/-- What holds of each printable character of ASCII by its code point holds of all of them. -/
theorem of_ascii {p : Char → Prop} (hAll : ∀ n : Fin 0x7F, 0x20 ≤ n.val → p (Char.ofNat n.val))
    {c : Char} (h : 0x20 ≤ c.toNat) (h' : c.toNat ≤ 0x7E) : p c := by
  have hc := hAll ⟨c.toNat, Nat.lt_succ_of_le h'⟩ h
  rwa [Char.ofNat_toNat] at hc

end CTokens.Unicode
