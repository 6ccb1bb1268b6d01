/-!
# CTokens — splitting

A sequence is split at its breaks: a source at its line breaks, a path at its slashes. The breaks
belong to no part, so a sequence has one part more than it has breaks.

Main statements:

* `join_split` — the parts with a break between any two of them are the sequence again;
* `length_split` — there is one part more than there are breaks.
-/

namespace CTokens.Text

variable {α : Type}

/-- The first part of a sequence, and the parts after it. -/
def cut (isBreak : α → Bool) : List α → List α × List (List α)
  | [] => ([], [])
  | a :: as =>
    let (part, later) := cut isBreak as
    if isBreak a then ([], part :: later) else (a :: part, later)

/-- The parts of a sequence. -/
def split (isBreak : α → Bool) (as : List α) : List (List α) :=
  (cut isBreak as).1 :: (cut isBreak as).2

/-- Parts with a break between any two of them. -/
def join (separator : α) : List (List α) → List α
  | [] => []
  | [part] => part
  | part :: next :: later => part ++ separator :: join separator (next :: later)

/-- Where the part with a given index begins: behind the parts before it and their breaks. -/
def startOf : List (List α) → Nat → Nat
  | part :: parts, index + 1 => part.length + 1 + startOf parts index
  | _, _ => 0

/-- There is one part more than there are breaks. -/
theorem length_split (isBreak : α → Bool) (as : List α) :
    (split isBreak as).length = as.countP isBreak + 1 := by
  unfold split
  rw [List.length_cons]
  congr 1
  induction as with
  | nil => rfl
  | cons a as ih =>
    rw [cut, List.countP_cons]
    by_cases h : isBreak a = true <;> simp [h, ih]

/-- Where one element is the only break, splitting at it and joining with it is the identity. -/
theorem join_split [DecidableEq α] (separator : α) (as : List α) :
    join separator (split (· == separator) as) = as := by
  induction as with
  | nil => rfl
  | cons a as ih =>
    unfold split at ih ⊢
    rw [cut]
    by_cases h : (a == separator) = true
    · obtain rfl := beq_iff_eq.1 h
      simp [join, ih]
    · simp only [Bool.not_eq_true] at h
      simp only [h, Bool.false_eq_true, if_false]
      cases hLater : (cut (· == separator) as).2 with
      | nil => rw [hLater] at ih; simpa [join] using ih
      | cons next later => rw [hLater] at ih; simpa [join] using ih

end CTokens.Text
