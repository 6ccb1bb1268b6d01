/-!
# CTokens — runs

Items that carry a mark are grouped into runs: as many neighbours with equal marks as there are,
and the mark they share.

Main statements:

* `flatMap_runs` — the runs one after another are the marked items again;
* `runs_ne_nil` — no run is empty;
* `runs_apart` — neighbouring runs have different marks, so no run could be longer.
-/

namespace CTokens.Text

variable {α β : Type} [DecidableEq α]

/-- Put a marked item in front of runs: into the first of them, if it has the same mark. -/
def consRun (b : β) (mark : α) : List (α × List β) → List (α × List β)
  | [] => [(mark, [b])]
  | (other, bs) :: later =>
    if mark = other then (other, b :: bs) :: later else (mark, [b]) :: (other, bs) :: later

/-- The runs of a sequence of marked items. -/
def runs : List (β × α) → List (α × List β)
  | [] => []
  | (b, mark) :: rest => consRun b mark (runs rest)

/-- An item that is put in front of runs comes first, and the others follow. -/
theorem flatMap_consRun (b : β) (mark : α) (rs : List (α × List β)) :
    (consRun b mark rs).flatMap (fun r => r.2.map (·, r.1)) =
      (b, mark) :: rs.flatMap (fun r => r.2.map (·, r.1)) := by
  match rs with
  | [] => simp [consRun]
  | (other, bs) :: later =>
    rw [consRun]
    split
    · next h => subst h; simp
    · simp

/-- The runs one after another are the marked items again. -/
theorem flatMap_runs (bs : List (β × α)) :
    (runs bs).flatMap (fun r => r.2.map (·, r.1)) = bs := by
  induction bs with
  | nil => rfl
  | cons b bs ih => rw [runs, flatMap_consRun, ih]

/-- No run is empty. -/
theorem runs_ne_nil {bs : List (β × α)} {r : α × List β} (h : r ∈ runs bs) :
    r.2 ≠ [] := by
  induction bs generalizing r with
  | nil => cases h
  | cons b bs ih =>
    rw [runs] at h
    cases hRuns : runs bs with
    | nil => simp [hRuns, consRun] at h; subst h; simp
    | cons q later =>
      rw [hRuns] at h ih
      simp only [consRun] at h
      split at h
      · rcases List.mem_cons.1 h with rfl | h
        · simp
        · exact ih (List.mem_cons_of_mem _ h)
      · rcases List.mem_cons.1 h with rfl | h
        · simp
        · exact ih h

/-- Whether neighbouring runs have different marks. -/
def Apart : List (α × List β) → Prop
  | [] => True
  | [_] => True
  | r :: s :: later => r.1 ≠ s.1 ∧ Apart (s :: later)

/-- An item with the mark of the first run joins it, and any other begins a run of its own. -/
theorem apart_consRun (b : β) (mark : α) {rs : List (α × List β)} (h : Apart rs) :
    Apart (consRun b mark rs) := by
  match rs, h with
  | [], _ => trivial
  | [(other, bs)], _ =>
    rw [consRun]
    split
    · trivial
    · next hne => exact ⟨hne, trivial⟩
  | (other, bs) :: s :: later, h =>
    rw [consRun]
    split
    · exact ⟨h.1, h.2⟩
    · next hne => exact ⟨hne, h.1, h.2⟩

/-- Neighbouring runs have different marks. -/
theorem runs_apart (bs : List (β × α)) : Apart (runs bs) := by
  induction bs with
  | nil => trivial
  | cons b bs ih => exact apart_consRun _ _ ih

end CTokens.Text
