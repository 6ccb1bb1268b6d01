import CTokens.Proofs.Comments
import CTokens.Proofs.Views
import Mathlib.Data.List.Find

/-!
# CTokens — turning comments on and off

To turn comments on or off is to scan again, and what was selected has to be found among other
tokens. It is looked for by its offset: the first token is selected that does not begin before it.
Tokens begin one behind the other, the mark of the end behind all the others, so an offset names at
most one of them. And the tokens without comments are those with comments, less the comments. So
what is found is the selected token itself, unless it is a comment that has been dropped, and then
it is the next token that is none. The mark of the end is always such a token.

Main results:

* `find?_filter_start` — looking for a token among some of the tokens, by where it begins;
* `Explorer.Consistent.exists_selected_of_toggleComments` — what is selected when comments have been
  turned on or off;
* `Explorer.session_toggle` — after any session the key for comments keeps the selection, and
  pressed twice it restores the tokens.
-/

namespace CTokens

-- ---------------------------------------------------------------------------
-- Finding a token by where it begins
-- ---------------------------------------------------------------------------

/-- Where tokens begin one behind the other, the tokens that do not begin before a given one are
that one and those behind it. So the first of them that is `chosen` is looked for from there on. -/
theorem find?_filter_start {ts : List Token}
    (h : ts.Pairwise fun a b => a.span.start < b.span.start) {i : Nat} {t : Token}
    (ht : ts[i]? = some t) (chosen : Token → Bool) :
    (ts.filter chosen).find? (fun u => decide (t.span.start ≤ u.span.start)) =
      (ts.drop i).find? chosen := by
  obtain ⟨hi, rfl⟩ := List.getElem?_eq_some_iff.1 ht
  rw [List.pairwise_iff_getElem] at h
  have hBefore : (ts.take i).find? (fun u =>
      decide (chosen u = true ∧ decide (ts[i].span.start ≤ u.span.start) = true)) = none := by
    rw [List.find?_eq_none]
    intro u hu hFound
    obtain ⟨j, hj, rfl⟩ := List.mem_take_iff_getElem.1 hu
    have hOrder := h j i (by omega) hi (by omega)
    simp only [decide_eq_true_eq] at hFound
    omega
  have hBehind : (ts.drop i).find? (fun u =>
      decide (chosen u = true ∧ decide (ts[i].span.start ≤ u.span.start) = true)) =
        (ts.drop i).find? chosen := by
    refine List.find?_congr ?_
    intro u hu
    obtain ⟨k, hk, rfl⟩ := List.mem_drop_iff_getElem.1 hu
    have hOrder : ts[i].span.start ≤ ts[i + k].span.start := by
      cases k with
      | zero => exact Nat.le_refl _
      | succ k => exact Nat.le_of_lt (h i (i + (k + 1)) hi (by omega) (by omega))
    rw [decide_eq_true hOrder, Bool.decide_and]
    simp
  calc (ts.filter chosen).find? (fun u => decide (ts[i].span.start ≤ u.span.start))
      = (ts.take i ++ ts.drop i).find? (fun u =>
          decide (chosen u = true ∧ decide (ts[i].span.start ≤ u.span.start) = true)) := by
        rw [List.find?_filter, List.take_append_drop]
    _ = (ts.drop i).find? chosen := by
        rw [List.find?_append, hBefore, hBehind, Option.none_or]

/-- From a token on, a token that is looked for is that one or stands behind it. -/
theorem find?_drop_of_getElem? {ts : List Token} {i : Nat} {t : Token} (ht : ts[i]? = some t)
    (p : Token → Bool) :
    (ts.drop i).find? p = if p t = true then some t else (ts.drop (i + 1)).find? p := by
  obtain ⟨hi, rfl⟩ := List.getElem?_eq_some_iff.1 ht
  rw [List.drop_eq_getElem_cons hi, List.find?_cons]
  cases p ts[i] with
  | true => rfl
  | false => rfl

/-- The tokens of a scan begin one behind the other. -/
theorem pairwise_start_scan (source : String) (keep : Bool) :
    (scan source keep).Pairwise fun a b => a.span.start < b.span.start := by
  rw [scan_eq_tokensBehind]
  exact pairwise_start_tokensBehind keep source.toList

/-- From every token of a scan on, there is one that is no comment: the mark of the end. -/
theorem exists_find?_drop_scan {source : String} {keep : Bool} {i : Nat}
    (h : i < (scan source keep).length) :
    ∃ t, ((scan source keep).drop i).find? (fun u => u.kind != .comment) = some t := by
  rw [scan_eq_tokensBehind, tokensBehind, List.length_append, List.length_singleton] at h
  rw [← Option.isSome_iff_exists, List.find?_isSome, scan_eq_tokensBehind, tokensBehind,
    List.drop_append_of_le_length (Nat.le_of_lt_succ h)]
  exact ⟨Token.endBehind ([] ++ source.toList), List.mem_append_right _ List.mem_cons_self, rfl⟩

namespace Explorer

variable {e next : Explorer}

-- ---------------------------------------------------------------------------
-- What is selected behind a new scan
-- ---------------------------------------------------------------------------

/-- A new scan selects the first token that does not begin before the selected one did. -/
theorem selected_of_rescan (h : e.rescan = .ok next) {t : Token}
    (hFound : (scan e.source e.keepComments).find?
      (fun u => decide (e.anchor ≤ u.span.start)) = some t) :
    next.tokens[next.selected]? = some t := by
  obtain ⟨m, -, hRescan⟩ := rescan_eq e
  rw [hRescan] at h
  cases h
  have hIndex := hFound
  rw [List.find?_eq_getElem?_findIdx] at hIndex
  have hLess := (List.getElem?_eq_some_iff.1 hIndex).1
  have hChosen : min ((scan e.source e.keepComments).findIdx
      fun u => decide (e.anchor ≤ u.span.start)) ((scan e.source e.keepComments).length - 1) =
        (scan e.source e.keepComments).findIdx fun u => decide (e.anchor ≤ u.span.start) :=
    Nat.min_eq_left (by omega)
  show (scan e.source e.keepComments)[min _ _]? = some t
  rw [hChosen]
  exact hIndex

theorem exists_toggleComments (e : Explorer) : ∃ next, e.toggleComments = .ok next := by
  obtain ⟨m, -, hRescan⟩ := rescan_eq { e with keepComments := !e.keepComments }
  exact ⟨_, toggleComments_eq_ok_iff.2 ⟨_, hRescan, rfl⟩⟩

/-- When comments have been turned on or off, the first token from the selected one on that is no
comment is selected. -/
theorem Consistent.exists_selected_of_toggleComments (h : e.Consistent)
    (hNext : e.toggleComments = .ok next) :
    ∃ u, (e.tokens.drop e.selected).find? (fun v => v.kind != .comment) = some u ∧
      next.tokens[next.selected]? = some u := by
  obtain ⟨scanned, hScanned, rfl⟩ := toggleComments_eq_ok_iff.1 hNext
  obtain ⟨u, hFound⟩ := exists_find?_drop_scan (h.tokens ▸ h.selected)
  rw [← h.tokens] at hFound
  refine ⟨u, hFound, selected_of_rescan hScanned ?_⟩
  obtain ⟨t, hToken⟩ : ∃ t, e.tokens[e.selected]? = some t :=
    ⟨_, List.getElem?_eq_getElem h.selected⟩
  have hAnchor : anchor { e with keepComments := !e.keepComments } = t.span.start := by
    unfold anchor
    rw [hToken]
  -- both scans are parts of the one that keeps comments, where the tokens stand in the order of
  -- their beginnings; so the search by offset is one by place
  have hOrder := pairwise_start_tokensBehind true e.source.toList
  have hTokens := h.tokens
  rw [scan_eq_tokensBehind] at hTokens
  show (scan e.source !e.keepComments).find?
    (fun u => decide (anchor { e with keepComments := !e.keepComments } ≤ u.span.start)) = some u
  rw [hAnchor, scan_eq_tokensBehind, tokensBehind_eq_filter]
  cases hWish : e.keepComments with
  | true =>
    rw [hWish] at hTokens
    rw [← hTokens] at hOrder ⊢
    rw [find?_filter_start hOrder hToken]
    exact hFound
  | false =>
    -- the selected token is no comment, and it has a place among all tokens
    have hMem := List.mem_of_getElem? hToken
    rw [hTokens, hWish, tokensBehind_eq_filter, List.mem_filter] at hMem
    obtain ⟨hAmong, hOther⟩ := hMem
    rw [Bool.false_or] at hOther
    obtain ⟨i, hPlace⟩ := List.getElem?_of_mem hAmong
    have hWanted : (!false || t.kind != .comment) = true := rfl
    rw [find?_filter_start hOrder hPlace, find?_drop_of_getElem? hPlace, if_pos hWanted]
    rw [find?_drop_of_getElem? hToken, if_pos hOther] at hFound
    exact hFound

/-- A selected token that is no comment stays selected. -/
theorem Consistent.selected_of_toggleComments (h : e.Consistent)
    (hNext : e.toggleComments = .ok next) {t : Token} (hToken : e.tokens[e.selected]? = some t)
    (hOther : t.kind ≠ .comment) : next.tokens[next.selected]? = some t := by
  obtain ⟨u, hFound, hSelected⟩ := h.exists_selected_of_toggleComments hNext
  rw [find?_drop_of_getElem? hToken, if_pos (bne_iff_ne.2 hOther)] at hFound
  rw [hSelected]
  exact hFound.symm

-- ---------------------------------------------------------------------------
-- The key for comments
-- ---------------------------------------------------------------------------

/-- No two tokens of a scan are the same. -/
theorem nodup_scan (source : String) (keep : Bool) : (scan source keep).Nodup := by
  refine (pairwise_start_scan source keep).imp ?_
  rintro a b hOrder rfl
  exact Nat.lt_irrefl _ hOrder

/-- **Turning comments on or off keeps the selection.** Whatever was pressed, selected, scanned and
drawn before, the key for comments leaves the selected token selected, the same in kind, text,
location and span; when that is a comment it selects the first token behind it that is none. Pressed
twice it restores the wish about comments and the tokens, and unless the selected token was a
comment also its index. The key can be pressed in every state, and such states are reached where the
source is of fair length. -/
theorem session_toggle (source : String) (keep : Bool) (actions : List Action)
    (hUse : ∀ a ∈ actions, a.isWrite = false) :
    (∀ e, session source keep actions = .ok e →
      ∃ t next again, e.tokens[e.selected]? = some t ∧
        e.press (.char 'c') = .ok next ∧ next.press (.char 'c') = .ok again ∧
        (t.kind ≠ .comment → next.tokens[next.selected]? = some t) ∧
        (t.kind = .comment →
          ∃ u, (e.tokens.drop (e.selected + 1)).find? (fun v => v.kind != .comment) = some u ∧
            next.tokens[next.selected]? = some u) ∧
        again.keepComments = e.keepComments ∧ again.tokens = e.tokens ∧
        (t.kind ≠ .comment → again.selected = e.selected)) ∧
      (source.length < 2 ^ 63 → (∀ a ∈ actions, a.Admissible) →
        ∃ e, session source keep actions = .ok e) := by
  refine ⟨?keeps, ?reaches⟩
  case keeps =>
    intro e hSession
    have hLeaves : ∀ a ∈ actions, a.leavesTokens = true :=
      fun a ha => Action.leavesTokens_of_not_isWrite (hUse a ha)
    obtain ⟨hConsistent, -⟩ := session_consistent_of_leavesTokens hLeaves hSession
    obtain ⟨next, hNext⟩ := exists_toggleComments e
    -- pressed twice, the key scans the same source with the same wish again
    obtain ⟨again, hAgain⟩ := exists_toggleComments next
    obtain ⟨hNextConsistent, hNextSource, -, hNextWish, -⟩ := consistent_of_toggleComments hNext
    obtain ⟨hAgainConsistent, hAgainSource, -, hAgainWish, -⟩ :=
      consistent_of_toggleComments hAgain
    have hWish : again.keepComments = e.keepComments := by
      rw [hAgainWish, hNextWish, Bool.not_not]
    have hTokens : again.tokens = e.tokens := by
      rw [hAgainConsistent.tokens, hConsistent.tokens, hWish, hAgainSource, hNextSource]
    obtain ⟨t, hToken⟩ : ∃ t, e.tokens[e.selected]? = some t :=
      ⟨_, List.getElem?_eq_getElem hConsistent.selected⟩
    have hKept : t.kind ≠ .comment → next.tokens[next.selected]? = some t := by
      intro hOther
      exact hConsistent.selected_of_toggleComments hNext hToken hOther
    refine ⟨t, next, again, hToken, hNext, hAgain, hKept, ?comment, hWish, hTokens, ?index⟩
    case comment =>
      intro hComment
      obtain ⟨u, hFound, hSelected⟩ := hConsistent.exists_selected_of_toggleComments hNext
      rw [find?_drop_of_getElem? hToken, hComment] at hFound
      exact ⟨u, hFound, hSelected⟩
    case index =>
      intro hOther
      -- the same token is found among the same tokens, of which no two are alike
      have hBack := hNextConsistent.selected_of_toggleComments hAgain (hKept hOther) hOther
      rw [hTokens, ← hToken] at hBack
      have hNodup : e.tokens.Nodup := hConsistent.tokens ▸ nodup_scan _ _
      have hLess : again.selected < e.tokens.length := hTokens ▸ hAgainConsistent.selected
      exact (List.getElem?_inj hLess hNodup).1 hBack
  case reaches =>
    intro hSource hActions
    obtain ⟨e, hSession, -⟩ := exists_session hSource hActions keep
    exact ⟨e, hSession⟩

/-- The comment between two words is selected and then dropped, and the second word is selected. -/
theorem session_toggle_of_comment :
    ∃ e next again, session "a /*b*/ c" true [.press .down, .draw 9 4] = .ok e ∧
      e.selected = 1 ∧ e.press (.char 'c') = .ok next ∧ next.press (.char 'c') = .ok again ∧
      next.tokens[next.selected]? = some ⟨.identifier, "c", ⟨1, 9⟩, ⟨8, 9⟩⟩ ∧
      again.tokens = e.tokens := by
  obtain ⟨hKeeps, hReaches⟩ :=
    session_toggle "a /*b*/ c" true [.press .down, .draw 9 4] (by decide)
  obtain ⟨e, hSession⟩ := hReaches (by decide) (by simp [Action.Admissible])
  obtain ⟨t, next, again, hToken, hNext, hAgain, -, hComment, -, hTokens, -⟩ := hKeeps e hSession
  have hState : (session "a /*b*/ c" true [.press .down, .draw 9 4]).map
      (fun e => (e.selected, e.tokens)) = .ok (1, scan "a /*b*/ c" true) := by
    decide +kernel
  rw [hSession] at hState
  obtain ⟨hSelected, hScan⟩ := Prod.mk.inj (Except.ok.inj hState)
  rw [hSelected, hScan] at hToken
  have hKind : (scan "a /*b*/ c" true)[1]?.map Token.kind = some .comment := by decide +kernel
  rw [hToken, Option.map_some, Option.some.injEq] at hKind
  obtain ⟨u, hFound, hNow⟩ := hComment hKind
  have hWord : ((scan "a /*b*/ c" true).drop 2).find? (fun v => v.kind != .comment) =
      some ⟨.identifier, "c", ⟨1, 9⟩, ⟨8, 9⟩⟩ := by decide +kernel
  rw [hSelected, hScan, hWord] at hFound
  exact ⟨e, next, again, hSession, hSelected, hNext, hAgain, hFound ▸ hNow, hTokens⟩

end Explorer

end CTokens
