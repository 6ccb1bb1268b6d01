import CTokens.Explorer.OwnerMap
import CTokens.Proofs.Locations
import Mathlib.Algebra.GroupWithZero.Nat
import Mathlib.Data.List.Induction
import Mathlib.Order.Bounds.Basic

/-!
# CTokens — who owns a character

Painting goes token by token, and what one token paints the next may paint over. What comes out can
be said at once: a character belongs to the last of the tokens whose spans hold it. The spans of a
scan do not overlap, so there a character belongs to the one token that covers it.

The lines of an owner map are found by splitting the source, and the lines of tokens by counting
line breaks up to them. Both are the same lines.

Main results:

* `OwnerMap.ofChars_eq` — which token lists can be painted, and what the painting is;
* `OwnerMap.painter?_eq_some_iff` — the last token over an offset paints it;
* `OwnerMap.ofTokens_owners` — which lists of any tokens have an owner map, and what it tells;
* `Text.startOf_split_append` — the part in which a place lies begins behind the last break;
* `scan_ownerMap` — the owner map of a scan agrees with its tokens.
-/

namespace CTokens

open Unicode

-- ---------------------------------------------------------------------------
-- Painting
-- ---------------------------------------------------------------------------

/-- A span lies within a text of given length and does not run backwards. -/
def Span.FitsIn (s : Span) (length : Nat) : Prop := s.start ≤ s.stop ∧ s.stop ≤ length

instance (s : Span) (length : Nat) : Decidable (s.FitsIn length) :=
  inferInstanceAs (Decidable (_ ∧ _))

/-- An element of a list with one more behind it is an old one, or the last. -/
theorem getElem?_concat_eq_some_iff {α : Type} {as : List α} {a b : α} {i : Nat} :
    (as ++ [a])[i]? = some b ↔ as[i]? = some b ∨ (i = as.length ∧ b = a) := by
  rcases Nat.lt_trichotomy i as.length with hLt | rfl | hGt
  · rw [List.getElem?_append_left hLt]
    exact (or_iff_left fun h => Nat.ne_of_lt hLt h.1).symm
  · rw [List.getElem?_concat_length, List.getElem?_eq_none (Nat.le_refl _), Option.some.injEq,
      or_iff_right nofun, and_iff_right rfl]
    exact eq_comm
  · have hLong : (as ++ [a]).length ≤ i := by
      rw [List.length_append, List.length_singleton]
      exact hGt
    rw [List.getElem?_eq_none hLong, List.getElem?_eq_none (Nat.le_of_lt hGt), or_iff_right nofun]
    exact ⟨nofun, fun h => absurd h.1 (Nat.ne_of_gt hGt)⟩

namespace OwnerMap

/-- The index of the last token whose span holds an offset. -/
def painter? (tokens : List Token) (offset : Nat) : Option Nat :=
  (tokens.zipIdx.reverse.find? fun it => it.1.span.contains offset).map Prod.snd

theorem painter?_nil (offset : Nat) : painter? [] offset = none := rfl

/-- A token behind the others paints what it holds, and leaves the rest to them. -/
theorem painter?_concat (tokens : List Token) (t : Token) (offset : Nat) :
    painter? (tokens ++ [t]) offset =
      if t.span.contains offset then some tokens.length else painter? tokens offset := by
  unfold painter?
  rw [List.zipIdx_append, List.zipIdx_singleton, List.reverse_append, List.reverse_singleton,
    List.singleton_append, List.find?_cons, Nat.zero_add]
  cases t.span.contains offset with
  | true => rfl
  | false => rfl

/-- The last token over an offset paints it. -/
theorem painter?_eq_some_iff {tokens : List Token} {offset i : Nat} :
    painter? tokens offset = some i ↔
      (∃ t, tokens[i]? = some t ∧ t.span.contains offset = true) ∧
        ∀ (j : Nat) (t : Token), i < j → tokens[j]? = some t → t.span.contains offset = false := by
  -- on the tokens from the last one back, since the last one over an offset decides
  induction tokens using List.reverseRecOn with
  | nil => simp [painter?_nil]
  | append_singleton tokens t ih =>
    have hLast : (tokens ++ [t])[tokens.length]? = some t := List.getElem?_concat_length
    have hOld {j : Nat} {u : Token} (h : tokens[j]? = some u) : (tokens ++ [t])[j]? = some u :=
      getElem?_concat_eq_some_iff.2 (.inl h)
    rw [painter?_concat]
    cases hHolds : t.span.contains offset with
    | true =>
      rw [if_pos rfl, Option.some.injEq]
      constructor
      · rintro rfl
        refine ⟨⟨t, hLast, hHolds⟩, ?_⟩
        intro j u hLater hu
        rcases getElem?_concat_eq_some_iff.1 hu with hu | ⟨rfl, -⟩
        · exact absurd (List.getElem?_eq_some_iff.1 hu).1 (by omega)
        · exact absurd hLater (Nat.lt_irrefl _)
      · rintro ⟨⟨u, hu, -⟩, hNone⟩
        rcases getElem?_concat_eq_some_iff.1 hu with hu | ⟨rfl, -⟩
        · rw [hNone tokens.length t (List.getElem?_eq_some_iff.1 hu).1 hLast] at hHolds
          cases hHolds
        · rfl
    | false =>
      rw [if_neg Bool.false_ne_true, ih]
      constructor
      · rintro ⟨⟨u, hu, hOver⟩, hNone⟩
        refine ⟨⟨u, hOld hu, hOver⟩, ?_⟩
        intro j v hLater hv
        rcases getElem?_concat_eq_some_iff.1 hv with hv | ⟨-, rfl⟩
        · exact hNone j v hLater hv
        · exact hHolds
      · rintro ⟨⟨u, hu, hOver⟩, hNone⟩
        refine ⟨⟨u, ?_, hOver⟩, fun j v hLater hv => hNone j v hLater (hOld hv)⟩
        rcases getElem?_concat_eq_some_iff.1 hu with hu | ⟨-, rfl⟩
        · exact hu
        · rw [hHolds] at hOver
          cases hOver

/-- A token paints where its span fits. -/
theorem paintToken_eq (owners : List (Option Nat)) (t : Token) (i : Nat) :
    paintToken owners (t, i) =
      if t.span.FitsIn owners.length then .ok (paint owners i t.span)
      else .error .outOfRange := rfl

/-- To paint a token over the painting of those before it is the painting of all of them. -/
theorem paint_map_range (tokens : List Token) (t : Token) (length : Nat) :
    paint ((List.range length).map (painter? tokens)) tokens.length t.span =
      (List.range length).map (painter? (tokens ++ [t])) := by
  refine List.ext_getElem (by rw [length_owners_paint, List.length_map, List.length_map]) ?_
  intro offset hLeft hRight
  simp only [paint, List.getElem_mapIdx, List.getElem_map, List.getElem_range, painter?_concat]

/-- Painting succeeds when all spans fit, and gives every character to the last token over it. -/
theorem foldlM_paintToken (tokens : List Token) (length : Nat) :
    tokens.zipIdx.foldlM paintToken (List.replicate length none) =
      if ∀ t ∈ tokens, t.span.FitsIn length then
        .ok ((List.range length).map (painter? tokens))
      else .error .outOfRange := by
  -- a token is painted when those before it are, so the list grows at its end
  induction tokens using List.reverseRecOn with
  | nil =>
    have hNone : painter? [] = fun _ => none := rfl
    rw [if_pos nofun, hNone, List.map_const', List.length_range]
    rfl
  | append_singleton tokens t ih =>
    have hAll : (∀ u ∈ tokens ++ [t], u.span.FitsIn length) ↔
        (∀ u ∈ tokens, u.span.FitsIn length) ∧ t.span.FitsIn length := by
      rw [List.forall_mem_append, List.forall_mem_singleton]
    rw [List.zipIdx_append, List.zipIdx_singleton, List.foldlM_append, ih, Nat.zero_add]
    by_cases hBefore : ∀ u ∈ tokens, u.span.FitsIn length
    · rw [if_pos hBefore]
      show [(t, tokens.length)].foldlM paintToken ((List.range length).map (painter? tokens)) = _
      simp only [List.foldlM_cons, List.foldlM_nil, bind_pure]
      rw [paintToken_eq, List.length_map, List.length_range, paint_map_range]
      by_cases hFits : t.span.FitsIn length
      · rw [if_pos hFits, if_pos (hAll.2 ⟨hBefore, hFits⟩)]
      · rw [if_neg hFits, if_neg fun h => hFits (hAll.1 h).2]
    · rw [if_neg hBefore, if_neg fun h => hBefore (hAll.1 h).1]
      rfl

/-- A token list can be painted on a text when all spans lie within it, and then every character
belongs to the last token over it. -/
theorem ofChars_eq (chars : List Char) (tokens : List Token) :
    ofChars chars tokens =
      if ∀ t ∈ tokens, t.span.FitsIn chars.length then
        .ok ⟨chars, (List.range chars.length).map (painter? tokens)⟩
      else .error .outOfRange := by
  rw [ofChars, foldlM_paintToken]
  split
  · rfl
  · rfl

/-- An owner map exists when all spans fit, and then gives each offset to its painter. -/
theorem ofTokens_eq_ok_iff {source : String} {tokens : List Token} {m : OwnerMap} :
    ofTokens source tokens = .ok m ↔
      (∀ t ∈ tokens, t.span.FitsIn source.length) ∧
        m = ⟨source.toList, (List.range source.length).map (painter? tokens)⟩ := by
  rw [ofTokens, ofChars_eq, String.length_toList]
  split
  · next hFits => rw [Except.ok.injEq, eq_comm, and_iff_right hFits]
  · next hFits => exact ⟨nofun, fun h => absurd h.1 hFits⟩

/-- The owner of a character of the text is the last token over it. -/
theorem ownerOf?_of_ofTokens {source : String} {tokens : List Token} {m : OwnerMap}
    (h : ofTokens source tokens = .ok m) (offset : Nat) :
    m.ownerOf? offset = if offset < source.length then painter? tokens offset else none := by
  obtain ⟨-, rfl⟩ := ofTokens_eq_ok_iff.1 h
  rw [ownerOf?]
  dsimp only
  rw [List.getElem?_map]
  split
  · next hInside => rw [List.getElem?_range hInside]; rfl
  · next hOutside => rw [List.getElem?_eq_none (by rw [List.length_range]; omega)]; rfl

-- ---------------------------------------------------------------------------
-- The owners that any tokens give
-- ---------------------------------------------------------------------------

/-- The indices of the tokens whose spans hold an offset. -/
def holders (tokens : List Token) (offset : Nat) : Set Nat :=
  {i | ∃ t, tokens[i]? = some t ∧ t.span.contains offset = true}

/-- The painter is the greatest of the holders. -/
theorem painter?_eq_some_iff_isGreatest {tokens : List Token} {offset i : Nat} :
    painter? tokens offset = some i ↔ IsGreatest (holders tokens offset) i := by
  rw [painter?_eq_some_iff]
  refine and_congr_right fun _ => ?_
  constructor
  · rintro hNone j ⟨t, ht, hHolds⟩
    refine Nat.le_of_not_lt fun hLater => ?_
    rw [hNone j t hLater ht] at hHolds
    cases hHolds
  · intro hGreatest j t hLater ht
    rw [← Bool.not_eq_true]
    intro hHolds
    exact absurd (hGreatest ⟨t, ht, hHolds⟩) (Nat.not_le_of_lt hLater)

/-- Nobody paints what no span holds. -/
theorem painter?_eq_none_iff {tokens : List Token} {offset : Nat} :
    painter? tokens offset = none ↔ ∀ t ∈ tokens, t.span.contains offset = false := by
  induction tokens using List.reverseRecOn with
  | nil => exact iff_of_true rfl nofun
  | append_singleton tokens t ih =>
    rw [painter?_concat, List.forall_mem_append, List.forall_mem_singleton, ← ih]
    cases t.span.contains offset with
    | true => exact iff_of_false nofun fun h => Bool.noConfusion h.2
    | false => exact (and_iff_left rfl).symm

/-- There is no owner map when some span does not fit. -/
theorem ofTokens_eq_error_iff {source : String} {tokens : List Token} :
    ofTokens source tokens = .error .outOfRange ↔
      ∃ t ∈ tokens, ¬ t.span.FitsIn source.length := by
  rw [ofTokens, ofChars_eq, String.length_toList]
  split
  · next hFits => exact iff_of_false nofun fun ⟨t, ht, hOut⟩ => hOut (hFits t ht)
  · next hOut =>
    refine iff_of_true rfl ?_
    simpa only [not_forall, exists_prop] using hOut

/-- The spans of a list that has an owner map reach no further than the source, so the painter tells
the owner of every offset. -/
theorem ownerOf?_eq_painter? {source : String} {tokens : List Token} {m : OwnerMap}
    (h : ofTokens source tokens = .ok m) (offset : Nat) :
    m.ownerOf? offset = painter? tokens offset := by
  rw [ownerOf?_of_ofTokens h]
  split
  · rfl
  · next hOutside =>
    refine (painter?_eq_none_iff.2 fun t ht => ?_).symm
    have hStop := ((ofTokens_eq_ok_iff.1 h).1 t ht).2
    rw [← Bool.not_eq_true, Span.contains_eq_true_iff]
    omega

/-- **The owner of a character is the last token over it, whatever the tokens are.** Spans may
overlap, be empty, and stand in any order. There is no owner map just when some span runs backwards
or ends beyond the source. And else an offset belongs to the greatest index of a token whose span
holds it, and to none where no span does, as behind the end of the source. -/
theorem ofTokens_owners (source : String) (tokens : List Token) :
    (ofTokens source tokens = .error .outOfRange ↔
      ∃ t ∈ tokens, t.span.stop < t.span.start ∨ source.length < t.span.stop) ∧
    ((∀ t ∈ tokens, t.span.start ≤ t.span.stop ∧ t.span.stop ≤ source.length) →
      ∃ m, ofTokens source tokens = .ok m ∧ ∀ offset,
        (∀ i, m.ownerOf? offset = some i ↔ IsGreatest (holders tokens offset) i) ∧
        (m.ownerOf? offset = none ↔ ∀ t ∈ tokens, t.span.contains offset = false) ∧
        (source.length ≤ offset → m.ownerOf? offset = none)) := by
  refine ⟨?fault, fun hFits => ?owners⟩
  case fault =>
    rw [ofTokens_eq_error_iff]
    refine exists_congr fun t => and_congr_right fun _ => ?_
    rw [Span.FitsIn, not_and_or, Nat.not_le, Nat.not_le]
  case owners =>
    obtain ⟨m, hMap⟩ : ∃ m, ofTokens source tokens = .ok m :=
      ⟨_, ofTokens_eq_ok_iff.2 ⟨hFits, rfl⟩⟩
    refine ⟨m, hMap, fun offset => ⟨fun i => ?_, ?_, fun hBehind => ?_⟩⟩
    · rw [ownerOf?_eq_painter? hMap]
      exact painter?_eq_some_iff_isGreatest
    · rw [ownerOf?_eq_painter? hMap]
      exact painter?_eq_none_iff
    · rw [ownerOf?_of_ofTokens hMap, if_neg (Nat.not_lt_of_le hBehind)]

/-- An empty span at the end of the source is allowed and a backward one is not, though neither
holds anything. Where spans overlap the later token wins, also if it begins first. -/
theorem ofTokens_owners_of_overlap :
    let tokens : List Token :=
      [⟨.number, "", ⟨1, 2⟩, ⟨1, 3⟩⟩, ⟨.endOfInput, "", ⟨1, 4⟩, ⟨3, 3⟩⟩,
        ⟨.unknown, "", ⟨1, 1⟩, ⟨0, 2⟩⟩]
    let backward : Token := ⟨.endOfInput, "", ⟨1, 4⟩, ⟨3, 2⟩⟩
    ofTokens "ab;" [backward] = .error .outOfRange ∧
      (∀ t ∈ tokens, t.span.start ≤ t.span.stop ∧ t.span.stop ≤ "ab;".length) ∧
      ∃ m, ofTokens "ab;" tokens = .ok m ∧ m.ownerOf? 1 = some 2 ∧ m.ownerOf? 3 = none := by
  intro tokens backward
  have hFits : ∀ t ∈ tokens, t.span.start ≤ t.span.stop ∧ t.span.stop ≤ "ab;".length := by decide
  obtain ⟨m, hMap, hOwners⟩ := (ofTokens_owners "ab;" tokens).2 hFits
  refine ⟨(ofTokens_owners "ab;" [backward]).1.2 ⟨backward, by decide, by decide⟩, hFits, m, hMap,
    ((hOwners 1).1 2).2 ⟨⟨_, rfl, rfl⟩, ?_⟩, (hOwners 3).2.1.2 (by decide)⟩
  rintro i ⟨t, ht, -⟩
  exact Nat.le_of_lt_succ (List.getElem?_eq_some_iff.1 ht).1

end OwnerMap

-- ---------------------------------------------------------------------------
-- Where parts and lines begin
-- ---------------------------------------------------------------------------

namespace Text

variable {α β : Type}

theorem startOf_zero (parts : List (List α)) : startOf parts 0 = 0 := by
  cases parts <;> rfl

theorem startOf_cons_succ (part : List α) (parts : List (List α)) (index : Nat) :
    startOf (part :: parts) (index + 1) = part.length + 1 + startOf parts index := rfl

/-- The parts before an index and a break behind each of them, laid end to end. -/
theorem startOf_eq_sum (parts : List (List α)) (index : Nat) :
    startOf parts index = ((parts.take index).map fun part => part.length + 1).sum := by
  induction parts generalizing index with
  | nil => rw [List.take_nil]; rfl
  | cons part parts ih =>
    cases index with
    | zero => rfl
    | succ index =>
      rw [startOf_cons_succ, ih, List.take_succ_cons, List.map_cons, List.sum_cons]

/-- A break ends the first part, which is empty. -/
theorem split_cons_of_break {isBreak : α → Bool} {a : α} (h : isBreak a = true) (as : List α) :
    split isBreak (a :: as) = [] :: split isBreak as := by
  simp [split, cut, h]

/-- What is no break belongs to the first part. -/
theorem exists_split_cons {isBreak : α → Bool} {a : α} (h : isBreak a = false) (as : List α) :
    ∃ part later, split isBreak as = part :: later ∧
      split isBreak (a :: as) = (a :: part) :: later := by
  refine ⟨_, _, rfl, ?_⟩
  simp [split, cut, h]

/-- The part in which a place lies begins behind the last break before that place. -/
theorem startOf_split_append (isBreak : α → Bool) (before after : List α) :
    startOf (split isBreak (before ++ after)) (before.countP isBreak) +
      (before.reverse.takeWhile fun a => !isBreak a).length = before.length := by
  induction before with
  | nil => rw [List.countP_nil, startOf_zero]; rfl
  | cons a before ih =>
    -- the stretch behind the last break grows to the left only while it has met no break yet
    have hLast : ((a :: before).reverse.takeWhile fun b => !isBreak b).length =
        if (before.reverse.takeWhile fun b => !isBreak b).length = before.length then
          before.length + if isBreak a then 0 else 1
        else (before.reverse.takeWhile fun b => !isBreak b).length := by
      rw [List.reverse_cons, List.takeWhile_append, List.length_reverse]
      split
      · cases hBreak : isBreak a <;> simp [hBreak]
      · rfl
    rw [hLast, List.cons_append, List.countP_cons, List.length_cons]
    by_cases hBreak : isBreak a = true
    · rw [split_cons_of_break hBreak, if_pos hBreak, if_pos hBreak, startOf_cons_succ,
        List.length_nil]
      split
      · omega
      · omega
    · rw [Bool.not_eq_true] at hBreak
      obtain ⟨part, later, hSplit, hCons⟩ := exists_split_cons hBreak (before ++ after)
      rw [hSplit] at ih
      rw [hCons, hBreak, if_neg Bool.false_ne_true, if_neg Bool.false_ne_true, Nat.add_zero]
      -- without a break so far the stretch reaches back to the beginning
      cases hCount : before.countP isBreak with
      | zero =>
        rw [hCount, startOf_zero, Nat.zero_add] at ih
        rw [startOf_zero, if_pos ih]
        omega
      | succ n =>
        rw [hCount, startOf_cons_succ] at ih
        rw [startOf_cons_succ, List.length_cons, if_neg (by omega)]
        omega

/-- A part goes from where it begins to the next break. -/
theorem getElem?_split {isBreak : α → Bool} {as : List α} {index : Nat}
    (h : index < (split isBreak as).length) :
    (split isBreak as)[index]? =
      some ((as.drop (startOf (split isBreak as) index)).takeWhile fun a => !isBreak a) := by
  induction as generalizing index with
  | nil =>
    obtain rfl : index = 0 := by simpa [split, cut] using h
    rfl
  | cons a as ih =>
    by_cases hBreak : isBreak a = true
    · rw [split_cons_of_break hBreak] at h ⊢
      cases index with
      | zero => simp [startOf_zero, hBreak]
      | succ n =>
        rw [List.length_cons] at h
        rw [List.getElem?_cons_succ, ih (Nat.lt_of_succ_lt_succ h), startOf_cons_succ,
          List.length_nil, Nat.zero_add, Nat.add_comm 1, List.drop_succ_cons]
    · rw [Bool.not_eq_true] at hBreak
      obtain ⟨part, later, hSplit, hCons⟩ := exists_split_cons hBreak as
      rw [hSplit] at ih
      rw [hCons] at h ⊢
      have hPart := ih h
      cases index with
      | zero =>
        rw [startOf_zero, List.drop_zero, List.getElem?_cons_zero, Option.some.injEq] at hPart
        rw [startOf_zero, List.drop_zero, List.getElem?_cons_zero, hPart]
        simp [hBreak]
      | succ n =>
        rw [List.getElem?_cons_succ, startOf_cons_succ] at hPart
        rw [List.getElem?_cons_succ, startOf_cons_succ, hPart, List.length_cons,
          Nat.add_right_comm (part.length + 1), List.drop_succ_cons]

/-- Splitting what is mapped is mapping what is split, where the same elements are breaks. -/
theorem split_map (isBreak : β → Bool) (f : α → β) (as : List α) :
    split isBreak (as.map f) = (split (isBreak ∘ f) as).map (List.map f) := by
  induction as with
  | nil => rfl
  | cons a as ih =>
    rw [List.map_cons]
    cases hBreak : isBreak (f a) with
    | true =>
      have hBreak' : (isBreak ∘ f) a = true := hBreak
      rw [split_cons_of_break hBreak, split_cons_of_break hBreak', ih]
      rfl
    | false =>
      have hBreak' : (isBreak ∘ f) a = false := hBreak
      -- the same element goes to the front of the first part on both sides
      obtain ⟨part, later, hSplit, hCons⟩ := exists_split_cons hBreak (as.map f)
      obtain ⟨part', later', hSplit', hCons'⟩ := exists_split_cons hBreak' as
      rw [hSplit, hSplit', List.map_cons] at ih
      obtain ⟨rfl, rfl⟩ := List.cons.inj ih
      rw [hCons, hCons']
      rfl

/-- Where a part begins does not depend on what its elements are. -/
theorem startOf_map (f : α → β) (parts : List (List α)) (index : Nat) :
    startOf (parts.map (List.map f)) index = startOf parts index := by
  rw [startOf_eq_sum, ← List.map_take, List.map_map, startOf_eq_sum]
  congr 1
  exact List.map_congr_left fun part _ => congrArg (· + 1) (List.length_map f)

end Text

-- ---------------------------------------------------------------------------
-- The lines of an owner map
-- ---------------------------------------------------------------------------

namespace OwnerMap

/-- The characters of the lines are the lines of the source. -/
theorem map_lines {source : String} {tokens : List Token} {m : OwnerMap}
    (h : ofTokens source tokens = .ok m) :
    m.lines.map (List.map Prod.fst) = Text.split (· == '\n') source.toList := by
  obtain ⟨-, rfl⟩ := ofTokens_eq_ok_iff.1 h
  have hLength : source.toList.length =
      ((List.range source.length).map (painter? tokens)).length := by
    rw [List.length_map, List.length_range, String.length_toList]
  have hChars := List.map_fst_zip (Nat.le_of_eq hLength)
  have hSplit := Text.split_map (· == '\n') Prod.fst
    (source.toList.zip ((List.range source.length).map (painter? tokens)))
  rw [hChars] at hSplit
  exact hSplit.symm

/-- There is one line more than there are line breaks. -/
theorem lineCount_of_ofTokens {source : String} {tokens : List Token} {m : OwnerMap}
    (h : ofTokens source tokens = .ok m) : m.lineCount = source.toList.count '\n' + 1 := by
  rw [lineCount, ← List.length_map (List.map Prod.fst), map_lines h, Text.length_split]
  rfl

/-- A line of the map begins where that line of the source does. -/
theorem lineStart_of_ofTokens {source : String} {tokens : List Token} {m : OwnerMap}
    (h : ofTokens source tokens = .ok m) (line : Nat) :
    m.lineStart line = Text.startOf (Text.split (· == '\n') source.toList) line := by
  rw [← map_lines h, Text.startOf_map]
  rfl

/-- A line is what stands from where it begins to the next line break. -/
theorem map_fst_lines_getElem? {source : String} {tokens : List Token} {m : OwnerMap}
    (h : ofTokens source tokens = .ok m) {line : Nat} (hLine : line < m.lineCount) :
    m.lines[line]?.map (List.map Prod.fst) =
      some ((source.toList.drop (m.lineStart line)).takeWhile (· != '\n')) := by
  rw [← List.getElem?_map, map_lines h, lineStart_of_ofTokens h]
  refine Text.getElem?_split ?_
  rwa [← map_lines h, List.length_map]

/-- The location behind a first part of the source names the line in which that part ends, and the
column counts from where that line begins. -/
theorem lineStart_behind {source : String} {tokens : List Token} {m : OwnerMap}
    (h : ofTokens source tokens = .ok m) {before : List Char} (hBefore : before <+: source.toList) :
    (Location.behind before).line - 1 < m.lineCount ∧
      m.lineStart ((Location.behind before).line - 1) + ((Location.behind before).column - 1) =
        before.length := by
  obtain ⟨after, hText⟩ := hBefore
  have hStart := Text.startOf_split_append (· == '\n') before after
  rw [lineCount_of_ofTokens h, lineStart_of_ofTokens h, ← hText, List.count_append]
  simp only [Location.behind, Nat.add_sub_cancel_left]
  exact ⟨by omega, hStart⟩

end OwnerMap

-- ---------------------------------------------------------------------------
-- The owner map of a scan
-- ---------------------------------------------------------------------------

/-- The spans of a scan lie within the source. -/
theorem fitsIn_of_mem_tokensBehind {keep : Bool} {cs : List Char} {t : Token}
    (h : t ∈ tokensBehind keep [] cs) : t.span.FitsIn cs.length := by
  rcases List.mem_append.1 h with hLaid | hEnd
  · have hStop := (span_of_mem_layout hLaid).2
    rw [List.nil_append, flatMap_pieces] at hStop
    exact ⟨Nat.le_of_lt (start_lt_stop_of_mem_layout hLaid), hStop⟩
  · rw [List.mem_singleton.1 hEnd]
    exact ⟨Nat.le_refl _, Nat.le_refl _⟩

namespace OwnerMap

/-- Where spans do not overlap, a token paints what it covers. -/
theorem painter?_eq_some_iff_of_pairwise {tokens : List Token}
    (h : tokens.Pairwise fun a b => a.span.stop ≤ b.span.start) {offset i : Nat} :
    painter? tokens offset = some i ↔
      ∃ t, tokens[i]? = some t ∧ t.span.contains offset = true := by
  rw [painter?_eq_some_iff]
  refine ⟨And.left, fun hOver => ⟨hOver, ?_⟩⟩
  intro j u hLater hu
  obtain ⟨t, ht, hHolds⟩ := hOver
  obtain ⟨hi, rfl⟩ := List.getElem?_eq_some_iff.1 ht
  obtain ⟨hj, rfl⟩ := List.getElem?_eq_some_iff.1 hu
  -- a later token over the same offset would begin before this one ends
  have hOrder := List.pairwise_iff_getElem.1 h i j hi hj hLater
  rw [Span.contains_eq_true_iff] at hHolds
  rw [← Bool.not_eq_true, Span.contains_eq_true_iff]
  omega

/-- A scan has an owner map. -/
theorem exists_ofTokens_scan (s : String) (keep : Bool) :
    ∃ m, ofTokens s (scan s keep) = .ok m := by
  refine ⟨_, ofTokens_eq_ok_iff.2 ⟨?_, rfl⟩⟩
  intro t ht
  rw [scan_eq_tokensBehind] at ht
  rw [← String.length_toList]
  exact fitsIn_of_mem_tokensBehind ht

/-- A token of a scan owns the characters that it covers. -/
theorem ownerOf?_scan_eq_some_iff {s : String} {keep : Bool} {m : OwnerMap}
    (h : ofTokens s (scan s keep) = .ok m) {offset i : Nat} :
    m.ownerOf? offset = some i ↔
      ∃ t, (scan s keep)[i]? = some t ∧ t.span.contains offset = true := by
  have hPairwise := pairwise_tokensBehind keep s.toList
  rw [← scan_eq_tokensBehind] at hPairwise
  rw [ownerOf?_eq_painter? h, painter?_eq_some_iff_of_pairwise hPairwise]

end OwnerMap

/-- What no token of a scan covers is white space or lies under a comment that has been dropped. -/
theorem isWhiteSpace_or_underComment {s : String} {keep : Bool} {offset : Nat} {c : Char}
    (hChar : s.toList[offset]? = some c)
    (hFree : ∀ t ∈ scan s keep, t.span.contains offset = false) :
    isWhiteSpace c = true ∨
      (keep = false ∧ ∃ t ∈ scan s true, t.kind = .comment ∧ t.span.contains offset = true) := by
  rcases isWhiteSpace_or_contains hChar with hBlank | ⟨qs, l, rs, hPieces, hHolds⟩
  · exact .inl hBlank
  · right
    -- a lexeme that is wanted has a token over this offset
    have hDropped : ¬ (l.isComment = true → keep = true) := by
      intro hWanted
      rw [hFree _ (tokenBehind_mem_scan hPieces hWanted)] at hHolds
      cases hHolds
    rw [Classical.not_imp, Bool.not_eq_true] at hDropped
    have hKind : (l.tokenBehind (qs.flatMap Piece.chars)).kind = .comment :=
      eq_of_beq hDropped.1
    exact ⟨hDropped.2, _, tokenBehind_mem_scan hPieces (fun _ => rfl), hKind, hHolds⟩

/-- **The owner map of a scan agrees with its tokens.** A token owns exactly the characters that it
covers. A character without an owner is white space, or belongs to a comment that has been dropped.
And where the location of a token says that its line begins, there the line of the owner map with
that number begins; it is the text from there to the next line break. -/
theorem scan_ownerMap (s : String) (keep : Bool) :
    ∃ m, OwnerMap.ofTokens s (scan s keep) = .ok m ∧
      (∀ offset i, m.ownerOf? offset = some i ↔
        ∃ t, (scan s keep)[i]? = some t ∧ t.span.contains offset = true) ∧
      (∀ offset c, s.toList[offset]? = some c → m.ownerOf? offset = none →
        isWhiteSpace c = true ∨
          (keep = false ∧ ∃ t ∈ scan s true, t.kind = .comment ∧ t.span.contains offset = true)) ∧
      ∀ t ∈ scan s keep,
        0 < t.location.line ∧ t.location.line - 1 < m.lineCount ∧
          0 < t.location.column ∧ t.location.column - 1 ≤ t.span.start ∧
          m.lineStart (t.location.line - 1) = t.span.start - (t.location.column - 1) ∧
          m.lines[t.location.line - 1]?.map (List.map Prod.fst) =
            some ((s.toList.drop (t.span.start - (t.location.column - 1))).takeWhile
              (· != '\n')) := by
  obtain ⟨m, hMap⟩ := OwnerMap.exists_ofTokens_scan s keep
  refine ⟨m, hMap, fun _ _ => OwnerMap.ownerOf?_scan_eq_some_iff hMap, ?unowned, ?lines⟩
  case unowned =>
    intro offset c hChar hNone
    refine isWhiteSpace_or_underComment hChar ?_
    intro t ht
    rw [← Bool.not_eq_true]
    intro hHolds
    obtain ⟨i, hi⟩ := List.getElem?_of_mem ht
    rw [(OwnerMap.ownerOf?_scan_eq_some_iff hMap).2 ⟨t, hi, hHolds⟩] at hNone
    cases hNone
  case lines =>
    intro t ht
    rw [scan_eq_tokensBehind] at ht
    -- a token tells its place from the text before it, and so does the map for that text
    obtain ⟨before, hBefore, hStart, hLocation⟩ := exists_isPrefix_of_mem_tokensBehind ht
    obtain ⟨hLine, hColumn⟩ := OwnerMap.lineStart_behind hMap hBefore
    rw [← hLocation, ← hStart] at hColumn
    rw [← hLocation] at hLine
    have hFirstLine : 0 < t.location.line := by
      rw [hLocation]
      exact Nat.add_pos_left Nat.one_pos _
    have hFirstColumn : 0 < t.location.column := by
      rw [hLocation]
      exact Nat.add_pos_left Nat.one_pos _
    have hBegins : m.lineStart (t.location.line - 1) =
        t.span.start - (t.location.column - 1) := by omega
    refine ⟨hFirstLine, hLine, hFirstColumn, by omega, hBegins, ?_⟩
    rw [← hBegins]
    exact OwnerMap.map_fst_lines_getElem? hMap hLine

end CTokens
