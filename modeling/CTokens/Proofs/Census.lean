import CTokens.Explorer.Basic
import CTokens.Proofs.Displays
import Mathlib.Algebra.BigOperators.Group.List.Lemmas
import Mathlib.Algebra.GroupWithZero.Nat
import Mathlib.Data.List.Sort

/-!
# CTokens — how many tokens of each kind

The census of a list of tokens has an entry for each kind that occurs, with the number of its
tokens. The entries are sorted by that number, largest first. The sort is stable and what it sorts
stands in the order of the kinds, so kinds that occur equally often keep that order and the census
is determined by the tokens.

Main statements:

* `pairwise_mergeSort_of_ties` — what a sort finds equal stays in the order it had;
* `Explorer.isCensus_iff` — one list of entries only is the census of the tokens;
* `Explorer.sum_census` — every token is counted once;
* `Explorer.summarize_eq_empty_iff` — what a summary of no tokens says is not said of others;
* `Explorer.census_accounts` — census and summary of any state of the explorer.
-/

namespace CTokens

/-- **What a sort finds equal stays in the order it had.** -/
theorem pairwise_mergeSort_of_ties {α : Type} {le : α → α → Bool} {before : α → α → Prop}
    {items : List α} (hTrans : ∀ a b c, le a b = true → le b c = true → le a c = true)
    (hTotal : ∀ a b, (le a b || le b a) = true) (hBefore : items.Pairwise before) :
    (items.mergeSort le).Pairwise fun a b => le a b = true ∧ (le b a = true → before a b) := by
  -- The items are sorted together with their indices, and by these where `le` does not tell.
  have hSorted := List.pairwise_mergeSort (List.zipIdxLE_trans hTrans)
    (List.zipIdxLE_total hTotal) items.zipIdx
  have hPerm := List.mergeSort_perm items.zipIdx (List.zipIdxLE le)
  have hApart : (items.zipIdx.mergeSort (List.zipIdxLE le)).Pairwise fun a b => a.2 ≠ b.2 := by
    rw [← List.pairwise_map (f := Prod.snd) (R := (· ≠ ·))]
    refine (hPerm.map Prod.snd).nodup_iff.2 ?_
    rw [List.zipIdx_map_snd]
    exact List.nodup_range'
  rw [← List.mergeSort_zipIdx, List.pairwise_map]
  refine (hSorted.and hApart).imp_of_mem ?_
  rintro ⟨a, i⟩ ⟨b, j⟩ ha hb ⟨hKeys, hNe⟩
  rw [hPerm.mem_iff, List.mem_zipIdx_iff_getElem?, List.getElem?_eq_some_iff] at ha hb
  obtain ⟨hi, hItem⟩ := ha
  obtain ⟨hj, hItem'⟩ := hb
  -- what is sorted by `le` alone comes first; where `le` does not tell, the indices do, and they
  -- stand in the order of the items
  by_cases hLe : le a b = true
  · refine ⟨hLe, fun hGe => ?_⟩
    have hIndex : i ≤ j := by simpa [List.zipIdxLE, hLe, hGe] using hKeys
    rw [← hItem, ← hItem']
    exact List.pairwise_iff_getElem.1 hBefore i j hi hj (lt_of_le_of_ne hIndex hNe)
  · exact absurd hKeys (by simp [List.zipIdxLE, hLe])

namespace TokenKind

/-- The order in which kinds are listed is the one in which they are declared. -/
theorem pairwise_ctorIdx_all : all.Pairwise fun a b => a.ctorIdx < b.ctorIdx := by decide

end TokenKind

namespace Explorer

-- ---------------------------------------------------------------------------
-- The entries of the census
-- ---------------------------------------------------------------------------

/-- An entry comes before another when its number is larger. Of equal numbers the kind that is
declared first comes first. -/
def Precedes (a b : TokenKind × Nat) : Prop :=
  b.2 < a.2 ∨ (a.2 = b.2 ∧ a.1.ctorIdx < b.1.ctorIdx)

/-- What makes a list of entries the census of some tokens. -/
structure IsCensus (tokens : List Token) (entries : List (TokenKind × Nat)) : Prop where
  /-- There is an entry for each kind that occurs, with the number of times that it does. -/
  mem_iff : ∀ kind n, (kind, n) ∈ entries ↔
    (∃ t ∈ tokens, t.kind = kind) ∧ n = tokens.countP fun t => t.kind == kind
  /-- The entries stand in order, which leaves no room for one that stands there twice. -/
  ordered : entries.Pairwise Precedes

variable {tokens : List Token} {entries : List (TokenKind × Nat)}

theorem countP_kind_pos_iff {kind : TokenKind} :
    0 < tokens.countP (fun t => t.kind == kind) ↔ ∃ t ∈ tokens, t.kind = kind := by
  simp [List.countP_pos_iff]

theorem Precedes.asymm {a b : TokenKind × Nat} (h : Precedes a b) : ¬ Precedes b a := by
  unfold Precedes at *
  omega

instance : Std.Asymm Precedes := ⟨fun _ _ => Precedes.asymm⟩

/-- One list of entries only is the census of the tokens. -/
theorem IsCensus.unique {entries' : List (TokenKind × Nat)} (h : IsCensus tokens entries)
    (h' : IsCensus tokens entries') : entries = entries' := by
  refine h.ordered.eq_of_mem_iff h'.ordered ?_
  rintro ⟨kind, n⟩
  rw [h.mem_iff, h'.mem_iff]

/-- A kind stands in the census of the tokens once. -/
theorem IsCensus.nodup_kinds (h : IsCensus tokens entries) : (entries.map Prod.fst).Nodup := by
  rw [List.Nodup, List.pairwise_map]
  refine h.ordered.imp_of_mem ?_
  rintro ⟨kind, n⟩ ⟨kind', n'⟩ ha hb hOrder (rfl : kind = kind')
  obtain ⟨-, rfl⟩ := (h.mem_iff _ _).1 ha
  obtain ⟨-, rfl⟩ := (h.mem_iff _ _).1 hb
  exact hOrder.asymm hOrder

/-- The numbers in the census of the tokens add up to the number of tokens. -/
theorem IsCensus.sum (h : IsCensus tokens entries) :
    (entries.map Prod.snd).sum = tokens.length := by
  have hCount : entries.map Prod.snd =
      (entries.map Prod.fst).map fun kind => (tokens.map Token.kind).count kind := by
    rw [List.map_map]
    refine List.map_congr_left ?_
    rintro ⟨kind, n⟩ hEntry
    rw [((h.mem_iff _ _).1 hEntry).2, Function.comp_apply, List.count, List.countP_map]
    rfl
  -- the kinds of the entries are those of the tokens without repetition, so adding up the numbers
  -- counts every token under its own kind
  have hKinds : (entries.map Prod.fst).Perm (tokens.map Token.kind).dedup := by
    rw [List.perm_ext_iff_of_nodup h.nodup_kinds (List.nodup_dedup _)]
    intro kind
    simp [h.mem_iff]
  rw [hCount, (hKinds.map _).sum_eq, List.sum_map_count_dedup_eq_length, List.length_map]

/-- The census is the census of the tokens. -/
theorem isCensus_census (tokens : List Token) : IsCensus tokens (census tokens) := by
  constructor
  · intro kind n
    rw [← countP_kind_pos_iff]
    simp only [census, List.mem_mergeSort, List.mem_filter, List.mem_map, bne_iff_ne,
      ← Nat.pos_iff_ne_zero]
    constructor
    · rintro ⟨⟨_, -, hEntry⟩, hPos⟩
      obtain ⟨rfl, rfl⟩ := Prod.mk.inj hEntry
      exact ⟨hPos, rfl⟩
    · rintro ⟨hPos, rfl⟩
      exact ⟨⟨kind, TokenKind.mem_all kind, rfl⟩, hPos⟩
  · have hDeclared : ((TokenKind.all.map fun kind =>
        (kind, tokens.countP fun t => t.kind == kind)).filter fun entry => entry.2 != 0).Pairwise
        fun a b => a.1.ctorIdx < b.1.ctorIdx := by
      refine List.Pairwise.filter _ ?_
      rw [List.pairwise_map]
      exact TokenKind.pairwise_ctorIdx_all
    refine (pairwise_mergeSort_of_ties ?_ ?_ hDeclared).imp ?_
    · intro a b c hab hbc
      simp only [decide_eq_true_eq] at *
      omega
    · intro a b
      simp only [Bool.or_eq_true, decide_eq_true_eq]
      omega
    · intro a b hOrder
      simp only [decide_eq_true_eq] at hOrder
      rcases Nat.lt_or_ge b.2 a.2 with hMore | hLess
      · exact .inl hMore
      · exact .inr ⟨by omega, hOrder.2 hLess⟩

/-- **One list of entries only is the census of the tokens.** -/
theorem isCensus_iff : IsCensus tokens entries ↔ entries = census tokens := by
  constructor
  · exact fun h => h.unique (isCensus_census tokens)
  · rintro rfl
    exact isCensus_census tokens

/-- Every token is counted once. -/
theorem sum_census (tokens : List Token) : ((census tokens).map Prod.snd).sum = tokens.length :=
  (isCensus_census tokens).sum

theorem pos_of_mem_census {entry : TokenKind × Nat} (h : entry ∈ census tokens) : 0 < entry.2 := by
  obtain ⟨hOccurs, hCount⟩ := ((isCensus_census tokens).mem_iff _ _).1 h
  rw [hCount]
  exact countP_kind_pos_iff.2 hOccurs

-- ---------------------------------------------------------------------------
-- The census in words
-- ---------------------------------------------------------------------------

/-- The entries that a summary mentions: those of the kinds other than the end of the input. -/
def mentioned (tokens : List Token) : List (TokenKind × Nat) :=
  (census tokens).filter fun entry => entry.1 != .endOfInput

/-- An entry in words. -/
def mention (entry : TokenKind × Nat) : String := toString entry.2 ++ " " ++ entry.1.name

/-- Nothing is mentioned when there are no tokens but the mark of the end. -/
theorem mentioned_eq_nil_iff :
    mentioned tokens = [] ↔ ∀ t ∈ tokens, t.kind = .endOfInput := by
  simp only [mentioned, List.filter_eq_nil_iff, bne_iff_ne, not_not]
  constructor
  · intro h t ht
    exact h (t.kind, tokens.countP fun u => u.kind == t.kind)
      (((isCensus_census tokens).mem_iff _ _).2 ⟨⟨t, ht, rfl⟩, rfl⟩)
  · rintro h ⟨kind, n⟩ hEntry
    obtain ⟨⟨t, ht, rfl⟩, -⟩ := ((isCensus_census tokens).mem_iff _ _).1 hEntry
    exact h t ht

/-- A summary lists what it mentions, or says that there is nothing. -/
theorem summarize_eq (tokens : List Token) :
    summarize tokens = if mentioned tokens = [] then "Empty input"
      else ", ".intercalate ((mentioned tokens).map mention) := by
  simp only [summarize, mentioned, List.isEmpty_iff]
  rfl

/-- Entries in words begin with a digit. -/
theorem exists_head?_mention (entry : TokenKind × Nat) (rest : List (TokenKind × Nat)) :
    ∃ c, (", ".intercalate ((entry :: rest).map mention)).toList.head? = some c ∧
      c.isDigit = true := by
  obtain ⟨c, digits, hDigits⟩ : ∃ c digits, (toString entry.2).toList = c :: digits := by
    rw [Nat.toString_eq_ofList_toDigits, String.toList_ofList]
    exact List.exists_cons_of_ne_nil Nat.toDigits_ne_nil
  have hFirst : c ∈ (toString entry.2).toList := hDigits ▸ List.mem_cons_self
  refine ⟨c, ?_, Text.isDigit_of_mem_toString hFirst⟩
  rw [List.map_cons, mention, String.append_assoc, String.intercalate_cons_append,
    String.toList_append, hDigits]
  rfl

/-- What a summary of no tokens says is not said of others. -/
theorem summarize_eq_empty_iff :
    summarize tokens = "Empty input" ↔ ∀ t ∈ tokens, t.kind = .endOfInput := by
  rw [← mentioned_eq_nil_iff, summarize_eq]
  by_cases hNone : mentioned tokens = []
  · rw [if_pos hNone]
    exact iff_of_true rfl hNone
  · rw [if_neg hNone]
    refine iff_of_false ?_ hNone
    obtain ⟨entry, rest, hEntries⟩ := List.exists_cons_of_ne_nil hNone
    rw [hEntries]
    intro hEmpty
    obtain ⟨c, hHead, hDigit⟩ := exists_head?_mention entry rest
    rw [hEmpty] at hHead
    have hLetter : 'E' = c := Option.some.inj hHead
    rw [← hLetter] at hDigit
    exact absurd hDigit (by decide)

/-- **Census and summary account for every token of any state.** The census lists each kind that
occurs with the number of times that it does, most frequent kinds first and equally frequent ones
as they are declared, and there is no other list that does. No number is zero, and together they
make up the number of tokens. The summary is made of the entries of the census, in their order and
without the end of the input, and it says that there are none exactly when there are none. -/
theorem census_accounts (e : Explorer) :
    (∀ entries, IsCensus e.tokens entries ↔ entries = census e.tokens) ∧
    ((census e.tokens).map Prod.fst).Nodup ∧
    (∀ entry ∈ census e.tokens, 0 < entry.2) ∧
    ((census e.tokens).map Prod.snd).sum = e.tokens.length ∧
    (e.summary = if mentioned e.tokens = [] then "Empty input"
      else ", ".intercalate ((mentioned e.tokens).map mention)) ∧
    (e.summary = "Empty input" ↔ ∀ t ∈ e.tokens, t.kind = .endOfInput) :=
  ⟨fun _ => isCensus_iff, (isCensus_census e.tokens).nodup_kinds, fun _ => pos_of_mem_census,
    sum_census e.tokens, summarize_eq e.tokens, summarize_eq_empty_iff⟩

end Explorer

end CTokens
