import CTokens.Unicode.Conjunct
import CTokens.Unicode.Control
import CTokens.Unicode.Emoji
import CTokens.Unicode.Extending
import CTokens.Unicode.Pictographic
import CTokens.Unicode.Prepended
import CTokens.Unicode.SpacingMark

/-!
# CTokens — grapheme clusters

A grapheme cluster is what a reader takes for one character: a letter with its marks, a syllable
of Hangul, two regional indicators that make a flag, or an emoji put together from several. The
rules of Unicode for extended grapheme clusters say between which characters a text may be cut.

Main statements:

* `flatten_clusters`, `nil_notMem_clusters` — the clusters are a cut of the text into non-empty
  pieces;
* `clusters_eq_singletons` — a text of plain characters is cut between any two of them;
* `isPlain_of_ascii` — the printable characters of ASCII are plain.
-/

namespace CTokens.Unicode

-- ---------------------------------------------------------------------------
-- Classes of characters
-- ---------------------------------------------------------------------------

/-- What a character is to its neighbours. -/
inductive GraphemeClass where
  | carriageReturn
  | lineFeed
  | control
  | extending
  | joiner
  | regionalIndicator
  | prepended
  | spacingMark
  | leadingConsonant
  | vowel
  | trailingConsonant
  | openSyllable
  | closedSyllable
  | other
deriving DecidableEq, Repr

/-- The code points that stand apart like control characters: separators of lines and
paragraphs, and most format characters. -/
def apartRanges : RangeTable where
  ranges :=
    [(0xAD, 0xAD), (0x61C, 0x61C), (0x180E, 0x180E), (0x200B, 0x200B), (0x200E, 0x200F),
     (0x2028, 0x202E), (0x2060, 0x206F), (0xFEFF, 0xFEFF), (0xFFF0, 0xFFFB), (0x13430, 0x1343F),
     (0x1BCA0, 0x1BCA3), (0x1D173, 0x1D17A), (0xE0000, 0xE001F), (0xE0080, 0xE00FF),
     (0xE01F0, 0xE0FFF)]
  ascends := by decide +kernel

/-- The code points of leading consonants of Hangul. -/
def leadingConsonantRanges : RangeTable where
  ranges := [(0x1100, 0x115F), (0xA960, 0xA97C)]
  ascends := by decide +kernel

/-- The code points of vowels of Hangul, and of the vowels that are joined alike. -/
def vowelRanges : RangeTable where
  ranges := [(0x1160, 0x11A7), (0xD7B0, 0xD7C6), (0x16D63, 0x16D63), (0x16D67, 0x16D6A)]
  ascends := by decide +kernel

/-- The code points of trailing consonants of Hangul. -/
def trailingConsonantRanges : RangeTable where
  ranges := [(0x11A8, 0x11FF), (0xD7CB, 0xD7FB)]
  ascends := by decide +kernel

/-- Whether a character is a syllable of Hangul. -/
def isSyllable (c : Char) : Bool := decide (0xAC00 ≤ c.toNat) && decide (c.toNat ≤ 0xD7A3)

/-- Whether a syllable of Hangul ends in its vowel. Each is followed by its 27 closed forms. -/
def isOpenSyllable (c : Char) : Bool := isSyllable c && (c.toNat - 0xAC00) % 28 == 0

/-- Whether a character is a regional indicator, of which two make a flag. -/
def isRegionalIndicator (c : Char) : Bool :=
  decide (0x1F1E6 ≤ c.toNat) && decide (c.toNat ≤ 0x1F1FF)

/-- The class of a character. -/
def GraphemeClass.ofChar (c : Char) : GraphemeClass :=
  if c = '\r' then .carriageReturn
  else if c = '\n' then .lineFeed
  else if c = '\u200d' then .joiner
  else if isControl c || apartRanges.covers c.toNat then .control
  else if isExtending c || isModifier c then .extending
  else if isRegionalIndicator c then .regionalIndicator
  else if isPrepended c then .prepended
  else if isSpacingMark c then .spacingMark
  else if leadingConsonantRanges.covers c.toNat then .leadingConsonant
  else if vowelRanges.covers c.toNat then .vowel
  else if trailingConsonantRanges.covers c.toNat then .trailingConsonant
  else if isOpenSyllable c then .openSyllable
  else if isSyllable c then .closedSyllable
  else .other

-- ---------------------------------------------------------------------------
-- Boundaries
-- ---------------------------------------------------------------------------

/-- How far a link that needs two partners has come: nowhere, to its first partner, or to the
point at which the second partner is awaited. -/
inductive Link where
  | absent
  | begun
  | awaiting
deriving DecidableEq, Repr

/-- What counts of the open cluster when a character comes that may end it. -/
structure OpenCluster where
  last : GraphemeClass := .other
  /-- Whether the last character is a regional indicator that has no partner yet. -/
  loneIndicator : Bool := false
  /-- A joiner links two pictographs, marks on the first aside. -/
  pictographs : Link := .absent
  /-- A linker links two consonants, marks on the first aside. -/
  consonants : Link := .absent
deriving DecidableEq, Repr

namespace OpenCluster

/-- How far the link of pictographs has come with one more character. -/
def linkPictographs (link : Link) (c : Char) : Link :=
  if isPictographic c then .begun
  else
    match link, GraphemeClass.ofChar c with
    | .begun, .extending => .begun
    | .begun, .joiner => .awaiting
    | _, _ => .absent

/-- Whether a character leaves the link of consonants as it is. -/
def keepsConsonants (c : Char) : Bool :=
  c != '\u200c' && (GraphemeClass.ofChar c == .extending || GraphemeClass.ofChar c == .joiner)

/-- How far the link of consonants has come with one more character. -/
def linkConsonants (link : Link) (c : Char) : Link :=
  if isConsonant c then .begun
  else if link = .absent then .absent
  else if isLinker c then .awaiting
  else if keepsConsonants c then link
  else .absent

/-- Take a character into the cluster. -/
def push (o : OpenCluster) (c : Char) : OpenCluster :=
  { last := GraphemeClass.ofChar c
    loneIndicator :=
      isRegionalIndicator c && !(o.last == .regionalIndicator && o.loneIndicator)
    pictographs := linkPictographs o.pictographs c
    consonants := linkConsonants o.consonants c }

/-- The cluster that a character begins. -/
def begin (c : Char) : OpenCluster := ({} : OpenCluster).push c

/-- Whether a character completes a link. -/
def completes (o : OpenCluster) (c : Char) : Bool :=
  (o.pictographs == .awaiting && isPictographic c) ||
    (o.consonants == .awaiting && isConsonant c)

/-- Whether a character belongs to the cluster before it. -/
def admits (o : OpenCluster) (c : Char) : Bool :=
  match o.last, GraphemeClass.ofChar c with
  | .carriageReturn, .lineFeed => true
  | .carriageReturn, _ | .lineFeed, _ | .control, _ => false
  | _, .carriageReturn | _, .lineFeed | _, .control => false
  | .leadingConsonant, .leadingConsonant | .leadingConsonant, .vowel => true
  | .leadingConsonant, .openSyllable | .leadingConsonant, .closedSyllable => true
  | .openSyllable, .vowel | .vowel, .vowel => true
  | .openSyllable, .trailingConsonant | .vowel, .trailingConsonant => true
  | .closedSyllable, .trailingConsonant | .trailingConsonant, .trailingConsonant => true
  | _, .extending | _, .joiner | _, .spacingMark => true
  | .prepended, _ => true
  | .regionalIndicator, .regionalIndicator => o.loneIndicator
  | _, _ => o.completes c

/-- The rest of the open cluster, and the clusters behind it. -/
def split (o : OpenCluster) : List Char → List Char × List (List Char)
  | [] => ([], [])
  | c :: cs =>
    if o.admits c then
      let behind := (o.push c).split cs
      (c :: behind.1, behind.2)
    else
      let behind := (begin c).split cs
      ([], (c :: behind.1) :: behind.2)

end OpenCluster

-- ---------------------------------------------------------------------------
-- Clusters
-- ---------------------------------------------------------------------------

/-- The grapheme clusters of a text. -/
def clusters : List Char → List (List Char)
  | [] => []
  | c :: cs =>
    let behind := (OpenCluster.begin c).split cs
    (c :: behind.1) :: behind.2

/-- What an open cluster takes and the clusters behind it are the text. -/
theorem OpenCluster.append_flatten_split (o : OpenCluster) (cs : List Char) :
    (o.split cs).1 ++ (o.split cs).2.flatten = cs := by
  induction cs generalizing o with
  | nil => rfl
  | cons c cs ih =>
    rw [split]
    split
    · simpa using ih (o.push c)
    · simpa using ih (begin c)

/-- The clusters behind an open one are not empty. -/
theorem OpenCluster.nil_notMem_split (o : OpenCluster) (cs : List Char) :
    [] ∉ (o.split cs).2 := by
  induction cs generalizing o with
  | nil => simp [split]
  | cons c cs ih =>
    rw [split]
    split
    · exact ih (o.push c)
    · simpa using ih (begin c)

/-- The clusters of a text, put together, are the text. -/
theorem flatten_clusters (cs : List Char) : (clusters cs).flatten = cs := by
  match cs with
  | [] => rfl
  | c :: cs => simpa [clusters] using (OpenCluster.begin c).append_flatten_split cs

/-- No cluster is empty. -/
theorem nil_notMem_clusters (cs : List Char) : [] ∉ clusters cs := by
  match cs with
  | [] => simp [clusters]
  | c :: cs => simpa [clusters] using (OpenCluster.begin c).nil_notMem_split cs

-- ---------------------------------------------------------------------------
-- Plain characters
-- ---------------------------------------------------------------------------

/-- Whether a character joins neither the one before it nor the one behind it, if that is plain
too. -/
def isPlain (c : Char) : Bool :=
  GraphemeClass.ofChar c == .other && !isPictographic c && !isConsonant c

/-- The printable characters of ASCII are plain. -/
theorem isPlain_of_ascii {c : Char} (h : 0x20 ≤ c.toNat) (h' : c.toNat ≤ 0x7E) :
    isPlain c = true :=
  of_ascii (p := fun c => isPlain c = true) (by decide +kernel) h h'

theorem ofChar_of_isPlain {c : Char} (h : isPlain c = true) : GraphemeClass.ofChar c = .other := by
  simp only [isPlain, Bool.and_eq_true, beq_iff_eq] at h
  exact h.1.1

theorem OpenCluster.last_begin_of_isPlain {c : Char} (h : isPlain c = true) :
    (begin c).last = .other := ofChar_of_isPlain h

/-- A plain character is not joined to one. -/
theorem OpenCluster.admits_of_isPlain {o : OpenCluster} (ho : o.last = .other) {c : Char}
    (h : isPlain c = true) : o.admits c = false := by
  have hc := ofChar_of_isPlain h
  simp only [isPlain, Bool.and_eq_true, Bool.not_eq_true'] at h
  simp [admits, ho, hc, completes, h.1.2, h.2]

/-- Plain characters behind a plain one are clusters by themselves. -/
theorem OpenCluster.split_of_isPlain {o : OpenCluster} (ho : o.last = .other) {cs : List Char}
    (h : ∀ c ∈ cs, isPlain c = true) : o.split cs = ([], cs.map fun c => [c]) := by
  induction cs generalizing o with
  | nil => rfl
  | cons c cs ih =>
    have hc := h c List.mem_cons_self
    rw [split, admits_of_isPlain ho hc, if_neg Bool.false_ne_true,
      ih (last_begin_of_isPlain hc) fun d hd => h d (List.mem_cons_of_mem c hd)]
    rfl

/-- Plain characters are clusters by themselves. -/
theorem clusters_eq_singletons {cs : List Char} (h : ∀ c ∈ cs, isPlain c = true) :
    clusters cs = cs.map fun c => [c] := by
  match cs with
  | [] => rfl
  | c :: cs =>
    have hc := h c List.mem_cons_self
    rw [clusters, OpenCluster.split_of_isPlain (OpenCluster.last_begin_of_isPlain hc)
      fun d hd => h d (List.mem_cons_of_mem c hd)]
    rfl

end CTokens.Unicode
