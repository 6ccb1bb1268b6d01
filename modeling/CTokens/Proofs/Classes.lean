import CTokens.Proofs.Partition

/-!
# CTokens — the classes of tokens

What a token is can be told from the characters that it begins with: from the first one, and for
comments, numbers and operators from the next one as well. The questions may be asked in any order,
since no two of the known classes begin alike, over all characters of Unicode and all entries of the
tables. What is of no known class is unknown.

The class settles how far the token goes. A word takes all characters that may continue it, and an
operator is the longest one of the table that fits; delimiters and unknown characters stand alone.

Main statements:

* `Lexeme.longestPrefix_operatorAt?` — the operator that is found is the longest one;
* `TokenClass.applies_iff` — the class that applies to a text is the one of the lexeme that is read;
* `scan_classes` — every token of a scan is of exactly one class, and is what that class says.
-/

namespace CTokens

open Unicode

-- ---------------------------------------------------------------------------
-- Longest matches
-- ---------------------------------------------------------------------------

/-- Where longer spellings come first, the first that fits is the longest that does. -/
theorem length_le_of_find?_eq_some {spellings : List String} {fits : String → Bool}
    {found : String} (hOrder : spellings.Pairwise fun a b => b.length ≤ a.length)
    (hFound : spellings.find? fits = some found) {other : String} (hOther : other ∈ spellings)
    (hFits : fits other = true) : other.length ≤ found.length := by
  obtain ⟨-, before, behind, rfl, hNone⟩ := List.find?_eq_some_iff_append.1 hFound
  rcases List.mem_append.1 hOther with hBefore | hBehind
  · have hUnfit := hNone other hBefore
    rw [hFits] at hUnfit
    cases hUnfit
  · rcases List.mem_cons.1 hBehind with rfl | hBehind
    · exact Nat.le_refl _
    · exact (List.pairwise_cons.1 (List.pairwise_append.1 hOrder).2.1).1 other hBehind

/-- Sorting puts longer operators before shorter ones. -/
theorem pairwise_operatorsLongestFirst :
    operatorsLongestFirst.Pairwise fun a b => b.length ≤ a.length := by
  refine (List.pairwise_mergeSort ?trans ?total operators).imp of_decide_eq_true
  case trans =>
    intro a b c hab hbc
    exact decide_eq_true (Nat.le_trans (of_decide_eq_true hbc) (of_decide_eq_true hab))
  case total =>
    intro a b
    simpa using Nat.le_total b.length a.length

/-- Whether a word spells an operator of the table. -/
def SpellsOperator (word : List Char) : Prop := String.ofList word ∈ operators

/-- The operator that is found is the longest one that the text begins with. -/
theorem Lexeme.longestPrefix_operatorAt? {cs : List Char} {spelling : String}
    (h : operatorAt? cs = some spelling) : LongestPrefix SpellsOperator cs spelling.toList := by
  refine ⟨isPrefix_of_operatorAt? h, ?_, ?_⟩
  · rw [SpellsOperator, String.ofList_toList]
    exact mem_operators_of_operatorAt? h
  · intro other hPrefix hOther
    have hLength := length_le_of_find?_eq_some pairwise_operatorsLongestFirst h
      (mem_operatorsLongestFirst.2 hOther)
      (List.isPrefixOf_iff_prefix.2 (by rwa [String.toList_ofList]))
    rwa [String.length_ofList, ← String.length_toList] at hLength

/-- An operator is found wherever the text begins with one of the table. -/
theorem Lexeme.exists_operatorAt?_iff {cs : List Char} :
    (∃ spelling, operatorAt? cs = some spelling) ↔ ∃ op ∈ operators, op.toList <+: cs := by
  constructor
  · rintro ⟨spelling, h⟩
    exact ⟨spelling, mem_operators_of_operatorAt? h, isPrefix_of_operatorAt? h⟩
  · rintro ⟨op, hMem, hPrefix⟩
    refine Option.isSome_iff_exists.1 (List.find?_isSome.2 ⟨op, ?_, ?_⟩)
    · exact mem_operatorsLongestFirst.2 hMem
    · exact List.isPrefixOf_iff_prefix.2 hPrefix

/-- The characters that are taken while they are of some sort are the longest run of them. -/
theorem longestPrefix_takeWhile (p : Char → Bool) (cs : List Char) :
    LongestPrefix (fun word => ∀ c ∈ word, p c = true) cs (cs.takeWhile p) := by
  refine ⟨List.takeWhile_prefix p, fun c hc => List.all_eq_true.1 List.all_takeWhile c hc, ?_⟩
  rintro other ⟨rest, rfl⟩ hOther
  rw [List.takeWhile_append_of_pos hOther, List.length_append]
  exact Nat.le_add_right _ _

-- ---------------------------------------------------------------------------
-- Classes
-- ---------------------------------------------------------------------------

/-- The classes of tokens that are known by how they begin. Keywords and identifiers begin alike. -/
inductive TokenClass where
  | comment
  | word
  | number
  | stringLiteral
  | charLiteral
  | delimiter
  | operator
deriving DecidableEq, Repr

/-- The class of a lexeme, if it is of a known one. -/
def Lexeme.class? : Lexeme → Option TokenClass
  | lineComment _ => some .comment
  | blockComment _ => some .comment
  | word _ => some .word
  | number _ => some .number
  | quoted .double _ => some .stringLiteral
  | quoted .single _ => some .charLiteral
  | delimiter _ => some .delimiter
  | operator _ => some .operator
  | unknown _ => none

namespace TokenClass

/-- Whether a text begins with the mark of a comment. -/
def OpensComment (cs : List Char) : Prop := Lexeme.lineMark <+: cs ∨ Comment.opening <+: cs

/-- How the tokens of a class begin: with `c`, behind which the text goes on with `rest`. Only
operators give way to another class. -/
def Opens (c : Char) (rest : List Char) : TokenClass → Prop
  | comment => OpensComment (c :: rest)
  | word => isAlphabetic c = true ∨ c = '_'
  | number => c.isDigit = true ∨ (c = '.' ∧ ∃ d ∈ rest.head?, d.isDigit = true)
  | stringLiteral => c = '\x22'
  | charLiteral => c = '\x27'
  | delimiter => c ∈ delimiters
  | operator => ¬ OpensComment (c :: rest) ∧ ∃ op ∈ operators, op.toList <+: c :: rest

/-- Whether a class applies to a text, or none of the known ones. -/
def Applies (c : Char) (rest : List Char) : Option TokenClass → Prop
  | some known => known.Opens c rest
  | none => ∀ known : TokenClass, ¬ known.Opens c rest

/-- Whether a word is made of letters, numeric characters and low lines. -/
def IsWord (word : List Char) : Prop := ∀ c ∈ word, isAlphanumeric c = true ∨ c = '_'

/-- What a token is that begins with `c`, where the text goes on with `rest`, if a class applies or
none of the known ones does. -/
def Describes (c : Char) (rest : List Char) (t : Token) : Option TokenClass → Prop
  | some comment => t.kind = .comment
  | some word => LongestPrefix IsWord (c :: rest) t.text.toList ∧
      t.kind = if t.text ∈ keywords then .keyword else .identifier
  | some number => t.kind = .number
  | some stringLiteral => t.kind = .stringLiteral
  | some charLiteral => t.kind = .charLiteral
  | some delimiter => t.kind = .delimiter ∧ t.text.toList = [c] ∧ t.span.stop = t.span.start + 1
  | some operator => t.kind = .operator ∧ LongestPrefix SpellsOperator (c :: rest) t.text.toList
  | none => t.kind = .unknown ∧ t.text.toList = [c] ∧ t.span.stop = t.span.start + 1

-- ---------------------------------------------------------------------------
-- Exactly one class applies
-- ---------------------------------------------------------------------------

variable {c : Char} {rest : List Char}

theorem opensWord_iff : Lexeme.opensWord c = true ↔ isAlphabetic c = true ∨ c = '_' := by
  rw [Lexeme.opensWord, Bool.or_eq_true, beq_iff_eq]

theorem opens_number_iff :
    Numeral.opens c rest = true ↔
      c.isDigit = true ∨ (c = '.' ∧ ∃ d ∈ rest.head?, d.isDigit = true) := by
  rw [Numeral.opens_eq_true_iff, Option.any_eq_true]
  rfl

/-- Where a class opens, a lexeme of that class begins. -/
theorem Opens.exists_begins {known : TokenClass} (h : known.Opens c rest) :
    ∃ l, Lexeme.Begins c rest l ∧ l.class? = some known := by
  cases known with
  | comment =>
    -- the two kinds of comments are one class
    rcases h with hMark | hMark
    · exact ⟨_, .lineComment hMark, rfl⟩
    · exact ⟨_, .blockComment hMark, rfl⟩
  | word => exact ⟨_, .word (opensWord_iff.2 h), rfl⟩
  | number => exact ⟨_, .number (opens_number_iff.2 h), rfl⟩
  | stringLiteral => exact ⟨_, @Lexeme.Begins.quoted c rest .double h.symm, rfl⟩
  | charLiteral => exact ⟨_, @Lexeme.Begins.quoted c rest .single h.symm, rfl⟩
  | delimiter => exact ⟨_, .delimiter h, rfl⟩
  | operator =>
    obtain ⟨hOther, hSome⟩ := h
    obtain ⟨spelling, hFound⟩ := Lexeme.exists_operatorAt?_iff.2 hSome
    refine ⟨_, .operator ?_ ?_ hFound, rfl⟩
    · exact fun hLine => hOther (.inl hLine)
    · exact fun hBlock => hOther (.inr hBlock)

/-- What is read where a class opens is of that class. -/
theorem Opens.class?_read {known : TokenClass} (h : known.Opens c rest) :
    (Lexeme.read c rest).class? = some known := by
  obtain ⟨l, hBegins, hClass⟩ := h.exists_begins
  rw [hBegins.read_eq, hClass]

/-- A lexeme of a known class begins as that class does. -/
theorem opens_of_begins {l : Lexeme} (h : Lexeme.Begins c rest l) {known : TokenClass}
    (hClass : l.class? = some known) : known.Opens c rest := by
  cases h with
  | lineComment hMark =>
    cases hClass
    exact .inl hMark
  | blockComment hMark =>
    cases hClass
    exact .inr hMark
  | word hFirst =>
    cases hClass
    exact opensWord_iff.1 hFirst
  | number hFirst =>
    cases hClass
    exact opens_number_iff.1 hFirst
  | @quoted mark hFirst =>
    cases mark with
    | double =>
      cases hClass
      exact hFirst.symm
    | single =>
      cases hClass
      exact hFirst.symm
  | delimiter hFirst =>
    cases hClass
    exact hFirst
  | operator hLine hBlock hFirst =>
    cases hClass
    exact ⟨not_or.2 ⟨hLine, hBlock⟩, Lexeme.exists_operatorAt?_iff.1 ⟨_, hFirst⟩⟩
  | unknown => cases hClass

/-- The class that applies is the one of the lexeme that is read. -/
theorem applies_iff {which : Option TokenClass} :
    Applies c rest which ↔ (Lexeme.read c rest).class? = which := by
  constructor
  · intro hApplies
    cases which with
    | some known => exact Opens.class?_read hApplies
    | none =>
      rw [← Option.not_isSome_iff_eq_none, Option.isSome_iff_exists]
      rintro ⟨known, hKnown⟩
      exact hApplies known (opens_of_begins (Lexeme.begins_read c rest) hKnown)
  · rintro rfl
    cases hClass : (Lexeme.read c rest).class? with
    | some known => exact opens_of_begins (Lexeme.begins_read c rest) hClass
    | none =>
      intro known hOpens
      rw [hOpens.class?_read] at hClass
      cases hClass

-- ---------------------------------------------------------------------------
-- What the class says
-- ---------------------------------------------------------------------------

/-- A word is the longest run of the characters that may stand in it. -/
theorem longestPrefix_word (h : Lexeme.opensWord c = true) :
    LongestPrefix IsWord (c :: rest) (c :: rest.takeWhile Lexeme.continuesWord) := by
  have hFirst : Lexeme.continuesWord c = true := by
    rw [Lexeme.continuesWord, isAlphanumeric, Bool.or_right_comm]
    exact Bool.or_eq_true_iff.2 (.inl h)
  have hRun : c :: rest.takeWhile Lexeme.continuesWord =
      (c :: rest).takeWhile Lexeme.continuesWord :=
    (List.takeWhile_cons_of_pos hFirst).symm
  have hWord : IsWord = fun word => ∀ d ∈ word, Lexeme.continuesWord d = true := by
    funext word
    simp only [IsWord, Lexeme.continuesWord, Bool.or_eq_true, beq_iff_eq]
  rw [hRun, hWord]
  exact longestPrefix_takeWhile _ _

/-- A token is what the class of its lexeme says. -/
theorem describes_of_begins {l : Lexeme} (h : Lexeme.Begins c rest l) (before : List Char) :
    Describes c rest (l.tokenBehind before) l.class? := by
  cases h with
  | lineComment | blockComment | number => rfl
  | word hFirst =>
    refine ⟨?run, ?kind⟩
    case run =>
      show LongestPrefix IsWord _ (String.ofList _).toList
      rw [String.toList_ofList]
      exact longestPrefix_word hFirst
    case kind =>
      have hKeyword (word : String) : isKeyword word = true ↔ word ∈ keywords :=
        List.contains_iff_mem
      simp only [Lexeme.tokenBehind, Lexeme.kind, Lexeme.shown, Lexeme.chars, hKeyword]
  | @quoted mark => cases mark <;> rfl
  | delimiter => exact ⟨rfl, String.toList_ofList, rfl⟩
  | operator hLine hBlock hFirst =>
    refine ⟨rfl, ?_⟩
    show LongestPrefix SpellsOperator _ (String.ofList _).toList
    rw [String.toList_ofList]
    exact Lexeme.longestPrefix_operatorAt? hFirst
  | unknown => exact ⟨rfl, String.toList_ofList, rfl⟩

end TokenClass

/-- **Every token is of exactly one class, and is what the class says.** Of the known classes at
most one applies where a token begins, and if none does the token is unknown. The class gives the
kind. A word is the longest run of letters, numeric characters and low lines, and it is a keyword
when it is in the table; an operator is the longest one of the table that the source goes on with,
where no comment begins; delimiters and unknown characters are tokens by themselves. -/
theorem scan_classes (s : String) (keep : Bool) :
    ∀ t ∈ scan s keep, t.kind ≠ .endOfInput →
      ∃ c rest, s.toList.drop t.span.start = c :: rest ∧
        ∃ which : Option TokenClass, TokenClass.Applies c rest which ∧
          (∀ other, TokenClass.Applies c rest other → other = which) ∧
          TokenClass.Describes c rest t which := by
  intro t ht hKind
  obtain ⟨before, c, rest, l, hText, rfl, hBegins⟩ := exists_begins_of_mem_scan ht hKind
  have hRead : Lexeme.read c rest = l := hBegins.read_eq
  have hDrop : s.toList.drop (l.tokenBehind before).span.start = c :: rest := by
    rw [hText]
    exact List.drop_left
  -- the class is that of the lexeme which is read, and reading gives one lexeme only
  refine ⟨c, rest, hDrop, l.class?, ?applies, ?only, TokenClass.describes_of_begins hBegins before⟩
  case applies => exact TokenClass.applies_iff.2 (by rw [hRead])
  case only =>
    intro other hOther
    rw [← TokenClass.applies_iff.1 hOther, hRead]

/-- Behind a number a keyword goes on with a numeric character, and so it is an identifier. -/
theorem scan_classes_of_identifier :
    (⟨.identifier, "_Bool²", ⟨1, 3⟩, ⟨2, 8⟩⟩ : Token) ∈ scan ".5_Bool²;" true ∧
      ∃ c rest, ".5_Bool²;".toList.drop 2 = c :: rest ∧
        ∃ which : Option TokenClass, TokenClass.Applies c rest which ∧
          (∀ other, TokenClass.Applies c rest other → other = which) ∧
          TokenClass.Describes c rest ⟨.identifier, "_Bool²", ⟨1, 3⟩, ⟨2, 8⟩⟩ which := by
  have hMem : (⟨.identifier, "_Bool²", ⟨1, 3⟩, ⟨2, 8⟩⟩ : Token) ∈ scan ".5_Bool²;" true := by
    decide +kernel
  exact ⟨hMem, scan_classes ".5_Bool²;" true _ hMem (by decide)⟩

end CTokens
