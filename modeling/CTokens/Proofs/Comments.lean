import CTokens.Proofs.Layout

/-!
# CTokens — scanning without comments

Whether comments are kept changes which lexemes become tokens and nothing else: how the source is
cut into pieces, and where each piece stands, does not depend on it.

Main statements:

* `tokensBehind_eq_filter` — the tokens of a text with comments or without them;
* `scan_eq_filter` — a scan that discards comments gives the other tokens of one that keeps them.
-/

namespace CTokens

/-- When comments are not wanted, a piece has the token it has anyhow, unless that is a comment. -/
theorem Piece.token?_false (before : List Char) (p : Piece) :
    p.token? false before = (p.token? true before).filter fun t => t.kind != .comment := by
  cases p with
  | blank ws => rfl
  | lexeme l =>
    rw [token?, token?, Bool.not_true, Bool.and_false, if_neg Bool.false_ne_true,
      Option.filter_some]
    by_cases hComment : l.isComment = true
    · have hKind : (l.tokenBehind before).kind = .comment := eq_of_beq hComment
      rw [hComment, hKind]
      rfl
    · have hKind : ((l.tokenBehind before).kind != .comment) = true := by
        rw [bne_iff_ne]
        exact fun h => hComment (beq_iff_eq.2 h)
      rw [Bool.not_eq_true] at hComment
      rw [hComment, hKind]
      rfl

/-- Without comments, pieces are laid out as with them, and the comments are left out. -/
theorem layout_false (before : List Char) (ps : List Piece) :
    layout false before ps = (layout true before ps).filter fun t => t.kind != .comment := by
  induction ps generalizing before with
  | nil => rfl
  | cons p ps ih =>
    rw [layout, layout, List.filter_append, ← Option.toList_filter, Piece.token?_false, ih]

/-- The tokens of a text are those that it has when comments are kept, less the comments if they are
not wanted. -/
theorem tokensBehind_eq_filter (keep : Bool) (before cs : List Char) :
    tokensBehind keep before cs =
      (tokensBehind true before cs).filter fun t => keep || t.kind != .comment := by
  cases keep with
  | true => exact (List.filter_eq_self.2 fun _ _ => rfl).symm
  | false =>
    rw [tokensBehind, tokensBehind, List.filter_append, layout_false]
    rfl

/-- **Discarding comments only removes comments.** The other tokens are the same in kind, text,
location and span, and so is the mark of the end. -/
theorem scan_eq_filter (s : String) :
    scan s false = (scan s true).filter fun t => t.kind != .comment := by
  rw [scan_eq_tokensBehind, scan_eq_tokensBehind, tokensBehind, tokensBehind, List.filter_append,
    layout_false]
  rfl

end CTokens
