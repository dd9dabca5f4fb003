import BlockScan.Proofs.Outline.Prefix
import BlockScan.Proofs.Scan.Plain

/-!
# Scanning is a single pass

A block is settled once the next one has begun: no text that comes later has an influence on its
token. So the scans of two texts that begin alike bring the same settled tokens
(`settled_scanPlain_append`). This follows from `settles_outline`, where only the last passage that
starts in the common beginning may differ, and nothing that starts there comes behind it.
-/

set_option autoImplicit false

namespace BlockScan

/-- Whether a token begins before an offset and is not the end of the text. -/
def Token.beginsBefore (bound : Int) (t : Token) : Bool :=
  decide (t.kind ≠ .eof ∧ t.span.start.offset < bound)

/-- The tokens of a stream that are followed by a token which begins before an offset. -/
def settled (bound : Int) (tokens : List Token) : List Token :=
  ((tokens.zip tokens.tail).filter fun pair => pair.2.beginsBefore bound).map Prod.fst

section Settled

variable {bound : Int}

/-- Whether a token is settled is told by the one behind it. -/
theorem settled_cons (t : Token) (tokens : List Token) :
    settled bound (t :: tokens) =
      if tokens.head?.any (Token.beginsBefore bound) then t :: settled bound tokens
      else settled bound tokens := by
  cases tokens with
  | nil => rfl
  | cons u tokens =>
    rw [settled, List.tail_cons, List.zip_cons_cons, List.filter_cons, List.head?_cons,
      Option.any_some]
    split <;> rfl

variable (file : Option String) {stop : Token}

/-- The token of a passage begins where the passage does. -/
theorem beginsBefore_toToken (p : Passage) :
    (p.toToken file).beginsBefore bound = decide (p.start.offset < bound) := by
  have hk : (p.toToken file).kind ≠ .eof := by
    show p.kind.tokenKind ≠ .eof
    cases p.kind <;> decide
  simp only [Token.beginsBefore, hk, ne_eq, not_false_eq_true, true_and]
  rfl

/-- Nothing has settled when no passage starts before the offset. -/
theorem settled_of_later (hs : stop.kind = .eof) {passages : List Passage}
    (h : ∀ p ∈ passages, bound ≤ p.start.offset) :
    (passages.map (Passage.toToken file) ++ [stop]).head?.any (Token.beginsBefore bound) = false ∧
      settled bound (passages.map (Passage.toToken file) ++ [stop]) = [] := by
  induction passages with
  | nil =>
    refine ⟨?_, rfl⟩
    simp [Token.beginsBefore, hs]
  | cons p passages ih =>
    rw [List.forall_mem_cons] at h
    obtain ⟨hhead, hrest⟩ := ih h.2
    constructor
    · rw [List.map_cons, List.cons_append, List.head?_cons, Option.any_some, beginsBefore_toToken,
        decide_eq_false_iff_not]
      omega
    · rw [List.map_cons, List.cons_append, settled_cons, hhead, hrest]
      rfl

/-- Nothing has settled when only the first passage starts before the offset. -/
theorem settled_of_leads (hs : stop.kind = .eof) {start : Cursor} {passages : List Passage}
    (h : Leads bound start passages) :
    (passages.map (Passage.toToken file) ++ [stop]).head?.any (Token.beginsBefore bound) =
        decide (start.offset < bound) ∧
      settled bound (passages.map (Passage.toToken file) ++ [stop]) = [] := by
  obtain ⟨p, rest, rfl, rfl, hrest⟩ := h
  obtain ⟨hhead, hsettled⟩ := settled_of_later file hs hrest
  constructor
  · rw [List.map_cons, List.cons_append, List.head?_cons, Option.any_some, beginsBefore_toToken]
  · rw [List.map_cons, List.cons_append, settled_cons, hhead, hsettled]
    rfl

-- The first tokens are followed along: they tell whether the token ahead of them has settled.
/-- Outlines that settle up to an offset have the same settled tokens there: a passage that may turn
out differently is the last one to begin before the offset, so it is not settled in either. -/
theorem settled_eq_of_settles {ps qs : List Passage} (h : Settles bound ps qs)
    (hs : stop.kind = .eof) {stop' : Token} (hs' : stop'.kind = .eof) :
    (ps.map (Passage.toToken file) ++ [stop]).head?.any (Token.beginsBefore bound) =
        (qs.map (Passage.toToken file) ++ [stop']).head?.any (Token.beginsBefore bound) ∧
      settled bound (ps.map (Passage.toToken file) ++ [stop]) =
        settled bound (qs.map (Passage.toToken file) ++ [stop']) := by
  induction h with
  | later hp hq =>
    obtain ⟨hheadp, hsettledp⟩ := settled_of_later file hs hp
    obtain ⟨hheadq, hsettledq⟩ := settled_of_later file hs' hq
    exact ⟨hheadp.trans hheadq.symm, hsettledp.trans hsettledq.symm⟩
  | last hp hq =>
    obtain ⟨hheadp, hsettledp⟩ := settled_of_leads file hs hp
    obtain ⟨hheadq, hsettledq⟩ := settled_of_leads file hs' hq
    exact ⟨hheadp.trans hheadq.symm, hsettledp.trans hsettledq.symm⟩
  | cons p h ih =>
    refine ⟨rfl, ?_⟩
    rw [List.map_cons, List.cons_append, List.map_cons, List.cons_append, settled_cons,
      settled_cons, ih.1, ih.2]

end Settled

/-- The tokens whose successor begins in a part that two texts have in common are the same in the
scans of both. -/
theorem settled_scanPlain_append (file : Option String) (p x y : String) :
    ∃ tokens tokens', scanPlain file (p ++ x) = .ok tokens ∧ scanPlain file (p ++ y) = .ok tokens' ∧
      settled p.length tokens = settled p.length tokens' := by
  have h := settles_outline p.toList x.toList y.toList
  rw [← String.toList_append, ← String.toList_append, String.length_toList] at h
  exact ⟨_, _, scanPlain_eq file _, scanPlain_eq file _, (settled_eq_of_settles file h rfl rfl).2⟩

end BlockScan
