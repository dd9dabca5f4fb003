import BlockScan.Proofs.Outline.Tiling

/-!
# How far passages reach

The passages of an outline lie in the text one behind the other (`Tiles.pairwise_before`). Every
one but the title has a character that is no gap (`visible_of_mem_tail_outline`), so it is not
empty, and there are no more of them than the text has such characters (`Tiles.length_le`).
-/

set_option autoImplicit false

namespace BlockScan

open Charset

/-! ## Visible passages -/

/-- A passage has a character that is no gap; the mark of a comment is one. -/
def Passage.Visible (p : Passage) : Prop :=
  p.kind = .comment ∨ ∃ line ∈ p.lines, ∃ c ∈ line, isGap c = false

/-- A line of text has a character that is no gap. -/
theorem exists_not_isGap_of_isText {line : List Char} (hl : line.all inLine = true)
    (ht : LineKind.ofLine line = .text) : ∃ c ∈ line, isGap c = false := by
  unfold LineKind.ofLine at ht
  cases hc : lineContent line with
  | nil => simp [hc] at ht
  | cons char rest =>
    have hmem : char ∈ line := by
      apply (List.dropWhile_sublist isBlank).subset
      rw [show line.dropWhile isBlank = char :: rest from hc]
      exact List.mem_cons_self ..
    have hb := List.head?_dropWhile_not isBlank line
    rw [show line.dropWhile isBlank = char :: rest from hc] at hb
    have hb : isBlank char = false := by simpa using hb
    exact ⟨char, hmem, by rw [isGap_eq, hb, List.all_eq_true.1 hl char hmem]; rfl⟩

/-- Every passage that has come about in any way but as an empty title can be seen. -/
theorem grown_visible : Passage.Grown Passage.Visible where
  titleLine c line hl ht := by
    right
    exact ⟨line, by simp [Passage.begun], exists_not_isGap_of_isText hl ht⟩
  marker c := by
    right
    exact ⟨[keywordMark], by simp [Passage.marker, Passage.begun], keywordMark, by simp,
      by decide⟩
  opening c char rest hl hb hm := by
    by_cases hc : char = commentMark
    · left
      subst hc
      exact BlockKind.ofContent_commentMark rest
    · right
      rw [List.all_cons, Bool.and_eq_true] at hl
      refine ⟨char :: rest, by simp [Passage.opening, hc], char, List.mem_cons_self .., ?_⟩
      rw [isGap_eq, hb, hl.1]
      rfl
  longer := by
    intro p hp hk hn line hl hg
    rcases hp with hp | ⟨l, hmem, hvisible⟩
    · exact .inl hp
    · right
      exact ⟨l, by simp [hmem], hvisible⟩

/-- Every passage but the title can be seen in the text. -/
theorem visible_of_mem_tail_outline {text : List Char} {p : Passage}
    (h : p ∈ (outline text).tail) : p.Visible :=
  forall_mem_tail_outline grown_visible text p h

/-! ## Visible passages and the text that spells them -/

/-- Joining lines loses none of their characters. -/
theorem mem_intercalate_lineBreak {lines : List (List Char)} {line : List Char} {c : Char}
    (hl : line ∈ lines) (hc : c ∈ line) : c ∈ [lineBreak].intercalate lines := by
  cases lines with
  | nil => simp at hl
  | cons first lines =>
    rw [intercalate_lineBreak_cons, List.mem_append]
    rcases List.mem_cons.1 hl with rfl | hl
    · exact .inl hc
    · right
      rw [tailText, List.mem_flatMap]
      exact ⟨line, hl, List.mem_cons_of_mem _ hc⟩

/-- A text of which every line has a comment mark has one. -/
theorem commentMark_mem_of_unmarkLines? {body : List Char} {lines : List (List Char)}
    (h : unmarkLines? body = some lines) : commentMark ∈ body := by
  rw [unmarkLines?, linesOf_eq, List.mapM_cons] at h
  cases hu : unmarkLine? (body.takeWhile inLine) with
  | none => simp [hu] at h
  | some first =>
    unfold unmarkLine? at hu
    split at hu
    · simp at hu
    · next char rest hc =>
      split at hu
      · next hm =>
        apply (List.takeWhile_sublist inLine).subset
        apply (List.dropWhile_sublist isBlank).subset
        rw [show (body.takeWhile inLine).dropWhile isBlank = char :: rest from hc, hm]
        exact List.mem_cons_self ..
      · simp at hu

/-- The characters that spell a passage that can be seen are not all gaps. -/
theorem Passage.Visible.exists_mem {p : Passage} (h : p.Visible) {body : List Char}
    (hp : p.Spells body) : ∃ c ∈ body, isGap c = false := by
  by_cases hk : p.kind = .comment
  · rw [Passage.spells_iff_of_comment hk] at hp
    exact ⟨commentMark, commentMark_mem_of_unmarkLines? hp, by decide⟩
  · rw [Passage.spells_iff_of_ne_comment hk] at hp
    obtain ⟨line, hl, c, hc, hg⟩ := h.resolve_left hk
    exact ⟨c, hp ▸ mem_intercalate_lineBreak hl hc, hg⟩

/-! ## Passages in the text -/

namespace Tiles

variable {c : Cursor} {text : List Char} {p : Passage} {passages : List Passage}

/-- The other passages are laid out in what follows the first one. -/
theorem exists_rest (h : Tiles c text (p :: passages)) :
    ∃ front rest, text = front ++ rest ∧ Tiles p.stop rest passages := by
  generalize hq : p :: passages = all at h
  induction h with
  | done c => simp at hq
  | @gap c char rest all hg h ih =>
    obtain ⟨front, rest', ht, hrest⟩ := ih hq
    exact ⟨char :: front, rest', by rw [ht, List.cons_append], hrest⟩
  | @passage q body rest all hstop hspells h ih =>
    rw [List.cons.injEq] at hq
    obtain ⟨rfl, rfl⟩ := hq
    exact ⟨body, rest, rfl, h⟩

/-- The passages that lay out a text lie within it. -/
theorem bounds (h : Tiles c text passages) (hp : p ∈ passages) :
    c.offset ≤ p.start.offset ∧ p.stop.offset ≤ c.offset + text.length := by
  obtain ⟨before, body, rest, ht, hstart, hstop, -⟩ := h.exists_body hp
  rw [hstop, hstart, ← Cursor.walk_append, Cursor.offset_walk, Cursor.offset_walk, ht]
  simp only [List.length_append]
  omega

/-- No passage begins before the end of one ahead of it. -/
theorem pairwise_before (h : Tiles c text passages) :
    passages.Pairwise fun p q => p.stop.offset ≤ q.start.offset := by
  induction h with
  | done c => exact .nil
  | gap hg h ih => exact ih
  | passage hstop hp h ih =>
    apply List.Pairwise.cons _ ih
    intro q hq
    exact (h.bounds hq).1

/-- A passage that can be seen is not empty. -/
theorem start_lt_stop (h : Tiles c text passages) (hp : p ∈ passages) (hv : p.Visible) :
    p.start.offset < p.stop.offset := by
  obtain ⟨before, body, rest, -, -, hstop, hspells⟩ := h.exists_body hp
  obtain ⟨char, hc, -⟩ := hv.exists_mem hspells
  have := List.length_pos_of_mem hc
  rw [hstop, Cursor.offset_walk]
  omega

/-- Each visible passage takes a character of the text that is no gap. -/
theorem length_le (h : Tiles c text passages) (hv : ∀ p ∈ passages, p.Visible) :
    passages.length ≤ text.countP fun char => !isGap char := by
  induction h with
  | done c => simp
  | gap hg h ih =>
    have := ih hv
    rw [List.countP_cons]
    omega
  | @passage p body rest passages hstop hp h ih =>
    rw [List.forall_mem_cons] at hv
    have := ih hv.2
    obtain ⟨char, hc, hg⟩ := hv.1.exists_mem hp
    have hpos : 0 < body.countP fun char => !isGap char :=
      List.countP_pos_iff.2 ⟨char, hc, by rw [hg]; rfl⟩
    rw [List.length_cons, List.countP_append]
    omega

end Tiles

end BlockScan
