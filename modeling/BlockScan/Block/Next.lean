import BlockScan.Block.Comment
import BlockScan.Block.Text

/-!
# The next block

The first two characters of a block say of which kind it is. Between blocks, blanks and line
breaks are skipped. The main statement is `nextBlock?_progress`: reading a block moves the cursor
forward, so that a text has only so many blocks.
-/

set_option autoImplicit false

namespace BlockScan.Source

/-- The mark at a cursor: one character whatever it is, none at the end of the text. -/
def markerBlock (s : Source) (c : Cursor) : Block :=
  { kind := .marker
    start := c
    lines := [⟨(s.peek c).toList, s.advance c⟩]
    after := s.advance c }

/-- The block that starts at a cursor. -/
def blockAt (s : Source) (c : Cursor) : Block :=
  if s.peek c = some Charset.headingMark ∧ s.peekNext c = some ' ' then s.textBlock .heading c
  else if s.peek c = some Charset.commentMark then s.commentBlock c
  else if s.peek c = some Charset.keywordMark then s.markerBlock c
  else s.textBlock .paragraph c

/-- The first block behind a cursor, none when only gaps are left. -/
def nextBlock? (s : Source) (c : Cursor) : Option Block :=
  let start := s.skip Charset.isGap c
  if s.atEnd start then none else some (s.blockAt start)

/-- An offset that is not beyond the end of the text never lies behind the place it stands for. -/
theorem le_indexOf (s : Source) {offset : Int} (h : offset ≤ s.size) :
    offset ≤ s.indexOf offset := by
  unfold indexOf
  split <;> omega

/-- Advancing over a character raises the offset by one. -/
theorem offset_advance_of_peek (s : Source) {c : Cursor} {char : Char} (h : s.peek c = some char) :
    (s.advance c).offset = c.offset + 1 := by
  rw [advance, h, Cursor.offset_step]

/-- A cursor at a character that is no blank is not moved by skipping blanks. -/
theorem skip_eq_self (s : Source) {p : Char → Bool} {c : Cursor} {char : Char}
    (h : s.peek c = some char) (hp : p char = false) : s.skip p c = c := by
  unfold peek at h
  unfold skip
  cases hu : s.upcoming c.offset with
  | nil => simp
  | cons x xs =>
    rw [hu, List.head?_cons, Option.some.injEq] at h
    subst h
    simp [hp]

/-- The line at a cursor inside the text is text when its first character is neither a gap nor a
comment mark. -/
theorem ofLine_window (s : Source) {c : Cursor} {char : Char} (h0 : 0 ≤ c.offset)
    (h : s.peek c = some char) (hg : Charset.isGap char = false) (hc : char ≠ Charset.commentMark) :
    LineKind.ofLine (s.window c.offset).line = .text := by
  obtain ⟨k, hk⟩ := Int.eq_ofNat_of_zero_le h0
  rw [peek, hk, upcoming_natCast] at h
  have hlt : k < s.text.length := by
    by_cases hlt : k < s.text.length
    · exact hlt
    · rw [List.drop_eq_nil_of_le (by omega)] at h
      simp at h
  rw [hk, s.window_natCast (by rw [s.size_eq]; omega)]
  rw [Charset.isGap_eq, Bool.or_eq_false_iff, Bool.not_eq_false'] at hg
  cases hd : s.text.drop k with
  | nil => rw [hd] at h; simp at h
  | cons x xs =>
    rw [hd, List.head?_cons, Option.some.injEq] at h
    subst h
    simp [LineKind.ofLine, Window.line, lineContent, hg.1, hg.2, hc]

/-- Reading a block of text before the end of the text moves the cursor forward when what stands
there is neither a gap nor a comment mark: the first line is text, so it is passed. -/
theorem textBlock_progress (s : Source) (kind : BlockKind) {c : Cursor}
    (he : s.atEnd c = false) (hg : ∀ char, s.peek c = some char → Charset.isGap char = false)
    (hc : s.peek c ≠ some Charset.commentMark) :
    c.offset < (s.textBlock kind c).after.offset := by
  have hlt : c.offset < s.size := by simpa [atEnd] using he
  by_cases h0 : 0 ≤ c.offset
  · obtain ⟨k, hk⟩ := Int.eq_ofNat_of_zero_le h0
    have hs := s.size_eq
    obtain ⟨char, hp⟩ : ∃ char, s.peek c = some char := by
      rw [peek, hk, upcoming_natCast, List.head?_drop]
      exact ⟨_, List.getElem?_eq_getElem (by omega)⟩
    have hn := hg char hp
    have hb : Charset.isBlank char = false := by
      cases hb : Charset.isBlank char with
      | false => rfl
      | true => rw [Charset.isGap_of_isBlank hb] at hn; simp at hn
    have hskip := s.skip_eq_self hp hb
    have hline := s.ofLine_window h0 hp hn (by rintro rfl; exact hc hp)
    have hi : (s.window c.offset).index = k := by
      rw [hk, s.window_natCast (by omega)]
    simp only [textBlock, hskip]
    have : c.offset + 1 ≤ (LineVisit.endOf c _).offset := LineVisit.le_offset_endOf
      (textVisits_ne_nil c (s.window c.offset))
      (fun v hv => by have := index_lt_offset_textVisits hline v hv; omega)
    omega
  · have := s.index_le_offset_textBlock kind c
    omega

/-- Reading a comment moves the cursor forward, at least over the mark. -/
theorem commentBlock_progress (s : Source) {c : Cursor} {char : Char}
    (he : s.atEnd c = false) (hp : s.peek c = some char) :
    c.offset < (s.commentBlock c).after.offset := by
  have hlt : c.offset < s.size := by simpa [atEnd] using he
  have h1 := s.offset_advance_of_peek hp
  have h2 : (s.advance c).offset ≤ s.indexOf (s.advance c).offset := s.le_indexOf (by omega)
  have h3 := s.index_le_offset_commentBlock c
  omega

/-- Whatever kind of block starts at a cursor that is not at a gap, reading it moves the cursor
forward. -/
theorem blockAt_progress (s : Source) {c : Cursor} (he : s.atEnd c = false)
    (hg : ∀ char, s.peek c = some char → Charset.isGap char = false) :
    c.offset < (s.blockAt c).after.offset := by
  unfold blockAt
  split
  · next h =>
    exact s.textBlock_progress _ he hg (by rw [h.1]; decide)
  · split
    · next h => exact s.commentBlock_progress he h
    · next hc =>
      split
      · next h =>
        simp only [markerBlock, s.offset_advance_of_peek h]
        omega
      · exact s.textBlock_progress _ he hg hc

/-- Reading a block moves the cursor forward from a place before the end of the text. -/
theorem nextBlock?_progress {s : Source} {c : Cursor} {b : Block} (h : s.nextBlock? c = some b) :
    c.offset < s.size ∧ c.offset < b.after.offset := by
  unfold nextBlock? at h
  simp only at h
  split at h
  · simp at h
  · next he =>
    have he' : s.atEnd (s.skip Charset.isGap c) = false := Bool.eq_false_iff.2 he
    simp only [Option.some.injEq] at h
    subst h
    have h1 := s.le_offset_skip Charset.isGap c
    have h2 := s.blockAt_progress he' (fun _ => s.peek_skip Charset.isGap c)
    have h3 : (s.skip Charset.isGap c).offset < s.size := by simpa [atEnd] using he'
    omega

end BlockScan.Source
