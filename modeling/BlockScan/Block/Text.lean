import BlockScan.Block.Basic

/-!
# Headings and paragraphs

A heading and a paragraph are read by one rule. Leading blanks are skipped, and then lines are
taken up to the first one that is blank, which is consumed, or that opens with a comment mark,
before which the cursor stops.
-/

set_option autoImplicit false

namespace BlockScan

/-- What a line is to a block of text. -/
inductive LineKind where
  /-- Nothing but blanks. -/
  | blank
  /-- A comment mark comes first, but for blanks. -/
  | remark
  /-- Any other line. -/
  | text
deriving DecidableEq

/-- A line without its leading blanks. -/
def lineContent (line : List Char) : List Char := line.dropWhile Charset.isBlank

/-- The kind of a line. -/
def LineKind.ofLine (line : List Char) : LineKind :=
  match lineContent line with
  | [] => .blank
  | c :: _ => if c = Charset.commentMark then .remark else .text

/-- Whether a visited line belongs to a block of text. -/
def LineVisit.isText (v : LineVisit) : Bool := LineKind.ofLine v.text == .text

/-- The visits of the lines of a block of text whose first line starts at a cursor. -/
def textVisits (c : Cursor) (w : Window) : List LineVisit :=
  match LineKind.ofLine w.line with
  | .remark =>
    let target : Int := w.lineEnd - (lineContent w.line).length
    [⟨c, w.line, target, c.jumpTo target⟩]
  | .blank => [⟨c, w.line, w.lineEnd, c.pastLine w⟩]
  | .text =>
    let here : LineVisit := ⟨c, w.line, w.lineEnd, c.pastLine w⟩
    match _h : w.next? with
    | none => [here]
    | some n => here :: textVisits (c.pastLine w) n
termination_by w.chars.length
decreasing_by exact Window.next?_length _h

/-- The heading or paragraph at a cursor. -/
def Source.textBlock (s : Source) (kind : BlockKind) (c : Cursor) : Block :=
  let start := s.skip Charset.isBlank c
  let visits := textVisits start (s.window start.offset)
  { kind
    start
    lines := (visits.filter LineVisit.isText).map LineVisit.toLine
    after := LineVisit.endOf start visits }

/-- One line at least is visited, be it only to see that it ends the block. -/
theorem textVisits_ne_nil (c : Cursor) (w : Window) : textVisits c w ≠ [] := by
  rw [textVisits]
  split
  · simp
  · simp
  · split <;> simp

/-- Taking the leading blanks away makes no line longer. -/
theorem length_lineContent_le (line : List Char) : (lineContent line).length ≤ line.length :=
  (List.dropWhile_sublist _).length_le

/-- No line of a block of text is left for a place before the window that the block is read from. -/
theorem index_le_offset_textVisits (c : Cursor) (w : Window) :
    ∀ v ∈ textVisits c w, (w.index : Int) ≤ v.after.offset := by
  fun_induction textVisits c w with
  | case1 c w _ target =>
    have := length_lineContent_le w.line
    simp only [List.mem_singleton, forall_eq, Cursor.offset_jumpTo, target, Window.lineEnd]
    omega
  | case2 c w _ =>
    have := c.lineEnd_le_offset_pastLine w
    have := w.index_le_lineEnd
    simp only [List.mem_singleton, forall_eq]
    omega
  | case3 c w _ here hn =>
    have := c.lineEnd_le_offset_pastLine w
    have := w.index_le_lineEnd
    simp only [List.mem_singleton, forall_eq, here]
    omega
  | case4 c w _ here n hn ih =>
    have h1 := c.lineEnd_le_offset_pastLine w
    have h2 := w.index_le_lineEnd
    intro v hv
    rcases List.mem_cons.1 hv with rfl | hv
    · simp only [here]
      omega
    · have := ih v hv
      rw [Window.next?_index hn] at this
      omega

/-- When the first line is text, every visit ends behind the beginning of the window. -/
theorem index_lt_offset_textVisits {c : Cursor} {w : Window}
    (h : LineKind.ofLine w.line = .text) :
    ∀ v ∈ textVisits c w, (w.index : Int) < v.after.offset := by
  have hpos : 0 < w.line.length := by
    cases hl : w.line with
    | nil => rw [hl] at h; exact absurd h (by decide)
    | cons => simp
  have h1 := c.lineEnd_le_offset_pastLine w
  have h2 : w.lineEnd = w.index + w.line.length := rfl
  intro v hv
  rw [textVisits, h] at hv
  simp only at hv
  split at hv
  · rw [List.mem_singleton] at hv
    subst hv
    simp only
    omega
  · next n hn =>
    rcases List.mem_cons.1 hv with rfl | hv
    · simp only
      omega
    · have := index_le_offset_textVisits _ _ v hv
      rw [Window.next?_index hn] at this
      omega

/-- Reading a block of text always leaves the cursor at or behind the place where it began in the
text. -/
theorem Source.index_le_offset_textBlock (s : Source) (kind : BlockKind) (c : Cursor) :
    (s.indexOf (s.skip Charset.isBlank c).offset : Int) ≤ (s.textBlock kind c).after.offset :=
  LineVisit.le_offset_endOf (textVisits_ne_nil _ _) (index_le_offset_textVisits _ _)

end BlockScan
