import BlockScan.Block.Basic

/-!
# Comments

A comment is a run of lines each of which opens with a comment mark, blanks aside. Its lines are
what follows the mark. Reading a comment leaves the cursor at the start of the line behind the
run.
-/

set_option autoImplicit false

namespace BlockScan

/-- The visits of the lines of a comment, for a cursor that stands behind the first mark. -/
def commentVisits (c : Cursor) (w : Window) : List LineVisit :=
  let here : LineVisit := ⟨c, w.line, w.lineEnd, c.pastLine w⟩
  match _h : w.next? with
  | none => [here]
  | some n =>
    match _h' : n.remark? with
    | none => [here]
    | some m => here :: commentVisits (((c.pastLine w).walk n.blanks).step Charset.commentMark) m
termination_by w.chars.length
decreasing_by exact Nat.lt_trans (Window.remark?_length _h') (Window.next?_length _h)

/-- The comment at a cursor. The character there is taken for the first mark. -/
def Source.commentBlock (s : Source) (c : Cursor) : Block :=
  let first := s.advance c
  let visits := commentVisits first (s.window first.offset)
  { kind := .comment
    start := c
    lines := visits.map LineVisit.toLine
    after := LineVisit.endOf c visits }

/-- The rest of the line behind the first mark is always visited, so a comment has a line. -/
theorem commentVisits_ne_nil (c : Cursor) (w : Window) : commentVisits c w ≠ [] := by
  rw [commentVisits]
  split
  · simp
  · split <;> simp

/-- No line of a comment is left for a place before the window that the comment is read from. -/
theorem index_le_offset_commentVisits (c : Cursor) (w : Window) :
    ∀ v ∈ commentVisits c w, (w.index : Int) ≤ v.after.offset := by
  fun_induction commentVisits c w with
  | case1 c w here hn =>
    have := c.lineEnd_le_offset_pastLine w
    have := w.index_le_lineEnd
    simp only [List.mem_singleton, forall_eq, here]
    omega
  | case2 c w here n hn hm =>
    have := c.lineEnd_le_offset_pastLine w
    have := w.index_le_lineEnd
    simp only [List.mem_singleton, forall_eq, here]
    omega
  | case3 c w here n hn m hm ih =>
    have h1 := c.lineEnd_le_offset_pastLine w
    have h2 := w.index_le_lineEnd
    intro v hv
    rcases List.mem_cons.1 hv with rfl | hv
    · simp only [here]
      omega
    · have := ih v hv
      rw [Window.remark?_index hm, Window.next?_index hn] at this
      omega

/-- Reading a comment leaves the cursor at or behind the place behind its first mark. -/
theorem Source.index_le_offset_commentBlock (s : Source) (c : Cursor) :
    (s.indexOf (s.advance c).offset : Int) ≤ (s.commentBlock c).after.offset :=
  LineVisit.le_offset_endOf (commentVisits_ne_nil _ _) (index_le_offset_commentVisits _ _)

end BlockScan
