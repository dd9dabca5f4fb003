import BlockScan.Proofs.Cursor.Standing

/-!
# Windows at standing cursors

The window at a cursor that stands in a text begins with the line of that cursor. Jumping to the
end of that line, going on behind it, and passing over the blanks and the mark of a comment line
are all the same as stepping over the characters in between, and leave the cursor standing at the
window that follows.
-/

set_option autoImplicit false

namespace BlockScan

open Charset

namespace Window

variable {w n : Window}

/-- A window with nothing behind its line consists of that line. -/
theorem chars_of_next?_eq_none (h : w.next? = none) :
    w.chars = w.line ∧ moreLines w.chars = [] := by
  have ht := List.takeWhile_append_dropWhile (p := inLine) (l := w.chars)
  unfold next? at h
  split at h
  · next hd =>
    rw [hd, List.append_nil] at ht
    exact ⟨ht.symm, by rw [moreLines, hd]⟩
  · simp at h

/-- A window with another one behind its line is the line, a line break, and the other one, whose
lines are the lines that follow. -/
theorem chars_of_next?_eq_some (h : w.next? = some n) :
    w.chars = w.line ++ lineBreak :: n.chars ∧ moreLines w.chars = linesOf n.chars := by
  have ht := List.takeWhile_append_dropWhile (p := inLine) (l := w.chars)
  unfold next? at h
  split at h
  · simp at h
  · next char rest hd =>
    simp only [Option.some.injEq] at h
    subst h
    have hc := List.head?_dropWhile_not inLine w.chars
    rw [hd] at hc
    have hb : char = lineBreak := by simpa [inLine] using hc
    subst hb
    rw [hd] at ht
    exact ⟨ht.symm, by rw [moreLines, hd]⟩

/-- A window that opens with a mark is its blanks, the mark, and what follows. -/
theorem chars_of_remark?_eq_some (h : w.remark? = some n) :
    w.chars = w.blanks ++ commentMark :: n.chars := by
  have ht := List.takeWhile_append_dropWhile (p := isBlank) (l := w.chars)
  unfold remark? at h
  split at h
  · simp at h
  · next char rest hd =>
    split at h
    · next hc =>
      simp only [Option.some.injEq] at h
      subst h
      rw [hd, hc] at ht
      exact ht.symm
    · simp at h

end Window

/-- A cursor stands at the beginning of a window on the text. -/
structure Source.Sees (s : Source) (c : Cursor) (w : Window) : Prop where
  stands : s.Stands c w.chars
  index_eq : (w.index : Int) = c.offset

namespace Source.Sees

variable {s : Source} {c : Cursor} {w n : Window}

/-- The line of a window ends as far from the cursor as it is long. -/
theorem lineEnd_eq (h : s.Sees c w) : (w.lineEnd : Int) = c.offset + w.line.length := by
  rw [← h.index_eq, Window.lineEnd]
  push_cast
  rfl

/-- Jumping to the end of the line is the same as stepping over the line. -/
theorem jumpTo_lineEnd (h : s.Sees c w) : c.jumpTo w.lineEnd = c.walk w.line :=
  Cursor.jumpTo_eq_walk (all_takeWhile_inLine _) h.lineEnd_eq

/-- From further back on the line, the walk to a cursor and its jump to the end of the line make one
walk. -/
theorem jumpTo_lineEnd_of_walk (h : s.Sees c w) {c₀ : Cursor} {chars : List Char}
    (hc : c₀.walk chars = c) : c.jumpTo w.lineEnd = c₀.walk (chars ++ w.line) := by
  rw [h.jumpTo_lineEnd, Cursor.walk_append, hc]

/-- The offset that lies before the end of the line by the length of its content is the place
behind its blanks. -/
theorem lineEnd_sub_content (h : s.Sees c w) :
    (w.lineEnd : Int) - (lineContent w.line).length =
      c.offset + (w.line.takeWhile isBlank).length := by
  have hl := congrArg List.length (takeWhile_isBlank_append_lineContent w.line)
  rw [List.length_append] at hl
  rw [h.lineEnd_eq]
  omega

/-- Jumping back from the end of the line by the length of its content is the same as stepping over
its blanks. -/
theorem jumpTo_content (h : s.Sees c w) :
    c.jumpTo (w.lineEnd - (lineContent w.line).length) = c.walk (w.line.takeWhile isBlank) :=
  Cursor.jumpTo_eq_walk (all_inLine_takeWhile_isBlank _) h.lineEnd_sub_content

/-- Behind the last line there is nothing more to step over. -/
theorem pastLine_of_none (h : s.Sees c w) (hn : w.next? = none) :
    c.pastLine w = c.walk w.line := by
  rw [Cursor.pastLine, hn, h.jumpTo_lineEnd]

/-- Going on behind any other line steps over the line and its line break. -/
theorem pastLine_of_some (h : s.Sees c w) (hn : w.next? = some n) :
    c.pastLine w = (c.walk w.line).step lineBreak := by
  rw [Cursor.pastLine, hn, h.jumpTo_lineEnd]

/-- Behind the last line the cursor stands at the end of the text. -/
theorem stands_end (h : s.Sees c w) (hn : w.next? = none) : s.Stands (c.walk w.line) [] := by
  apply Stands.walk
  rw [List.append_nil, ← (Window.chars_of_next?_eq_none hn).1]
  exact h.stands

/-- Behind a line the cursor stands at the window that follows. -/
theorem next (h : s.Sees c w) (hn : w.next? = some n) : s.Sees (c.pastLine w) n where
  stands := by
    have hs := h.stands
    rw [(Window.chars_of_next?_eq_some hn).1] at hs
    rw [h.pastLine_of_some hn]
    exact hs.walk.step
  index_eq := by
    rw [h.pastLine_of_some hn, Window.next?_index hn, Cursor.offset_step, Cursor.offset_walk,
      ← h.index_eq, Window.lineEnd]
    push_cast
    rfl

/-- Behind a comment mark the cursor stands at the window that follows. -/
theorem remark (h : s.Sees c w) (hn : w.remark? = some n) :
    s.Sees ((c.walk w.blanks).step commentMark) n where
  stands := by
    have hs := h.stands
    rw [Window.chars_of_remark?_eq_some hn] at hs
    exact hs.walk.step
  index_eq := by
    rw [Window.remark?_index hn, Cursor.offset_step, Cursor.offset_walk, ← h.index_eq]
    push_cast
    rfl

end Source.Sees

/-- A standing cursor is at the beginning of the window there, which holds the rest. -/
theorem Source.Stands.sees {s : Source} {c : Cursor} {rest : List Char} (h : s.Stands c rest) :
    s.Sees c (s.window c.offset) ∧ (s.window c.offset).chars = rest := by
  obtain ⟨w, hw, rfl, hi⟩ := h.window
  rw [hw]
  exact ⟨⟨h, hi⟩, rfl⟩

end BlockScan
