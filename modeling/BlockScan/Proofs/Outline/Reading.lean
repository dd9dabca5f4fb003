import BlockScan.Block.Next
import BlockScan.Proofs.Cursor.Windows
import BlockScan.Proofs.Outline.Basic

/-!
# Reading follows the outline

The readers of blocks move a cursor by jumps, and the reader of comments turns back at a line that
is none. Each of them, started at a cursor that stands in a text, reads the next passage of the
outline and leaves the cursor standing before the rest, from which the outline goes on with
nothing open (`exists_passage_textVisits`, `exists_passage_commentVisits`).
-/

set_option autoImplicit false

namespace BlockScan

open Charset

namespace Passage

/-- A passage consists of another one and some more lines of a block. -/
structure Extends (q p : Passage) (lines : List Line) : Prop where
  kind_eq : q.kind = p.kind
  start_eq : q.start = p.start
  lines_eq : q.lines = p.lines ++ lines.map Line.text
  stop_eq : q.stop = (lines.getLast?.map Line.stop).getD p.stop

/-- A passage extends itself by no lines. -/
theorem Extends.refl (p : Passage) : p.Extends p [] := ⟨rfl, rfl, by simp, rfl⟩

/-- A passage with one more line, extended by others, extends the passage by all of them. -/
theorem Extends.cons {q p : Passage} {line : Line} {chars : List Char} {lines : List Line}
    (h : q.Extends (p.extend line.text chars) lines) (hs : line.stop = p.stop.walk chars) :
    q.Extends p (line :: lines) where
  kind_eq := h.kind_eq
  start_eq := h.start_eq
  lines_eq := by
    rw [h.lines_eq, extend, List.map_cons, List.append_assoc, List.singleton_append]
  stop_eq := by
    rw [h.stop_eq]
    cases lines with
    | nil => exact hs.symm
    | cons line' lines =>
      rw [List.getLast?_cons_cons, List.getLast?_eq_some_getLast (List.cons_ne_nil _ _)]
      rfl

/-- One more line extends a passage by that line. -/
theorem Extends.singleton {p : Passage} (line : Line) {chars : List Char}
    (hs : line.stop = p.stop.walk chars) : (p.extend line.text chars).Extends p [line] :=
  (Extends.refl _).cons hs

/-- A passage tells all about a block but where reading goes on behind it. -/
structure Describes (p : Passage) (b : Block) : Prop where
  kind_eq : p.kind = b.kind
  start_eq : p.start = b.start
  lines_eq : p.lines = b.lines.map Line.text
  stop_eq : p.stop = b.stop

/-- A passage that extends the empty one by the lines of a block tells all about the block. -/
theorem Extends.describes {p : Passage} {b : Block}
    (h : p.Extends (.empty b.kind b.start) b.lines) : p.Describes b where
  kind_eq := h.kind_eq
  start_eq := h.start_eq
  lines_eq := h.lines_eq
  stop_eq := h.stop_eq

end Passage

/-- Where some visits end does not depend on where they began. -/
theorem LineVisit.endOf_eq_of_ne_nil {visits : List LineVisit} (h : visits ≠ [])
    (start start' : Cursor) : endOf start visits = endOf start' visits := by
  rw [endOf, endOf, List.getLast?_eq_some_getLast h]
  rfl

/-- Where visits end is where the visits behind the first one end. -/
theorem LineVisit.endOf_cons (start : Cursor) (v : LineVisit) (visits : List LineVisit) :
    endOf start (v :: visits) = endOf v.after visits := by
  cases visits with
  | nil => rfl
  | cons v' visits =>
    rw [endOf, List.getLast?_cons_cons]
    exact endOf_eq_of_ne_nil (List.cons_ne_nil _ _) start v.after

/-! ## The end of a line -/

section LineEnd

variable {s : Source} {c : Cursor} {w : Window} {p : Passage} {chars : List Char}

/-- The passage that has the line at a cursor ends where the next line begins but for the line
break between them. -/
theorem step_stop_extend (hw : s.Sees c w) (hp : p.stop.walk chars = c) {n : Window}
    (hn : w.next? = some n) :
    (p.extend w.line (chars ++ w.line)).stop.step lineBreak = c.pastLine w := by
  rw [Passage.stop_extend, Cursor.walk_append, hp, hw.pastLine_of_some hn]

/-- A line up to its end, reached by a jump, extends a passage as a walk over the line does. -/
theorem extends_of_sees (hw : s.Sees c w) (hp : p.stop.walk chars = c) :
    (p.extend w.line (chars ++ w.line)).Extends p [⟨w.line, c.jumpTo w.lineEnd⟩] :=
  Passage.Extends.singleton ⟨w.line, c.jumpTo w.lineEnd⟩ (hw.jumpTo_lineEnd_of_walk hp)

/-- On the last line the cursor comes to the end of the text, and the open passage is the last. -/
theorem outlineFrom_of_last (hw : s.Sees c w) (hn : w.next? = none) (p : Passage) :
    s.Stands (c.pastLine w) [] ∧
      outlineFrom (some p) ((c.walk w.line).step lineBreak) (moreLines w.chars) =
        p :: outlineFrom none (c.pastLine w) (linesOf []) := by
  refine ⟨?_, ?_⟩
  · rw [hw.pastLine_of_none hn]
    exact hw.stands_end hn
  · rw [(Window.chars_of_next?_eq_none hn).2, outlineFrom_none_nil]
    rfl

end LineEnd

/-! ## Blocks of text -/

/-- Of a line that is no text, a block of text consumes blanks and line breaks only. -/
theorem textVisits_of_not_text {s : Source} {c : Cursor} {w : Window} (hw : s.Sees c w)
    (h : LineKind.ofLine w.line ≠ .text) :
    (textVisits c w).filter LineVisit.isText = [] ∧
      ∃ gap rest, w.chars = gap ++ rest ∧ gap.all isGap = true ∧
        LineVisit.endOf c (textVisits c w) = c.walk gap := by
  have hsplit := List.takeWhile_append_dropWhile (p := isBlank) (l := w.line)
  cases hk : LineKind.ofLine w.line with
  | text => exact absurd hk h
  | remark =>
    have hb : (w.line.takeWhile isBlank).all isBlank = true := List.all_takeWhile
    rw [textVisits, hk]
    refine ⟨by simp [LineVisit.isText, hk], w.line.takeWhile isBlank,
      lineContent w.line ++ w.chars.dropWhile inLine, ?_, all_isGap_of_all_isBlank hb, ?_⟩
    · rw [← List.append_assoc, lineContent, hsplit, Window.line,
        List.takeWhile_append_dropWhile]
    · exact hw.jumpTo_content
  | blank =>
    have hnil : lineContent w.line = [] := by
      unfold LineKind.ofLine at hk
      split at hk
      · assumption
      · split at hk <;> simp at hk
    have hb : w.line.all isBlank = true := by
      rw [← hsplit, show w.line.dropWhile isBlank = [] from hnil, List.append_nil]
      exact List.all_takeWhile
    rw [textVisits, hk]
    refine ⟨by simp [LineVisit.isText, hk], ?_⟩
    cases hn : w.next? with
    | none =>
      refine ⟨w.line, [], ?_, all_isGap_of_all_isBlank hb, hw.pastLine_of_none hn⟩
      rw [List.append_nil]
      exact (Window.chars_of_next?_eq_none hn).1
    | some n =>
      refine ⟨w.line ++ [lineBreak], n.chars, ?_, ?_, ?_⟩
      · rw [List.append_assoc]
        exact (Window.chars_of_next?_eq_some hn).1
      · rw [List.all_append, all_isGap_of_all_isBlank hb]
        rfl
      · rw [Cursor.walk_append]
        exact hw.pastLine_of_some hn

/-- The last line of the text is visited alone when it is text. -/
theorem textVisits_of_last {c : Cursor} {w : Window} (ht : LineKind.ofLine w.line = .text)
    (hn : w.next? = none) : textVisits c w = [⟨c, w.line, w.lineEnd, c.pastLine w⟩] := by
  rw [textVisits, ht]
  dsimp only
  split
  · rfl
  · next n hs => simp [hn] at hs

/-- A line of text with another line behind it is visited, and then that line. -/
theorem textVisits_of_next {c : Cursor} {w n : Window} (ht : LineKind.ofLine w.line = .text)
    (hn : w.next? = some n) :
    textVisits c w = ⟨c, w.line, w.lineEnd, c.pastLine w⟩ :: textVisits (c.pastLine w) n := by
  rw [textVisits, ht]
  dsimp only
  split
  · next hs => simp [hn] at hs
  · next m hs =>
    rw [hn, Option.some.injEq] at hs
    rw [hs]

/-- The lines that a block of text takes, from the line at the cursor on, go on with the passage
that has that line, and reading stops where the outline has nothing open. -/
theorem exists_passage_textVisits {s : Source} {c : Cursor} {w : Window} (hw : s.Sees c w)
    (ht : LineKind.ofLine w.line = .text) (p : Passage) (hk : p.kind ≠ .comment)
    (chars : List Char) (hp : p.stop.walk chars = c) :
    ∃ q rest, q.Extends p (((textVisits c w).filter LineVisit.isText).map LineVisit.toLine) ∧
      s.Stands (LineVisit.endOf c (textVisits c w)) rest ∧
      outlineFrom (some (p.extend w.line (chars ++ w.line)))
          ((c.walk w.line).step lineBreak) (moreLines w.chars) =
        q :: outlineFrom none (LineVisit.endOf c (textVisits c w)) (linesOf rest) := by
  have hlast := extends_of_sees hw hp
  cases hn : w.next? with
  | none =>
    rw [textVisits_of_last ht hn, List.filter_cons_of_pos (by simp [LineVisit.isText, ht]),
      LineVisit.endOf_cons]
    exact ⟨_, [], hlast, outlineFrom_of_last hw hn _⟩
  | some n =>
    have hnext := hw.next hn
    have hlines : linesOf n.chars = n.line :: moreLines n.chars := linesOf_eq n.chars
    have hgo := goesOn_eq_isText (p := p.extend w.line (chars ++ w.line)) hk n.line
    rw [textVisits_of_next ht hn, List.filter_cons_of_pos (by simp [LineVisit.isText, ht]),
      LineVisit.endOf_cons, (Window.chars_of_next?_eq_some hn).2, ← hw.pastLine_of_some hn,
      hlines]
    by_cases hnt : LineKind.ofLine n.line = .text
    · -- the next line is one more of the block, with a line break ahead of it
      have hlt := Window.next?_length hn
      obtain ⟨q, rest, hq, hs, ho⟩ := exists_passage_textVisits hnext hnt
        (p.extend w.line (chars ++ w.line)) hk [lineBreak] (step_stop_extend hw hp hn)
      rw [hnt] at hgo
      rw [outlineFrom_some_of_goesOn hgo, lineOf_of_ne_comment (p := p.extend _ _) hk]
      exact ⟨q, rest, hq.cons (hw.jumpTo_lineEnd_of_walk hp), hs, ho⟩
    · obtain ⟨hnil, gap, rest, hc, hg, he⟩ := textVisits_of_not_text hnext hnt
      have hs := hnext.stands
      rw [hc] at hs
      rw [beq_false_of_ne hnt] at hgo
      refine ⟨p.extend w.line (chars ++ w.line), rest, ?_, ?_, ?_⟩
      · rw [hnil]
        exact hlast
      · rw [he]
        exact hs.walk
      · rw [he, ← outlineFrom_gap hg, ← hc, hlines, outlineFrom_some_of_not_goesOn hgo]
termination_by w.chars.length

/-! ## Comments -/

/-- Nothing is passed over as the mark of a comment on a line that does not open with one. -/
theorem head?_of_remark?_eq_none {w : Window} (hr : w.remark? = none) :
    (lineContent w.line).head? ≠ some commentMark := by
  rw [Window.line, lineContent_takeWhile_inLine]
  unfold Window.remark? at hr
  split at hr
  · next hd =>
    rw [hd]
    simp
  · next char rest hd =>
    split at hr
    · simp at hr
    · next hc =>
      rw [hd, List.takeWhile_cons]
      split
      · simpa using hc
      · simp

/-- A line without a comment mark, blanks aside, ends a comment. -/
theorem not_goesOn_of_remark?_eq_none {p : Passage} (h : p.kind = .comment) {w : Window}
    (hr : w.remark? = none) : p.goesOn (lineContent w.line) = false := by
  have hhead := head?_of_remark?_eq_none hr
  cases hcontent : lineContent w.line with
  | nil => rfl
  | cons char rest =>
    rw [hcontent, List.head?_cons, Ne, Option.some.injEq] at hhead
    rw [goesOn_comment h]
    exact beq_false_of_ne hhead

/-- A line with a comment mark, blanks aside, goes on with a comment by what follows the mark. -/
theorem line_of_remark?_eq_some {w m : Window} (hr : w.remark? = some m) :
    w.line = w.blanks ++ commentMark :: m.line ∧ moreLines w.chars = moreLines m.chars ∧
      lineContent w.line = commentMark :: m.line := by
  have hc := Window.chars_of_remark?_eq_some hr
  have hall : (w.blanks ++ [commentMark]).all inLine = true := by
    rw [List.all_append, Bool.and_eq_true]
    exact ⟨all_inLine_of_all_isBlank List.all_takeWhile, by decide⟩
  have hc' : w.chars = (w.blanks ++ [commentMark]) ++ m.chars := by
    rw [hc, List.append_assoc]
    rfl
  have hl : w.line = w.blanks ++ commentMark :: m.line := by
    rw [Window.line, hc', takeWhile_inLine_append hall, List.append_assoc]
    rfl
  refine ⟨hl, by rw [hc', moreLines_append hall], ?_⟩
  have hblanks : ∀ x ∈ w.blanks, isBlank x = true := List.all_eq_true.1 List.all_takeWhile
  rw [hl, lineContent, List.dropWhile_append_of_pos hblanks]
  exact lineContent_cons_of_not_isBlank isBlank_commentMark _

/-- The comment at a mark is made of the visits from behind the mark on. -/
theorem commentBlock_of_stands {s : Source} {c : Cursor} {rest : List Char}
    (hs : s.Stands c (commentMark :: rest)) :
    s.commentBlock c = ⟨.comment, c,
      (commentVisits (c.step commentMark) (s.window (c.step commentMark).offset)).map
        LineVisit.toLine,
      LineVisit.endOf (c.step commentMark)
        (commentVisits (c.step commentMark) (s.window (c.step commentMark).offset))⟩ := by
  rw [Source.commentBlock, hs.advance, LineVisit.endOf_eq_of_ne_nil (commentVisits_ne_nil _ _)]

/-- The lines of a comment, from behind a mark of which the passage already has the line, go on
with that passage, and reading stops where the outline has nothing open. -/
theorem exists_passage_commentVisits {s : Source} {c : Cursor} {w : Window} (hw : s.Sees c w)
    (p : Passage) (hk : p.kind = .comment) (chars : List Char) (hp : p.stop.walk chars = c) :
    ∃ q rest, q.Extends p ((commentVisits c w).map LineVisit.toLine) ∧
      s.Stands (LineVisit.endOf c (commentVisits c w)) rest ∧
      outlineFrom (some (p.extend w.line (chars ++ w.line)))
          ((c.walk w.line).step lineBreak) (moreLines w.chars) =
        q :: outlineFrom none (LineVisit.endOf c (commentVisits c w)) (linesOf rest) := by
  fun_induction commentVisits c w generalizing p chars with
  | case1 c w here hn =>
    exact ⟨_, [], extends_of_sees hw hp, outlineFrom_of_last hw hn _⟩
  | case2 c w here n hn hm =>
    have hk' : (p.extend w.line (chars ++ w.line)).kind = .comment := hk
    have hgo := not_goesOn_of_remark?_eq_none hk' hm
    have hlines : linesOf n.chars = n.line :: moreLines n.chars := linesOf_eq n.chars
    refine ⟨_, n.chars, extends_of_sees hw hp, (hw.next hn).stands, ?_⟩
    rw [(Window.chars_of_next?_eq_some hn).2, hlines, outlineFrom_some_of_not_goesOn hgo,
      ← hw.pastLine_of_some hn]
    rfl
  | case3 c w here n hn m hm ih =>
    have hk' : (p.extend w.line (chars ++ w.line)).kind = .comment := hk
    have hlines : linesOf n.chars = n.line :: moreLines n.chars := linesOf_eq n.chars
    obtain ⟨hline, hmore, hcontent⟩ := line_of_remark?_eq_some hm
    have hgo : (p.extend w.line (chars ++ w.line)).goesOn (lineContent n.line) = true := by
      rw [hcontent, goesOn_comment hk']
      rfl
    have hlineOf : (p.extend w.line (chars ++ w.line)).lineOf n.line = m.line := by
      rw [Passage.lineOf, if_pos hk', hcontent]
      rfl
    -- the characters from the end of this line to behind the next mark
    have hmark : (p.extend w.line (chars ++ w.line)).stop.walk
        (lineBreak :: (n.blanks ++ [commentMark])) =
        ((c.pastLine w).walk n.blanks).step commentMark := by
      rw [Cursor.walk_cons, step_stop_extend hw hp hn, Cursor.walk_append]
      rfl
    have hchars : lineBreak :: (n.blanks ++ [commentMark]) ++ m.line = lineBreak :: n.line := by
      rw [hline, List.cons_append, List.append_assoc]
      rfl
    have hend : (((c.pastLine w).walk n.blanks).step commentMark).walk m.line =
        ((c.walk w.line).step lineBreak).walk n.line := by
      rw [hline, Cursor.walk_append, ← hw.pastLine_of_some hn]
      rfl
    obtain ⟨q, rest, hq, hs, ho⟩ := ih ((hw.next hn).remark hm)
      (p.extend w.line (chars ++ w.line)) hk' _ hmark
    rw [LineVisit.endOf_eq_of_ne_nil (commentVisits_ne_nil _ _) _ here.after] at hs ho
    rw [List.map_cons, LineVisit.endOf_cons]
    refine ⟨q, rest, hq.cons (hw.jumpTo_lineEnd_of_walk hp), hs, ?_⟩
    rw [(Window.chars_of_next?_eq_some hn).2, hlines, hmore, outlineFrom_some_of_goesOn hgo,
      hlineOf, ← hchars, ← hend]
    exact ho

end BlockScan
