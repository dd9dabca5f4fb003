import BlockScan.Proofs.Outline.Reading
import BlockScan.Scan.Options

/-!
# A comment is a run of lines

The reader of comments passes over the blanks of every next line to see whether the line opens
with a comment mark, and turns back when it does not. What it takes is the longest run of such
lines (`CommentRun`) that begins with the rest of the line at the cursor, and nothing of the line
behind the run (`TakesRun`). The main statement is `read_commentBlock_takesRun`.
-/

set_option autoImplicit false

namespace BlockScan

open Charset

/-- The lines of a text are a run of lines that open with a comment mark, blanks aside, and others
of which the first one does not. -/
structure CommentRun (text : List Char) (run others : List (List Char)) : Prop where
  lines_eq : linesOf text = run ++ others
  ne_nil : run ≠ []
  marked : ∀ line ∈ run, (lineContent line).head? = some commentMark
  ended : ∀ line ∈ others.head?, (lineContent line).head? ≠ some commentMark

/-- The token of a comment at a cursor has what follows the marks of the lines of a run for its
literal and goes on to the end of the run, and the cursor is left at the start of the line behind
the run, or at the end of the text when there is none. -/
structure TakesRun (s : Source) (file : Option String) (c : Cursor) (run others : List (List Char))
    (token : Token) (after : Cursor) : Prop where
  kind_eq : token.kind = .comment
  literal_eq : token.literal = joinLines (run.map fun line => String.ofList (lineContent line).tail)
  start_eq : token.span.start = .ofCursor file c
  stop_eq : token.span.stop = .ofCursor file (c.walk ([lineBreak].intercalate run))
  after_locates : after.Locates s.text
  after_lt : c.offset < after.offset
  after_of_nil : others = [] → s.atEnd after = true
  after_of_ne_nil : others ≠ [] → after.column = 0 ∧ linesOf (s.upcoming after.offset) = others

/-! ## The lines behind the first mark -/

/-- What some visits tell of the lines behind a mark, with a cursor and a window at that place: they
take the rest of the line and some of the lines that follow, and stop before the others. -/
structure Follows (s : Source) (c : Cursor) (w : Window) (visits : List LineVisit)
    (run others : List (List Char)) : Prop where
  lines_eq : moreLines w.chars = run ++ others
  marked : ∀ line ∈ run, (lineContent line).head? = some commentMark
  ended : ∀ line ∈ others.head?, (lineContent line).head? ≠ some commentMark
  texts_eq : visits.map LineVisit.text = w.line :: run.map fun line => (lineContent line).tail
  stop_eq : visits.getLast?.map LineVisit.landing = some (c.walk (w.line ++ tailText run))
  after_of_nil : others = [] → s.Stands (LineVisit.endOf c visits) []
  after_of_ne_nil : others ≠ [] → (LineVisit.endOf c visits).column = 0 ∧
    ∃ rest, s.Stands (LineVisit.endOf c visits) rest ∧ linesOf rest = others

section Follows

variable {s : Source} {c : Cursor} {w n m : Window}

/-- Behind the last line of the text there is none. -/
theorem follows_of_last (hw : s.Sees c w) (hn : w.next? = none) :
    Follows s c w [⟨c, w.line, w.lineEnd, c.pastLine w⟩] [] [] where
  lines_eq := (Window.chars_of_next?_eq_none hn).2
  marked := by simp
  ended := by simp
  texts_eq := rfl
  stop_eq := by
    rw [tailText_nil, List.append_nil, ← hw.jumpTo_lineEnd]
    rfl
  after_of_nil _ := by
    have hs := hw.stands_end hn
    rwa [← hw.pastLine_of_none hn] at hs
  after_of_ne_nil h := absurd rfl h

/-- A next line without a mark is left to what follows the comment, from its first character on. -/
theorem follows_of_other (hw : s.Sees c w) (hn : w.next? = some n) (hr : n.remark? = none) :
    Follows s c w [⟨c, w.line, w.lineEnd, c.pastLine w⟩] [] (linesOf n.chars) where
  lines_eq := (Window.chars_of_next?_eq_some hn).2
  marked := by simp
  ended := by
    rw [linesOf_eq, List.head?_cons]
    intro line hline
    cases hline
    exact head?_of_remark?_eq_none hr
  texts_eq := rfl
  stop_eq := by
    rw [tailText_nil, List.append_nil, ← hw.jumpTo_lineEnd]
    rfl
  after_of_nil h := by
    rw [linesOf_eq] at h
    cases h
  after_of_ne_nil _ := by
    refine ⟨?_, n.chars, (hw.next hn).stands, rfl⟩
    show (c.pastLine w).column = 0
    rw [hw.pastLine_of_some hn]
    rfl

/-- A next line with a mark is one more line of the run. -/
theorem follows_of_remark (hw : s.Sees c w) (hn : w.next? = some n) (hr : n.remark? = some m)
    {visits : List LineVisit} {run others : List (List Char)}
    (h : Follows s (((c.pastLine w).walk n.blanks).step commentMark) m visits run others) :
    Follows s c w (⟨c, w.line, w.lineEnd, c.pastLine w⟩ :: visits) (n.line :: run) others := by
  obtain ⟨hline, hmore, hcontent⟩ := line_of_remark?_eq_some hr
  have hlines : linesOf n.chars = n.line :: moreLines n.chars := linesOf_eq n.chars
  obtain ⟨last, hlast, hlanding⟩ := Option.map_eq_some_iff.1 h.stop_eq
  have hne : visits ≠ [] := by
    rintro rfl
    cases hlast
  have hend : LineVisit.endOf c (⟨c, w.line, w.lineEnd, c.pastLine w⟩ :: visits) =
      LineVisit.endOf (((c.pastLine w).walk n.blanks).step commentMark) visits := by
    rw [LineVisit.endOf_cons, LineVisit.endOf_eq_of_ne_nil hne]
  exact {
    lines_eq := by
      rw [(Window.chars_of_next?_eq_some hn).2, hlines, hmore, h.lines_eq, List.cons_append]
    marked := by
      rw [List.forall_mem_cons, hcontent]
      exact ⟨rfl, h.marked⟩
    ended := h.ended
    texts_eq := by rw [List.map_cons, h.texts_eq, List.map_cons, hcontent, List.tail_cons]
    stop_eq := by
      rw [List.getLast?_cons, hlast, Option.getD_some, Option.map_some, hlanding,
        hw.pastLine_of_some hn, tailText_cons, hline]
      simp only [Cursor.walk_append, Cursor.walk_cons]
    after_of_nil := by
      rw [hend]
      exact h.after_of_nil
    after_of_ne_nil := by
      rw [hend]
      exact h.after_of_ne_nil }

/-- The visits of a comment tell of a run of marked lines and of the others behind it: induction
along the visits, with one of the three lemmas above for each way to go on. -/
theorem exists_follows (hw : s.Sees c w) :
    ∃ run others, Follows s c w (commentVisits c w) run others := by
  fun_induction commentVisits c w with
  | case1 c w here hn => exact ⟨[], [], follows_of_last hw hn⟩
  | case2 c w here n hn hr => exact ⟨[], linesOf n.chars, follows_of_other hw hn hr⟩
  | case3 c w here n hn m hr ih =>
    obtain ⟨run, others, h⟩ := ih ((hw.next hn).remark hr)
    exact ⟨n.line :: run, others, follows_of_remark hw hn hr h⟩

end Follows

/-! ## The whole comment -/

/-- The text from a comment mark on has the run that begins with the rest of that line. -/
theorem Follows.commentRun {s : Source} {c : Cursor} {w : Window} {visits : List LineVisit}
    {run others : List (List Char)} (h : Follows s c w visits run others) :
    CommentRun (commentMark :: w.chars) ((commentMark :: w.line) :: run) others where
  lines_eq := by
    have hl : inLine commentMark = true := by decide
    rw [linesOf_cons_of_inLine hl, h.lines_eq, List.cons_append]
    rfl
  ne_nil := List.cons_ne_nil _ _
  marked := by
    rw [List.forall_mem_cons, lineContent_cons_of_not_isBlank isBlank_commentMark]
    exact ⟨rfl, h.marked⟩
  ended := h.ended

section CommentBlock

variable {s : Source} {c : Cursor} {w : Window} {visits : List LineVisit}
  {run others : List (List Char)}

/-- What the visits behind a mark bring is the end of the whole run. -/
theorem Follows.stop_of_mark (h : Follows s (c.step commentMark) w visits run others) :
    ((visits.map LineVisit.toLine).getLast?.map Line.stop).getD c =
      c.walk ([lineBreak].intercalate ((commentMark :: w.line) :: run)) := by
  have hlanding : (visits.map LineVisit.toLine).getLast?.map Line.stop =
      visits.getLast?.map LineVisit.landing := by
    rw [List.getLast?_map, Option.map_map]
    rfl
  rw [hlanding, h.stop_eq, Option.getD_some, intercalate_lineBreak_cons, List.cons_append,
    Cursor.walk_cons]

/-- The lines of a comment are the lines of the run without blanks and marks, the first one
included, of which the visits begin behind the mark. -/
theorem Follows.texts_of_mark (h : Follows s c w visits run others) :
    (visits.map LineVisit.toLine).map (fun line => String.ofList line.text) =
      ((commentMark :: w.line) :: run).map fun line => String.ofList (lineContent line).tail := by
  have htexts := congrArg (List.map String.ofList) h.texts_eq
  rw [List.map_map, List.map_cons, List.map_map] at htexts
  rw [List.map_map, List.map_cons, lineContent_cons_of_not_isBlank isBlank_commentMark]
  exact htexts

/-- Behind the run the cursor stands at a place of the text. -/
theorem Follows.locates_after (h : Follows s c w visits run others) :
    (LineVisit.endOf c visits).Locates s.text := by
  by_cases hn : others = []
  · exact (h.after_of_nil hn).locates
  · obtain ⟨-, rest, hs, -⟩ := h.after_of_ne_nil hn
    exact hs.locates

end CommentBlock

/-- From every place of the text at a comment mark, and whatever the options are, the reader of
comments takes the longest run of comment lines. -/
theorem read_commentBlock_takesRun {ε : Type} (s : Source) {c : Cursor} (hc : c.Locates s.text)
    (hp : s.peek c = some commentMark) (options : ScanOptions ε) (file : Option String) :
    ∃ run others token after, CommentRun (s.upcoming c.offset) run others ∧
      (s.commentBlock c).read options file = ⟨after, .ok token⟩ ∧
      TakesRun s file c run others token after := by
  have hs := Source.Stands.of_locates hc
  obtain ⟨rest, hrest⟩ : ∃ rest, s.upcoming c.offset = commentMark :: rest := by
    rw [Source.peek] at hp
    exact List.head?_eq_some_iff.1 hp
  rw [hrest] at hs ⊢
  obtain ⟨hw, rfl⟩ := hs.step.sees
  obtain ⟨run, others, h⟩ := exists_follows hw
  have hprogress := s.commentBlock_progress (by rw [hs.atEnd]; rfl) hp
  have hliteral := Block.literalLines_of_not_isText options (b := s.commentBlock c) rfl
  have hordered : (s.commentBlock c).start.offset ≤ (s.commentBlock c).stop.offset := by
    rw [commentBlock_of_stands hs, Block.stop, h.stop_of_mark]
    exact c.walk_offset_le _
  rw [commentBlock_of_stands hs] at hprogress hliteral hordered ⊢
  rw [h.texts_of_mark] at hliteral
  refine ⟨_, others, _, _, h.commentRun, Block.read_of_ordered hliteral file hordered, ?_⟩
  exact {
    kind_eq := rfl
    literal_eq := rfl
    start_eq := rfl
    stop_eq := congrArg (Position.ofCursor file) h.stop_of_mark
    after_locates := h.locates_after
    after_lt := hprogress
    after_of_nil := fun hn => (h.after_of_nil hn).atEnd
    after_of_ne_nil := by
      intro hn
      obtain ⟨hcolumn, rest, hs', hlines⟩ := h.after_of_ne_nil hn
      exact ⟨hcolumn, by rw [hs'.upcoming, hlines]⟩ }

/-- A comment behind a block mark, which goes on in the next line and before an indented text. -/
theorem read_commentBlock_takesRun_indented :
    Cursor.Locates "@ #a#\n \t\r# b\n  end".toList ⟨1, 2, 2⟩ ∧
      (Source.ofString "@ #a#\n \t\r# b\n  end").peek ⟨1, 2, 2⟩ = some commentMark ∧
      ∃ run others token after,
        CommentRun ((Source.ofString "@ #a#\n \t\r# b\n  end").upcoming 2) run others ∧
          ((Source.ofString "@ #a#\n \t\r# b\n  end").commentBlock ⟨1, 2, 2⟩).read
            ({} : ScanOptions Empty) (some "policy.txt") = ⟨after, .ok token⟩ ∧
          TakesRun (.ofString "@ #a#\n \t\r# b\n  end") (some "policy.txt") ⟨1, 2, 2⟩ run others
            token after := by
  have hlocates : Cursor.Locates "@ #a#\n \t\r# b\n  end".toList ⟨1, 2, 2⟩ :=
    ⟨by decide, by decide, by decide, by decide⟩
  have hpeek : (Source.ofString "@ #a#\n \t\r# b\n  end").peek ⟨1, 2, 2⟩ = some commentMark := by
    decide
  exact ⟨hlocates, hpeek, read_commentBlock_takesRun (.ofString "@ #a#\n \t\r# b\n  end")
    hlocates hpeek {} (some "policy.txt")⟩

end BlockScan
