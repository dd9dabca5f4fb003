import Mathlib.Logic.Function.Iterate
import BlockScan.Proofs.Scan.Coverage
import BlockScan.Proofs.Scan.Positions

/-!
# Jumps stay in their line

A jump is not checked: over a line break it would leave a wrong line and a wrong column. None of
the jumps of a scan crosses one (`LineVisit.StaysInLine`), because every visit of a line begins
where the cursor stands in the text, and its jump passes a part of what stands there of that line
(`LineVisit.Passes`). Both readers keep this from line to line (`passes_textVisits`,
`passes_commentVisits`), and every block of a scan is read by such visits. The main statement is
`jumps_stay_in_line`.
-/

set_option autoImplicit false

namespace BlockScan

open Charset

/-! ## One jump -/

namespace LineVisit

/-- The jump of a visit goes forward within the text and within a line, to where the cursor comes
by advancing over one character after the other. Behind the jump it advances once at most. -/
structure StaysInLine (s : Source) (v : LineVisit) : Prop where
  nonneg : 0 ≤ v.start.offset
  start_le : v.start.offset ≤ v.target
  target_le : v.target ≤ s.text.length
  inLine : lineBreak ∉ s.slice v.start.offset v.target
  landing_eq : v.landing = s.advance^[(v.target - v.start.offset).toNat] v.start
  after_eq : v.after = v.landing ∨ v.after = s.advance v.landing

/-- The cursor of a visit stands before some characters of a line, and the target lies behind
them. -/
structure Passes (s : Source) (v : LineVisit) : Prop where
  exists_chars : ∃ chars rest, s.Stands v.start (chars ++ rest) ∧ chars.all Charset.inLine = true ∧
    v.target = v.start.offset + chars.length
  after_eq : v.after = v.landing ∨ v.after = s.advance v.landing

end LineVisit

/-- Advancing as often as there are characters ahead is walking over them. -/
theorem Source.Stands.iterate_advance {s : Source} {c : Cursor} {chars rest : List Char}
    (h : s.Stands c (chars ++ rest)) : s.advance^[chars.length] c = c.walk chars := by
  induction chars generalizing c with
  | nil => rfl
  | cons char chars ih =>
    rw [List.cons_append] at h
    rw [List.length_cons, Function.iterate_succ_apply, h.advance, ih h.step, Cursor.walk_cons]

/-- A visit that jumps over characters of one line stays in that line. -/
theorem LineVisit.Passes.staysInLine {s : Source} {v : LineVisit} (h : v.Passes s) :
    v.StaysInLine s := by
  obtain ⟨⟨chars, rest, hs, hl, ht⟩, hafter⟩ := h
  have ⟨before, htext, hstart⟩ := hs
  have hoffset : v.start.offset = before.length := by rw [hstart, walk_origin]
  have htarget : v.target = (before.length + chars.length : Nat) := by
    rw [ht, hoffset]
    rfl
  have hslice := Source.slice_of_text_eq htext
  rw [← hoffset, ← htarget] at hslice
  have hcount : (v.target - v.start.offset).toNat = chars.length := by omega
  refine ⟨by omega, by omega, ?_, ?_, ?_, hafter⟩
  · rw [htarget, htext]
    simp only [List.length_append]
    omega
  · rw [hslice]
    exact lineBreak_not_mem hl
  · rw [hcount, hs.iterate_advance]
    exact Cursor.jumpTo_eq_walk hl ht

/-! ## The jumps of the readers -/

section Visits

variable {s : Source} {c : Cursor} {w : Window}

/-- Behind the end of a line the cursor steps over the line break, if there is one. -/
theorem pastLine_eq_or (hw : s.Sees c w) :
    c.pastLine w = c.jumpTo w.lineEnd ∨ c.pastLine w = s.advance (c.jumpTo w.lineEnd) := by
  cases hn : w.next? with
  | none =>
    left
    rw [Cursor.pastLine, hn]
  | some n =>
    right
    have hs := hw.stands
    rw [(Window.chars_of_next?_eq_some hn).1] at hs
    rw [hw.pastLine_of_some hn, hw.jumpTo_lineEnd, hs.walk.advance]

/-- A jump to the end of a line passes the characters of the line. -/
theorem passes_lineEnd (hw : s.Sees c w) :
    LineVisit.Passes s ⟨c, w.line, w.lineEnd, c.pastLine w⟩ := by
  refine ⟨⟨w.line, w.chars.dropWhile inLine, ?_, all_takeWhile_inLine _, hw.lineEnd_eq⟩,
    pastLine_eq_or hw⟩
  rw [Window.line, List.takeWhile_append_dropWhile]
  exact hw.stands

/-- A jump to the content of a line passes its blanks. -/
theorem passes_content (hw : s.Sees c w) {target : Int}
    (ht : target = w.lineEnd - (lineContent w.line).length) :
    LineVisit.Passes s ⟨c, w.line, target, c.jumpTo target⟩ := by
  refine ⟨⟨w.line.takeWhile isBlank, lineContent w.line ++ w.chars.dropWhile inLine, ?_,
    all_inLine_takeWhile_isBlank _, ht.trans hw.lineEnd_sub_content⟩, .inl rfl⟩
  rw [← List.append_assoc, takeWhile_isBlank_append_lineContent, Window.line,
    List.takeWhile_append_dropWhile]
  exact hw.stands

/-- Every visit of a block of text passes characters of its line. -/
theorem passes_textVisits (hw : s.Sees c w) : ∀ v ∈ textVisits c w, v.Passes s := by
  fun_induction textVisits c w with
  | case1 c w hk target =>
    rw [List.forall_mem_singleton]
    exact passes_content hw rfl
  | case2 c w hk =>
    rw [List.forall_mem_singleton]
    exact passes_lineEnd hw
  | case3 c w hk here hn =>
    rw [List.forall_mem_singleton]
    exact passes_lineEnd hw
  | case4 c w hk here n hn ih =>
    rw [List.forall_mem_cons]
    exact ⟨passes_lineEnd hw, ih (hw.next hn)⟩

/-- A visit behind the next mark begins where the blanks and the mark were stepped over, so what
is given back at the end of a comment has no part in any jump. -/
theorem passes_commentVisits (hw : s.Sees c w) : ∀ v ∈ commentVisits c w, v.Passes s := by
  fun_induction commentVisits c w with
  | case1 c w here hn =>
    rw [List.forall_mem_singleton]
    exact passes_lineEnd hw
  | case2 c w here n hn hm =>
    rw [List.forall_mem_singleton]
    exact passes_lineEnd hw
  | case3 c w here n hn m hm ih =>
    rw [List.forall_mem_cons]
    exact ⟨passes_lineEnd hw, ih ((hw.next hn).remark hm)⟩

end Visits

/-! ## The visits of a block -/

/-- The visits by which a block of a source is read. The mark of a block keyword takes none. -/
def Source.visitsOf (s : Source) (b : Block) : List LineVisit :=
  match b.kind with
  | .heading | .paragraph => textVisits b.start (s.window b.start.offset)
  | .comment => commentVisits (s.advance b.start) (s.window (s.advance b.start).offset)
  | .marker => []

/-- All that is known of a block is what some visits brought: its lines are those visited, but for
the lines of a block of text that are no text, and reading goes on where the last visit ended. -/
structure Block.MadeOf (b : Block) (visits : List LineVisit) : Prop where
  lines_eq : b.lines =
    (visits.filter fun v => b.kind == .comment || v.isText).map LineVisit.toLine
  after_eq : b.after = LineVisit.endOf b.start visits

/-- A block is read by visits none of which jumps out of its line; a mark is read without a
jump. -/
structure Block.ReadInLine (s : Source) (b : Block) : Prop where
  madeOf : b.kind ≠ .marker → b.MadeOf (s.visitsOf b)
  after_eq : b.kind = .marker → b.after = s.advance b.start
  staysInLine : ∀ v ∈ s.visitsOf b, v.StaysInLine s

section Blocks

variable {s : Source} {c : Cursor} {rest : List Char}

/-- A heading or paragraph is read without a jump over a line break. -/
theorem readInLine_textBlock {kind : BlockKind} (hk : kind.isText = true) (hs : s.Stands c rest) :
    (s.textBlock kind c).ReadInLine s := by
  have hvisits : s.visitsOf (s.textBlock kind c) =
      textVisits (s.skip isBlank c) (s.window (s.skip isBlank c).offset) := by
    cases kind with
    | heading => rfl
    | paragraph => rfl
    | comment => simp [BlockKind.isText] at hk
    | marker => simp [BlockKind.isText] at hk
  have hcomment : ((s.textBlock kind c).kind == .comment) = false :=
    beq_false_of_ne (BlockKind.ne_comment_of_isText hk)
  refine ⟨?_, ?_, ?_⟩
  · intro _
    rw [hvisits]
    refine ⟨?_, rfl⟩
    simp only [hcomment, Bool.false_or]
    rfl
  · intro hmarker
    have hkind : kind = .marker := hmarker
    simp [hkind, BlockKind.isText] at hk
  · intro v hv
    rw [hvisits] at hv
    exact (passes_textVisits (hs.stands_skip isBlank).sees.1 v hv).staysInLine

/-- A comment is read without a jump over a line break. -/
theorem readInLine_commentBlock (hs : s.Stands c (commentMark :: rest)) :
    (s.commentBlock c).ReadInLine s := by
  refine ⟨?_, ?_, ?_⟩
  · intro _
    have hall : ∀ v ∈ s.visitsOf (s.commentBlock c),
        ((s.commentBlock c).kind == .comment || v.isText) = true := fun _ _ => rfl
    refine ⟨?_, rfl⟩
    rw [List.filter_eq_self.2 hall]
    rfl
  · show BlockKind.comment = .marker → _
    intro hmarker
    simp at hmarker
  · have hvisits : s.visitsOf (s.commentBlock c) =
        commentVisits (c.step commentMark) (s.window (c.step commentMark).offset) := by
      rw [← hs.advance]
      rfl
    intro v hv
    rw [hvisits] at hv
    exact (passes_commentVisits hs.step.sees.1 v hv).staysInLine

/-- A block mark is read without a jump at all. -/
theorem readInLine_markerBlock (s : Source) (c : Cursor) : (s.markerBlock c).ReadInLine s where
  madeOf h := absurd rfl h
  after_eq _ := rfl
  staysInLine _ hv := absurd hv List.not_mem_nil

/-- Whatever block starts at a cursor is read without a jump over a line break. -/
theorem readInLine_blockAt (hs : s.Stands c rest) : (s.blockAt c).ReadInLine s := by
  unfold Source.blockAt
  split
  · exact readInLine_textBlock rfl hs
  · split
    · next hc =>
      rw [hs.peek, List.head?_eq_some_iff] at hc
      obtain ⟨rest, rfl⟩ := hc
      exact readInLine_commentBlock hs
    · split
      · exact readInLine_markerBlock s c
      · exact readInLine_textBlock rfl hs

/-- The next block behind a cursor is read without a jump over a line break. -/
theorem readInLine_nextBlock? {b : Block} (hs : s.Stands c rest) (h : s.nextBlock? c = some b) :
    b.ReadInLine s := by
  unfold Source.nextBlock? at h
  simp only at h
  split at h
  · simp at h
  · rw [Option.some.injEq] at h
    subst h
    exact readInLine_blockAt (hs.stands_skip isGap)

/-- All blocks behind a cursor are read without a jump over a line break, by induction along
them. -/
theorem readInLine_of_mem_blocksFrom (hs : s.Stands c rest) :
    ∀ b ∈ s.blocksFrom c, b.ReadInLine s := by
  fun_induction Source.blocksFrom s c generalizing rest with
  | case1 c hn =>
    intro b hb
    exact absurd hb List.not_mem_nil
  | case2 c b hb ih =>
    obtain ⟨p, rest', -, hs', -⟩ := nextBlock?_yields hs hb
    rw [List.forall_mem_cons]
    exact ⟨readInLine_nextBlock? hs hb, ih hs'⟩

/-- All blocks of a document are read without a jump over a line break, the title included. -/
theorem readInLine_of_mem_blocks (s : Source) : ∀ b ∈ s.blocks, b.ReadInLine s := by
  obtain ⟨p, rest, -, hs, -⟩ := title_yields s
  rw [Source.blocks, List.forall_mem_cons]
  exact ⟨readInLine_textBlock rfl (Source.Stands.origin s), readInLine_of_mem_blocksFrom hs⟩

end Blocks

/-- A scan reads the blocks of its text, all of them when no line is refused, and no jump that is
made in reading them leaves the text or its line: each one takes the cursor to where advancing over
the characters in between takes it. -/
theorem jumps_stay_in_line {ε : Type} (s : Scanner ε) :
    s.tokens = (s.readBlocks s.source.blocks).map
        (· ++ [s.endToken (Cursor.origin.walk s.source.text)]) ∧
      (∀ b ∈ s.source.blocks, b.ReadInLine s.source) ∧
      (s.options.AcceptsAll → ∃ tokens, s.readBlocks s.source.blocks = .ok tokens) := by
  have htokens := s.tokens_eq_readBlocks
  refine ⟨htokens, readInLine_of_mem_blocks s.source, ?_⟩
  intro haccepts
  cases hread : s.readBlocks s.source.blocks with
  | error e =>
    rw [hread, tokens_eq_rework, haccepts.rework_eq] at htokens
    simp [Except.map] at htokens
  | ok tokens => exact ⟨tokens, rfl⟩

/-- A title ends ahead of an indented comment of two lines, a mark is read without a jump, and the
text behind it is read up to a line of blanks. -/
theorem jumps_stay_in_line_bracket :
    ∃ s : Scanner LineError, s = ⟨.ofString "Title\n\t# note\n # more\n@x y\r\n \nend", none,
        ScanConfig.options { transform := some .bracket }⟩ ∧
      s.options.AcceptsAll ∧
      (∃ tokens, s.readBlocks s.source.blocks = .ok tokens) ∧
      (∀ b ∈ s.source.blocks, b.ReadInLine s.source) ∧
      (s.source.blocks.flatMap s.source.visitsOf).map (fun v => (v.start.offset, v.target)) =
        [(0, 5), (6, 7), (8, 13), (16, 21), (23, 27), (28, 29), (30, 33)] := by
  have haccepts : (ScanConfig.options { transform := some .bracket }).AcceptsAll :=
    acceptsAll_ofChars _ _ _
  obtain ⟨-, hstay, hread⟩ := jumps_stay_in_line
    ⟨.ofString "Title\n\t# note\n # more\n@x y\r\n \nend", none,
      ScanConfig.options { transform := some .bracket }⟩
  exact ⟨_, rfl, haccepts, hread haccepts, hstay, by decide +kernel⟩

end BlockScan
