import BlockScan.Proofs.Outline.Reading

/-!
# The blocks of a document are its outline

`Source.blocks` lists what a scan reads: the title, and then one block after another until only
blanks and line breaks are left, at `Source.lastCursor`. The main statement is
`outline_describes_blocks`: passage by passage, the outline of the text tells the kind, the
literal lines and the ends of these blocks. Along the way every cursor between two blocks is seen
to stand in the text.
-/

set_option autoImplicit false

namespace BlockScan

open Charset

namespace Source

/-- The blocks behind a cursor. -/
def blocksFrom (s : Source) (c : Cursor) : List Block :=
  match _h : s.nextBlock? c with
  | none => []
  | some b => b :: s.blocksFrom b.after
termination_by (s.size - c.offset).toNat
decreasing_by
  have := nextBlock?_progress _h
  omega

/-- The cursor at the end of the text, when the blocks behind a cursor have been read. -/
def lastCursor (s : Source) (c : Cursor) : Cursor :=
  match _h : s.nextBlock? c with
  | none => s.skip isGap c
  | some b => s.lastCursor b.after
termination_by (s.size - c.offset).toNat
decreasing_by
  have := nextBlock?_progress _h
  omega

/-- The title of a document. -/
def title (s : Source) : Block := s.textBlock .heading .origin

/-- The blocks of a document. -/
def blocks (s : Source) : List Block := s.title :: s.blocksFrom s.title.after

/-- Reading a block has brought the first one of some passages, and the others lie ahead of the
cursor behind the block. -/
def Yields (s : Source) (b : Block) (passages : List Passage) : Prop :=
  ∃ p rest, p.Describes b ∧ s.Stands b.after rest ∧
    passages = p :: outlineFrom none b.after (linesOf rest)

end Source

/-! ## Headings and paragraphs -/

section TextBlock

variable {s : Source} {c : Cursor} {rest : List Char} {kind : BlockKind}

/-- The window of a block of text is on the content of the line at the cursor and what follows. -/
theorem exists_window_textBlock (hs : s.Stands c rest) :
    ∃ w, s.window (s.skip isBlank c).offset = w ∧ s.Sees (s.skip isBlank c) w ∧
      w.chars = rest.dropWhile isBlank ∧ w.line = lineContent (rest.takeWhile inLine) := by
  obtain ⟨hw, hc⟩ := (hs.stands_skip isBlank).sees
  refine ⟨_, rfl, hw, hc, ?_⟩
  rw [lineContent_takeWhile_inLine, Window.line, hc]

/-- A heading or paragraph at a line of text opens with the content of that line. -/
theorem textBlock_yields_of_text (hs : s.Stands c rest) (hk : kind ≠ .comment)
    (ht : LineKind.ofLine (rest.takeWhile inLine) = .text) :
    s.Yields (s.textBlock kind c) (outlineFrom
      (some (.begun kind (c.walk (rest.takeWhile isBlank)) (lineContent (rest.takeWhile inLine))))
      ((c.walk (rest.takeWhile inLine)).step lineBreak) (moreLines rest)) := by
  obtain ⟨w, hwin, hw, hc, hl⟩ := exists_window_textBlock hs
  have htext : LineKind.ofLine w.line = .text := by rw [hl, ofLine_lineContent, ht]
  obtain ⟨q, rest', hq, hs', ho⟩ := exists_passage_textVisits hw htext
    (.empty kind (s.skip isBlank c)) hk [] rfl
  have hmore : moreLines w.chars = moreLines rest := by
    rw [hc, ← moreLines_append (all_inLine_takeWhile_isBlank rest),
      List.takeWhile_append_dropWhile]
  have hend : (s.skip isBlank c).walk w.line = c.walk (rest.takeWhile inLine) := by
    rw [hl, hs.skip, walk_firstLine]
  rw [hmore, hend, hl] at ho
  subst hwin
  rw [← hs.skip]
  exact ⟨q, rest', hq.describes, hs', ho⟩

/-- A heading or paragraph at any other line has no lines, and leaves the line to what follows. -/
theorem textBlock_yields_of_not_text (hs : s.Stands c rest)
    (ht : LineKind.ofLine (rest.takeWhile inLine) ≠ .text) :
    s.Yields (s.textBlock kind c)
      (Passage.empty kind (c.walk (rest.takeWhile isBlank)) ::
        outlineFrom none c (linesOf rest)) := by
  obtain ⟨w, hwin, hw, hc, hl⟩ := exists_window_textBlock hs
  have htext : LineKind.ofLine w.line ≠ .text := by rwa [hl, ofLine_lineContent]
  obtain ⟨hnil, gap, rest', hgap, hall, he⟩ := textVisits_of_not_text hw htext
  have hsees := hw.stands
  rw [hgap] at hsees
  subst hwin
  have hafter : (s.textBlock kind c).after = (s.skip isBlank c).walk gap := he
  have hlines : (s.textBlock kind c).lines = [] := by
    simp only [Source.textBlock, hnil, List.map_nil]
  rw [← hs.skip]
  refine ⟨.empty kind (s.skip isBlank c), rest', ⟨rfl, rfl, ?_, ?_⟩, ?_, ?_⟩
  · rw [hlines]
    rfl
  · rw [Block.stop, hlines]
    rfl
  · rw [hafter]
    exact hsees.walk
  · rw [hafter, hs.skip, ← outlineFrom_gap hall, ← hgap, hc,
      ← outlineFrom_gap (all_isGap_takeWhile_isBlank rest), List.takeWhile_append_dropWhile]

end TextBlock

/-- The title of a document is the first passage of its outline. -/
theorem title_yields (s : Source) : s.Yields s.title (outline s.text) := by
  have hs := Source.Stands.origin s
  by_cases ht : LineKind.ofLine (s.text.takeWhile inLine) = .text
  · rw [outline_of_text ht]
    exact textBlock_yields_of_text hs BlockKind.heading_ne_comment ht
  · rw [outline_of_not_text ht]
    exact textBlock_yields_of_not_text hs ht

/-! ## The next block -/

/-- Whether a heading opens is told by the first two characters, which is what the reader of the
next block looks at. -/
theorem ofContent_eq_heading_iff (char : Char) (rest : List Char) :
    BlockKind.ofContent (char :: rest.takeWhile inLine) = .heading ↔
      char = headingMark ∧ rest.head? = some ' ' := by
  have hp : [headingMark, ' '].isPrefixOf (char :: rest.takeWhile inLine) = true ↔
      char = headingMark ∧ rest.head? = some ' ' := by
    cases rest with
    | nil => simp [List.isPrefixOf]
    | cons next rest =>
      by_cases hn : next = ' '
      · subst hn
        have hs : inLine ' ' = true := by decide
        simpa [List.isPrefixOf, hs] using eq_comm
      · cases hl : inLine next with
        | true => simp [List.isPrefixOf, hl, hn, Ne.symm hn]
        | false => simp [List.isPrefixOf, hl, hn]
  rw [← hp, BlockKind.ofContent]
  split
  · next h => exact iff_of_true rfl h
  · next h =>
    refine iff_of_false ?_ h
    split <;> decide

section Opening

variable {s : Source} {c : Cursor} {char : Char} {rest : List Char}

/-- A passage that is opened at the next character, when that is no mark of a keyword. -/
theorem outlineFrom_opening (hg : isGap char = false) (hm : char ≠ keywordMark) (c : Cursor)
    (rest : List Char) :
    outlineFrom none c (linesOf (char :: rest)) =
      outlineFrom (some (.opening c char (rest.takeWhile inLine)))
        ((c.walk (char :: rest.takeWhile inLine)).step lineBreak) (moreLines rest) := by
  rw [isGap_eq, Bool.or_eq_false_iff, Bool.not_eq_false'] at hg
  rw [linesOf_cons_of_inLine hg.2, outlineFrom_cons, turnAt_none_of_not_isBlank hg.1,
    openAt_of_ne hm, List.nil_append]

/-- The mark of a keyword is a passage of its own. -/
theorem outlineFrom_keywordMark (c : Cursor) (rest : List Char) :
    outlineFrom none c (linesOf (keywordMark :: rest)) =
      .marker c :: outlineFrom none (c.step keywordMark) (linesOf rest) := by
  have hl : inLine keywordMark = true := by decide
  have hb : isBlank keywordMark = false := by decide
  rw [linesOf_cons_of_inLine hl, linesOf_eq rest, outlineFrom_cons, outlineFrom_cons,
    turnAt_none_of_not_isBlank hb, openAt_keywordMark, List.cons_append, Cursor.walk_cons]

/-- A block mark is read as the outline has it, and what follows it on the line is left to the next
block. -/
theorem markerBlock_yields (hs : s.Stands c (keywordMark :: rest)) :
    s.Yields (s.markerBlock c) (outlineFrom none c (linesOf (keywordMark :: rest))) := by
  have hadv := hs.advance
  refine ⟨.marker c, rest, ⟨rfl, rfl, ?_, ?_⟩, ?_, ?_⟩
  · rw [Source.markerBlock, hs.peek]
    rfl
  · exact hadv.symm
  · rw [Source.markerBlock, hadv]
    exact hs.step
  · rw [Source.markerBlock, hadv, outlineFrom_keywordMark]

/-- A comment is read as the outline has it: the visits follow the outline line by line. -/
theorem commentBlock_yields (hs : s.Stands c (commentMark :: rest)) :
    s.Yields (s.commentBlock c) (outlineFrom none c (linesOf (commentMark :: rest))) := by
  obtain ⟨hw, hc⟩ := hs.step.sees
  have hk := BlockKind.ofContent_commentMark (rest.takeWhile inLine)
  obtain ⟨q, rest', hq, hs', ho⟩ := exists_passage_commentVisits hw (.empty .comment c) rfl
    [commentMark] rfl
  rw [Window.line, hc] at ho
  rw [outlineFrom_opening (by decide) (by decide), Passage.opening, hk, if_pos rfl,
    commentBlock_of_stands hs]
  exact ⟨q, rest', hq.describes, hs', ho⟩

/-- A heading or paragraph is read as the outline has it, when its kind is the one that its content
opens. -/
theorem textBlock_yields (hs : s.Stands c (char :: rest)) (hg : isGap char = false)
    (hm : char ≠ keywordMark) (hc : char ≠ commentMark) {kind : BlockKind}
    (hk : kind = .ofContent (char :: rest.takeWhile inLine)) :
    s.Yields (s.textBlock kind c) (outlineFrom none c (linesOf (char :: rest))) := by
  have hn : kind ≠ .comment := by
    rw [hk]
    exact BlockKind.ofContent_ne_comment hc _
  have hg' := hg
  rw [isGap_eq, Bool.or_eq_false_iff, Bool.not_eq_false'] at hg'
  have hline : (char :: rest).takeWhile inLine = char :: rest.takeWhile inLine :=
    List.takeWhile_cons_of_pos hg'.2
  have hcontent : lineContent (char :: rest.takeWhile inLine) = char :: rest.takeWhile inLine :=
    lineContent_cons_of_not_isBlank hg'.1 _
  have ht : LineKind.ofLine ((char :: rest).takeWhile inLine) = .text := by
    rw [hline, LineKind.ofLine, hcontent]
    exact if_neg hc
  have hy := textBlock_yields_of_text hs hn ht
  have hmore : moreLines (char :: rest) = moreLines rest := by
    have hall : [char].all inLine = true := by simp [hg'.2]
    exact moreLines_append hall rest
  rw [hline, hcontent, List.takeWhile_cons_of_neg (by simp [hg'.1]), Cursor.walk_nil, hmore,
    hk] at hy
  rwa [outlineFrom_opening hg hm, Passage.opening, if_neg hc, hk]

/-- The block at a character that is neither a blank nor a line break is the next passage. -/
theorem blockAt_yields (hs : s.Stands c (char :: rest)) (hg : isGap char = false) :
    s.Yields (s.blockAt c) (outlineFrom none c (linesOf (char :: rest))) := by
  have hhead := ofContent_eq_heading_iff char rest
  rw [Source.blockAt, hs.peek, hs.peekNext, List.head?_cons, List.tail_cons]
  simp only [Option.some.injEq]
  split
  · next h =>
    refine textBlock_yields hs hg ?_ ?_ (hhead.2 h).symm
    · rw [h.1]; decide
    · rw [h.1]; decide
  · next h =>
    split
    · next hc =>
      subst hc
      exact commentBlock_yields hs
    · next hc =>
      split
      · next hm =>
        subst hm
        exact markerBlock_yields hs
      · next hm =>
        refine textBlock_yields hs hg hm hc ?_
        have hn := mt hhead.1 h
        rw [BlockKind.ofContent] at hn ⊢
        split at hn
        · exact absurd rfl hn
        · next hp =>
          rw [if_neg hp, if_neg (by simp [List.isPrefixOf, Ne.symm hc])]

end Opening

/-! ## All blocks -/

section All

variable {s : Source} {c : Cursor} {rest : List Char}

/-- Whatever block comes next, it is the next passage of the outline. -/
theorem nextBlock?_yields {b : Block} (hs : s.Stands c rest) (h : s.nextBlock? c = some b) :
    s.Yields b (outlineFrom none c (linesOf rest)) := by
  have hgap : (rest.takeWhile isGap).all isGap = true := List.all_takeWhile
  have hstart := hs.stands_skip isGap
  simp only [Source.nextBlock?, hstart.atEnd] at h
  rw [← List.takeWhile_append_dropWhile (p := isGap) (l := rest), outlineFrom_gap hgap,
    ← hs.skip]
  cases hd : rest.dropWhile isGap with
  | nil => simp [hd] at h
  | cons char rest' =>
    have hn := List.head?_dropWhile_not isGap rest
    rw [hd] at hn hstart
    rw [hd, List.isEmpty_cons, if_neg Bool.false_ne_true, Option.some.injEq] at h
    subst h
    exact blockAt_yields hstart (by simpa using hn)

/-- When no block is left, all the rest is blanks and line breaks. -/
theorem stands_skip_of_nextBlock?_eq_none (hs : s.Stands c rest) (h : s.nextBlock? c = none) :
    s.Stands (s.skip isGap c) [] ∧ outlineFrom none c (linesOf rest) = [] := by
  have hgap : (rest.takeWhile isGap).all isGap = true := List.all_takeWhile
  have hstart := hs.stands_skip isGap
  simp only [Source.nextBlock?, hstart.atEnd] at h
  cases hd : rest.dropWhile isGap with
  | nil =>
    rw [hd] at hstart
    refine ⟨hstart, ?_⟩
    rw [← List.takeWhile_append_dropWhile (p := isGap) (l := rest), outlineFrom_gap hgap, hd,
      outlineFrom_none_nil]
  | cons char rest' => simp [hd] at h

/-- The blocks from a cursor on are the passages from there on, one by one. -/
theorem forall₂_blocksFrom (hs : s.Stands c rest) :
    List.Forall₂ Passage.Describes (outlineFrom none c (linesOf rest)) (s.blocksFrom c) := by
  fun_induction Source.blocksFrom s c generalizing rest with
  | case1 c hn =>
    rw [(stands_skip_of_nextBlock?_eq_none hs hn).2]
    exact .nil
  | case2 c b hb ih =>
    obtain ⟨p, rest', hp, hs', ho⟩ := nextBlock?_yields hs hb
    rw [ho]
    exact .cons hp (ih hs')

/-- After the last block the cursor comes to stand at the end of the text. -/
theorem stands_lastCursor (hs : s.Stands c rest) : s.Stands (s.lastCursor c) [] := by
  fun_induction Source.lastCursor s c generalizing rest with
  | case1 c hn => exact (stands_skip_of_nextBlock?_eq_none hs hn).1
  | case2 c b hb ih =>
    obtain ⟨p, rest', hp, hs', ho⟩ := nextBlock?_yields hs hb
    exact ih hs'

end All

/-- The outline of the text tells the kind, the lines and the ends of every block. -/
theorem outline_describes_blocks (s : Source) :
    List.Forall₂ Passage.Describes (outline s.text) s.blocks := by
  obtain ⟨p, rest, hp, hs, ho⟩ := title_yields s
  rw [ho]
  exact .cons hp (forall₂_blocksFrom hs)

/-- Every outline begins with the title. -/
theorem exists_outline_eq_cons (text : List Char) :
    ∃ p passages, outline text = p :: passages ∧ p.kind = .heading := by
  obtain ⟨p, rest, hp, -, ho⟩ := title_yields (.ofList text)
  exact ⟨p, _, ho, hp.kind_eq⟩

/-- The cursor at the end of a scan has stepped over the whole text. -/
theorem lastCursor_title (s : Source) :
    s.lastCursor s.title.after = Cursor.origin.walk s.text := by
  obtain ⟨p, rest, -, hs, -⟩ := title_yields s
  obtain ⟨before, ht, hc⟩ := stands_lastCursor hs
  rw [hc, ht, List.append_nil]

end BlockScan
