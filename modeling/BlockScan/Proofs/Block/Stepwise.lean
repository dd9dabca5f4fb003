import BlockScan.Proofs.Outline.Reading
import BlockScan.Scan.Options

/-!
# Headings and paragraphs, character by character

The reader of headings and paragraphs looks for the end of a line, cuts the line out of the text
and jumps. `Source.readStepwise` is a reader of the same blocks that only ever looks at the
character at the cursor and advances over it, and that keeps in mind whether it has met anything
but blanks on the line. The main statement is `read_textBlock_stepwise`: from every place of the
text both readers bring the same token and leave the cursor at the same place.
-/

set_option autoImplicit false

namespace BlockScan

open Charset

/-- What a walk along a line has come to. -/
structure LineWalk where
  /-- The characters that were passed. -/
  passed : List Char
  /-- Whether nothing but blanks was passed. -/
  blank : Bool
  /-- Whether a comment mark that only blanks precede ended the walk. -/
  marked : Bool
  cursor : Cursor

/-- A walk with one more character at its beginning. -/
def LineWalk.behind (char : Char) (walk : LineWalk) : LineWalk :=
  { walk with passed := char :: walk.passed }

/-- The lines that were read of a block, the end of the last one, and the cursor. -/
structure TextReading where
  lines : List (List Char)
  stop : Cursor
  cursor : Cursor

namespace Source

/-- There is a character at a cursor only before the end of the text. -/
theorem offset_lt_size_of_peek {s : Source} {c : Cursor} {char : Char}
    (h : s.peek c = some char) : c.offset < s.size := by
  by_cases h0 : 0 ≤ c.offset
  · obtain ⟨k, hk⟩ := Int.eq_ofNat_of_zero_le h0
    have hs := s.size_eq
    rw [peek, hk, upcoming_natCast, List.head?_drop] at h
    obtain ⟨hlt, -⟩ := List.getElem?_eq_some_iff.1 h
    omega
  · omega

/-- The cursor behind the blanks at a cursor. -/
def passBlanks (s : Source) (c : Cursor) : Cursor :=
  match _h : s.peek c with
  | none => c
  | some char => if isBlank char then s.passBlanks (s.advance c) else c
termination_by (s.size - c.offset).toNat
decreasing_by
  have := offset_lt_size_of_peek _h
  have := s.offset_advance_of_peek _h
  omega

/-- Walks along the line at a cursor, of which nothing but blanks was passed so far, or more than
that. -/
def walkLine (s : Source) (blank : Bool) (c : Cursor) : LineWalk :=
  match _h : s.peek c with
  | none => ⟨[], blank, false, c⟩
  | some char =>
    if char = lineBreak then ⟨[], blank, false, c⟩
    else if blank = true ∧ char = commentMark then ⟨[], blank, true, c⟩
    else (s.walkLine (blank && isBlank char) (s.advance c)).behind char
termination_by (s.size - c.offset).toNat
decreasing_by
  have := offset_lt_size_of_peek _h
  have := s.offset_advance_of_peek _h
  omega

/-- A walk along a line never moves the cursor back. -/
theorem le_offset_walkLine (s : Source) (blank : Bool) (c : Cursor) :
    c.offset ≤ (s.walkLine blank c).cursor.offset := by
  fun_induction walkLine s blank c with
  | case4 blank c char hpeek _ _ ih =>
    have := s.offset_advance_of_peek hpeek
    simp only [LineWalk.behind]
    omega
  | _ => exact Int.le_refl _

/-- Reads the lines of a block from a cursor on, when some were read already. -/
def readLines (s : Source) (lines : List (List Char)) (stop c : Cursor) : TextReading :=
  let walk := s.walkLine true c
  if walk.marked then ⟨lines, stop, walk.cursor⟩
  else
    let lines' := if walk.blank then lines else lines ++ [walk.passed]
    let stop' := if walk.blank then stop else walk.cursor
    match _h : s.peek walk.cursor with
    | none => ⟨lines', stop', walk.cursor⟩
    | some _ =>
      if walk.blank then ⟨lines', stop', s.advance walk.cursor⟩
      else s.readLines lines' stop' (s.advance walk.cursor)
termination_by (s.size - c.offset).toNat
decreasing_by
  have hend : (s.walkLine true c).cursor.offset < s.size := offset_lt_size_of_peek _h
  have hnext : (s.advance (s.walkLine true c).cursor).offset =
      (s.walkLine true c).cursor.offset + 1 := s.offset_advance_of_peek _h
  have hwalk := s.le_offset_walkLine true c
  omega

/-- Reads a heading or paragraph character by character. -/
def readStepwise {ε : Type} (s : Source) (file : Option String) (kind : BlockKind) (c : Cursor) :
    BlockReading ε :=
  let start := s.passBlanks c
  let reading := s.readLines [] start start
  match Span.between (.ofCursor file start) (.ofCursor file reading.stop) with
  | .error e => ⟨reading.cursor, .error (.reversed e)⟩
  | .ok span =>
    ⟨reading.cursor, .ok ⟨kind.tokenKind, joinLines (reading.lines.map String.ofList), span⟩⟩

end Source

/-! ## Walking along a line -/

section Walk

variable {s : Source} {c : Cursor} {rest : List Char}

/-- Passing the blanks one by one leads where skipping them leads. -/
theorem passBlanks_eq (hs : s.Stands c rest) : s.passBlanks c = s.skip isBlank c := by
  rw [hs.skip]
  induction rest generalizing c with
  | nil =>
    rw [Source.passBlanks]
    split
    · rfl
    · next char hp => simp [hs.peek] at hp
  | cons char rest ih =>
    have hp := hs.peek
    rw [Source.passBlanks]
    split
    · next hn => simp [hp] at hn
    · next char' hp' =>
      rw [hp, List.head?_cons, Option.some.injEq] at hp'
      subst hp'
      cases hb : isBlank char with
      | true =>
        rw [if_pos rfl, hs.advance, ih hs.step, List.takeWhile_cons_of_pos hb, Cursor.walk_cons]
      | false => simp [hb]

/-- At the end of the text a walk ends at once. -/
theorem walkLine_nil (hs : s.Stands c []) (blank : Bool) :
    s.walkLine blank c = ⟨[], blank, false, c⟩ := by
  rw [Source.walkLine]
  split
  · rfl
  · next char hp => simp [hs.peek] at hp

/-- One step of a walk, by the character it meets: a line break and a mark that only blanks precede
end it, any other character is passed. -/
theorem walkLine_cons {char : Char} (hs : s.Stands c (char :: rest)) (blank : Bool) :
    s.walkLine blank c =
      if char = lineBreak then ⟨[], blank, false, c⟩
      else if blank = true ∧ char = commentMark then ⟨[], blank, true, c⟩
      else (s.walkLine (blank && isBlank char) (c.step char)).behind char := by
  have hp := hs.peek
  rw [Source.walkLine]
  split
  · next hn => simp [hp] at hn
  · next char' hp' =>
    rw [hp, List.head?_cons, Option.some.injEq] at hp'
    subst hp'
    rw [hs.advance]

/-- Behind the first character of a line that is no blank, a walk goes on to the end of the line. -/
theorem walkLine_of_not_blank (hs : s.Stands c rest) :
    s.walkLine false c =
      ⟨rest.takeWhile inLine, false, false, c.walk (rest.takeWhile inLine)⟩ := by
  induction rest generalizing c with
  | nil => exact walkLine_nil hs false
  | cons char rest ih =>
    rw [walkLine_cons hs]
    by_cases hb : char = lineBreak
    · subst hb
      rfl
    · have hl : inLine char = true := by simpa [inLine] using hb
      rw [if_neg hb, if_neg (by simp), Bool.false_and, ih hs.step,
        List.takeWhile_cons_of_pos hl]
      rfl

/-- What a walk along a line comes to: the end of the line, or the comment mark that opens it. -/
def LineWalk.along (c : Cursor) (line : List Char) : LineWalk :=
  match LineKind.ofLine line with
  | .blank => ⟨line, true, false, c.walk line⟩
  | .remark => ⟨line.takeWhile isBlank, true, true, c.walk (line.takeWhile isBlank)⟩
  | .text => ⟨line, false, false, c.walk line⟩

/-- A blank in front of a line changes nothing but where the walk began. -/
theorem LineWalk.along_cons_of_isBlank {char : Char} (hb : isBlank char = true) (c : Cursor)
    (line : List Char) : along c (char :: line) = (along (c.step char) line).behind char := by
  have hk : LineKind.ofLine (char :: line) = LineKind.ofLine line := by
    rw [LineKind.ofLine, lineContent_cons_of_isBlank hb]
    rfl
  rw [along, along, hk, List.takeWhile_cons_of_pos hb]
  cases LineKind.ofLine line <;> rfl

/-- From the beginning of a line a walk comes to what the kind of that line says. -/
theorem walkLine_eq_along (hs : s.Stands c rest) :
    s.walkLine true c = .along c (rest.takeWhile inLine) := by
  induction rest generalizing c with
  | nil => exact walkLine_nil hs true
  | cons char rest ih =>
    rw [walkLine_cons hs]
    by_cases hl : inLine char = true
    · have hb : char ≠ lineBreak := by simpa [inLine] using hl
      rw [if_neg hb, List.takeWhile_cons_of_pos hl, Bool.true_and]
      cases hblank : isBlank char with
      | true =>
        have hc : char ≠ commentMark := by
          rintro rfl
          exact Bool.false_ne_true (isBlank_commentMark.symm.trans hblank)
        rw [if_neg (by simp [hc]), ih hs.step, LineWalk.along_cons_of_isBlank hblank]
      | false =>
        have hcontent := lineContent_cons_of_not_isBlank hblank (rest.takeWhile inLine)
        by_cases hc : char = commentMark
        · have hk : LineKind.ofLine (char :: rest.takeWhile inLine) = .remark := by
            rw [LineKind.ofLine, hcontent]
            exact if_pos hc
          rw [if_pos ⟨rfl, hc⟩, LineWalk.along, hk,
            List.takeWhile_cons_of_neg (by simp [hblank])]
          rfl
        · have hk : LineKind.ofLine (char :: rest.takeWhile inLine) = .text := by
            rw [LineKind.ofLine, hcontent]
            exact if_neg hc
          rw [if_neg (by simp [hc]), walkLine_of_not_blank hs.step, LineWalk.along, hk]
          rfl
    · have hb : char = lineBreak := by simpa [inLine] using hl
      subst hb
      rfl

end Walk

/-! ## Reading line by line -/

section Lines

variable {s : Source} {c : Cursor} {w n : Window}

/-- At the end of a line stands a line break, or nothing when the line is the last one. -/
theorem peek_lineEnd (hw : s.Sees c w) :
    s.peek (c.walk w.line) = w.next?.map fun _ => lineBreak := by
  cases hn : w.next? with
  | none => exact (hw.stands_end hn).peek
  | some n =>
    have hs := hw.stands
    rw [(Window.chars_of_next?_eq_some hn).1] at hs
    exact hs.walk.peek

/-- Advancing at the end of a line leads behind it. -/
theorem advance_lineEnd (hw : s.Sees c w) : s.advance (c.walk w.line) = c.pastLine w := by
  rw [Source.advance, peek_lineEnd hw]
  cases hn : w.next? with
  | none => exact (hw.pastLine_of_none hn).symm
  | some n => exact (hw.pastLine_of_some hn).symm

section OneLine

variable (hw : s.Sees c w) (lines : List (List Char)) (stop : Cursor)
include hw

/-- Before a marked line the reader stops and takes nothing. -/
theorem readLines_of_remark (hk : LineKind.ofLine w.line = .remark) :
    s.readLines lines stop c = ⟨lines, stop, c.walk (w.line.takeWhile isBlank)⟩ := by
  have hwalk : s.walkLine true c = .along c w.line := walkLine_eq_along hw.stands
  rw [Source.readLines]
  simp only [hwalk, LineWalk.along, hk, if_true]

/-- The character at which a walk along a whole line ends. -/
theorem peek_walkLine (hk : LineKind.ofLine w.line ≠ .remark) :
    s.peek (s.walkLine true c).cursor = w.next?.map fun _ => lineBreak := by
  have hwalk : s.walkLine true c = .along c w.line := walkLine_eq_along hw.stands
  rw [hwalk, ← peek_lineEnd hw, LineWalk.along]
  cases h : LineKind.ofLine w.line with
  | remark => exact absurd h hk
  | _ => rfl

/-- A blank line is passed but not taken, and ends the reading. -/
theorem readLines_of_blank (hk : LineKind.ofLine w.line = .blank) :
    s.readLines lines stop c = ⟨lines, stop, c.pastLine w⟩ := by
  have hwalk : s.walkLine true c = .along c w.line := walkLine_eq_along hw.stands
  have hpeek := peek_walkLine hw (by rw [hk]; decide)
  rw [Source.readLines]
  simp only [hwalk, LineWalk.along, hk, Bool.false_eq_true, if_true, if_false, advance_lineEnd hw]
  split
  · next hp =>
    rw [hpeek, Option.map_eq_none_iff] at hp
    rw [hw.pastLine_of_none hp]
  · rfl

/-- The last line of the text is taken when it is text, and ends the reading. -/
theorem readLines_of_last (hk : LineKind.ofLine w.line = .text) (hn : w.next? = none) :
    s.readLines lines stop c = ⟨lines ++ [w.line], c.walk w.line, c.pastLine w⟩ := by
  have hwalk : s.walkLine true c = .along c w.line := walkLine_eq_along hw.stands
  have hpeek := peek_walkLine hw (by rw [hk]; decide)
  rw [Source.readLines]
  simp only [hwalk, LineWalk.along, hk, Bool.false_eq_true, if_false]
  split
  · rw [hw.pastLine_of_none hn]
  · next hp => simp [hpeek, hn] at hp

/-- A line of text that is not the last one is taken, and the reader goes on behind it. -/
theorem readLines_of_next (hk : LineKind.ofLine w.line = .text) (hn : w.next? = some n) :
    s.readLines lines stop c =
      s.readLines (lines ++ [w.line]) (c.walk w.line) (c.pastLine w) := by
  have hwalk : s.walkLine true c = .along c w.line := walkLine_eq_along hw.stands
  have hpeek := peek_walkLine hw (by rw [hk]; decide)
  rw [Source.readLines]
  simp only [hwalk, LineWalk.along, hk, Bool.false_eq_true, if_false, advance_lineEnd hw]
  split
  · next hp => simp [hpeek, hn] at hp
  · rfl

end OneLine

/-- What some visits add to the lines of a block. -/
def TextReading.ofVisits (lines : List (List Char)) (stop c : Cursor) (visits : List LineVisit) :
    TextReading :=
  let more := (visits.filter LineVisit.isText).map LineVisit.toLine
  ⟨lines ++ more.map Line.text, (more.getLast?.map Line.stop).getD stop, LineVisit.endOf c visits⟩

/-- With no line to visit the reading is what it was. -/
theorem TextReading.ofVisits_nil (lines : List (List Char)) (stop c : Cursor) :
    ofVisits lines stop c [] = ⟨lines, stop, c⟩ := by
  rw [ofVisits]
  exact congrArg (TextReading.mk · stop c) (List.append_nil lines)

/-- A visit of a line of text adds the line and moves the end of the block. -/
theorem TextReading.ofVisits_cons_of_isText {v : LineVisit} (h : v.isText = true)
    (lines : List (List Char)) (stop c : Cursor) (visits : List LineVisit) :
    ofVisits lines stop c (v :: visits) =
      ofVisits (lines ++ [v.text]) v.landing v.after visits := by
  simp only [ofVisits, List.filter_cons_of_pos h, List.map_cons, List.getLast?_cons,
    LineVisit.endOf_cons, List.append_assoc, List.singleton_append]
  cases ((visits.filter LineVisit.isText).map LineVisit.toLine).getLast? <;> rfl

/-- A visit of any other line only moves the cursor. -/
theorem TextReading.ofVisits_cons_of_not_isText {v : LineVisit} (h : v.isText = false)
    (lines : List (List Char)) (stop c : Cursor) (visits : List LineVisit) :
    ofVisits lines stop c (v :: visits) = ofVisits lines stop v.after visits := by
  simp only [ofVisits, List.filter_cons_of_neg (Bool.eq_false_iff.1 h), LineVisit.endOf_cons]

/-- Line by line, the walks come to what the visits of the lines tell. -/
theorem readLines_eq_ofVisits {c : Cursor} {w : Window} (hw : s.Sees c w)
    (lines : List (List Char)) (stop : Cursor) :
    s.readLines lines stop c = .ofVisits lines stop c (textVisits c w) := by
  cases hk : LineKind.ofLine w.line with
  | remark =>
    rw [readLines_of_remark hw lines stop hk, textVisits, hk,
      TextReading.ofVisits_cons_of_not_isText (by simp [LineVisit.isText, hk]),
      TextReading.ofVisits_nil, hw.jumpTo_content]
  | blank =>
    rw [readLines_of_blank hw lines stop hk, textVisits, hk,
      TextReading.ofVisits_cons_of_not_isText (by simp [LineVisit.isText, hk]),
      TextReading.ofVisits_nil]
  | text =>
    have htext : ∀ target after, LineVisit.isText ⟨c, w.line, target, after⟩ = true := by
      simp [LineVisit.isText, hk]
    cases hn : w.next? with
    | none =>
      rw [readLines_of_last hw lines stop hk hn, textVisits_of_last hk hn,
        TextReading.ofVisits_cons_of_isText (htext _ _), TextReading.ofVisits_nil,
        ← hw.jumpTo_lineEnd]
      rfl
    | some n =>
      have hlt := Window.next?_length hn
      rw [readLines_of_next hw lines stop hk hn, textVisits_of_next hk hn,
        TextReading.ofVisits_cons_of_isText (htext _ _), readLines_eq_ofVisits (hw.next hn),
        ← hw.jumpTo_lineEnd]
      rfl
termination_by w.chars.length

end Lines

/-! ## Both readers -/

/-- Reading on moves the end of a block forward only. -/
theorem le_offset_stop_readLines (s : Source) (lines : List (List Char)) {stop c : Cursor}
    (h : stop.offset ≤ c.offset) : stop.offset ≤ (s.readLines lines stop c).stop.offset := by
  have hends : ∀ stop c : Cursor, stop.offset ≤ c.offset →
      let walk := s.walkLine true c
      let stop' := if walk.blank = true then stop else walk.cursor
      stop.offset ≤ stop'.offset ∧ stop'.offset ≤ walk.cursor.offset := by
    intro stop c h
    have hwalk := s.le_offset_walkLine true c
    dsimp only
    split
    · exact ⟨Int.le_refl _, Int.le_trans h hwalk⟩
    · exact ⟨Int.le_trans h hwalk, Int.le_refl _⟩
  fun_induction Source.readLines s lines stop c with
  | case1 => exact Int.le_refl _
  | case2 lines stop c => exact (hends stop c h).1
  | case3 lines stop c => exact (hends stop c h).1
  | case4 lines stop c walk _ _ stop' char hpeek _ ih =>
    have hnext := s.offset_advance_of_peek hpeek
    have hfirst := (hends stop c h).1
    have hlast : stop'.offset ≤ walk.cursor.offset := (hends stop c h).2
    exact Int.le_trans hfirst (ih (by omega))

/-- From every place of the text, the reader that looks at one character at a time brings the same
token as the one that jumps, and leaves the cursor at the same place. -/
theorem read_textBlock_stepwise {ε : Type} (s : Source) {c : Cursor} (hc : c.Locates s.text)
    (kind : BlockKind) (file : Option String) {options : ScanOptions ε}
    (ht : options.transform = none) :
    ∃ token after, (s.textBlock kind c).read options file = ⟨after, .ok token⟩ ∧
      s.readStepwise (ε := ε) file kind c = ⟨after, .ok token⟩ := by
  have hs := Source.Stands.of_locates hc
  obtain ⟨hw, -⟩ := (hs.stands_skip isBlank).sees
  have hlines := readLines_eq_ofVisits hw [] (s.skip isBlank c)
  have hordered := le_offset_stop_readLines s [] (Int.le_refl (s.skip isBlank c).offset)
  rw [hlines] at hordered
  have hliteral := Block.literalLines_of_transform_eq_none ht (s.textBlock kind c)
  have htexts : ((s.textBlock kind c).lines.map Line.text).map String.ofList =
      (s.textBlock kind c).lines.map fun line => String.ofList line.text := List.map_map
  refine ⟨_, _, Block.read_of_ordered hliteral file hordered, ?_⟩
  simp only [Source.readStepwise, passBlanks_eq hs, hlines]
  rw [Span.between_ofCursor file hordered, ← htexts]
  rfl

/-- A cursor amid the blanks of a first line, which another line follows and then a comment. -/
theorem read_textBlock_stepwise_midLine :
    Cursor.Locates "a \t b\n c \r\n\r #d".toList ⟨1, 2, 2⟩ ∧
      (ScanOptions.transform ({} : ScanOptions Empty)) = none ∧
      ∃ token after,
        ((Source.ofString "a \t b\n c \r\n\r #d").textBlock .heading ⟨1, 2, 2⟩).read
            ({} : ScanOptions Empty) (some "policy.txt") = ⟨after, .ok token⟩ ∧
          (Source.ofString "a \t b\n c \r\n\r #d").readStepwise (some "policy.txt") .heading
            ⟨1, 2, 2⟩ = (⟨after, .ok token⟩ : BlockReading Empty) := by
  have hlocates : Cursor.Locates "a \t b\n c \r\n\r #d".toList ⟨1, 2, 2⟩ :=
    ⟨by decide, by decide, by decide, by decide⟩
  exact ⟨hlocates, rfl, read_textBlock_stepwise (.ofString "a \t b\n c \r\n\r #d") hlocates
    .heading (some "policy.txt") rfl⟩

end BlockScan
