import BlockScan.Proofs.Cursor.Standing

/-!
# The outline of a document

The outline divides a document into passages by going through it line by line, without a cursor
that jumps or turns back. At every moment at most one passage is open. A line either goes on with
it, or closes it and is searched for passages of its own (`openAt`): block marks, each of which is
a passage, and then what is left of the line, which opens the next passage. The first line belongs
to the title, which is a heading whatever it starts with and may have no lines at all.

`outlineFrom_gap` says that blanks and line breaks ahead of the next passage make no difference
when none is open.
-/

set_option autoImplicit false

namespace BlockScan

open Charset

/-- A part of a document that becomes one token: the lines of its literal, and the cursors between
which it lies. -/
@[ext]
structure Passage where
  kind : BlockKind
  lines : List (List Char)
  start : Cursor
  stop : Cursor
  ordered : start.offset ≤ stop.offset

namespace Passage

/-- A passage of no lines at a cursor. -/
def empty (kind : BlockKind) (c : Cursor) : Passage := ⟨kind, [], c, c, Int.le_refl _⟩

/-- A passage with one more line, for which some characters were passed. -/
def extend (p : Passage) (line chars : List Char) : Passage :=
  { p with
    lines := p.lines ++ [line]
    stop := p.stop.walk chars
    ordered := Int.le_trans p.ordered (p.stop.walk_offset_le chars) }

/-- One more line leaves the kind of a passage as it is. -/
@[simp] theorem kind_extend (p : Passage) (line chars : List Char) :
    (p.extend line chars).kind = p.kind := rfl

/-- One more line comes last. -/
@[simp] theorem lines_extend (p : Passage) (line chars : List Char) :
    (p.extend line chars).lines = p.lines ++ [line] := rfl

/-- One more line leaves the start as it is. -/
@[simp] theorem start_extend (p : Passage) (line chars : List Char) :
    (p.extend line chars).start = p.start := rfl

/-- The end moves over the characters that were passed for the line. -/
@[simp] theorem stop_extend (p : Passage) (line chars : List Char) :
    (p.extend line chars).stop = p.stop.walk chars := rfl

/-- A passage of one line of text at a cursor. -/
def begun (kind : BlockKind) (c : Cursor) (line : List Char) : Passage :=
  (empty kind c).extend line line

/-- Whether a line with some content, blanks aside, goes on with an open passage: a line with a
comment mark goes on with a comment, any other line that is not blank with a passage of text. -/
def goesOn (p : Passage) (content : List Char) : Bool :=
  match content with
  | [] => false
  | char :: _ => (char == commentMark) == (p.kind == .comment)

/-- What a line adds to a passage that it goes on with. -/
def lineOf (p : Passage) (line : List Char) : List Char :=
  if p.kind = .comment then (lineContent line).tail else line

end Passage

/-- What comes of a line: the passages that are complete after it, and the one that is open. -/
structure Turn where
  closed : List Passage
  opened : Option Passage

/-- The kind of the passage that opens with some content that is not empty. -/
def BlockKind.ofContent (content : List Char) : BlockKind :=
  if [headingMark, ' '].isPrefixOf content then .heading
  else if [commentMark].isPrefixOf content then .comment
  else .paragraph

namespace Passage

/-- The passage of a block mark. -/
def marker (c : Cursor) : Passage := begun .marker c [keywordMark]

/-- The passage that opens with a character and the rest of its line. -/
def opening (c : Cursor) (char : Char) (rest : List Char) : Passage :=
  (empty (.ofContent (char :: rest)) c).extend
    (if char = commentMark then rest else char :: rest) (char :: rest)

end Passage

/-- The passages on a line at a cursor, when none is open and the next character is no blank. -/
def openAt (c : Cursor) (content : List Char) : Turn :=
  match content with
  | [] => ⟨[], none⟩
  | char :: rest =>
    if char = keywordMark then
      let turn := openAt ((c.step char).walk (rest.takeWhile isBlank)) (lineContent rest)
      ⟨.marker c :: turn.closed, turn.opened⟩
    else ⟨[], some (.opening c char rest)⟩
termination_by content.length
decreasing_by exact Nat.lt_succ_of_le (length_lineContent_le rest)

/-- What comes of a line that starts at a cursor. -/
def turnAt (opened : Option Passage) (c : Cursor) (line : List Char) : Turn :=
  let turn := openAt (c.walk (line.takeWhile isBlank)) (lineContent line)
  match opened with
  | none => turn
  | some p =>
    if p.goesOn (lineContent line) then ⟨[], some (p.extend (p.lineOf line) (lineBreak :: line))⟩
    else ⟨p :: turn.closed, turn.opened⟩

/-- The passages of the lines from a cursor on, while one may be open. -/
def outlineFrom (opened : Option Passage) (c : Cursor) : List (List Char) → List Passage
  | [] => opened.toList
  | line :: rest =>
    let turn := turnAt opened c line
    turn.closed ++ outlineFrom turn.opened ((c.walk line).step lineBreak) rest

/-- The passages of a document. -/
def outline (text : List Char) : List Passage :=
  let first := text.takeWhile inLine
  let start := Cursor.origin.walk (text.takeWhile isBlank)
  if LineKind.ofLine first = .text then
    outlineFrom (some (.begun .heading start (lineContent first)))
      ((Cursor.origin.walk first).step lineBreak) (moreLines text)
  else .empty .heading start :: outlineFrom none .origin (linesOf text)

/-- A document whose first line is text has that line in its title. -/
theorem outline_of_text {text : List Char} (h : LineKind.ofLine (text.takeWhile inLine) = .text) :
    outline text = outlineFrom
      (some (.begun .heading (Cursor.origin.walk (text.takeWhile isBlank))
        (lineContent (text.takeWhile inLine))))
      ((Cursor.origin.walk (text.takeWhile inLine)).step lineBreak) (moreLines text) :=
  if_pos h

/-- The title of any other document is empty, and its first line is left to what follows. -/
theorem outline_of_not_text {text : List Char}
    (h : LineKind.ofLine (text.takeWhile inLine) ≠ .text) :
    outline text = .empty .heading (Cursor.origin.walk (text.takeWhile isBlank)) ::
      outlineFrom none .origin (linesOf text) :=
  if_neg h

/-- The content of the first line of a text ends where this line does. -/
theorem walk_firstLine (c : Cursor) (text : List Char) :
    (c.walk (text.takeWhile isBlank)).walk (lineContent (text.takeWhile inLine)) =
      c.walk (text.takeWhile inLine) := by
  rw [← Cursor.walk_append, takeWhile_isBlank_append_firstLine]

/-! ## Kinds of passages -/

/-- A heading is no comment, so a title never goes on with a comment line. -/
theorem BlockKind.heading_ne_comment : BlockKind.heading ≠ .comment := by decide

/-- A heading is no block mark, so a title can be open. -/
theorem BlockKind.heading_ne_marker : BlockKind.heading ≠ .marker := by decide

/-- Content with a comment mark in front opens a comment. -/
theorem BlockKind.ofContent_commentMark (rest : List Char) :
    BlockKind.ofContent (commentMark :: rest) = .comment := by
  simp [BlockKind.ofContent, List.isPrefixOf, headingMark, commentMark]

/-- Content with anything else in front opens no comment. -/
theorem BlockKind.ofContent_ne_comment {char : Char} (h : char ≠ commentMark) (rest : List Char) :
    BlockKind.ofContent (char :: rest) ≠ .comment := by
  have hp : ¬ [commentMark].isPrefixOf (char :: rest) = true := by simp [List.isPrefixOf, h.symm]
  rw [BlockKind.ofContent, if_neg hp]
  split <;> decide

/-! ## Lines that go on with a passage -/

/-- A passage that is no comment goes on with the lines of text, and with no others. -/
theorem goesOn_eq_isText {p : Passage} (h : p.kind ≠ .comment) (line : List Char) :
    p.goesOn (lineContent line) = (LineKind.ofLine line == .text) := by
  have hk : (p.kind == BlockKind.comment) = false := beq_false_of_ne h
  unfold Passage.goesOn LineKind.ofLine
  cases lineContent line with
  | nil => rfl
  | cons char rest =>
    by_cases hc : char = commentMark
    · simp [hc, hk]
    · simp [hc, hk]

/-- To a passage of text a line adds all its characters. -/
theorem lineOf_of_ne_comment {p : Passage} (h : p.kind ≠ .comment) (line : List Char) :
    p.lineOf line = line := if_neg h

/-- A line goes on with a comment exactly if it has a comment mark. -/
theorem goesOn_comment {p : Passage} (h : p.kind = .comment) (char : Char) (rest : List Char) :
    p.goesOn (char :: rest) = (char == commentMark) := by
  rw [Passage.goesOn, h]
  simp

/-! ## Lines when nothing is open -/

/-- On a blank rest of a line there is nothing to open. -/
theorem openAt_nil (c : Cursor) : openAt c [] = ⟨[], none⟩ := by
  rw [openAt]

/-- A block mark is a passage of its own, and the rest of its line is searched on as a line with
nothing open. -/
theorem openAt_keywordMark (c : Cursor) (rest : List Char) :
    openAt c (keywordMark :: rest) =
      ⟨.marker c :: (turnAt none (c.step keywordMark) rest).closed,
        (turnAt none (c.step keywordMark) rest).opened⟩ := by
  rw [openAt, if_pos rfl]
  rfl

/-- A character that is no block mark opens a passage that takes the rest of the line. -/
theorem openAt_of_ne {c : Cursor} {char : Char} {rest : List Char} (h : char ≠ keywordMark) :
    openAt c (char :: rest) = ⟨[], some (.opening c char rest)⟩ := by
  rw [openAt, if_neg h]

/-- With nothing open, an empty line brings nothing. -/
theorem turnAt_none_nil (c : Cursor) : turnAt none c [] = ⟨[], none⟩ := openAt_nil c

/-- A blank at the beginning of a line only moves the cursor when nothing is open. -/
theorem turnAt_none_cons {char : Char} (h : isBlank char = true) (c : Cursor)
    (line : List Char) : turnAt none c (char :: line) = turnAt none (c.step char) line := by
  rw [turnAt, turnAt, lineContent_cons_of_isBlank h, List.takeWhile_cons_of_pos h,
    Cursor.walk_cons]

/-- A line that begins with its content is searched from its beginning on. -/
theorem turnAt_none_of_not_isBlank {char : Char} (h : isBlank char = false) (c : Cursor)
    (line : List Char) : turnAt none c (char :: line) = openAt c (char :: line) := by
  rw [turnAt, lineContent_cons_of_not_isBlank h, List.takeWhile_cons_of_neg (by simp [h]),
    Cursor.walk_nil]

/-! ## From line to line -/

/-- A line that does not go on with the open passage closes it and is searched by itself. -/
theorem turnAt_some_of_not_goesOn {p : Passage} {line : List Char}
    (h : p.goesOn (lineContent line) = false) (c : Cursor) :
    turnAt (some p) c line = ⟨p :: (turnAt none c line).closed, (turnAt none c line).opened⟩ := by
  simp only [turnAt, h, Bool.false_eq_true, if_false]

/-- A line that goes on with the open passage closes nothing. -/
theorem turnAt_some_of_goesOn {p : Passage} {line : List Char}
    (h : p.goesOn (lineContent line) = true) (c : Cursor) :
    turnAt (some p) c line = ⟨[], some (p.extend (p.lineOf line) (lineBreak :: line))⟩ := by
  simp only [turnAt, h, if_true]

/-- The outline takes one line at a time. -/
theorem outlineFrom_cons (opened : Option Passage) (c : Cursor) (line : List Char)
    (rest : List (List Char)) :
    outlineFrom opened c (line :: rest) = (turnAt opened c line).closed ++
      outlineFrom (turnAt opened c line).opened ((c.walk line).step lineBreak) rest := rfl

/-- An open passage with which the next line does not go on is closed as it is. -/
theorem outlineFrom_some_of_not_goesOn {p : Passage} {line : List Char}
    (h : p.goesOn (lineContent line) = false) (c : Cursor) (rest : List (List Char)) :
    outlineFrom (some p) c (line :: rest) = p :: outlineFrom none c (line :: rest) := by
  rw [outlineFrom_cons, outlineFrom_cons, turnAt_some_of_not_goesOn h, List.cons_append]

/-- While lines go on with the open passage it only grows. -/
theorem outlineFrom_some_of_goesOn {p : Passage} {line : List Char}
    (h : p.goesOn (lineContent line) = true) (c : Cursor) (rest : List (List Char)) :
    outlineFrom (some p) c (line :: rest) =
      outlineFrom (some (p.extend (p.lineOf line) (lineBreak :: line)))
        ((c.walk line).step lineBreak) rest := by
  rw [outlineFrom_cons, turnAt_some_of_goesOn h, List.nil_append]

/-- With nothing open, no text brings no passage. -/
theorem outlineFrom_none_nil (c : Cursor) : outlineFrom none c (linesOf []) = [] := by
  rw [linesOf_nil, outlineFrom_cons, turnAt_none_nil]
  rfl

/-- Blanks and line breaks ahead of the next passage only move the cursor. -/
theorem outlineFrom_gap {gap : List Char} (h : gap.all isGap = true) (c : Cursor)
    (rest : List Char) :
    outlineFrom none c (linesOf (gap ++ rest)) = outlineFrom none (c.walk gap) (linesOf rest) := by
  induction gap generalizing c with
  | nil => rfl
  | cons char gap ih =>
    simp only [List.all_cons, Bool.and_eq_true] at h
    rw [List.cons_append, Cursor.walk_cons, ← ih h.2]
    by_cases hb : char = lineBreak
    · subst hb
      rw [linesOf_lineBreak_cons, outlineFrom_cons, turnAt_none_nil, List.nil_append,
        Cursor.walk_nil]
    · have hl : inLine char = true := by simpa [inLine] using hb
      have hk : isBlank char = true := by simpa [isGap_eq, hl] using h.1
      rw [linesOf_cons_of_inLine hl, linesOf_eq (gap ++ rest), outlineFrom_cons,
        outlineFrom_cons, turnAt_none_cons hk, Cursor.walk_cons]

end BlockScan
