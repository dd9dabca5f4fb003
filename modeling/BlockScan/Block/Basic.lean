import BlockScan.Source
import BlockScan.Token.Basic

/-!
# Blocks

A document is a sequence of blocks. A block is read line by line: each line is visited once, and
the visit records where the cursor stood, the line from there on, the offset the cursor jumped to,
and where it stood when the line was done with. The visits depend on the text alone; what becomes
of the lines of a block is decided later.
-/

set_option autoImplicit false

namespace BlockScan

/-- The kinds of blocks. -/
inductive BlockKind where
  | heading
  | paragraph
  | comment
  /-- The mark of a block keyword. -/
  | marker
deriving DecidableEq

/-- The kind of the token of a block. -/
def BlockKind.tokenKind : BlockKind → TokenKind
  | .heading => .heading
  | .paragraph => .paragraph
  | .comment => .comment
  | .marker => .illegal

/-- A line of a block, and the cursor at its end. -/
structure Line where
  text : List Char
  stop : Cursor
deriving DecidableEq

/-- A block of a document. -/
structure Block where
  kind : BlockKind
  start : Cursor
  lines : List Line
  /-- Where reading goes on behind the block. -/
  after : Cursor
deriving DecidableEq

/-- The end of the last line of a block; a block without lines ends where it starts. -/
def Block.stop (b : Block) : Cursor := (b.lines.getLast?.map Line.stop).getD b.start

/-- A visit of one line. -/
structure LineVisit where
  /-- Where the cursor stood. -/
  start : Cursor
  /-- The line from there on. -/
  text : List Char
  /-- The offset that the cursor jumped to. -/
  target : Int
  /-- Where the cursor stood when the line was done with. -/
  after : Cursor
deriving DecidableEq

namespace LineVisit

/-- Where the jump of a visit ends. -/
def landing (v : LineVisit) : Cursor := v.start.jumpTo v.target

/-- The visited line as a line of a block. -/
def toLine (v : LineVisit) : Line := ⟨v.text, v.landing⟩

/-- Where the last one of some visits ended. -/
def endOf (start : Cursor) (visits : List LineVisit) : Cursor :=
  (visits.getLast?.map LineVisit.after).getD start

/-- A bound that every visit ends at or behind is a bound of where the last visit ends. -/
theorem le_offset_endOf {start : Cursor} {visits : List LineVisit} {n : Int}
    (hne : visits ≠ []) (h : ∀ v ∈ visits, n ≤ v.after.offset) :
    n ≤ (endOf start visits).offset := by
  rw [endOf, List.getLast?_eq_some_getLast hne, Option.map_some, Option.getD_some]
  exact h _ (List.getLast_mem hne)

end LineVisit

/-- The cursor behind the line break that ends the line, or at the end of the text. -/
def Cursor.pastLine (c : Cursor) (w : Window) : Cursor :=
  match w.next? with
  | some _ => (c.jumpTo w.lineEnd).step Charset.lineBreak
  | none => c.jumpTo w.lineEnd

/-- Going on behind a line leads at least to the end of that line, wherever the cursor came from. -/
theorem Cursor.lineEnd_le_offset_pastLine (c : Cursor) (w : Window) :
    (w.lineEnd : Int) ≤ (c.pastLine w).offset := by
  unfold pastLine
  split
  · rw [offset_step, offset_jumpTo]
    omega
  · exact Int.le_refl _

end BlockScan
