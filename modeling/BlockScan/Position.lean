import BlockScan.Charset
import BlockScan.Decimal.Whole
import BlockScan.Text.Basic

/-!
# Places in a text

A cursor is a place in a text: a line counted from one, a column counted from zero within the
line, and an offset counted from zero within the text, all in characters. A position is a cursor
that also names the file of the text, and a span goes from one position to another one that does
not lie before it.

A cursor moves in two ways: over one character at a time (`Cursor.step`), which crosses lines, or
by a jump within its line (`Cursor.jumpTo`). `Cursor.jumpTo_walk` says that a jump over characters
without a line break among them is the same as stepping over each of them.
-/

set_option autoImplicit false

namespace BlockScan

/-- The index just behind the last line break of a text, or zero when there is none. -/
def lineStart (text : List Char) : Nat :=
  text.length - text.reverse.idxOf Charset.lineBreak

/-- A place in a text. -/
structure Cursor where
  line : Int
  column : Int
  offset : Int
deriving DecidableEq, Inhabited

namespace Cursor

/-- The place of the first character. -/
def origin : Cursor := ⟨1, 0, 0⟩

/-- The place behind a character. Behind a line break that is the start of the next line. -/
def step (c : Cursor) (char : Char) : Cursor :=
  if char = Charset.lineBreak then ⟨c.line + 1, 0, c.offset + 1⟩
  else ⟨c.line, c.column + 1, c.offset + 1⟩

/-- The place behind a run of characters. -/
def walk (c : Cursor) (chars : List Char) : Cursor := chars.foldl step c

/-- The place at an offset in the same line. Nothing is checked: no line break may lie between. -/
def jumpTo (c : Cursor) (target : Int) : Cursor :=
  ⟨c.line, c.column + (target - c.offset), target⟩

/-- A walk over no characters leaves the cursor where it is. -/
@[simp] theorem walk_nil (c : Cursor) : c.walk [] = c := rfl

/-- A walk is a step over the first character and a walk over the others. -/
@[simp] theorem walk_cons (c : Cursor) (char : Char) (chars : List Char) :
    c.walk (char :: chars) = (c.step char).walk chars := rfl

/-- A walk can be interrupted and taken up again anywhere. -/
theorem walk_append (c : Cursor) (xs ys : List Char) :
    c.walk (xs ++ ys) = (c.walk xs).walk ys := by
  simp [walk, List.foldl_append]

/-- A jump ends at its target. -/
@[simp] theorem offset_jumpTo (c : Cursor) (target : Int) : (c.jumpTo target).offset = target := rfl

/-- A step raises the offset by one, over a line break as well. -/
@[simp] theorem offset_step (c : Cursor) (char : Char) : (c.step char).offset = c.offset + 1 := by
  unfold step
  split <;> rfl

/-- The offset counts the characters that were stepped over. -/
theorem offset_walk (c : Cursor) (chars : List Char) :
    (c.walk chars).offset = c.offset + chars.length := by
  induction chars generalizing c with
  | nil => simp
  | cons char chars ih =>
    rw [walk_cons, ih, offset_step, List.length_cons]
    omega

/-- A jump over characters without a line break among them is the same as stepping over them. -/
theorem jumpTo_walk (c : Cursor) {chars : List Char} (h : chars.all Charset.inLine = true) :
    c.jumpTo (c.offset + chars.length) = c.walk chars := by
  induction chars generalizing c with
  | nil => simp [jumpTo]
  | cons char chars ih =>
    simp only [List.all_cons, Bool.and_eq_true] at h
    have hc : char ≠ Charset.lineBreak := by simpa [Charset.inLine] using h.1
    rw [walk_cons, ← ih _ h.2]
    simp only [jumpTo, step, if_neg hc, List.length_cons, Cursor.mk.injEq]
    refine ⟨trivial, ?_, ?_⟩ <;> omega

end Cursor

/-- The name of a file where it is shown: an empty name counts as none. -/
def shownFile? (file : Option String) : Option String := file.filter (· ≠ "")

/-- The name under which a text is spoken of. -/
def sourceLabel (file : Option String) : String := (shownFile? file).getD "<string>"

/-- A place in a text, with the file of the text. -/
structure Position extends Cursor where
  file : Option String := none
deriving DecidableEq

namespace Position

/-- The position of a cursor in the text of a file. -/
def ofCursor (file : Option String) (c : Cursor) : Position := { c with file }

/-- The line and the column. -/
def place (p : Position) : String := Decimal.ofInt p.line ++ ":" ++ Decimal.ofInt p.column

/-- The line and the column, behind the file name if there is one to show. -/
def describe (p : Position) : String :=
  match shownFile? p.file with
  | some file => file ++ ":" ++ p.place
  | none => p.place

/-- All parts of a position by name. -/
def display (p : Position) : String :=
  "Position(line=" ++ Decimal.ofInt p.line ++ ", column=" ++ Decimal.ofInt p.column ++
    ", offset=" ++ Decimal.ofInt p.offset ++ ", source_file=" ++
    (p.file.map Text.quoted).getD "None" ++ ")"

end Position

/-- The part of a text from one position to another. -/
structure Span where
  start : Position
  stop : Position
  ordered : start.offset ≤ stop.offset
deriving DecidableEq

/-- Two positions that are no ends of a span, because the first one lies after the second one. -/
structure Reversed where
  start : Position
  stop : Position
deriving DecidableEq

/-- The wording of the error. -/
def Reversed.message (r : Reversed) : String :=
  "Range start " ++ r.start.describe ++ " lies after end " ++ r.stop.describe

namespace Span

/-- The span between two positions. -/
def between (start stop : Position) : Except Reversed Span :=
  if h : start.offset ≤ stop.offset then .ok ⟨start, stop, h⟩ else .error ⟨start, stop⟩

/-- Two cursors in order, of the text of one file, are the ends of a span. -/
theorem between_ofCursor (file : Option String) {start stop : Cursor}
    (h : start.offset ≤ stop.offset) :
    between (.ofCursor file start) (.ofCursor file stop) =
      .ok ⟨.ofCursor file start, .ofCursor file stop, h⟩ := dif_pos h

/-- The span of no characters at a position. -/
def point (p : Position) : Span := ⟨p, p, Int.le_refl _⟩

/-- Both ends of a span. -/
def describe (s : Span) : String := s.start.describe ++ "-" ++ s.stop.describe

/-- Both ends of a span, all their parts by name. -/
def display (s : Span) : String :=
  "Range(start=" ++ s.start.display ++ ", end=" ++ s.stop.display ++ ")"

end Span

end BlockScan
