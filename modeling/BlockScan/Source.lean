import BlockScan.Position
import BlockScan.Text.Classes

/-!
# The text of a document

A source is the text that a scan reads. Offsets into it count characters from zero; an offset
below zero counts back from the end of the text, and one beyond the end stands for the end.

There are two views of what lies ahead of an offset. `Source.upcoming` is what a cursor meets that
advances one character at a time: from an offset below zero it meets the last characters and then,
having come to offset zero, the whole text. `Source.window` is the part of the text behind the
offset, which is cut into lines. `Source.upcoming_natCast` and `Source.window_natCast` say that
inside the text both are the rest of it.
-/

set_option autoImplicit false

namespace BlockScan

/-- The text of a document. Its length and its ends are kept at hand, so that looking at a place of
the text takes the same time everywhere. -/
structure Source where
  text : List Char
  size : Nat
  /-- For every offset, the text from there on. -/
  tails : Array (List Char)
  size_eq : size = text.length
  tails_eq : ∀ k, tails.getD k [] = text.drop k

/-- A part of a text that goes on to the end of the text, and where it starts. -/
structure Window where
  index : Nat
  chars : List Char

namespace Window

/-- The characters up to the first line break. -/
def line (w : Window) : List Char := w.chars.takeWhile Charset.inLine

/-- The offset of the first line break, or of the end of the text when there is none. -/
def lineEnd (w : Window) : Nat := w.index + w.line.length

/-- What follows the first line break. -/
def next? (w : Window) : Option Window :=
  match w.chars.dropWhile Charset.inLine with
  | [] => none
  | _ :: rest => some ⟨w.lineEnd + 1, rest⟩

/-- The blanks at the beginning. -/
def blanks (w : Window) : List Char := w.chars.takeWhile Charset.isBlank

/-- What follows a comment mark that only blanks precede. -/
def remark? (w : Window) : Option Window :=
  match w.chars.dropWhile Charset.isBlank with
  | [] => none
  | c :: rest =>
    if c = Charset.commentMark then some ⟨w.index + w.blanks.length + 1, rest⟩ else none

/-- What follows a line is shorter than the text with that line. -/
theorem next?_length {w n : Window} (h : w.next? = some n) : n.chars.length < w.chars.length := by
  have hl : (w.chars.dropWhile Charset.inLine).length ≤ w.chars.length :=
    (List.dropWhile_sublist _).length_le
  unfold next? at h
  split at h
  · simp at h
  · next c rest hd =>
    rw [hd] at hl
    simp only [Option.some.injEq] at h
    subst h
    exact hl

/-- What follows a comment mark is shorter than the text with that mark. -/
theorem remark?_length {w n : Window} (h : w.remark? = some n) :
    n.chars.length < w.chars.length := by
  have hl : (w.chars.dropWhile Charset.isBlank).length ≤ w.chars.length :=
    (List.dropWhile_sublist _).length_le
  unfold remark? at h
  split at h
  · simp at h
  · next c rest hd =>
    rw [hd] at hl
    split at h
    · simp only [Option.some.injEq] at h
      subst h
      exact hl
    · simp at h

/-- The window behind a line starts behind the line break. -/
theorem next?_index {w n : Window} (h : w.next? = some n) : n.index = w.lineEnd + 1 := by
  unfold next? at h
  split at h
  · simp at h
  · simp only [Option.some.injEq] at h
    subst h
    rfl

/-- The window behind a comment mark starts behind the blanks and the mark. -/
theorem remark?_index {w n : Window} (h : w.remark? = some n) :
    n.index = w.index + w.blanks.length + 1 := by
  unfold remark? at h
  split at h
  · simp at h
  · split at h
    · simp only [Option.some.injEq] at h
      subst h
      rfl
    · simp at h

/-- A line does not end before its window starts. -/
theorem index_le_lineEnd (w : Window) : w.index ≤ w.lineEnd := Nat.le_add_right _ _

end Window

namespace Source

/-- The ends of a text, the longest one first, behind some others. -/
def tailsFrom (done : Array (List Char)) : List Char → Array (List Char)
  | [] => done
  | c :: cs => tailsFrom (done.push (c :: cs)) cs

/-- The ends of a text stand behind those that were there already, in the order of their
beginnings. -/
theorem getElem?_tailsFrom (done : Array (List Char)) (cs : List Char) (k : Nat) :
    ((tailsFrom done cs)[k]?).getD [] =
      if k < done.size then (done[k]?).getD [] else cs.drop (k - done.size) := by
  induction cs generalizing done with
  | nil =>
    by_cases h : k < done.size
    · simp [tailsFrom, h]
    · simp [tailsFrom, h]
  | cons c cs ih =>
    rw [tailsFrom, ih, Array.size_push]
    by_cases h : k < done.size
    · rw [if_pos (by omega), if_pos h, Array.getElem?_push_lt h]
      simp [h]
    · by_cases hk : k = done.size
      · subst hk
        simp
      · have hd : k - done.size = (k - (done.size + 1)) + 1 := by omega
        rw [if_neg (by omega), if_neg h, hd, List.drop_succ_cons]

/-- The table of ends holds, at every index, the text from there on. -/
theorem getD_tailsFrom (text : List Char) (k : Nat) :
    (tailsFrom #[] text).getD k [] = text.drop k := by
  rw [Array.getD_eq_getD_getElem?, getElem?_tailsFrom]
  simp

/-- The source with a text. -/
def ofList (text : List Char) : Source :=
  ⟨text, text.length, tailsFrom #[] text, rfl, getD_tailsFrom text⟩

/-- The source with a text. -/
def ofString (text : String) : Source := ofList text.toList

/-- The text from an index on. -/
def drop (s : Source) (k : Nat) : List Char := s.tails.getD k []

/-- The text from an index on is what is left when so many characters are dropped. -/
theorem drop_eq (s : Source) (k : Nat) : s.drop k = s.text.drop k := s.tails_eq k

/-- Whether an offset is not farther back than the text is long. -/
def reaches (s : Source) (offset : Int) : Bool := decide (0 ≤ offset + s.size)

/-- What a cursor at an offset meets when it advances. -/
def upcoming (s : Source) (offset : Int) : List Char :=
  if 0 ≤ offset then s.drop offset.toNat
  else if 0 ≤ offset + s.size then s.drop (offset + s.size).toNat ++ s.text
  else []

/-- The place in the text that an offset stands for. -/
def indexOf (s : Source) (offset : Int) : Nat :=
  if 0 ≤ offset then min offset.toNat s.size else (offset + s.size).toNat

/-- The part of the text from an offset on. -/
def window (s : Source) (offset : Int) : Window :=
  ⟨s.indexOf offset, s.drop (s.indexOf offset)⟩

/-- The part of the text between two offsets. -/
def slice (s : Source) (start stop : Int) : List Char :=
  (s.drop (s.indexOf start)).take (s.indexOf stop - s.indexOf start)

/-- Whether a cursor is at the end of the text or beyond it. -/
def atEnd (s : Source) (c : Cursor) : Bool := decide ((s.size : Int) ≤ c.offset)

/-- The character at a cursor. -/
def peek (s : Source) (c : Cursor) : Option Char := (s.upcoming c.offset).head?

/-- The character behind the one at a cursor. -/
def peekNext (s : Source) (c : Cursor) : Option Char := (s.upcoming (c.offset + 1)).head?

/-- The cursor behind the character at a cursor; at the end it stays. -/
def advance (s : Source) (c : Cursor) : Cursor :=
  match s.peek c with
  | some char => c.step char
  | none => c

/-- The cursor behind the run of characters of a class. -/
def skip (s : Source) (p : Char → Bool) (c : Cursor) : Cursor :=
  c.walk ((s.upcoming c.offset).takeWhile p)

/-- The offset of the end of the line of a cursor. -/
def lineEnd (s : Source) (c : Cursor) : Nat := (s.window c.offset).lineEnd

/-- The character at an offset with the letters that follow it. -/
def wordAt (s : Source) (offset : Int) : List Char :=
  s.slice offset (offset + 1 + ((s.upcoming (offset + 1)).takeWhile Text.isLetter).length)

/-- Inside the text a cursor that advances meets the rest of it. -/
theorem upcoming_natCast (s : Source) (k : Nat) : s.upcoming k = s.text.drop k := by
  simp [upcoming, drop_eq]

/-- An offset inside the text, or at its end, stands for itself. -/
theorem indexOf_natCast (s : Source) {k : Nat} (h : k ≤ s.size) : s.indexOf k = k := by
  simp [indexOf, Nat.min_eq_left h]

/-- Inside the text the window at an offset holds the rest of it. -/
theorem window_natCast (s : Source) {k : Nat} (h : k ≤ s.size) :
    s.window k = ⟨k, s.text.drop k⟩ := by
  simp [window, s.indexOf_natCast h, drop_eq]

/-- A cursor that advances meets what lies ahead of it in order, also across offset zero: what lies
ahead of a later place is what is left of it. -/
theorem upcoming_add (s : Source) {offset : Int} (h : s.reaches offset = true) (k : Nat) :
    s.upcoming (offset + k) = (s.upcoming offset).drop k := by
  have hr : 0 ≤ offset + s.size := by simpa [reaches] using h
  have hs := s.size_eq
  simp only [upcoming, drop_eq]
  by_cases h0 : 0 ≤ offset
  · rw [if_pos h0, if_pos (by omega), List.drop_drop]
    congr 1
    omega
  · rw [if_neg h0, if_pos hr, List.drop_append, List.length_drop, ← hs, List.drop_drop]
    by_cases hk : 0 ≤ offset + k
    · have hn : s.text.drop ((offset + s.size).toNat + k) = [] :=
        List.drop_eq_nil_of_le (by omega)
      rw [if_pos hk, hn, List.nil_append]
      congr 1
      omega
    · rw [if_neg hk, if_pos (by omega)]
      have h1 : (offset + k + s.size).toNat = (offset + s.size).toNat + k := by omega
      have h2 : k - (s.size - (offset + s.size).toNat) = 0 := by omega
      rw [h1, h2, List.drop_zero]

/-- Skipping never moves a cursor back. -/
theorem le_offset_skip (s : Source) (p : Char → Bool) (c : Cursor) :
    c.offset ≤ (s.skip p c).offset := by
  rw [skip, Cursor.offset_walk]
  omega

/-- Farther back than the text is long, a cursor meets nothing. -/
theorem upcoming_of_not_reaches (s : Source) {offset : Int} (h : s.reaches offset = false) :
    s.upcoming offset = [] := by
  have hr : ¬ 0 ≤ offset + s.size := by simpa [reaches] using h
  rw [upcoming, if_neg (by omega), if_neg hr]

/-- What is left when as many characters are dropped as the run has is what follows the run. -/
theorem drop_length_takeWhile (p : Char → Bool) (cs : List Char) :
    cs.drop (cs.takeWhile p).length = cs.dropWhile p := by
  induction cs with
  | nil => rfl
  | cons c cs ih => by_cases h : p c = true <;> simp [h, ih]

/-- A character of the class never stands behind the run that was skipped. -/
theorem peek_skip (s : Source) (p : Char → Bool) (c : Cursor) {char : Char}
    (h : s.peek (s.skip p c) = some char) : p char = false := by
  have hd : ((s.upcoming c.offset).dropWhile p).head? = some char := by
    by_cases hr : s.reaches c.offset = true
    · rwa [peek, skip, Cursor.offset_walk, upcoming_add s hr, drop_length_takeWhile] at h
    · have hu := s.upcoming_of_not_reaches (Bool.eq_false_iff.2 hr)
      simp [peek, skip, hu] at h
  have hn := List.head?_dropWhile_not p (s.upcoming c.offset)
  rwa [hd] at hn

end Source

end BlockScan
