import Mathlib.Data.List.Induction
import BlockScan.Block.Basic
import BlockScan.Proofs.Text.Lines

/-!
# Where a cursor stands

A cursor that has stepped over the beginning of a text stands before the rest of it. Its offset
counts the characters behind it, its line the line breaks among them, and its column those since
the last line break (`walk_origin`). `Source.Stands` names that situation; every way of looking at
the text ahead of a standing cursor gives the same rest, and every way of moving it forward over
known characters keeps it standing.
-/

set_option autoImplicit false

namespace BlockScan

open Charset

/-- One more character at the end of a text starts a new line when it is a line break, and else
leaves the last line where it started. -/
theorem lineStart_concat (text : List Char) (c : Char) :
    lineStart (text ++ [c]) = if c = lineBreak then text.length + 1 else lineStart text := by
  rw [lineStart, List.reverse_concat, List.idxOf_cons, List.length_append, List.length_singleton]
  by_cases h : c = lineBreak
  · simp [h]
  · have hb : (c == lineBreak) = false := beq_false_of_ne h
    rw [hb, cond_false, if_neg h, lineStart]
    omega

/-- The last line starts inside the text or at its end. -/
theorem lineStart_le_length (text : List Char) : lineStart text ≤ text.length := Nat.sub_le _ _

/-- Stepping over a whole text from its first character on. -/
theorem walk_origin (text : List Char) :
    Cursor.origin.walk text =
      ⟨1 + text.count lineBreak, text.length - lineStart text, text.length⟩ := by
  induction text using List.reverseRecOn with
  | nil => rfl
  | append_singleton text c ih =>
    have hle := lineStart_le_length text
    rw [Cursor.walk_append, ih, Cursor.walk_cons, Cursor.walk_nil, lineStart_concat,
      List.count_append, List.count_singleton, List.length_append, List.length_singleton]
    by_cases h : c = lineBreak
    · simp [Cursor.step, h]
      omega
    · simp [Cursor.step, h]
      omega

example : Cursor.origin.walk "ab\ncd".toList = ⟨2, 2, 5⟩ := by decide

namespace Cursor

/-- The line, column and offset of a cursor belong to one place of a text. -/
structure Locates (text : List Char) (c : Cursor) : Prop where
  nonneg : 0 ≤ c.offset
  le_length : c.offset ≤ text.length
  line_eq : c.line = 1 + (text.take c.offset.toNat).count lineBreak
  column_eq : c.column = c.offset - lineStart (text.take c.offset.toNat)

/-- Stepping over the beginning of a text leads to a place of the text. -/
theorem locates_walk_origin (before rest : List Char) :
    Locates (before ++ rest) (origin.walk before) := by
  have hle : before.length ≤ (before ++ rest).length := by
    rw [List.length_append]
    exact Nat.le_add_right _ _
  have htake : (before ++ rest).take (before.length : Int).toNat = before := by
    rw [Int.toNat_natCast, List.take_left]
  rw [walk_origin]
  refine ⟨Int.natCast_nonneg _, Int.ofNat_le.2 hle, ?_, ?_⟩
  · rw [htake]
  · rw [htake]

/-- A jump to a target that lies as far ahead as some characters are long is the same as stepping
over them, when no line break is among them. -/
theorem jumpTo_eq_walk {c : Cursor} {chars : List Char} {target : Int}
    (h : chars.all inLine = true) (ht : target = c.offset + chars.length) :
    c.jumpTo target = c.walk chars := by
  rw [ht, c.jumpTo_walk h]

/-- A walk never moves a cursor back. -/
theorem walk_offset_le (c : Cursor) (chars : List Char) : c.offset ≤ (c.walk chars).offset := by
  rw [offset_walk]
  omega

end Cursor

namespace Source

/-- A cursor stands before the rest of a text when it has stepped over all that comes before. -/
def Stands (s : Source) (c : Cursor) (rest : List Char) : Prop :=
  ∃ before, s.text = before ++ rest ∧ c = Cursor.origin.walk before

namespace Stands

variable {s : Source} {c : Cursor} {rest : List Char}

/-- A reader begins before the whole text. -/
theorem origin (s : Source) : s.Stands .origin s.text := ⟨[], rfl, rfl⟩

/-- Stepping over characters of the rest keeps the cursor standing before what follows them. -/
theorem walk {xs : List Char} (h : s.Stands c (xs ++ rest)) : s.Stands (c.walk xs) rest := by
  obtain ⟨before, ht, rfl⟩ := h
  exact ⟨before ++ xs, by rw [ht, List.append_assoc], (Cursor.walk_append _ _ _).symm⟩

/-- Stepping over the first character of the rest keeps the cursor standing before the others. -/
theorem step {char : Char} (h : s.Stands c (char :: rest)) : s.Stands (c.step char) rest := by
  rw [← List.singleton_append] at h
  exact h.walk

/-- The line, column and offset of a standing cursor belong to one place of the text. -/
theorem locates (h : s.Stands c rest) : c.Locates s.text := by
  obtain ⟨before, ht, rfl⟩ := h
  rw [ht]
  exact Cursor.locates_walk_origin before rest

/-- A cursor whose line, column and offset belong to one place of the text stands there. -/
theorem of_locates (h : c.Locates s.text) : s.Stands c (s.upcoming c.offset) := by
  obtain ⟨k, hk⟩ := Int.eq_ofNat_of_zero_le h.nonneg
  have hlength : (s.text.take k).length = k := by
    have hle := h.le_length
    rw [List.length_take]
    omega
  refine ⟨s.text.take k, ?_, ?_⟩
  · rw [hk, upcoming_natCast, List.take_append_drop]
  · rw [walk_origin, hlength]
    have hline := h.line_eq
    have hcolumn := h.column_eq
    rw [hk, Int.toNat_natCast] at hline hcolumn
    cases c
    simp only at hk hline hcolumn
    rw [hk, hline, hcolumn]

/-- The offset of a standing cursor is an index into the text, at which its rest begins. -/
theorem exists_index (h : s.Stands c rest) :
    ∃ k : Nat, c.offset = k ∧ k + rest.length = s.size ∧ s.text.drop k = rest := by
  obtain ⟨before, ht, rfl⟩ := h
  refine ⟨before.length, ?_, ?_, ?_⟩
  · rw [walk_origin]
  · rw [s.size_eq, ht, List.length_append]
  · rw [ht, List.drop_left]

/-- What a standing cursor meets when it advances is the rest. -/
theorem upcoming (h : s.Stands c rest) : s.upcoming c.offset = rest := by
  obtain ⟨k, hk, -, hd⟩ := h.exists_index
  rw [hk, upcoming_natCast, hd]

/-- What it meets behind the next character is the rest without that character. -/
theorem upcoming_succ (h : s.Stands c rest) : s.upcoming (c.offset + 1) = rest.tail := by
  obtain ⟨k, hk, -, hd⟩ := h.exists_index
  have hsucc : (k : Int) + 1 = (k + 1 : Nat) := rfl
  rw [hk, hsucc, upcoming_natCast, ← List.drop_one, ← hd, List.drop_drop]

/-- The window at a standing cursor holds the rest, and its index is the offset. -/
theorem window (h : s.Stands c rest) :
    ∃ w : Window, s.window c.offset = w ∧ w.chars = rest ∧ (w.index : Int) = c.offset := by
  obtain ⟨k, hk, hs, hd⟩ := h.exists_index
  refine ⟨⟨k, rest⟩, ?_, rfl, hk.symm⟩
  rw [hk, s.window_natCast (by omega), hd]

/-- Skipping takes a standing cursor over the run at the beginning of the rest. -/
theorem skip (h : s.Stands c rest) (p : Char → Bool) :
    s.skip p c = c.walk (rest.takeWhile p) := by
  rw [Source.skip, h.upcoming]

/-- Skipping keeps the cursor standing before what follows the run. -/
theorem stands_skip (h : s.Stands c rest) (p : Char → Bool) :
    s.Stands (s.skip p c) (rest.dropWhile p) := by
  rw [h.skip]
  apply walk
  rwa [List.takeWhile_append_dropWhile]

/-- A standing cursor is at the end of the text when nothing is left. -/
theorem atEnd (h : s.Stands c rest) : s.atEnd c = rest.isEmpty := by
  obtain ⟨k, hk, hs, -⟩ := h.exists_index
  rw [Source.atEnd, hk]
  cases rest with
  | nil =>
    rw [List.length_nil] at hs
    simp [← hs]
  | cons char rest =>
    rw [List.length_cons] at hs
    simp
    omega

/-- The character at a standing cursor is the first one of the rest. -/
theorem peek (h : s.Stands c rest) : s.peek c = rest.head? := by
  rw [Source.peek, h.upcoming]

/-- The character behind it is the second one of the rest. -/
theorem peekNext (h : s.Stands c rest) : s.peekNext c = rest.tail.head? := by
  rw [Source.peekNext, h.upcoming_succ]

/-- Advancing takes a standing cursor over the first character of the rest. -/
theorem advance {char : Char} (h : s.Stands c (char :: rest)) : s.advance c = c.step char := by
  rw [Source.advance, h.peek]
  rfl

end Stands

end Source

end BlockScan
