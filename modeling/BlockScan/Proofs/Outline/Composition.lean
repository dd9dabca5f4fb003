import Mathlib.Data.List.TakeWhile
import BlockScan.Proofs.Outline.Basic

/-!
# Outlines of texts put together

A blank line closes whatever is open, so a text in which two parts are set apart by blank lines
has the passages of the first part and then those of the second one (`outline_append`). What comes
of the second part depends on where its first cursor is only in that all its passages are moved
along with that cursor (`outlineFrom_shift`). Both together are `outline_append_blankLines`.
-/

set_option autoImplicit false

namespace BlockScan

open Charset

/-! ## Moved passages -/

/-- The place some lines further down and some characters further on, in the same column. -/
def Cursor.shift (down ahead : Int) (c : Cursor) : Cursor :=
  ⟨c.line + down, c.column, c.offset + ahead⟩

/-- The passage that far further on in a text. -/
def Passage.shift (down ahead : Int) (p : Passage) : Passage :=
  { p with
    start := p.start.shift down ahead
    stop := p.stop.shift down ahead
    ordered := Int.add_le_add_right p.ordered ahead }

/-- What comes of a line that far further on in a text. -/
def Turn.shift (down ahead : Int) (turn : Turn) : Turn :=
  ⟨turn.closed.map (Passage.shift down ahead), turn.opened.map (Passage.shift down ahead)⟩

section Shift

variable (down ahead : Int)

/-- A step and a move to a place further on can be exchanged. -/
theorem step_shift (c : Cursor) (char : Char) :
    (c.shift down ahead).step char = (c.step char).shift down ahead := by
  unfold Cursor.step Cursor.shift
  split
  · rw [Cursor.mk.injEq]
    exact ⟨Int.add_right_comm .., rfl, Int.add_right_comm ..⟩
  · rw [Cursor.mk.injEq]
    exact ⟨rfl, rfl, Int.add_right_comm ..⟩

/-- A walk and a move to a place further on can be exchanged. -/
theorem walk_shift (c : Cursor) (chars : List Char) :
    (c.shift down ahead).walk chars = (c.walk chars).shift down ahead := by
  induction chars generalizing c with
  | nil => rfl
  | cons char chars ih => rw [Cursor.walk_cons, step_shift, ih, Cursor.walk_cons]

/-- A passage without lines moves along with its cursor. -/
theorem empty_shift (kind : BlockKind) (c : Cursor) :
    Passage.empty kind (c.shift down ahead) = (Passage.empty kind c).shift down ahead := rfl

/-- One more line can be added before or after the move. -/
theorem extend_shift (p : Passage) (line chars : List Char) :
    (p.shift down ahead).extend line chars = (p.extend line chars).shift down ahead := by
  apply Passage.ext
  · rfl
  · rfl
  · rfl
  · exact walk_shift down ahead p.stop chars

/-- The passages on a line move along with the cursor of the line. -/
theorem openAt_shift (c : Cursor) (content : List Char) :
    openAt (c.shift down ahead) content = (openAt c content).shift down ahead := by
  fun_induction openAt c content with
  | case1 c =>
    rw [openAt_nil]
    rfl
  | case2 c rest turn ih =>
    have hmarker : Passage.marker (c.shift down ahead) =
        (Passage.marker c).shift down ahead := by
      unfold Passage.marker Passage.begun
      rw [empty_shift, extend_shift]
    rw [openAt, if_pos rfl, step_shift, walk_shift, ih, hmarker]
    rfl
  | case3 c char rest hm =>
    rw [openAt_of_ne hm, Passage.opening, empty_shift, extend_shift]
    rfl

/-- What comes of a line moves along with its cursor and with the passage that is open. -/
theorem turnAt_shift (opened : Option Passage) (c : Cursor) (line : List Char) :
    turnAt (opened.map (Passage.shift down ahead)) (c.shift down ahead) line =
      (turnAt opened c line).shift down ahead := by
  have hfresh : turnAt none (c.shift down ahead) line = (turnAt none c line).shift down ahead := by
    unfold turnAt
    rw [walk_shift, openAt_shift]
  cases opened with
  | none => exact hfresh
  | some p =>
    have hsame : (p.shift down ahead).goesOn (lineContent line) = p.goesOn (lineContent line) := rfl
    have hline : (p.shift down ahead).lineOf line = p.lineOf line := rfl
    rw [Option.map_some]
    cases hg : p.goesOn (lineContent line) with
    | false =>
      rw [turnAt_some_of_not_goesOn (hsame.trans hg), turnAt_some_of_not_goesOn hg, hfresh]
      rfl
    | true =>
      rw [turnAt_some_of_goesOn (hsame.trans hg), turnAt_some_of_goesOn hg, hline, extend_shift]
      rfl

/-- The passages of some lines move along with the cursor at the first of them. -/
theorem outlineFrom_shift (opened : Option Passage) (c : Cursor) (lines : List (List Char)) :
    outlineFrom (opened.map (Passage.shift down ahead)) (c.shift down ahead) lines =
      (outlineFrom opened c lines).map (Passage.shift down ahead) := by
  induction lines generalizing opened c with
  | nil => cases opened <;> rfl
  | cons line lines ih =>
    rw [outlineFrom_cons, outlineFrom_cons, turnAt_shift, walk_shift, step_shift, List.map_append]
    apply congrArg
    exact ih _ _

end Shift

/-! ## Parts of a text -/

/-- Passing some lines one by one is the same as walking over all of them at once. -/
theorem foldl_lines (c : Cursor) (line : List Char) (lines : List (List Char)) :
    (line :: lines).foldl (fun c line => (c.walk line).step lineBreak) c =
      (c.walk (line ++ tailText lines)).step lineBreak := by
  induction lines generalizing c line with
  | nil => rw [tailText_nil, List.append_nil, List.foldl_cons, List.foldl_nil]
  | cons next lines ih =>
    rw [List.foldl_cons, ih, tailText_cons, Cursor.walk_append c, Cursor.walk_cons]

/-- Behind some lines and a blank one nothing is open. -/
theorem outlineFrom_append {blank : List Char} (hb : lineContent blank = [])
    (opened : Option Passage) (c : Cursor) (xs ys : List (List Char)) :
    outlineFrom opened c (xs ++ blank :: ys) = outlineFrom opened c xs ++
      outlineFrom none (xs.foldl (fun c line => (c.walk line).step lineBreak) c) (blank :: ys) := by
  induction xs generalizing opened c with
  | nil =>
    cases opened with
    | none => rfl
    | some p =>
      have hg : p.goesOn (lineContent blank) = false := by
        rw [hb]
        rfl
      exact outlineFrom_some_of_not_goesOn hg c ys
  | cons line xs ih =>
    rw [List.cons_append, outlineFrom_cons, outlineFrom_cons, ih, List.append_assoc,
      List.foldl_cons]

/-- A text that goes on with a blank line has the passages of what comes before that line, and
then those of the rest. -/
theorem outline_append (text : List Char) {rest : List Char}
    (hb : lineContent (rest.takeWhile inLine) = []) :
    outline (text ++ lineBreak :: rest) = outline text ++
      outlineFrom none ((Cursor.origin.walk text).step lineBreak) (linesOf rest) := by
  have hlines := linesOf_append_lineBreak_append text rest
  rw [linesOf_eq (text ++ _), linesOf_eq text, List.cons_append, List.cons.injEq] at hlines
  obtain ⟨hfirst, hmore⟩ := hlines
  have hblanks : (text ++ lineBreak :: rest).takeWhile isBlank = text.takeWhile isBlank := by
    rw [← takeWhile_isBlank_takeWhile_inLine, hfirst, takeWhile_isBlank_takeWhile_inLine]
  have hcursor := foldl_lines .origin (text.takeWhile inLine) (moreLines text)
  rw [takeWhile_inLine_append_tailText] at hcursor
  rw [linesOf_eq rest] at hmore ⊢
  rw [← hcursor]
  by_cases ht : LineKind.ofLine (text.takeWhile inLine) = .text
  · rw [outline_of_text (by rwa [hfirst]), outline_of_text ht, hfirst, hblanks, hmore,
      outlineFrom_append hb, List.foldl_cons]
  · rw [outline_of_not_text (by rwa [hfirst]), outline_of_not_text ht, hblanks,
      linesOf_append_lineBreak_append, linesOf_eq rest, outlineFrom_append hb, linesOf_eq text,
      List.cons_append]

/-! ## Blank lines between two parts -/

/-- One or more lines of nothing but blanks, each with its line break. -/
def BlankLines (gap : List Char) : Prop :=
  ∃ lines : List (List Char), lines ≠ [] ∧ (∀ line ∈ lines, line.all isBlank = true) ∧
    gap = lines.flatMap (· ++ [lineBreak])

namespace BlankLines

variable {gap : List Char}

/-- Blank lines are nothing but gaps. -/
theorem all_isGap (h : BlankLines gap) : gap.all isGap = true := by
  obtain ⟨lines, -, hb, rfl⟩ := h
  rw [List.all_flatMap, List.all_eq_true]
  intro line hl
  have hline := all_isGap_of_all_isBlank (hb line hl)
  simp only [List.all_append, hline]
  rfl

/-- The first one of some blank lines is blank, whatever text follows them. -/
theorem lineContent_takeWhile_append (h : BlankLines gap) (rest : List Char) :
    lineContent ((gap ++ rest).takeWhile inLine) = [] := by
  obtain ⟨lines, hne, hb, rfl⟩ := h
  cases lines with
  | nil => exact absurd rfl hne
  | cons line lines =>
    have hline := hb line (List.mem_cons_self ..)
    have hn : ¬ inLine lineBreak = true := by decide
    rw [List.flatMap_cons, List.append_assoc, List.append_assoc,
      takeWhile_inLine_append (all_inLine_of_all_isBlank hline), List.singleton_append,
      List.takeWhile_cons_of_neg hn, List.append_nil, lineContent, List.dropWhile_eq_nil_iff]
    exact List.all_eq_true.1 hline

/-- Blank lines end with a line break. -/
theorem exists_eq_concat (h : BlankLines gap) : ∃ init, gap = init ++ [lineBreak] := by
  obtain ⟨lines, hne, -, rfl⟩ := h
  refine ⟨lines.dropLast.flatMap (· ++ [lineBreak]) ++ lines.getLast hne, ?_⟩
  conv_lhs => rw [← List.dropLast_concat_getLast hne]
  rw [List.flatMap_append, List.flatMap_singleton, List.append_assoc]

/-- Behind blank lines the cursor is at the beginning of a line. -/
theorem walk_origin_eq_shift (h : BlankLines gap) (text : List Char) :
    (Cursor.origin.step lineBreak).shift (text.count lineBreak + gap.count lineBreak)
        (text.length + gap.length) = Cursor.origin.walk (text ++ lineBreak :: gap) := by
  obtain ⟨init, rfl⟩ := h.exists_eq_concat
  have hends : text ++ lineBreak :: (init ++ [lineBreak]) =
      (text ++ lineBreak :: init) ++ [lineBreak] := by
    rw [List.append_assoc, List.cons_append]
  rw [hends, walk_origin, lineStart_concat, if_pos rfl]
  simp only [Cursor.shift, Cursor.step, Cursor.origin, if_true, List.count_append,
    List.length_append, List.count_cons_self, List.length_cons, List.count_nil, List.length_nil,
    Cursor.mk.injEq]
  omega

end BlankLines

/-- The outline of a text that starts with a line break begins with an empty title. -/
theorem outline_lineBreak_cons (text : List Char) :
    outline (lineBreak :: text) = .empty .heading .origin ::
      outlineFrom none (Cursor.origin.step lineBreak) (linesOf text) := by
  have hb : ¬ isBlank lineBreak = true := by decide
  have hl : ¬ inLine lineBreak = true := by decide
  have ht : LineKind.ofLine ((lineBreak :: text).takeWhile inLine) ≠ .text := by
    rw [List.takeWhile_cons_of_neg hl]
    decide
  rw [outline_of_not_text ht, List.takeWhile_cons_of_neg hb, linesOf_lineBreak_cons,
    outlineFrom_cons, turnAt_none_nil, List.nil_append]
  rfl

/-- Two parts of a text with blank lines between them have their own passages, those of the second
part moved to where it stands. -/
theorem outline_append_blankLines {gap : List Char} (h : BlankLines gap) (text rest : List Char) :
    outline (text ++ lineBreak :: (gap ++ rest)) = outline text ++
      (outline (lineBreak :: rest)).tail.map (Passage.shift
        (text.count lineBreak + gap.count lineBreak) (text.length + gap.length)) := by
  have hwalk : ((Cursor.origin.walk text).step lineBreak).walk gap =
      Cursor.origin.walk (text ++ lineBreak :: gap) := by
    rw [Cursor.walk_append, Cursor.walk_cons]
  rw [outline_append text (h.lineContent_takeWhile_append rest), outlineFrom_gap h.all_isGap, hwalk,
    ← h.walk_origin_eq_shift, outline_lineBreak_cons, List.tail_cons]
  exact congrArg _ (outlineFrom_shift _ _ none _ _)

end BlockScan
