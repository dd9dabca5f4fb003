import Mathlib.Data.List.Forall2
import Mathlib.Data.List.TakeWhile
import BlockScan.Proofs.Outline.Blocks
import BlockScan.Text.Basic

/-!
# Carriage returns at the ends of lines

A carriage return in front of every line break (`withReturns`) changes no passage but for the
offsets and the carriage returns in its lines. For the outline such a character is one more blank
at the end of a line (`Ended`): it neither opens anything nor closes it, and it keeps the line, so
two outlines go through both texts side by side (`agrees_outlineFrom`). Only an empty title can
start in another column, because it starts behind the blanks of the first line. The main statement
is `agrees_outline`.
-/

set_option autoImplicit false

namespace BlockScan

open Charset

/-- A text with a carriage return in front of every line break. -/
def withReturns (text : List Char) : List Char := Text.replaceAll ['\n'] ['\r', '\n'] text

/-- Some characters but the carriage returns among them. -/
def withoutReturns (chars : List Char) : List Char := chars.filter (· != '\r')

/-- The second line is the first one, or has a carriage return at its end besides. -/
def Ended (line line' : List Char) : Prop := line' = line ∨ line' = line ++ ['\r']

/-! ## Lines -/

section WithReturns

/-- Without characters there is no line break to put a carriage return in front of. -/
theorem withReturns_nil : withReturns [] = [] := by
  rw [withReturns, Text.replaceAll, Text.replaceNonempty]
  rfl

/-- A line break gets a carriage return in front. -/
theorem withReturns_lineBreak_cons (text : List Char) :
    withReturns (lineBreak :: text) = '\r' :: lineBreak :: withReturns text := by
  rw [withReturns, Text.replaceAll, Text.replaceNonempty]
  rfl

/-- A character that is no line break is kept. -/
theorem withReturns_cons {char : Char} (h : char ≠ lineBreak) (text : List Char) :
    withReturns (char :: text) = char :: withReturns text := by
  have hnone : Text.behind? ['\n'] (char :: text) = none := if_neg (Ne.symm h)
  rw [withReturns, Text.replaceAll, Text.replaceNonempty]
  split
  · next rest hsome => simp [hnone] at hsome
  · rfl

end WithReturns

namespace Ended

variable {char : Char} {line line' : List Char}

/-- One more character in front of both lines makes no difference. -/
theorem cons (char : Char) (h : Ended line line') : Ended (char :: line) (char :: line') := by
  rcases h with rfl | rfl
  · exact .inl rfl
  · exact .inr rfl

/-- The first characters of both lines are the same. -/
theorem exists_eq_cons (h : Ended (char :: line) line') :
    ∃ rest, line' = char :: rest ∧ Ended line rest := by
  rcases h with rfl | rfl
  · exact ⟨line, rfl, .inl rfl⟩
  · exact ⟨line ++ ['\r'], rfl, .inr rfl⟩

/-- Without their first characters the lines still differ in a carriage return at most. -/
theorem tail (h : Ended line line') (hn : line ≠ []) : Ended line.tail line'.tail := by
  obtain ⟨char, rest, rfl⟩ := List.exists_cons_of_ne_nil hn
  obtain ⟨rest', rfl, hrest⟩ := h.exists_eq_cons
  exact hrest

/-- Lines that differ in a carriage return at most are the same without carriage returns. -/
theorem withoutReturns_eq (h : Ended line line') : withoutReturns line = withoutReturns line' := by
  rcases h with rfl | rfl
  · rfl
  · rw [withoutReturns, withoutReturns, List.filter_append]
    exact (List.append_nil _).symm

/-- One more blank at the end of a line does not give it a content. -/
theorem content_eq_nil (h : Ended line line') (hn : lineContent line = []) :
    lineContent line' = [] := by
  rcases h with rfl | rfl
  · exact hn
  · rw [lineContent, List.dropWhile_eq_nil_iff] at hn ⊢
    rw [List.forall_mem_append, List.forall_mem_singleton]
    exact ⟨hn, by decide⟩

/-- One more blank at the end of a line stands behind its content, if it has one. -/
theorem content (h : Ended line line') (hn : lineContent line ≠ []) :
    Ended (lineContent line) (lineContent line') := by
  rcases h with rfl | rfl
  · exact .inl rfl
  · exact .inr (lineContent_append hn _)

/-- One more blank at the end of a line stands behind its first blanks, if it has a content. -/
theorem takeWhile_isBlank_eq (h : Ended line line') (hn : lineContent line ≠ []) :
    line'.takeWhile isBlank = line.takeWhile isBlank := by
  rcases h with rfl | rfl
  · rfl
  · exact takeWhile_isBlank_append hn _

/-- Neither line has a content, or both contents begin with the same character. -/
theorem content_cases (h : Ended line line') : lineContent line = [] ∧ lineContent line' = [] ∨
    ∃ char rest rest', lineContent line = char :: rest ∧ lineContent line' = char :: rest' := by
  by_cases hn : lineContent line = []
  · exact .inl ⟨hn, h.content_eq_nil hn⟩
  · obtain ⟨char, rest, hcontent⟩ := List.exists_cons_of_ne_nil hn
    have hcontent' := h.content hn
    rw [hcontent] at hcontent'
    obtain ⟨rest', heq, -⟩ := hcontent'.exists_eq_cons
    exact .inr ⟨char, rest, rest', hcontent, heq⟩

/-- A carriage return is a blank, so the kind of a line does not depend on it. -/
theorem ofLine_eq (h : Ended line line') : LineKind.ofLine line = LineKind.ofLine line' := by
  rw [LineKind.ofLine, LineKind.ofLine]
  rcases h.content_cases with ⟨hn, hn'⟩ | ⟨char, rest, rest', hc, hc'⟩
  · rw [hn, hn']
  · rw [hc, hc']

end Ended

/-- The lines of a text with carriage returns are those of the text, each with one at its end; the
last line has none. -/
theorem forall₂_ended_linesOf (text : List Char) :
    List.Forall₂ Ended (linesOf text) (linesOf (withReturns text)) := by
  induction text with
  | nil =>
    rw [withReturns_nil]
    exact .cons (.inl rfl) .nil
  | cons char text ih =>
    by_cases hb : char = lineBreak
    · subst hb
      have hreturn : ['\r'].all inLine = true := by decide
      have hlines := linesOf_append_lineBreak hreturn (withReturns text)
      rw [List.singleton_append] at hlines
      rw [withReturns_lineBreak_cons, linesOf_lineBreak_cons, hlines]
      exact .cons (.inr rfl) ih
    · have hl : inLine char = true := by simpa [inLine] using hb
      rw [linesOf_eq text, linesOf_eq (withReturns text), List.forall₂_cons] at ih
      rw [withReturns_cons hb, linesOf_cons_of_inLine hl, linesOf_cons_of_inLine hl]
      exact .cons (ih.1.cons char) ih.2

/-! ## Cursors -/

/-- Two cursors in the same line and column. -/
structure Cursor.Level (c c' : Cursor) : Prop where
  line_eq : c.line = c'.line
  column_eq : c.column = c'.column

section Cursors

variable {c c' : Cursor}

/-- Whether a step leads to the next line depends on the character alone. -/
theorem line_step_congr (h : c.line = c'.line) (char : Char) :
    (c.step char).line = (c'.step char).line := by
  unfold Cursor.step
  split
  · exact congrArg (· + 1) h
  · exact h

/-- How many lines a walk leads down depends on the characters alone. -/
theorem line_walk_congr (h : c.line = c'.line) (chars : List Char) :
    (c.walk chars).line = (c'.walk chars).line := by
  induction chars generalizing c c' with
  | nil => exact h
  | cons char chars ih => exact ih (line_step_congr h char)

/-- A walk over characters without a line break stays in its line. -/
theorem line_walk_of_inLine {chars : List Char} (h : chars.all inLine = true) :
    (c.walk chars).line = c.line := by
  rw [← Cursor.jumpTo_walk c h]
  rfl

/-- A carriage return at the end leads to no other line. -/
theorem line_walk_of_ended (h : c.line = c'.line) {line line' : List Char}
    (he : Ended line line') : (c.walk line).line = (c'.walk line').line := by
  rcases he with rfl | rfl
  · exact line_walk_congr h line'
  · rw [Cursor.walk_append]
    exact line_walk_congr h line

/-- A step over the same character keeps two cursors level. -/
theorem Cursor.Level.step (h : c.Level c') (char : Char) : (c.step char).Level (c'.step char) := by
  refine ⟨line_step_congr h.line_eq char, ?_⟩
  unfold Cursor.step
  split
  · rfl
  · exact congrArg (· + 1) h.column_eq

/-- A walk over the same characters keeps two cursors level. -/
theorem Cursor.Level.walk (h : c.Level c') (chars : List Char) :
    (c.walk chars).Level (c'.walk chars) := by
  induction chars generalizing c c' with
  | nil => exact h
  | cons char chars ih => exact ih (h.step char)

/-- Behind a line break both cursors are in the first column again. -/
theorem level_step_lineBreak (h : c.line = c'.line) :
    (c.step lineBreak).Level (c'.step lineBreak) :=
  ⟨line_step_congr h lineBreak, rfl⟩

/-- Walks over a text with and without carriage returns end level, because a line break sets the
column back behind each of them. -/
theorem level_walk_withReturns (h : c.Level c') (text : List Char) :
    (c.walk text).Level (c'.walk (withReturns text)) := by
  induction text generalizing c c' with
  | nil =>
    rw [withReturns_nil]
    exact h
  | cons char text ih =>
    by_cases hb : char = lineBreak
    · subst hb
      rw [withReturns_lineBreak_cons]
      have hreturn : c.line = (c'.step '\r').line := h.line_eq
      exact ih (level_step_lineBreak hreturn)
    · rw [withReturns_cons hb]
      exact ih (h.step char)

end Cursors

/-! ## Passages -/

/-- Two passages that differ at most in offsets, in carriage returns and in the column where they
end. -/
structure Passage.Agrees (p p' : Passage) : Prop where
  kind_eq : p.kind = p'.kind
  lines_eq : p.lines.map withoutReturns = p'.lines.map withoutReturns
  start : p.start.Level p'.start
  stop_line : p.stop.line = p'.stop.line

/-- What comes of two lines is the same in this sense. -/
structure Turn.Agrees (turn turn' : Turn) : Prop where
  closed : List.Forall₂ Passage.Agrees turn.closed turn'.closed
  opened : Option.Rel Passage.Agrees turn.opened turn'.opened

namespace Passage

variable {p p' : Passage} {c c' : Cursor} {line line' : List Char}

/-- Passages without lines agree when their cursors are level. -/
theorem agrees_empty (h : c.Level c') (kind : BlockKind) : (empty kind c).Agrees (empty kind c') :=
  ⟨rfl, rfl, h, h.line_eq⟩

/-- One more line keeps two passages in agreement when the line does not differ but for a carriage
return. -/
theorem Agrees.extend (h : p.Agrees p') {line line' chars chars' : List Char}
    (hl : withoutReturns line = withoutReturns line') (hc : Ended chars chars') :
    (p.extend line chars).Agrees (p'.extend line' chars') where
  kind_eq := h.kind_eq
  lines_eq := by
    rw [lines_extend, lines_extend, List.map_append, List.map_append, h.lines_eq,
      List.map_singleton, List.map_singleton, hl]
  start := h.start
  stop_line := line_walk_of_ended h.stop_line hc

/-- Passages of one line agree when their lines do. -/
theorem agrees_begun (h : c.Level c') (kind : BlockKind) (hl : Ended line line') :
    (begun kind c line).Agrees (begun kind c' line') :=
  (agrees_empty h kind).extend hl.withoutReturns_eq hl

/-- Passages that the rest of a line opens agree when the rests do not differ but for a carriage
return. -/
theorem agrees_opening (h : c.Level c') (char : Char) {rest rest' : List Char}
    (hr : Ended rest rest') : (opening c char rest).Agrees (opening c' char rest') := by
  have hkind : BlockKind.ofContent (char :: rest) = BlockKind.ofContent (char :: rest') := by
    rcases hr with rfl | rfl
    · rfl
    · cases rest with
      | nil => simp [BlockKind.ofContent, List.isPrefixOf]
      | cons next rest => simp [BlockKind.ofContent, List.isPrefixOf]
  have hlines : withoutReturns (if char = commentMark then rest else char :: rest) =
      withoutReturns (if char = commentMark then rest' else char :: rest') := by
    split
    · exact hr.withoutReturns_eq
    · exact (hr.cons char).withoutReturns_eq
  rw [opening, opening, hkind]
  exact (agrees_empty h _).extend hlines (hr.cons char)

/-- Passages that agree are gone on with by the same lines. -/
theorem Agrees.goesOn_eq (h : p.Agrees p') (hl : Ended line line') :
    p.goesOn (lineContent line) = p'.goesOn (lineContent line') := by
  rcases hl.content_cases with ⟨hn, hn'⟩ | ⟨char, rest, rest', hc, hc'⟩
  · rw [hn, hn']
    rfl
  · rw [hc, hc', goesOn, goesOn, h.kind_eq]

/-- A line that goes on with a passage, with or without a carriage return at its end. -/
theorem Agrees.longer (h : p.Agrees p') (hl : Ended line line')
    (hg : p.goesOn (lineContent line) = true) :
    (p.extend (p.lineOf line) (lineBreak :: line)).Agrees
      (p'.extend (p'.lineOf line') (lineBreak :: line')) := by
  have hn : lineContent line ≠ [] := by
    intro hnil
    rw [hnil] at hg
    exact Bool.false_ne_true hg
  have hline : withoutReturns (p.lineOf line) = withoutReturns (p'.lineOf line') := by
    rw [lineOf, lineOf, h.kind_eq]
    split
    · exact ((hl.content hn).tail hn).withoutReturns_eq
    · exact hl.withoutReturns_eq
  exact h.extend hline (hl.cons lineBreak)

end Passage

/-! ## The outlines of both texts -/

section Outlines

variable {c c' : Cursor} {line line' : List Char}

/-- Nothing is open: by induction on the line, as one more blank at its end is passed over. -/
theorem agrees_turnAt_none (hl : Ended line line') (hc : c.Level c') :
    (turnAt none c line).Agrees (turnAt none c' line') := by
  induction line generalizing line' c c' with
  | nil =>
    have hnil : turnAt none c' line' = ⟨[], none⟩ := by
      rcases hl with rfl | rfl
      · exact turnAt_none_nil c'
      · exact (turnAt_none_cons (by decide) c' []).trans (turnAt_none_nil _)
    rw [turnAt_none_nil, hnil]
    exact ⟨.nil, .none⟩
  | cons char line ih =>
    obtain ⟨line', rfl, hrest⟩ := hl.exists_eq_cons
    cases hb : isBlank char with
    | true =>
      rw [turnAt_none_cons hb, turnAt_none_cons hb]
      exact ih hrest (hc.step char)
    | false =>
      rw [turnAt_none_of_not_isBlank hb, turnAt_none_of_not_isBlank hb]
      by_cases hm : char = keywordMark
      · subst hm
        rw [openAt_keywordMark, openAt_keywordMark]
        obtain ⟨hclosed, hopened⟩ := ih hrest (hc.step keywordMark)
        exact ⟨.cons (Passage.agrees_begun hc .marker (.inl rfl)) hclosed, hopened⟩
      · rw [openAt_of_ne hm, openAt_of_ne hm]
        exact ⟨.nil, .some (Passage.agrees_opening hc char hrest)⟩

/-- What comes of a line is the same with a carriage return at its end and without, which is the
step of the simulation. -/
theorem agrees_turnAt (hl : Ended line line') (hc : c.Level c') {opened opened' : Option Passage}
    (ho : Option.Rel Passage.Agrees opened opened') :
    (turnAt opened c line).Agrees (turnAt opened' c' line') := by
  have hnone := agrees_turnAt_none hl hc
  cases ho with
  | none => exact hnone
  | @some p p' hp =>
    cases hg : p.goesOn (lineContent line) with
    | false =>
      rw [turnAt_some_of_not_goesOn hg, turnAt_some_of_not_goesOn ((hp.goesOn_eq hl).symm.trans hg)]
      exact ⟨.cons hp hnone.closed, hnone.opened⟩
    | true =>
      rw [turnAt_some_of_goesOn hg, turnAt_some_of_goesOn ((hp.goesOn_eq hl).symm.trans hg)]
      exact ⟨.nil, .some (hp.longer hl hg)⟩

/-- Line by line the same passages come about. -/
theorem agrees_outlineFrom {lines lines' : List (List Char)} (hl : List.Forall₂ Ended lines lines')
    (hc : c.Level c') {opened opened' : Option Passage}
    (ho : Option.Rel Passage.Agrees opened opened') :
    List.Forall₂ Passage.Agrees (outlineFrom opened c lines) (outlineFrom opened' c' lines') := by
  induction hl generalizing c c' opened opened' with
  | nil =>
    cases ho with
    | none => exact .nil
    | some hp => exact .cons hp .nil
  | cons hline hl ih =>
    have hturn := agrees_turnAt hline hc ho
    rw [outlineFrom_cons, outlineFrom_cons]
    apply List.rel_append hturn.closed
    exact ih (level_step_lineBreak (line_walk_of_ended hc.line_eq hline)) hturn.opened

end Outlines

/-- The outlines of a text and of the text with carriage returns agree passage by passage, except
that an empty title may start in another column. -/
theorem agrees_outline (text : List Char) :
    ∃ title rest title' rest', outline text = title :: rest ∧
      outline (withReturns text) = title' :: rest' ∧ List.Forall₂ Passage.Agrees rest rest' ∧
      (title.Agrees title' ∨ ∃ c c' : Cursor, c.line = c'.line ∧ title = .empty .heading c ∧
        title' = .empty .heading c') := by
  have hstart : Cursor.origin.Level .origin := ⟨rfl, rfl⟩
  have hlines := forall₂_ended_linesOf text
  have hfirst := hlines
  rw [linesOf_eq text, linesOf_eq (withReturns text), List.forall₂_cons] at hfirst
  obtain ⟨hended, hmore⟩ := hfirst
  by_cases ht : LineKind.ofLine (text.takeWhile inLine) = .text
  · have hn : lineContent (text.takeWhile inLine) ≠ [] := by
      intro hnil
      rw [LineKind.ofLine, hnil] at ht
      cases ht
    have hblanks := hended.takeWhile_isBlank_eq hn
    rw [takeWhile_isBlank_takeWhile_inLine, takeWhile_isBlank_takeWhile_inLine] at hblanks
    have hopened := Passage.agrees_begun (hstart.walk (text.takeWhile isBlank)) .heading
      (hended.content hn)
    have hall := agrees_outlineFrom hmore
      (level_step_lineBreak (line_walk_of_ended hstart.line_eq hended)) (.some hopened)
    rw [← outline_of_text ht, ← hblanks, ← outline_of_text (hended.ofLine_eq.symm.trans ht)] at hall
    obtain ⟨title, rest, ho, -⟩ := exists_outline_eq_cons text
    rw [ho, List.forall₂_cons_left_iff] at hall
    obtain ⟨title', rest', htitle, hrest, ho'⟩ := hall
    exact ⟨title, rest, title', rest', ho, ho', hrest, .inl htitle⟩
  · have hn : LineKind.ofLine ((withReturns text).takeWhile inLine) ≠ .text := by
      rwa [← hended.ofLine_eq]
    have hline : (Cursor.origin.walk (text.takeWhile isBlank)).line =
        (Cursor.origin.walk ((withReturns text).takeWhile isBlank)).line := by
      rw [line_walk_of_inLine (all_inLine_takeWhile_isBlank _),
        line_walk_of_inLine (all_inLine_takeWhile_isBlank _)]
    rw [outline_of_not_text ht, outline_of_not_text hn]
    exact ⟨_, _, _, _, rfl, rfl, agrees_outlineFrom hlines hstart .none,
      .inr ⟨_, _, hline, rfl, rfl⟩⟩

end BlockScan
