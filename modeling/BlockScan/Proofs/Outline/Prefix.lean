import Mathlib.Data.List.TakeWhile
import BlockScan.Proofs.Outline.Extent

/-!
# Outlines of texts that begin alike

When two texts have a beginning in common, only the passage that is open at the end of this
beginning can turn out differently, because the texts may go on with it differently. It still
starts at the same place, and all passages before it are the same in both outlines. This is
`settles_outline`; it does not matter whether the common beginning ends inside a line, though such
a line is different in the two texts.
-/

set_option autoImplicit false

namespace BlockScan

open Charset

/-- The first of some passages starts at a cursor, and no other starts before an offset. -/
def Leads (bound : Int) (start : Cursor) (passages : List Passage) : Prop :=
  ∃ p rest, passages = p :: rest ∧ p.start = start ∧ ∀ q ∈ rest, bound ≤ q.start.offset

/-- Two lists of passages are the same as far as passages start before an offset, except that the
last of these may be another one that starts at the same place. -/
inductive Settles (bound : Int) : List Passage → List Passage → Prop
  | later {ps qs : List Passage} (hp : ∀ p ∈ ps, bound ≤ p.start.offset)
      (hq : ∀ q ∈ qs, bound ≤ q.start.offset) : Settles bound ps qs
  | last {start : Cursor} {ps qs : List Passage} (hp : Leads bound start ps)
      (hq : Leads bound start qs) : Settles bound ps qs
  | cons (p : Passage) {ps qs : List Passage} (h : Settles bound ps qs) :
      Settles bound (p :: ps) (p :: qs)

/-! ## Where passages start -/

section Starts

variable {bound : Int} {c : Cursor}

/-- An open passage comes first, and the others start behind the cursor. -/
theorem leads_outlineFrom {lines : List (List Char)} (hl : ∀ line ∈ lines, line.all inLine = true)
    (hc : bound ≤ c.offset) (p : Passage) :
    Leads bound p.start (outlineFrom (some p) c lines) := by
  induction lines generalizing p c with
  | nil => exact ⟨p, [], rfl, rfl, by simp⟩
  | cons line lines ih =>
    rw [List.forall_mem_cons] at hl
    cases hg : p.goesOn (lineContent line) with
    | false =>
      rw [outlineFrom_some_of_not_goesOn hg]
      refine ⟨p, _, rfl, rfl, ?_⟩
      intro q hq
      have hstart := ((tiles_outlineFrom_cons (laidOut hl.2) c hl.1).bounds hq).1
      omega
    | true =>
      rw [outlineFrom_some_of_goesOn hg]
      apply ih hl.2
      rw [Cursor.offset_step, Cursor.offset_walk]
      omega

/-- When no passage is open, none of those that follow starts before the cursor. -/
theorem le_start_of_mem_outlineFrom (hc : bound ≤ c.offset) (text : List Char) :
    ∀ p ∈ outlineFrom none c (linesOf text), bound ≤ p.start.offset := by
  intro p hp
  have hstart := ((tiles_outlineFrom_none c text).bounds hp).1
  omega

end Starts

/-! ## From a cursor on -/

/-- A text stays within a line, or it has a first line that ends. -/
theorem inLine_or_exists_line (text : List Char) : text.all inLine = true ∨
    ∃ line later, line.all inLine = true ∧ text = line ++ lineBreak :: later := by
  have hl := all_takeWhile_inLine text
  rcases exists_eq_line text with ⟨ht, -⟩ | ⟨later, ht, -⟩
  · rw [← ht] at hl
    exact .inl hl
  · exact .inr ⟨_, later, hl, ht⟩

/-- A text with a line break after a line has that line first, whatever comes behind. -/
theorem lines_of_break {line : List Char} (hl : line.all inLine = true) (later rest : List Char) :
    (line ++ lineBreak :: later ++ rest).takeWhile inLine = line ∧
      moreLines (line ++ lineBreak :: later ++ rest) = linesOf (later ++ rest) := by
  have hlines := linesOf_append_lineBreak hl (later ++ rest)
  rw [linesOf_eq (line ++ _), List.cons.injEq] at hlines
  rwa [List.append_assoc]

/-- When an open passage is followed by blanks, it comes first and the others start behind the
blanks, whether or not the line goes on with it. -/
theorem leads_of_blanks {blanks : List Char} (hb : lineContent blanks = [])
    (hl : blanks.all inLine = true) (p : Passage) (c : Cursor) (rest : List Char) :
    Leads (c.offset + blanks.length) p.start
      (outlineFrom (some p) c (linesOf (blanks ++ rest))) := by
  have hgap : blanks.all isGap = true := by
    apply all_isGap_of_all_isBlank
    rw [List.all_eq_true]
    exact List.dropWhile_eq_nil_iff.1 hb
  have hfresh := outlineFrom_gap hgap c rest
  rw [linesOf_append_of_inLine hl] at hfresh ⊢
  cases hg : p.goesOn (lineContent (blanks ++ rest.takeWhile inLine)) with
  | false =>
    rw [outlineFrom_some_of_not_goesOn hg, hfresh]
    refine ⟨p, _, rfl, rfl, ?_⟩
    apply le_start_of_mem_outlineFrom
    exact Int.le_of_eq (Cursor.offset_walk c blanks).symm
  | true =>
    rw [outlineFrom_some_of_goesOn hg]
    apply leads_outlineFrom (forall_mem_moreLines rest)
    rw [Cursor.offset_step, Cursor.offset_walk, List.length_append]
    omega

/-- What it means for the outlines of two texts that they begin alike, whether or not a passage is
open at their beginning. -/
structure Alike (x y front : List Char) : Prop where
  closed (c : Cursor) : Settles (c.offset + front.length)
    (outlineFrom none c (linesOf (front ++ x))) (outlineFrom none c (linesOf (front ++ y)))
  opened (p : Passage) (c : Cursor) : Settles (c.offset + front.length)
    (outlineFrom (some p) c (linesOf (front ++ x))) (outlineFrom (some p) c (linesOf (front ++ y)))

section Alike

variable {x y front : List Char}

/-- Nothing is open: the next character is passed over, or is a block mark, or opens a passage with
the rest of its line. -/
theorem settles_closed (ih : ∀ later : List Char, later.length < front.length → Alike x y later)
    (c : Cursor) : Settles (c.offset + front.length) (outlineFrom none c (linesOf (front ++ x)))
      (outlineFrom none c (linesOf (front ++ y))) := by
  cases front with
  | nil =>
    have hc : c.offset + ([] : List Char).length ≤ c.offset := by simp
    exact .later (le_start_of_mem_outlineFrom hc _) (le_start_of_mem_outlineFrom hc _)
  | cons char front =>
    have hstep : c.offset + (char :: front).length = (c.step char).offset + front.length := by
      rw [Cursor.offset_step, List.length_cons]
      omega
    have hnext := (ih front (by simp)).closed (c.step char)
    rw [← hstep] at hnext
    rw [List.cons_append, List.cons_append]
    by_cases hm : char = keywordMark
    · subst hm
      rw [outlineFrom_keywordMark, outlineFrom_keywordMark]
      exact .cons _ hnext
    cases hg : isGap char with
    | true =>
      have hgap : [char].all isGap = true := by simp [hg]
      have hpass : ∀ rest, outlineFrom none c (linesOf (char :: rest)) =
          outlineFrom none (c.step char) (linesOf rest) := fun rest => outlineFrom_gap hgap c rest
      rwa [hpass, hpass]
    | false =>
      rw [outlineFrom_opening hg hm, outlineFrom_opening hg hm]
      -- the passage that opens here starts at the same place, but its first line may be cut off
      rcases inLine_or_exists_line front with hl | ⟨line, later, hl, rfl⟩
      · have hleads : ∀ rest : List Char, Leads (c.offset + (char :: front).length) c
            (outlineFrom (some (.opening c char ((front ++ rest).takeWhile inLine)))
              ((c.walk (char :: (front ++ rest).takeWhile inLine)).step lineBreak)
              (moreLines (front ++ rest))) := by
          intro rest
          apply leads_outlineFrom (forall_mem_moreLines _)
          rw [Cursor.offset_step, Cursor.offset_walk, takeWhile_inLine_append hl]
          simp only [List.length_cons, List.length_append]
          omega
        exact .last (hleads x) (hleads y)
      · have hlines := lines_of_break hl later
        have hend : c.offset + (char :: (line ++ lineBreak :: later)).length =
            ((c.walk (char :: line)).step lineBreak).offset + later.length := by
          rw [Cursor.offset_step, Cursor.offset_walk]
          simp only [List.length_cons, List.length_append]
          omega
        have hlater := (ih later (by simp; omega)).opened (.opening c char line)
          ((c.walk (char :: line)).step lineBreak)
        rwa [(hlines x).1, (hlines y).1, (hlines x).2, (hlines y).2, hend]

/-- A passage is open: it is told from the first line whether this line goes on with it, as soon as
this line has a character that is no blank, or ends. -/
theorem settles_opened (ih : ∀ later : List Char, later.length < front.length → Alike x y later)
    (p : Passage) (c : Cursor) :
    Settles (c.offset + front.length) (outlineFrom (some p) c (linesOf (front ++ x)))
      (outlineFrom (some p) c (linesOf (front ++ y))) := by
  have hclosed := settles_closed ih c
  rcases inLine_or_exists_line front with hl | ⟨line, later, hl, rfl⟩
  · -- the first line is cut off: while it is blank, the two texts may go on with it differently
    by_cases hb : lineContent front = []
    · exact .last (leads_of_blanks hb hl p c x) (leads_of_blanks hb hl p c y)
    obtain ⟨char, line, hcontent⟩ := List.exists_cons_of_ne_nil hb
    have hgoes : ∀ rest : List Char, p.goesOn (lineContent (front ++ rest)) =
        p.goesOn (lineContent front) := by
      intro rest
      rw [lineContent_append hb, hcontent]
      rfl
    rw [linesOf_append_of_inLine hl, linesOf_append_of_inLine hl] at hclosed ⊢
    cases hg : p.goesOn (lineContent front) with
    | false =>
      rw [outlineFrom_some_of_not_goesOn ((hgoes _).trans hg),
        outlineFrom_some_of_not_goesOn ((hgoes _).trans hg)]
      exact .cons p hclosed
    | true =>
      rw [outlineFrom_some_of_goesOn ((hgoes _).trans hg),
        outlineFrom_some_of_goesOn ((hgoes _).trans hg)]
      have hbound : ∀ rest : List Char, c.offset + front.length ≤
          ((c.walk (front ++ rest)).step lineBreak).offset := by
        intro rest
        rw [Cursor.offset_step, Cursor.offset_walk, List.length_append]
        omega
      exact .last (leads_outlineFrom (forall_mem_moreLines x) (hbound _) _)
        (leads_outlineFrom (forall_mem_moreLines y) (hbound _) _)
  · have hlines : ∀ rest : List Char, linesOf (line ++ lineBreak :: later ++ rest) =
        line :: linesOf (later ++ rest) := by
      intro rest
      rw [linesOf_eq, (lines_of_break hl later rest).1, (lines_of_break hl later rest).2]
    have hend : c.offset + (line ++ lineBreak :: later).length =
        ((c.walk line).step lineBreak).offset + later.length := by
      rw [Cursor.offset_step, Cursor.offset_walk]
      simp only [List.length_cons, List.length_append]
      omega
    rw [hlines, hlines] at hclosed ⊢
    cases hg : p.goesOn (lineContent line) with
    | false =>
      rw [outlineFrom_some_of_not_goesOn hg, outlineFrom_some_of_not_goesOn hg]
      exact .cons p hclosed
    | true =>
      rw [outlineFrom_some_of_goesOn hg, outlineFrom_some_of_goesOn hg, hend]
      exact (ih later (by simp; omega)).opened _ _

end Alike

/-- Texts that begin alike have outlines that do, by induction on the length of the common
beginning. -/
theorem alike (x y front : List Char) : Alike x y front := by
  have ih : ∀ later : List Char, later.length < front.length → Alike x y later := by
    intro later _
    exact alike x y later
  exact ⟨settles_closed ih, settles_opened ih⟩
termination_by front.length

/-! ## The whole outline -/

section Title

/-- The beginning of a text that stays within its first line and is not blank tells where the
content of this line starts, and of which kind it is. -/
theorem first_line_of_content {front : List Char} (hl : front.all inLine = true)
    (hb : lineContent front ≠ []) (rest : List Char) :
    (front ++ rest).takeWhile isBlank = front.takeWhile isBlank ∧
      LineKind.ofLine ((front ++ rest).takeWhile inLine) = LineKind.ofLine front := by
  refine ⟨takeWhile_isBlank_append hb rest, ?_⟩
  obtain ⟨char, line, hc⟩ := List.exists_cons_of_ne_nil hb
  rw [takeWhile_inLine_append hl, LineKind.ofLine, LineKind.ofLine, lineContent_append hb, hc]
  rfl

/-- When a text begins with blanks, all its passages start behind them. -/
theorem le_start_of_mem_outline {blanks : List Char} (hb : lineContent blanks = [])
    (rest : List Char) :
    ∀ p ∈ outline (blanks ++ rest), (blanks.length : Int) ≤ p.start.offset := by
  have hblank : ∀ char ∈ blanks, isBlank char = true := List.dropWhile_eq_nil_iff.1 hb
  have hall := List.all_eq_true.2 hblank
  have hinLine := all_inLine_of_all_isBlank hall
  have htitle : (blanks.length : Int) ≤
      (Cursor.origin.walk ((blanks ++ rest).takeWhile isBlank)).offset := by
    rw [List.takeWhile_append_of_pos hblank, walk_origin, List.length_append]
    push_cast
    omega
  by_cases ht : LineKind.ofLine ((blanks ++ rest).takeWhile inLine) = .text
  · have hbound : (blanks.length : Int) ≤
        ((Cursor.origin.walk ((blanks ++ rest).takeWhile inLine)).step lineBreak).offset := by
      rw [takeWhile_inLine_append hinLine, Cursor.offset_step, walk_origin, List.length_append]
      push_cast
      omega
    obtain ⟨p, later, ho, hp, hlater⟩ := leads_outlineFrom (forall_mem_moreLines _) hbound
      (.begun .heading (Cursor.origin.walk ((blanks ++ rest).takeWhile isBlank))
        (lineContent ((blanks ++ rest).takeWhile inLine)))
    rw [outline_of_text ht, ho, List.forall_mem_cons, hp]
    exact ⟨htitle, hlater⟩
  · have hbound : (blanks.length : Int) ≤ (Cursor.origin.walk blanks).offset :=
      Int.le_of_eq (by rw [walk_origin])
    rw [outline_of_not_text ht, outlineFrom_gap (all_isGap_of_all_isBlank hall),
      List.forall_mem_cons]
    exact ⟨htitle, le_start_of_mem_outlineFrom hbound rest⟩

/-- Two texts that begin alike have the same passages, as far as these have settled. -/
theorem settles_outline (front x y : List Char) :
    Settles front.length (outline (front ++ x)) (outline (front ++ y)) := by
  have horigin : Cursor.origin.offset + front.length = front.length := by
    rw [Cursor.origin, Int.zero_add]
  have hclosed := (alike x y front).closed .origin
  rw [horigin] at hclosed
  rcases inLine_or_exists_line front with hl | ⟨line, later, hl, rfl⟩
  · by_cases hb : lineContent front = []
    · exact .later (le_start_of_mem_outline hb x) (le_start_of_mem_outline hb y)
    have hfirst := first_line_of_content hl hb
    by_cases ht : LineKind.ofLine front = .text
    · have hleads : ∀ rest : List Char, Leads front.length
          (Cursor.origin.walk (front.takeWhile isBlank)) (outline (front ++ rest)) := by
        intro rest
        rw [outline_of_text ((hfirst rest).2.trans ht), (hfirst rest).1]
        apply leads_outlineFrom (forall_mem_moreLines _)
        rw [takeWhile_inLine_append hl, Cursor.offset_step, walk_origin, List.length_append]
        push_cast
        omega
      exact .last (hleads x) (hleads y)
    · have hempty : ∀ rest : List Char, outline (front ++ rest) =
          .empty .heading (Cursor.origin.walk (front.takeWhile isBlank)) ::
            outlineFrom none .origin (linesOf (front ++ rest)) := by
        intro rest
        have hn := ht
        rw [← (hfirst rest).2] at hn
        rw [outline_of_not_text hn, (hfirst rest).1]
      rw [hempty, hempty]
      exact .cons _ hclosed
  · have hlines := lines_of_break hl later
    have hblanks : ∀ rest : List Char,
        (line ++ lineBreak :: later ++ rest).takeWhile isBlank = line.takeWhile isBlank := by
      intro rest
      rw [← takeWhile_isBlank_takeWhile_inLine, (hlines rest).1]
    by_cases ht : LineKind.ofLine line = .text
    · have hopened := (alike x y later).opened
        (.begun .heading (Cursor.origin.walk (line.takeWhile isBlank)) (lineContent line))
        ((Cursor.origin.walk line).step lineBreak)
      have hend : ((Cursor.origin.walk line).step lineBreak).offset + later.length =
          (line ++ lineBreak :: later).length := by
        rw [Cursor.offset_step, walk_origin, List.length_append, List.length_cons]
        push_cast
        omega
      rw [hend] at hopened
      have htitled : ∀ rest : List Char, outline (line ++ lineBreak :: later ++ rest) =
          outlineFrom (some (.begun .heading (Cursor.origin.walk (line.takeWhile isBlank))
            (lineContent line))) ((Cursor.origin.walk line).step lineBreak)
            (linesOf (later ++ rest)) := by
        intro rest
        rw [outline_of_text (by rwa [(hlines rest).1]), (hlines rest).1, (hlines rest).2, hblanks]
      rwa [htitled, htitled]
    · have hempty : ∀ rest : List Char, outline (line ++ lineBreak :: later ++ rest) =
          .empty .heading (Cursor.origin.walk (line.takeWhile isBlank)) ::
            outlineFrom none .origin (linesOf (line ++ lineBreak :: later ++ rest)) := by
        intro rest
        rw [outline_of_not_text (by rwa [(hlines rest).1]), hblanks]
      rw [hempty, hempty]
      exact .cons _ hclosed

end Title

end BlockScan
