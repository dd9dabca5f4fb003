import BlockScan.Proofs.Outline.Blocks
import BlockScan.Scan.Options

/-!
# What all passages of an outline have in common

A passage comes about in few ways: the title, a block mark, a passage that a line opens, and an
open passage with one more line. A property that is kept by all of them holds of every passage of
every outline (`forall_mem_outline`), and a property that only the empty title may lack holds of
all passages behind the title (`forall_mem_tail_outline`). The first of these properties is that
the lines of a passage are lines, and those of a heading or paragraph are lines of text
(`sound_of_mem_outline`).
-/

set_option autoImplicit false

namespace BlockScan

open Charset

namespace Passage

/-- A property of passages that holds of them however they come about, except that the title may
have to have a line. -/
structure Grown (P : Passage → Prop) : Prop where
  titleLine (c : Cursor) {line : List Char} (hl : line.all inLine = true)
    (ht : LineKind.ofLine line = .text) : P (.begun .heading c line)
  marker (c : Cursor) : P (.marker c)
  opening (c : Cursor) {char : Char} {rest : List Char} (hl : (char :: rest).all inLine = true)
    (hb : isBlank char = false) (hm : char ≠ keywordMark) : P (.opening c char rest)
  longer {p : Passage} (hp : P p) (hk : p.kind ≠ .marker) (hn : p.lines ≠ []) {line : List Char}
    (hl : line.all inLine = true) (hg : p.goesOn (lineContent line) = true) :
    P (p.extend (p.lineOf line) (lineBreak :: line))

/-- A property of passages that holds of them however they come about. -/
structure Stable (P : Passage → Prop) : Prop extends Grown P where
  title (c : Cursor) : P (.empty .heading c)

/-- An open passage has lines and is no block mark. -/
structure Open (p : Passage) : Prop where
  kind_ne : p.kind ≠ .marker
  lines_ne : p.lines ≠ []

/-- An open passage with one more line is still open. -/
theorem Open.extend {p : Passage} (h : p.Open) (line chars : List Char) :
    (p.extend line chars).Open := ⟨h.kind_ne, by simp⟩

/-- A passage begun with a line is open unless it is a block mark. -/
theorem open_begun {kind : BlockKind} (h : kind ≠ .marker) (c : Cursor) (line : List Char) :
    (begun kind c line).Open := ⟨h, by simp [begun]⟩

/-- A passage that the rest of a line opens is open. -/
theorem open_opening (c : Cursor) (char : Char) (rest : List Char) :
    (opening c char rest).Open where
  kind_ne := by
    show BlockKind.ofContent (char :: rest) ≠ .marker
    unfold BlockKind.ofContent
    split
    · decide
    · split <;> decide
  lines_ne := by simp [opening]

end Passage

/-! ## What is open stays open -/

/-- What a line leaves open has lines and is no block mark. -/
theorem open_openAt (c : Cursor) (content : List Char) :
    ∀ p ∈ (openAt c content).opened, p.Open := by
  fun_induction openAt c content with
  | case1 c => simp
  | case2 c rest turn ih => exact ih
  | case3 c char rest hm =>
    rintro _ ⟨⟩
    exact Passage.open_opening c char rest

/-- What a line leaves open has lines and is no block mark, also when it goes on with what was
open. -/
theorem open_turnAt {opened : Option Passage} (ho : ∀ p ∈ opened, p.Open) (c : Cursor)
    (line : List Char) : ∀ p ∈ (turnAt opened c line).opened, p.Open := by
  have hfresh := open_openAt (c.walk (line.takeWhile isBlank)) (lineContent line)
  cases opened with
  | none => exact hfresh
  | some p =>
    cases hg : p.goesOn (lineContent line) with
    | false =>
      rw [turnAt_some_of_not_goesOn hg]
      exact hfresh
    | true =>
      rw [turnAt_some_of_goesOn hg]
      rintro _ ⟨⟩
      exact (ho p rfl).extend _ _

/-! ## Properties of all passages -/

/-- What comes of a line has some property. -/
structure Turn.All (P : Passage → Prop) (turn : Turn) : Prop where
  closed : ∀ p ∈ turn.closed, P p
  opened : ∀ p ∈ turn.opened, P p

section Stable

variable {P : Passage → Prop}

/-- The passages on a line have a property that is kept however passages come about. -/
theorem all_openAt (hP : Passage.Grown P) (c : Cursor) {content : List Char}
    (hl : content.all inLine = true) (hc : lineContent content = content) :
    (openAt c content).All P := by
  fun_induction openAt c content with
  | case1 c => exact ⟨by simp, by simp⟩
  | case2 c rest turn ih =>
    simp only [List.all_cons, Bool.and_eq_true] at hl
    obtain ⟨hclosed, hopened⟩ := ih (all_inLine_lineContent hl.2) (lineContent_idem rest)
    refine ⟨?_, hopened⟩
    intro p hp
    rcases List.mem_cons.1 hp with rfl | hp
    · exact hP.marker c
    · exact hclosed p hp
  | case3 c char rest hm =>
    -- a content is no longer than the line, so this one does not start with a blank
    have hb : isBlank char = false := by
      cases hb : isBlank char with
      | false => rfl
      | true =>
        have hlen := length_lineContent_le rest
        rw [lineContent_cons_of_isBlank hb] at hc
        rw [hc, List.length_cons] at hlen
        omega
    refine ⟨by simp, ?_⟩
    rintro _ ⟨⟩
    exact hP.opening c hl hb hm

/-- One more line keeps such a property, on the passages it closes and on the one it leaves open. -/
theorem all_turnAt (hP : Passage.Grown P) {opened : Option Passage} (hp : ∀ p ∈ opened, P p)
    (ho : ∀ p ∈ opened, p.Open) (c : Cursor) {line : List Char} (hl : line.all inLine = true) :
    (turnAt opened c line).All P := by
  have hfresh : (turnAt none c line).All P :=
    all_openAt hP _ (all_inLine_lineContent hl) (lineContent_idem line)
  cases opened with
  | none => exact hfresh
  | some p =>
    have hopen := ho p rfl
    cases hg : p.goesOn (lineContent line) with
    | false =>
      rw [turnAt_some_of_not_goesOn hg]
      refine ⟨?_, hfresh.opened⟩
      intro q hq
      rcases List.mem_cons.1 hq with rfl | hq
      · exact hp q rfl
      · exact hfresh.closed q hq
    | true =>
      rw [turnAt_some_of_goesOn hg]
      refine ⟨by simp, ?_⟩
      rintro _ ⟨⟩
      exact hP.longer (hp p rfl) hopen.kind_ne hopen.lines_ne hl hg

/-- Every passage of some lines has such a property, by induction on the lines. -/
theorem forall_mem_outlineFrom (hP : Passage.Grown P) {opened : Option Passage}
    (hp : ∀ p ∈ opened, P p) (ho : ∀ p ∈ opened, p.Open) (c : Cursor) {lines : List (List Char)}
    (hl : ∀ line ∈ lines, line.all inLine = true) : ∀ p ∈ outlineFrom opened c lines, P p := by
  induction lines generalizing opened c with
  | nil =>
    intro p hm
    rw [outlineFrom, Option.mem_toList] at hm
    exact hp p hm
  | cons line lines ih =>
    rw [List.forall_mem_cons] at hl
    have hturn := all_turnAt hP hp ho c hl.1
    intro p hm
    rw [outlineFrom_cons, List.mem_append] at hm
    rcases hm with hm | hm
    · exact hturn.closed p hm
    · exact ih hturn.opened (open_turnAt ho c line) _ hl.2 p hm

/-- What opens with the first line, when that is text, is the title. -/
theorem forall_mem_outline_of_text (hP : Passage.Grown P) {text : List Char}
    (ht : LineKind.ofLine (text.takeWhile inLine) = .text) : ∀ p ∈ outline text, P p := by
  have hall := all_inLine_lineContent (all_takeWhile_inLine text)
  rw [outline_of_text ht]
  apply forall_mem_outlineFrom hP
  · rintro _ ⟨⟩
    exact hP.titleLine _ hall (by rw [ofLine_lineContent, ht])
  · rintro _ ⟨⟩
    exact Passage.open_begun BlockKind.heading_ne_marker _ _
  · exact forall_mem_moreLines text

/-- A property that is kept however a passage comes about holds of all passages of a document. -/
theorem forall_mem_outline (hP : Passage.Stable P) (text : List Char) :
    ∀ p ∈ outline text, P p := by
  by_cases ht : LineKind.ofLine (text.takeWhile inLine) = .text
  · exact forall_mem_outline_of_text hP.toGrown ht
  · intro p hp
    rw [outline_of_not_text ht, List.mem_cons] at hp
    rcases hp with rfl | hp
    · exact hP.title _
    · exact forall_mem_outlineFrom hP.toGrown (by simp) (by simp) _ (forall_mem_linesOf text) p hp

/-- Behind the title no passage is empty. -/
theorem forall_mem_tail_outline (hP : Passage.Grown P) (text : List Char) :
    ∀ p ∈ (outline text).tail, P p := by
  intro p hp
  by_cases ht : LineKind.ofLine (text.takeWhile inLine) = .text
  · exact forall_mem_outline_of_text hP ht p (List.mem_of_mem_tail hp)
  · rw [outline_of_not_text ht, List.tail_cons] at hp
    exact forall_mem_outlineFrom hP (by simp) (by simp) _ (forall_mem_linesOf text) p hp

end Stable

/-! ## The lines of passages are lines -/

/-- The lines of a passage are lines, and those of a heading or paragraph are lines of text. -/
structure Passage.Sound (p : Passage) : Prop where
  inLine : ∀ line ∈ p.lines, line.all inLine = true
  isText : p.kind.isText = true → ∀ line ∈ p.lines, LineKind.ofLine line = .text

/-- A comment is no block of text. -/
theorem BlockKind.ne_comment_of_isText {kind : BlockKind} (h : kind.isText = true) :
    kind ≠ .comment := by
  rintro rfl
  exact absurd h (by decide)

/-- All passages come about with sound lines, the empty title included. -/
theorem stable_sound : Passage.Stable Passage.Sound where
  title c := ⟨by simp [Passage.empty], by simp [Passage.empty]⟩
  titleLine c line hl ht := by
    refine ⟨by simpa [Passage.begun, Passage.empty] using hl, ?_⟩
    intro _ l hm
    rw [Passage.begun, Passage.lines_extend, Passage.empty, List.nil_append,
      List.mem_singleton] at hm
    rw [hm, ht]
  marker c := by
    have hline : [keywordMark].all inLine = true := by decide
    refine ⟨by simpa [Passage.marker, Passage.begun, Passage.empty] using hline, ?_⟩
    intro ht
    exact absurd ht Bool.false_ne_true
  opening c char rest hl hb hm := by
    by_cases hc : char = commentMark
    · subst hc
      rw [List.all_cons, Bool.and_eq_true] at hl
      refine ⟨?_, ?_⟩
      · simpa [Passage.opening, Passage.empty] using hl.2
      · intro ht
        exact absurd (BlockKind.ofContent_commentMark rest) (BlockKind.ne_comment_of_isText ht)
    · refine ⟨?_, ?_⟩
      · simpa [Passage.opening, Passage.empty, hc] using hl
      · intro _ l hl'
        simp only [Passage.opening, Passage.empty, Passage.lines_extend, List.nil_append,
          if_neg hc, List.mem_singleton] at hl'
        rw [hl', LineKind.ofLine, lineContent_cons_of_not_isBlank hb]
        exact if_neg hc
  longer {p} hp hk hn line hl hg := by
    have hcontent : (lineContent line).tail.all inLine = true := by
      have hall := List.all_eq_true.1 (all_inLine_lineContent hl)
      exact List.all_eq_true.2 fun x hx => hall x (List.mem_of_mem_tail hx)
    refine ⟨?_, ?_⟩
    · intro l hm
      rw [Passage.lines_extend, List.mem_append, List.mem_singleton] at hm
      rcases hm with hm | rfl
      · exact hp.inLine l hm
      · rw [Passage.lineOf]
        split
        · exact hcontent
        · exact hl
    · intro ht l hm
      have hc : p.kind ≠ .comment := BlockKind.ne_comment_of_isText ht
      rw [Passage.lines_extend, List.mem_append, List.mem_singleton] at hm
      rcases hm with hm | rfl
      · exact hp.isText ht l hm
      · rw [goesOn_eq_isText hc, beq_iff_eq] at hg
        rw [lineOf_of_ne_comment hc, hg]

/-- The lines of every passage of a document are sound. -/
theorem sound_of_mem_outline {text : List Char} {p : Passage} (h : p ∈ outline text) : p.Sound :=
  forall_mem_outline stable_sound text p h

end BlockScan
