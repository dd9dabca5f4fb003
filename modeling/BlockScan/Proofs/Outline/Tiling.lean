import BlockScan.Proofs.Outline.Invariant

/-!
# The outline lays out the whole text

Going through a text from a cursor on, every character is a gap or belongs to the next passage
(`Tiles`). The characters of a passage spell its lines: those of a heading, a paragraph or a block
mark are the lines joined by line breaks, and those of a comment are the same with a comment mark
in front of every line (`Passage.Spells`). The main statement is `tiles_outline`.
-/

set_option autoImplicit false

namespace BlockScan

open Charset

/-- A line of a comment without its mark, when there is one. -/
def unmarkLine? (line : List Char) : Option (List Char) :=
  match lineContent line with
  | [] => none
  | char :: rest => if char = commentMark then some rest else none

/-- The lines of a text without their comment marks, when each line has one. -/
def unmarkLines? (text : List Char) : Option (List (List Char)) := (linesOf text).mapM unmarkLine?

namespace Passage

/-- The lines of a passage are those of some text, but for the marks of a comment. -/
def Spells (p : Passage) (body : List Char) : Prop :=
  if p.kind = .comment then unmarkLines? body = some p.lines
  else body = [lineBreak].intercalate p.lines

/-- The characters of a comment spell its lines without the marks. -/
theorem spells_iff_of_comment {p : Passage} (h : p.kind = .comment) (body : List Char) :
    p.Spells body ↔ unmarkLines? body = some p.lines := by
  rw [Spells, if_pos h]

/-- The characters of any other passage are its lines joined by line breaks. -/
theorem spells_iff_of_ne_comment {p : Passage} (h : p.kind ≠ .comment) (body : List Char) :
    p.Spells body ↔ body = [lineBreak].intercalate p.lines := by
  rw [Spells, if_neg h]

end Passage

/-- The characters of a text from a cursor on are gaps and those of some passages in order. -/
inductive Tiles : Cursor → List Char → List Passage → Prop
  | done (c : Cursor) : Tiles c [] []
  | gap {c : Cursor} {char : Char} {rest : List Char} {passages : List Passage}
      (hg : isGap char = true) (h : Tiles (c.step char) rest passages) :
      Tiles c (char :: rest) passages
  | passage {p : Passage} {body rest : List Char} {passages : List Passage}
      (hstop : p.stop = p.start.walk body) (hp : p.Spells body) (h : Tiles p.stop rest passages) :
      Tiles p.start (body ++ rest) (p :: passages)

/-- Any number of gaps in front of what is laid out is laid out too. -/
theorem Tiles.gaps {c : Cursor} {gap rest : List Char} {passages : List Passage}
    (hg : gap.all isGap = true) (h : Tiles (c.walk gap) rest passages) :
    Tiles c (gap ++ rest) passages := by
  induction gap generalizing c with
  | nil => exact h
  | cons char gap ih =>
    rw [List.all_cons, Bool.and_eq_true] at hg
    exact .gap hg.1 (ih hg.2 h)

/-! ## What passages spell -/

section Spells

/-- The mark of a comment line is taken away with the blanks in front. -/
theorem unmarkLine?_eq_some {line rest : List Char} (h : lineContent line = commentMark :: rest) :
    unmarkLine? line = some rest := by
  rw [unmarkLine?, h]
  exact if_pos rfl

/-- No characters spell a passage without lines, unless it is a comment. -/
theorem spells_empty {kind : BlockKind} (h : kind ≠ .comment) (c : Cursor) :
    (Passage.empty kind c).Spells [] := by
  rw [Passage.spells_iff_of_ne_comment (p := .empty kind c) h]
  rfl

/-- A line spells the passage that was begun with it. -/
theorem spells_begun {kind : BlockKind} (h : kind ≠ .comment) (c : Cursor) (line : List Char) :
    (Passage.begun kind c line).Spells line := by
  rw [Passage.spells_iff_of_ne_comment (p := .begun kind c line) h, Passage.begun,
    Passage.lines_extend, Passage.empty, List.nil_append, List.intercalate_singleton]

/-- The rest of a line spells the passage that it opens, a comment by its mark. -/
theorem spells_opening (c : Cursor) {char : Char} {rest : List Char}
    (hl : (char :: rest).all inLine = true) :
    (Passage.opening c char rest).Spells (char :: rest) := by
  by_cases hc : char = commentMark
  · subst hc
    have hk : (Passage.opening c commentMark rest).kind = .comment :=
      BlockKind.ofContent_commentMark rest
    have hcontent : lineContent (commentMark :: rest) = commentMark :: rest :=
      lineContent_cons_of_not_isBlank isBlank_commentMark rest
    rw [Passage.spells_iff_of_comment hk, unmarkLines?, linesOf_of_inLine hl]
    simp [unmarkLine?_eq_some hcontent, Passage.opening, Passage.empty]
  · have hk : (Passage.opening c char rest).kind ≠ .comment :=
      BlockKind.ofContent_ne_comment hc rest
    rw [Passage.spells_iff_of_ne_comment hk]
    simp [Passage.opening, Passage.empty, hc]

/-- A line that goes on with a passage goes on with its text. -/
theorem spells_extend {p : Passage} {body line : List Char} (h : p.Spells body)
    (hn : p.lines ≠ []) (hl : line.all inLine = true) (hg : p.goesOn (lineContent line) = true) :
    (p.extend (p.lineOf line) (lineBreak :: line)).Spells (body ++ lineBreak :: line) := by
  by_cases hk : p.kind = .comment
  · rw [Passage.spells_iff_of_comment hk] at h
    cases hcontent : lineContent line with
    | nil => simp [hcontent, Passage.goesOn] at hg
    | cons char rest =>
      rw [hcontent, goesOn_comment hk, beq_iff_eq] at hg
      subst hg
      have hline : p.lineOf line = rest := by
        rw [Passage.lineOf, if_pos hk, hcontent, List.tail_cons]
      rw [Passage.spells_iff_of_comment (p := p.extend _ _) hk, unmarkLines?,
        linesOf_append_lineBreak_append, linesOf_of_inLine hl, List.mapM_append, ← unmarkLines?, h,
        hline]
      simp [unmarkLine?_eq_some hcontent]
  · rw [Passage.spells_iff_of_ne_comment hk] at h
    rw [Passage.spells_iff_of_ne_comment (p := p.extend _ _) hk, lineOf_of_ne_comment hk,
      Passage.lines_extend, intercalate_concat hn, List.singleton_append, ← h]

end Spells

/-! ## The outline tiles the text -/

/-- What some lines, each behind a line break, are to the outline: they are laid out when nothing
is open, and when a passage is open they are laid out together with its text. -/
structure LaidOut (lines : List (List Char)) : Prop where
  closed (c : Cursor) : Tiles c (tailText lines) (outlineFrom none (c.step lineBreak) lines)
  opened {p : Passage} (ho : p.Open) {body : List Char} (hstop : p.stop = p.start.walk body)
    (hp : p.Spells body) :
    Tiles p.start (body ++ tailText lines) (outlineFrom (some p) (p.stop.step lineBreak) lines)

variable {lines : List (List Char)}

/-- A line is laid out by the passages on it together with what lays out the lines behind it. -/
theorem tiles_openAt (h : LaidOut lines) (c : Cursor) {content : List Char}
    (hl : content.all inLine = true) :
    Tiles c (content ++ tailText lines) ((openAt c content).closed ++
      outlineFrom (openAt c content).opened ((c.walk content).step lineBreak) lines) := by
  fun_induction openAt c content with
  | case1 c => exact h.closed c
  | case2 c rest turn ih =>
    rw [List.all_cons, Bool.and_eq_true] at hl
    have htail := (ih (all_inLine_lineContent hl.2)).gaps (all_isGap_takeWhile_isBlank rest)
    rw [← List.append_assoc, ← Cursor.walk_append, takeWhile_isBlank_append_lineContent] at htail
    have hk : BlockKind.marker ≠ .comment := by decide
    have hp : (Passage.marker c).Spells [keywordMark] := spells_begun hk c _
    exact .passage rfl hp htail
  | case3 c char rest hm =>
    exact h.opened (Passage.open_opening c char rest) rfl (spells_opening c hl)

/-- A line at which nothing is open is laid out with the lines behind it, once these are. -/
theorem tiles_outlineFrom_cons (h : LaidOut lines) (c : Cursor) {line : List Char}
    (hl : line.all inLine = true) :
    Tiles c (line ++ tailText lines) (outlineFrom none c (line :: lines)) := by
  have hcontent := (tiles_openAt h (c.walk (line.takeWhile isBlank))
    (all_inLine_lineContent hl)).gaps (all_isGap_takeWhile_isBlank line)
  rwa [← List.append_assoc, ← Cursor.walk_append, takeWhile_isBlank_append_lineContent]
    at hcontent

-- By induction on the lines, both parts at once: an open passage with which the next line does not
-- go on is closed there, and then the first part speaks of the same lines.
/-- All lines are laid out, by induction on them. -/
theorem laidOut (hl : ∀ line ∈ lines, line.all inLine = true) : LaidOut lines := by
  induction lines with
  | nil =>
    refine ⟨fun c => .done c, ?_⟩
    intro p ho body hstop hp
    exact .passage hstop hp (.done _)
  | cons line lines ih =>
    rw [List.forall_mem_cons] at hl
    have ih := ih hl.2
    have hclosed : ∀ c : Cursor, Tiles c (tailText (line :: lines))
        (outlineFrom none (c.step lineBreak) (line :: lines)) := by
      intro c
      exact .gap (by decide) (tiles_outlineFrom_cons ih _ hl.1)
    refine ⟨hclosed, ?_⟩
    intro p ho body hstop hp
    cases hg : p.goesOn (lineContent line) with
    | false =>
      rw [outlineFrom_some_of_not_goesOn hg]
      exact .passage hstop hp (hclosed p.stop)
    | true =>
      have hstop' : p.stop.walk (lineBreak :: line) = p.start.walk (body ++ lineBreak :: line) := by
        rw [Cursor.walk_append, hstop]
      have hnext := ih.opened (ho.extend (p.lineOf line) (lineBreak :: line)) hstop'
        (spells_extend hp ho.lines_ne hl.1 hg)
      rw [outlineFrom_some_of_goesOn hg]
      rwa [List.append_assoc] at hnext

/-- From any cursor on, with nothing open, the outline lays out the text that comes. -/
theorem tiles_outlineFrom_none (c : Cursor) (text : List Char) :
    Tiles c text (outlineFrom none c (linesOf text)) := by
  have h := tiles_outlineFrom_cons (laidOut (forall_mem_moreLines text)) c
    (all_takeWhile_inLine text)
  rwa [takeWhile_inLine_append_tailText, ← linesOf_eq] at h

/-- Every character of a document is a gap or belongs to a passage of its outline. -/
theorem tiles_outline (text : List Char) : Tiles .origin text (outline text) := by
  have hblanks := all_isGap_takeWhile_isBlank text
  by_cases ht : LineKind.ofLine (text.takeWhile inLine) = .text
  · have ho := Passage.open_begun BlockKind.heading_ne_marker
      (Cursor.origin.walk (text.takeWhile isBlank)) (lineContent (text.takeWhile inLine))
    have hopened := (laidOut (forall_mem_moreLines text)).opened ho rfl
      (spells_begun BlockKind.heading_ne_comment _ _)
    have hall := Tiles.gaps hblanks hopened
    rw [← List.append_assoc, takeWhile_isBlank_append_firstLine,
      takeWhile_inLine_append_tailText] at hall
    rwa [outline_of_text ht, ← walk_firstLine]
  · have htail := tiles_outlineFrom_none (Cursor.origin.walk (text.takeWhile isBlank))
      (text.dropWhile isBlank)
    rw [← outlineFrom_gap hblanks, List.takeWhile_append_dropWhile] at htail
    have htitle := Tiles.passage (p := .empty .heading
      (Cursor.origin.walk (text.takeWhile isBlank))) rfl
      (spells_empty BlockKind.heading_ne_comment _) htail
    have hall := Tiles.gaps hblanks htitle
    rw [List.nil_append, List.takeWhile_append_dropWhile] at hall
    rwa [outline_of_not_text ht]

/-! ## Places that passages cover -/

/-- Whether an offset lies within a passage, the end of it left out. -/
def Passage.covers (offset : Int) (p : Passage) : Bool :=
  decide (p.start.offset ≤ offset ∧ offset < p.stop.offset)

namespace Tiles

variable {c : Cursor} {text : List Char} {passages : List Passage}

/-- Each passage is some part of the text, which spells it. -/
theorem exists_body (h : Tiles c text passages) {p : Passage} (hp : p ∈ passages) :
    ∃ before body rest, text = before ++ (body ++ rest) ∧ p.start = c.walk before ∧
      p.stop = p.start.walk body ∧ p.Spells body := by
  induction h with
  | done c => simp at hp
  | @gap c char rest passages hg h ih =>
    obtain ⟨before, body, rest', ht, hs⟩ := ih hp
    exact ⟨char :: before, body, rest', by rw [ht, List.cons_append], hs⟩
  | @passage q body rest passages hstop hq h ih =>
    rcases List.mem_cons.1 hp with rfl | hp
    · exact ⟨[], body, rest, rfl, rfl, hstop, hq⟩
    · obtain ⟨before, body', rest', ht, hs, hs'⟩ := ih hp
      refine ⟨body ++ before, body', rest', by rw [ht, List.append_assoc], ?_, hs'⟩
      rw [hs, hstop, Cursor.walk_append]

/-- No passage covers an offset before the first cursor. -/
theorem countP_covers_of_lt (h : Tiles c text passages) {offset : Int} (ho : offset < c.offset) :
    passages.countP (Passage.covers offset) = 0 := by
  rw [List.countP_eq_zero]
  intro p hp
  obtain ⟨before, body, rest, -, hs, -⟩ := h.exists_body hp
  have := c.walk_offset_le before
  rw [← hs] at this
  simp only [Passage.covers, decide_eq_true_eq]
  omega

/-- No place of the text is covered twice, and only gaps are left uncovered. -/
theorem countP_covers (h : Tiles c text passages) {i : Nat} {char : Char}
    (hi : text[i]? = some char) : passages.countP (Passage.covers (c.offset + i)) ≤ 1 ∧
      (isGap char = false → passages.countP (Passage.covers (c.offset + i)) = 1) := by
  induction h generalizing i with
  | done c => simp at hi
  | @gap c first rest passages hg h ih =>
    cases i with
    | zero =>
      rw [List.getElem?_cons_zero, Option.some.injEq] at hi
      have hlt : c.offset + (0 : Nat) < (c.step first).offset := by
        rw [Cursor.offset_step]
        omega
      rw [h.countP_covers_of_lt hlt, ← hi, hg]
      simp
    | succ i =>
      rw [List.getElem?_cons_succ] at hi
      have ho : c.offset + (i + 1 : Nat) = (c.step first).offset + i := by
        rw [Cursor.offset_step]
        omega
      rw [ho]
      exact ih hi
  | @passage p body rest passages hstop hp h ih =>
    have hlength : p.stop.offset = p.start.offset + body.length := by
      rw [hstop, Cursor.offset_walk]
    rw [List.countP_cons]
    by_cases hb : i < body.length
    · have hcovers : p.covers (p.start.offset + i) = true := by
        rw [Passage.covers, decide_eq_true_eq]
        omega
      have hlt : p.start.offset + i < p.stop.offset := by omega
      rw [hcovers, h.countP_covers_of_lt hlt]
      simp
    · have hcovers : p.covers (p.start.offset + i) = false := by
        rw [Passage.covers, decide_eq_false_iff_not]
        omega
      have ho : p.start.offset + i = p.stop.offset + (i - body.length : Nat) := by omega
      rw [List.getElem?_append_right (by omega)] at hi
      rw [hcovers, ho]
      exact ih hi

end Tiles

end BlockScan
