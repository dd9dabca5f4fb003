import Mathlib.Data.List.TakeWhile
import BlockScan.Proofs.Scan.LineFold

/-!
# Well-formed streams

Not every list of kinds and literals comes from a document. The literal of a heading or a paragraph
is made of lines of text and does not start with a blank (`GoodText`); behind the title, how it
starts also decides which of the two it belongs to (`BlockEntry`). A stream that keeps to this is
`WellFormed`, and so is everything that the fold over the lines of a document finds
(`wellFormed_pairs`): the fold stays `LineFold.State.Sound` from line to line.
-/

set_option autoImplicit false

namespace BlockScan

open Charset

/-- The kind and the literal of a token. -/
def Token.entry (t : Token) : TokenKind × String := (t.kind, t.literal)

/-- A line has a character that is no blank, and the first one of these is no comment mark. -/
def ProseLine (line : List Char) : Prop :=
  ∃ char, (line.find? fun c => !isBlank c) = some char ∧ char ≠ commentMark

/-- A text of one or more lines of prose that starts with a character that is no blank. -/
structure GoodText (text : List Char) : Prop where
  prose : ∀ line ∈ linesOf text, ProseLine line
  start : ∃ char, text.head? = some char ∧ isBlank char = false

/-- The kind and the literal of a block behind the title. -/
inductive BlockEntry : TokenKind × String → Prop
  | heading {text : String} (h : GoodText text.toList)
      (hd : [headingMark, ' '] <+: text.toList) : BlockEntry (.heading, text)
  | paragraph {text : String} (h : GoodText text.toList)
      (hd : ¬ [headingMark, ' '] <+: text.toList) (hm : text.toList.head? ≠ some keywordMark) :
      BlockEntry (.paragraph, text)
  | comment (text : String) : BlockEntry (.comment, text)
  | marker : BlockEntry (.illegal, "@")

/-- A title, which may be empty, and then any number of blocks. -/
inductive Titled : List (TokenKind × String) → Prop
  | title {text : String} (h : text = "" ∨ GoodText text.toList) : Titled [(.heading, text)]
  | block {entries : List (TokenKind × String)} {entry : TokenKind × String}
      (h : Titled entries) (hb : BlockEntry entry) : Titled (entries ++ [entry])

/-- A title, blocks, and the end of the text. -/
inductive WellFormed : List (TokenKind × String) → Prop
  | ended {entries : List (TokenKind × String)} (h : Titled entries) :
      WellFormed (entries ++ [(.eof, "")])

/-! ## Lines of prose -/

/-- Lines of prose are the lines that a block of text takes. -/
theorem proseLine_iff (line : List Char) : ProseLine line ↔ LineKind.ofLine line = .text := by
  have hfind : (line.find? fun c => !isBlank c) = (lineContent line).head? := by
    rw [List.find?_eq_head?_dropWhile_not, lineContent]
    simp only [Bool.not_not]
  unfold ProseLine LineKind.ofLine
  rw [hfind]
  cases lineContent line with
  | nil => simp
  | cons char rest => by_cases hc : char = commentMark <;> simp [hc]

/-- Prose is decided by reading the kind of the line. -/
instance (line : List Char) : Decidable (ProseLine line) :=
  decidable_of_iff _ (proseLine_iff line).symm

/-- Both parts of a good text are seen line by line and on its first character. -/
theorem goodText_iff (text : List Char) :
    GoodText text ↔ ((linesOf text).all fun line => decide (ProseLine line)) = true ∧
      (text.head?.any fun char => !isBlank char) = true := by
  constructor
  · intro h
    obtain ⟨char, hc, hb⟩ := h.start
    exact ⟨by simpa using h.prose, by simp [hc, hb]⟩
  · rintro ⟨hprose, hstart⟩
    refine ⟨by simpa using hprose, ?_⟩
    cases hh : text.head? with
    | none => simp [hh] at hstart
    | some char => exact ⟨char, rfl, by simpa [hh] using hstart⟩

/-- Whether a text is good can be told by looking at its lines and its first character. -/
instance (text : List Char) : Decidable (GoodText text) :=
  decidable_of_iff _ (goodText_iff text).symm

/-- Lines that make up a good text. -/
structure GoodLines (lines : List (List Char)) : Prop where
  ne_nil : lines ≠ []
  all_inLine : ∀ line ∈ lines, line.all inLine = true
  isText : ∀ line ∈ lines, LineKind.ofLine line = .text
  start : ∀ line ∈ lines.head?, lineContent line = line

/-- A line of text has some content. -/
theorem lineContent_ne_nil {line : List Char} (h : LineKind.ofLine line = .text) :
    lineContent line ≠ [] := by
  intro hn
  rw [LineKind.ofLine, hn] at h
  simp at h

/-- A line of text that is its own content starts with a character that is no blank. -/
theorem exists_eq_cons_of_isText {line : List Char} (h : LineKind.ofLine line = .text)
    (hc : lineContent line = line) :
    ∃ char rest, line = char :: rest ∧ isBlank char = false ∧ char ≠ commentMark := by
  cases line with
  | nil => exact absurd hc (lineContent_ne_nil h)
  | cons char rest =>
    refine ⟨char, rest, rfl, ?_, ?_⟩
    · have hn := List.head?_dropWhile_not isBlank (char :: rest)
      rw [show (char :: rest).dropWhile isBlank = char :: rest from hc] at hn
      simpa using hn
    · rintro rfl
      rw [LineKind.ofLine, hc] at h
      simp at h

/-- Content that does not begin with a comment mark is a line of text. -/
theorem ofLine_of_ne {char : Char} {rest : List Char}
    (hs : lineContent (char :: rest) = char :: rest) (hc : char ≠ commentMark) :
    LineKind.ofLine (char :: rest) = .text := by
  rw [LineKind.ofLine, hs]
  exact if_neg hc

namespace GoodLines

variable {lines : List (List Char)}

/-- The content of one line of text makes up a good text. -/
theorem singleton {line : List Char} (hl : line.all inLine = true)
    (ht : LineKind.ofLine line = .text) : GoodLines [lineContent line] where
  ne_nil := List.cons_ne_nil _ _
  all_inLine := by simpa using List.all_eq_true.1 (all_inLine_lineContent hl)
  isText := by simpa [ofLine_lineContent] using ht
  start := by simpa using lineContent_idem line

/-- One more line of text, blanks and all, keeps a text good. -/
theorem concat (h : GoodLines lines) {line : List Char} (hl : line.all inLine = true)
    (ht : LineKind.ofLine line = .text) : GoodLines (lines ++ [line]) where
  ne_nil := by simp
  all_inLine := by
    intro l hm
    rcases List.mem_append.1 hm with hm | hm
    · exact h.all_inLine l hm
    · rwa [List.mem_singleton.1 hm]
  isText := by
    intro l hm
    rcases List.mem_append.1 hm with hm | hm
    · exact h.isText l hm
    · rwa [List.mem_singleton.1 hm]
  start := by
    have hs := h.start
    cases lines with
    | nil => exact absurd rfl h.ne_nil
    | cons first rest => exact hs

/-- A good text begins with a character that is neither a blank nor a comment mark. -/
theorem exists_eq_cons (h : GoodLines lines) : ∃ char rest more,
    lines = (char :: rest) :: more ∧ isBlank char = false ∧ char ≠ commentMark := by
  cases lines with
  | nil => exact absurd rfl h.ne_nil
  | cons line more =>
    obtain ⟨char, rest, rfl, hb, hc⟩ := exists_eq_cons_of_isText
      (h.isText line (List.mem_cons_self ..)) (h.start line rfl)
    exact ⟨char, rest, more, rfl, hb, hc⟩

/-- Joined by line breaks and cut again, the lines of a good text are what they were. -/
theorem linesOf_intercalate (h : GoodLines lines) :
    linesOf ([lineBreak].intercalate lines) = lines :=
  List.splitOn_intercalate _ (fun line hm => lineBreak_not_mem (h.all_inLine line hm)) h.ne_nil

/-- Joined by line breaks, such lines make up a good text. -/
theorem goodText (h : GoodLines lines) : GoodText ([lineBreak].intercalate lines) where
  prose := by
    rw [h.linesOf_intercalate]
    intro line hm
    exact (proseLine_iff line).2 (h.isText line hm)
  start := by
    obtain ⟨char, rest, more, rfl, hb, -⟩ := h.exists_eq_cons
    exact ⟨char, by rw [intercalate_lineBreak_cons]; rfl, hb⟩

end GoodLines

/-- The lines of a good text make it up. -/
theorem GoodText.goodLines {text : List Char} (h : GoodText text) : GoodLines (linesOf text) where
  ne_nil := by simp [linesOf_eq]
  all_inLine := forall_mem_linesOf text
  isText := by
    intro line hm
    exact (proseLine_iff line).1 (h.prose line hm)
  start := by
    obtain ⟨char, hs, hb⟩ := h.start
    rw [linesOf_eq, List.head?_cons]
    rintro _ ⟨⟩
    cases text with
    | nil => simp at hs
    | cons first rest =>
      rw [List.head?_cons, Option.some.injEq] at hs
      subst hs
      rw [List.takeWhile_cons]
      split
      · exact lineContent_cons_of_not_isBlank hb _
      · rfl

/-- Whether a text starts like a heading is seen on its first line. -/
theorem headingStart_iff (line : List Char) (lines : List (List Char)) :
    [headingMark, ' '] <+: [lineBreak].intercalate (line :: lines) ↔
      [headingMark, ' '].isPrefixOf line = true := by
  have hspace : ' ' ≠ lineBreak := by decide
  have hmark : headingMark ≠ lineBreak := by decide
  rw [List.isPrefixOf_iff_prefix, intercalate_lineBreak_cons]
  constructor
  · intro h
    match line, lines with
    | first :: second :: rest, _ =>
      simpa using h
    | [first], [] => simp at h
    | [first], l :: ls => simp [hspace] at h
    | [], [] => simp at h
    | [], l :: ls => simp [hmark] at h
  · intro h
    exact h.trans (List.prefix_append _ _)

/-! ## The fold finds well-formed streams -/

namespace LineFold

/-- What is open behind the title can become a block as it is and with every line that goes on with
it. -/
inductive Draft.Sound : Draft → Prop
  | comment (lines : List (List Char)) : Sound ⟨.comment, lines⟩
  | heading {line : List Char} {lines : List (List Char)} (h : GoodLines (line :: lines))
      (hd : [headingMark, ' '].isPrefixOf line = true) : Sound ⟨.heading, line :: lines⟩
  | paragraph {line : List Char} {lines : List (List Char)} (h : GoodLines (line :: lines))
      (hd : ¬ [headingMark, ' '].isPrefixOf line = true) (hm : line.head? ≠ some keywordMark) :
      Sound ⟨.paragraph, line :: lines⟩

namespace Draft

/-- What is open behind the title can be closed as it is. -/
theorem Sound.blockEntry {d : Draft} (h : d.Sound) : BlockEntry d.pair := by
  cases h with
  | comment lines => exact .comment _
  | @heading line lines h hd =>
    refine .heading ?_ ?_
    · rw [toList_joinLines]
      exact h.goodText
    · rw [toList_joinLines]
      exact (headingStart_iff line lines).2 hd
  | @paragraph line lines h hd hm =>
    refine .paragraph ?_ ?_ ?_
    · rw [toList_joinLines]
      exact h.goodText
    · rw [toList_joinLines]
      exact mt (headingStart_iff line lines).1 hd
    · obtain ⟨char, rest, more, heq, -⟩ := h.exists_eq_cons
      rw [List.cons.injEq] at heq
      rw [heq.1] at hm
      rw [toList_joinLines, intercalate_lineBreak_cons, heq.1]
      exact hm

/-- A line of text goes on with an open heading or paragraph. -/
theorem Sound.concat {d : Draft} (h : d.Sound) (ht : d.kind.isText = true) {line : List Char}
    (hl : line.all inLine = true) (hp : LineKind.ofLine line = .text) :
    Sound ⟨d.kind, d.lines ++ [if d.lines.isEmpty then lineContent line else line]⟩ := by
  cases h with
  | comment lines => exact absurd ht Bool.false_ne_true
  | heading h hd => exact .heading (h.concat hl hp) hd
  | paragraph h hd hm => exact .paragraph (h.concat hl hp) hd hm

end Draft

namespace State

/-- What has been found is the beginning of a well-formed stream: nothing but lines of the title, or
the title and some blocks. -/
inductive Sound : State → Prop
  | title {lines : List (List Char)} (h : lines = [] ∨ GoodLines lines) :
      Sound ⟨[], some ⟨.heading, lines⟩⟩
  | behind {closed : List (TokenKind × String)} {opened : Option Draft} (hc : Titled closed)
      (ho : ∀ d ∈ opened, d.Sound) : Sound ⟨closed, opened⟩

/-- Before the first line nothing but a title without lines is open. -/
theorem sound_initial : Sound initial := .title (.inl rfl)

/-- A sound block may be open behind a title and some blocks. -/
theorem sound_some {closed : List (TokenKind × String)} {d : Draft} (hc : Titled closed)
    (hd : d.Sound) : Sound ⟨closed, some d⟩ := by
  refine .behind hc ?_
  rintro _ ⟨⟩
  exact hd

variable {st : State}

/-- Closing what is open leaves a title and some blocks. -/
theorem Sound.titled_close (h : st.Sound) : Titled st.close.closed := by
  cases h with
  | @title lines h =>
    refine .title (h.imp ?_ ?_)
    · rintro rfl
      rfl
    · intro h
      rw [toList_joinLines]
      exact h.goodText
  | @behind closed opened hc ho =>
    cases opened with
    | none =>
      rw [close, Option.map_none, Option.toList_none, List.append_nil]
      exact hc
    | some d => exact .block hc (ho d rfl).blockEntry

/-- Closing what is open keeps the fold sound, with nothing open any more. -/
theorem Sound.close (h : st.Sound) : st.close.Sound := .behind h.titled_close (by simp)

/-- A block that opens with the content of a line is sound from its first line on. -/
theorem sound_begin {closed : List (TokenKind × String)} (hc : Titled closed)
    {content : List Char} (hl : content.all inLine = true)
    (hs : lineContent content = content) : (begin closed content).Sound := by
  fun_induction begin closed content with
  | case1 closed => exact .behind hc (by simp)
  | case2 closed rest ih =>
    rw [List.all_cons, Bool.and_eq_true] at hl
    exact ih (.block hc .marker) (all_inLine_lineContent hl.2) (lineContent_idem rest)
  | case3 closed rest _ =>
    exact sound_some hc (.comment _)
  | case4 closed char rest hm hr hd =>
    exact sound_some hc (.heading (hs ▸ GoodLines.singleton hl (ofLine_of_ne hs hr)) hd)
  | case5 closed char rest hm hr hd =>
    refine sound_some hc (.paragraph (hs ▸ GoodLines.singleton hl (ofLine_of_ne hs hr)) hd ?_)
    simpa using hm

/-- A line with a comment mark leaves the title or what is open behind it, unless that is a comment
which it goes on with. -/
theorem Sound.remark (h : st.Sound) (text : List Char) : (st.remark text).Sound := by
  cases h with
  | title h =>
    exact sound_some (Sound.title h).titled_close (.comment _)
  | @behind closed opened hc ho =>
    cases opened with
    | none =>
      exact sound_some hc (.comment _)
    | some d =>
      by_cases hk : d.kind = .comment
      · simp only [State.remark, if_pos hk]
        exact sound_some hc (.comment _)
      · simp only [State.remark, if_neg hk]
        exact sound_some (Sound.behind hc ho).titled_close (.comment _)

/-- A line of text goes on with the title or with a block of text, and begins anew otherwise. -/
theorem Sound.prose (h : st.Sound) {line : List Char} (hl : line.all inLine = true)
    (ht : LineKind.ofLine line = .text) : (st.prose line).Sound := by
  have hcontent := all_inLine_lineContent hl
  cases h with
  | @title lines h =>
    refine .title (.inr ?_)
    rcases h with rfl | h
    · exact GoodLines.singleton hl ht
    · have hne : lines.isEmpty = false := by simpa using h.ne_nil
      simp only [hne, Bool.false_eq_true, if_false]
      exact h.concat hl ht
  | @behind closed opened hc ho =>
    cases opened with
    | none => exact sound_begin hc hcontent (lineContent_idem line)
    | some d =>
      by_cases hk : d.kind.isText = true
      · simp only [State.prose, if_pos hk]
        exact sound_some hc ((ho d rfl).concat hk hl ht)
      · simp only [State.prose, if_neg hk]
        exact sound_begin (Sound.behind hc ho).titled_close hcontent (lineContent_idem line)

end State

/-- One more line keeps the fold on the way to a well-formed stream. -/
theorem State.Sound.step {st : State} (h : st.Sound) {line : List Char}
    (hl : line.all inLine = true) : (step st line).Sound := by
  unfold LineFold.step
  cases hc : lineContent line with
  | nil => exact h.close
  | cons char rest =>
    by_cases hr : char = commentMark
    · simp only [if_pos hr]
      exact h.remark rest
    · simp only [if_neg hr]
      refine h.prose hl ?_
      rw [LineKind.ofLine, hc]
      exact if_neg hr

/-- The fold stays sound over any number of lines, one step at a time. -/
theorem State.Sound.foldl {lines : List (List Char)} (hl : ∀ line ∈ lines, line.all inLine = true)
    {st : State} (h : st.Sound) : (lines.foldl LineFold.step st).Sound := by
  induction lines generalizing st with
  | nil => exact h
  | cons line lines ih =>
    rw [List.forall_mem_cons] at hl
    exact ih hl.2 (h.step hl.1)

/-- What the fold finds in a document is a well-formed stream. -/
theorem wellFormed_pairs (text : List Char) : WellFormed (pairs text) :=
  .ended (State.sound_initial.foldl (forall_mem_linesOf text)).titled_close

end LineFold

end BlockScan
