import BlockScan.Proofs.Outline.Tiling

/-!
# What stands between two passages

A passage of text or a comment ends at a line break, because the next line does not go on with it:
that line is blank, or it has a comment mark where the passage is no comment, or none where it is
one. So the next passage comes behind a blank line, unless just one of the two is a comment
(`Parts`). Where it begins, its first characters tell its kind (`BlockKind.Begins`). Both hold all
through an outline: this is `setApart_outline`.
-/

set_option autoImplicit false

namespace BlockScan

open Charset

/-! ## Where a passage begins -/

/-- What stands where a block of a kind begins: a character that is no gap, and the marks of the
kind. -/
structure BlockKind.Begins (kind : BlockKind) (text : List Char) : Prop where
  visible : ∃ char rest, text = char :: rest ∧ isGap char = false
  heading_iff : kind = .heading ↔ [headingMark, ' '] <+: text
  comment_iff : kind = .comment ↔ [commentMark] <+: text
  marker_iff : kind = .marker ↔ [keywordMark] <+: text

/-- A block mark begins at its character, whatever follows. -/
theorem BlockKind.begins_marker (rest : List Char) :
    BlockKind.marker.Begins (keywordMark :: rest) where
  visible := ⟨keywordMark, rest, rfl, by decide⟩
  heading_iff := by simp [headingMark, keywordMark]
  comment_iff := by simp [commentMark, keywordMark]
  marker_iff := by simp

/-- A comment opens exactly at a comment mark. -/
theorem BlockKind.ofContent_eq_comment_iff (char : Char) (rest : List Char) :
    BlockKind.ofContent (char :: rest) = .comment ↔ char = commentMark := by
  constructor
  · intro h
    apply Decidable.byContradiction
    intro hc
    exact BlockKind.ofContent_ne_comment hc rest h
  · rintro rfl
    exact BlockKind.ofContent_commentMark rest

/-- The kind of a passage that opens with a line is told by what stands in the text at its
beginning. -/
theorem BlockKind.begins_ofContent {char : Char} (hg : isGap char = false)
    (hm : char ≠ keywordMark) (rest : List Char) :
    (BlockKind.ofContent (char :: rest.takeWhile inLine)).Begins (char :: rest) where
  visible := ⟨char, rest, rfl, hg⟩
  heading_iff := by
    rw [ofContent_eq_heading_iff, List.cons_prefix_cons, eq_comm]
    cases rest with
    | nil => simp
    | cons next rest => simp [eq_comm]
  comment_iff := by
    rw [ofContent_eq_comment_iff, List.cons_prefix_cons, eq_comm]
    simp
  marker_iff := by
    rw [List.cons_prefix_cons]
    apply iff_of_false
    · exact (Passage.open_opening .origin char (rest.takeWhile inLine)).kind_ne
    · rintro ⟨rfl, -⟩
      exact hm rfl

/-! ## What has to stand between two passages -/

namespace Passage

/-- A passage that may end anywhere in a line: a block mark, or a title without lines. -/
def Loose (p : Passage) : Prop := p.kind = .marker ∨ p.kind = .heading ∧ p.lines = []

/-- Some characters set a passage apart from one of another kind behind it: there is a line break
right behind the first one, and a second one when both are comments or neither is. -/
def Parts (p : Passage) (gap : List Char) (kind : BlockKind) : Prop :=
  p.Loose ∨ gap.head? = some lineBreak ∧
    (2 ≤ gap.count lineBreak ∨ (kind = .comment ↔ p.kind ≠ .comment))

/-- Whatever passage comes next in a text, some characters set it apart from the last one. -/
def Ready (p : Passage) (gap text : List Char) : Prop :=
  p.Loose ∨ gap.head? = some lineBreak ∧
    (2 ≤ gap.count lineBreak ∨ p.goesOn (lineContent (text.takeWhile inLine)) = false)

variable {p : Passage} {gap text : List Char}

/-- One more gap keeps whatever comes next set apart. -/
theorem Ready.step {char : Char} (h : p.Ready gap (char :: text)) (hg : isGap char = true) :
    p.Ready (gap ++ [char]) text := by
  rcases h with h | ⟨hhead, h⟩
  · exact .inl h
  right
  obtain ⟨later, rfl⟩ : ∃ later, gap = lineBreak :: later := List.head?_eq_some_iff.1 hhead
  refine ⟨rfl, ?_⟩
  rw [List.count_append]
  by_cases hb : char = lineBreak
  · left
    rw [hb, List.count_cons_self, List.count_singleton_self]
    omega
  · rcases h with h | h
    · exact .inl (Nat.le_add_right_of_le h)
    · right
      have hl : inLine char = true := by simpa [inLine] using hb
      have hblank : isBlank char = true := by simpa [isGap_eq, hl] using hg
      rwa [List.takeWhile_cons_of_pos hl, lineContent_cons_of_isBlank hblank] at h

/-- At the next character that is no gap, what stands in between sets apart whatever opens there. -/
theorem Ready.parts {char : Char} (h : p.Ready gap (char :: text)) (hg : isGap char = false)
    {kind : BlockKind} (hk : kind = .comment ↔ char = commentMark) : p.Parts gap kind := by
  rcases h with h | ⟨hhead, h⟩
  · exact .inl h
  refine .inr ⟨hhead, ?_⟩
  rcases h with h | h
  · exact .inl h
  right
  rw [isGap_eq, Bool.or_eq_false_iff, Bool.not_eq_false'] at hg
  rw [List.takeWhile_cons_of_pos hg.2, lineContent_cons_of_not_isBlank hg.1, goesOn] at h
  rw [hk]
  by_cases hc : char = commentMark
  · simpa [hc] using h
  · simpa [hc] using h

end Passage

/-- Behind a passage and some characters, the rest of a text is laid out in passages that begin as
they should and are set apart from one another. -/
inductive SetApart : Passage → List Char → List Char → List Passage → Prop
  | done (p : Passage) (gap : List Char) : SetApart p gap [] []
  | gap {p : Passage} {gap : List Char} {char : Char} {rest : List Char} {passages : List Passage}
      (h : SetApart p (gap ++ [char]) rest passages) : SetApart p gap (char :: rest) passages
  | passage {p q : Passage} {gap body rest : List Char} {passages : List Passage}
      (hstart : q.start = p.stop.walk gap) (hstop : q.stop = q.start.walk body)
      (hparts : p.Parts gap q.kind) (hbegins : q.kind.Begins (body ++ rest))
      (h : SetApart q [] rest passages) : SetApart p gap (body ++ rest) (q :: passages)

/-- The first one of some passages comes of an open passage, and the others are set apart in the
rest of the text behind it. -/
def Continues (p : Passage) (text : List Char) (passages : List Passage) : Prop :=
  ∃ q rest more later, passages = q :: rest ∧ q.kind = p.kind ∧ q.start = p.start ∧
    text = more ++ later ∧ q.stop = p.stop.walk more ∧ SetApart q [] later rest

/-! ## The outline sets passages apart -/

/-- The passages of a text are set apart, whether or not one is open at its beginning; an open one
is followed by the end of its line. -/
structure Separated (text : List Char) : Prop where
  closed {p : Passage} {gap : List Char} (h : p.Ready gap text) :
    SetApart p gap text (outlineFrom none (p.stop.walk gap) (linesOf text))
  opened (p : Passage) : Continues p (text.dropWhile inLine)
    (outlineFrom (some p) (p.stop.step lineBreak) (moreLines text))

section Separated

variable {text : List Char}

/-- Nothing is open: the next character is passed over, or is a block mark, or opens a passage with
the rest of its line. -/
theorem setApart_closed (ih : ∀ later : List Char, later.length < text.length → Separated later)
    {p : Passage} {gap : List Char} (h : p.Ready gap text) :
    SetApart p gap text (outlineFrom none (p.stop.walk gap) (linesOf text)) := by
  cases text with
  | nil =>
    rw [outlineFrom_none_nil]
    exact .done p gap
  | cons char rest =>
    have hrest := ih rest (by simp)
    cases hg : isGap char with
    | true =>
      have hgap : [char].all isGap = true := by simp [hg]
      have hnext := hrest.closed (h.step hg)
      rw [Cursor.walk_append, ← outlineFrom_gap hgap] at hnext
      exact .gap hnext
    | false =>
      by_cases hm : char = keywordMark
      · subst hm
        have hready : (Passage.marker (p.stop.walk gap)).Ready [] rest := .inl (.inl rfl)
        have hmarks : BlockKind.marker = .comment ↔ keywordMark = commentMark := by decide
        have hnext := SetApart.passage rfl rfl (h.parts hg hmarks) (BlockKind.begins_marker rest)
          (hrest.closed hready)
        rwa [outlineFrom_keywordMark]
      · obtain ⟨q, passages, more, later, ho, hkind, hstart, hmore, hstop, hlater⟩ :=
          hrest.opened (.opening (p.stop.walk gap) char (rest.takeWhile inLine))
        have hbody : char :: rest = (char :: rest.takeWhile inLine ++ more) ++ later := by
          rw [List.append_assoc, ← hmore, List.cons_append, List.takeWhile_append_dropWhile]
        have hopened := (outlineFrom_opening hg hm (p.stop.walk gap) rest).trans ho
        rw [hopened, hbody]
        refine .passage hstart ?_ ?_ ?_ hlater
        · rw [hstop, hstart, Cursor.walk_append]
          rfl
        · rw [hkind]
          exact h.parts hg (BlockKind.ofContent_eq_comment_iff char (rest.takeWhile inLine))
        · rw [hkind, ← hbody]
          exact BlockKind.begins_ofContent hg hm rest

/-- A passage is open: the next line goes on with it, or it ends where its last line does. -/
theorem continues_opened (ih : ∀ later : List Char, later.length < text.length → Separated later)
    (p : Passage) : Continues p (text.dropWhile inLine)
      (outlineFrom (some p) (p.stop.step lineBreak) (moreLines text)) := by
  rw [moreLines]
  rcases dropWhile_inLine text with hd | ⟨later, hd⟩
  · rw [hd]
    exact ⟨p, [], [], [], rfl, rfl, rfl, rfl, rfl, .done p []⟩
  have hlength : later.length < text.length := by
    have hle := (List.dropWhile_sublist inLine (l := text)).length_le
    rw [hd, List.length_cons] at hle
    omega
  have hlater := ih later hlength
  rw [hd]
  cases hg : p.goesOn (lineContent (later.takeWhile inLine)) with
  | false =>
    have hready : p.Ready [lineBreak] later := .inr ⟨rfl, .inr hg⟩
    refine ⟨p, _, [], lineBreak :: later, ?_, rfl, rfl, rfl, rfl, .gap (hlater.closed hready)⟩
    simp only [linesOf_eq later]
    exact outlineFrom_some_of_not_goesOn hg _ _
  | true =>
    obtain ⟨q, passages, more, rest, ho, hkind, hstart, hmore, hstop, hrest⟩ :=
      hlater.opened (p.extend (p.lineOf (later.takeWhile inLine))
        (lineBreak :: later.takeWhile inLine))
    refine ⟨q, passages, lineBreak :: later.takeWhile inLine ++ more, rest, ?_, hkind, hstart,
      ?_, ?_, hrest⟩
    · simp only [linesOf_eq later]
      rw [outlineFrom_some_of_goesOn hg]
      exact ho
    · rw [List.append_assoc, ← hmore, List.cons_append, List.takeWhile_append_dropWhile]
    · rw [hstop, Cursor.walk_append]
      rfl

end Separated

/-- The passages of every text are set apart: induction on its length, because a line may hold
several block marks. -/
theorem separated (text : List Char) : Separated text := by
  have ih : ∀ later : List Char, later.length < text.length → Separated later := by
    intro later _
    exact separated later
  exact ⟨setApart_closed ih, continues_opened ih⟩
termination_by text.length

/-- What stands in a text between two passages sets them apart, and the second one begins behind
it. -/
def Passage.Adjoins (c : Cursor) (text : List Char) (p q : Passage) : Prop :=
  ∃ before gap rest, text = before ++ (gap ++ rest) ∧ p.stop = c.walk before ∧
    q.start = p.stop.walk gap ∧ p.Parts gap q.kind ∧ q.kind.Begins rest

/-- In passages that are set apart, every two neighbours have between them what sets them apart. -/
theorem SetApart.adjoins {c : Cursor} {text before gap later : List Char} {p : Passage}
    {passages : List Passage} (h : SetApart p gap later passages)
    (ht : text = before ++ (gap ++ later)) (hp : p.stop = c.walk before) :
    ∀ pair ∈ (p :: passages).zip passages, pair.1.Adjoins c text pair.2 := by
  induction h generalizing before with
  | done p gap => simp
  | @gap p gap char rest passages h ih =>
    apply ih _ hp
    rw [ht, List.append_assoc, List.singleton_append]
  | @passage p q gap body rest passages hstart hstop hparts hbegins h ih =>
    rw [List.zip_cons_cons, List.forall_mem_cons]
    refine ⟨⟨before, gap, body ++ rest, ht, hp, hstart, hparts, hbegins⟩, ?_⟩
    have hq : q.stop = c.walk (before ++ (gap ++ body)) := by
      rw [hstop, hstart, hp, Cursor.walk_append, Cursor.walk_append]
    apply ih _ hq
    rw [ht, List.nil_append, List.append_assoc, List.append_assoc]

/-- Behind the title, every two passages of a document that follow one another are set apart. -/
theorem adjoins_outline (text : List Char) :
    ∃ title rest, outline text = title :: rest ∧
      ∀ pair ∈ (title :: rest).zip rest, pair.1.Adjoins .origin text pair.2 := by
  by_cases ht : LineKind.ofLine (text.takeWhile inLine) = .text
  · obtain ⟨q, passages, more, later, ho, -, -, hmore, hstop, hlater⟩ := (separated text).opened
      (.begun .heading (Cursor.origin.walk (text.takeWhile isBlank))
        (lineContent (text.takeWhile inLine)))
    have hline : (Passage.begun .heading (Cursor.origin.walk (text.takeWhile isBlank))
        (lineContent (text.takeWhile inLine))).stop = Cursor.origin.walk (text.takeWhile inLine) :=
      walk_firstLine .origin text
    rw [hline] at ho hstop
    refine ⟨q, passages, (outline_of_text ht).trans ho, ?_⟩
    have hq : q.stop = Cursor.origin.walk (text.takeWhile inLine ++ more) := by
      rw [hstop, Cursor.walk_append]
    apply hlater.adjoins _ hq
    rw [List.nil_append, List.append_assoc, ← hmore, List.takeWhile_append_dropWhile]
  · have hgap := all_isGap_takeWhile_isBlank text
    have hready : (Passage.empty .heading (Cursor.origin.walk (text.takeWhile isBlank))).Ready []
        (text.dropWhile isBlank) := .inl (.inr ⟨rfl, rfl⟩)
    have hclosed := (separated (text.dropWhile isBlank)).closed hready
    rw [Cursor.walk_nil, Passage.empty, ← outlineFrom_gap hgap,
      List.takeWhile_append_dropWhile] at hclosed
    refine ⟨_, _, outline_of_not_text ht, hclosed.adjoins ?_ rfl⟩
    rw [List.nil_append, List.takeWhile_append_dropWhile]

end BlockScan
