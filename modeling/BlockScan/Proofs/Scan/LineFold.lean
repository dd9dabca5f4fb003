import BlockScan.Proofs.Outline.Invariant
import BlockScan.Proofs.Scan.Plain

/-!
# A scan as a fold over lines

What a document says can be found without a cursor: its lines are taken one after the other, and
all that is kept from one line to the next is the blocks that are closed and the one that is still
open (`LineFold.step`). A document starts with an open heading that has no lines yet. The plain
scan brings exactly the kinds and literals that this fold finds
(`map_kind_literal_scanPlain`).
-/

set_option autoImplicit false

namespace BlockScan

open Charset

namespace LineFold

/-- A block with the lines that it has so far. -/
structure Draft where
  kind : BlockKind
  lines : List (List Char)

/-- The kind and the literal of the token of a block. -/
def Draft.pair (d : Draft) : TokenKind × String :=
  (d.kind.tokenKind, joinLines (d.lines.map String.ofList))

/-- What is known between two lines: the kinds and literals of the closed blocks, and the block
that is open. -/
structure State where
  closed : List (TokenKind × String)
  opened : Option Draft

namespace State

/-- The state at the beginning: a heading is open that has no lines. -/
def initial : State := ⟨[], some ⟨.heading, []⟩⟩

/-- Closes whatever is open. -/
def close (st : State) : State := ⟨st.closed ++ (st.opened.map Draft.pair).toList, none⟩

/-- Opens a block, or none, at the content of a line. Each leading keyword mark is a block of its
own, and the blanks behind it are dropped. -/
def begin (closed : List (TokenKind × String)) (content : List Char) : State :=
  match content with
  | [] => ⟨closed, none⟩
  | char :: rest =>
    if char = keywordMark then begin (closed ++ [(.illegal, "@")]) (lineContent rest)
    else if char = commentMark then ⟨closed, some ⟨.comment, [rest]⟩⟩
    else if [headingMark, ' '].isPrefixOf (char :: rest) then
      ⟨closed, some ⟨.heading, [char :: rest]⟩⟩
    else ⟨closed, some ⟨.paragraph, [char :: rest]⟩⟩
termination_by content.length
decreasing_by exact Nat.lt_succ_of_le (length_lineContent_le rest)

/-- A line of a comment, given by what follows the mark. It goes on with an open comment. -/
def remark (st : State) (text : List Char) : State :=
  match st.opened with
  | some d =>
    if d.kind = .comment then ⟨st.closed, some ⟨.comment, d.lines ++ [text]⟩⟩
    else ⟨st.close.closed, some ⟨.comment, [text]⟩⟩
  | none => ⟨st.closed, some ⟨.comment, [text]⟩⟩

/-- A line that is neither blank nor part of a comment. An open heading or paragraph takes all of
it, but as its first line without the leading blanks. -/
def prose (st : State) (line : List Char) : State :=
  match st.opened with
  | some d =>
    if d.kind.isText then
      ⟨st.closed, some ⟨d.kind, d.lines ++ [if d.lines.isEmpty then lineContent line else line]⟩⟩
    else begin st.close.closed (lineContent line)
  | none => begin st.closed (lineContent line)

end State

/-- The state after one more line. -/
def step (st : State) (line : List Char) : State :=
  match lineContent line with
  | [] => st.close
  | char :: rest => if char = commentMark then st.remark rest else st.prose line

/-- The kinds and literals that are found in a document, line by line. -/
def pairs (text : List Char) : List (TokenKind × String) :=
  ((linesOf text).foldl step .initial).close.closed ++ [(.eof, "")]

end LineFold

/-! ## The fold follows the outline -/

open LineFold

/-- A passage as a block that the fold has found. -/
def Passage.draft (p : Passage) : Draft := ⟨p.kind, p.lines⟩

/-- What the fold has found when some passages are closed and one may be open. -/
def LineFold.State.after (closed : List (TokenKind × String)) (turn : Turn) : State :=
  ⟨closed ++ turn.closed.map fun p => p.draft.pair, turn.opened.map Passage.draft⟩

variable {closed : List (TokenKind × String)} {p : Passage}

/-- The fold opens a block where the outline opens a passage. -/
theorem begin_eq_openAt (closed : List (TokenKind × String)) (c : Cursor) (content : List Char) :
    State.begin closed content = .after closed (openAt c content) := by
  fun_induction openAt c content generalizing closed with
  | case1 c =>
    rw [State.begin, State.after, List.map_nil, List.append_nil]
    rfl
  | case2 c rest turn ih =>
    rw [State.begin, if_pos rfl, ih, State.after, State.after, List.map_cons, List.append_assoc,
      List.singleton_append]
    rfl
  | case3 c char rest hm =>
    rw [State.begin, if_neg hm, State.after, List.map_nil, List.append_nil, Option.map_some,
      Passage.draft]
    by_cases hc : char = commentMark
    · subst hc
      simp [Passage.opening, Passage.empty, BlockKind.ofContent_commentMark]
    · simp only [Passage.opening, Passage.empty, Passage.kind_extend, Passage.lines_extend,
        List.nil_append, if_neg hc, BlockKind.ofContent]
      split
      · rfl
      · rw [if_neg (by simp [List.isPrefixOf, Ne.symm hc])]

/-- With nothing open, a line begins whatever its content opens. -/
theorem step_none (closed : List (TokenKind × String)) (line : List Char) :
    step ⟨closed, none⟩ line = .begin closed (lineContent line) := by
  unfold step
  cases hl : lineContent line with
  | nil => simp [State.begin, State.close]
  | cons char rest =>
    by_cases hc : char = commentMark
    · have hm : commentMark ≠ keywordMark := by decide
      subst hc
      simp only [if_true, State.remark, State.begin, if_neg hm]
    · simp only [if_neg hc, State.prose, hl]

/-- A line that does not go on with the open passage closes it and is then read for itself. -/
theorem step_of_not_goesOn {line : List Char} (h : p.goesOn (lineContent line) = false) :
    step ⟨closed, some p.draft⟩ line = step ⟨closed ++ [p.draft.pair], none⟩ line := by
  have hclose : (State.mk closed (some p.draft)).close = ⟨closed ++ [p.draft.pair], none⟩ := rfl
  have hkind : p.draft.kind = p.kind := rfl
  rw [step_none]
  unfold step
  cases hl : lineContent line with
  | nil => rw [State.begin, hclose]
  | cons char rest =>
    rw [hl, Passage.goesOn] at h
    by_cases hc : char = commentMark
    · have hk : p.kind ≠ .comment := by
        intro hk
        simp [hc, hk] at h
      have hm : commentMark ≠ keywordMark := by decide
      subst hc
      simp only [if_true, State.remark, State.begin, if_neg hm, hkind, if_neg hk, hclose]
    · have hk : p.kind = .comment := by simpa [hc] using h
      have ht : p.draft.kind.isText = false := by rw [hkind, hk]; rfl
      simp only [if_neg hc, State.prose, ht, Bool.false_eq_true, if_false, hclose, hl]

/-- The first line of a block of text is taken without its leading blanks, any other one whole. -/
theorem step_of_isText {d : Draft} (ht : d.kind.isText = true) {line : List Char}
    (h : LineKind.ofLine line = .text) :
    step ⟨closed, some d⟩ line = ⟨closed,
      some ⟨d.kind, d.lines ++ [if d.lines.isEmpty then lineContent line else line]⟩⟩ := by
  unfold step LineKind.ofLine at *
  cases hl : lineContent line with
  | nil => simp [hl] at h
  | cons char rest =>
    have hc : char ≠ commentMark := by
      intro hc
      simp [hl, hc] at h
    simp only [if_neg hc, State.prose, ht, if_true, hl]

/-- A line that goes on with the open passage is added to the open block. -/
theorem step_of_goesOn {line : List Char} (hp : p.Open) (h : p.goesOn (lineContent line) = true) :
    step ⟨closed, some p.draft⟩ line =
      ⟨closed, some (p.extend (p.lineOf line) (lineBreak :: line)).draft⟩ := by
  have hne : p.lines.isEmpty = false := by simpa using hp.lines_ne
  by_cases hk : p.kind = .comment
  · cases hl : lineContent line with
    | nil => simp [hl, Passage.goesOn] at h
    | cons char rest =>
      rw [hl, goesOn_comment hk, beq_iff_eq] at h
      simp [step, hl, h, State.remark, Passage.draft, Passage.lineOf, hk]
  · have ht : p.draft.kind.isText = true := by
      have hm := hp.kind_ne
      rw [Passage.draft]
      cases hkind : p.kind with
      | heading => rfl
      | paragraph => rfl
      | comment => exact absurd hkind hk
      | marker => exact absurd hkind hm
    rw [goesOn_eq_isText hk, beq_iff_eq] at h
    rw [step_of_isText ht h, lineOf_of_ne_comment hk]
    simp [Passage.draft, hne]

/-- One line takes the fold as far as it takes the outline. -/
theorem step_eq_turnAt {opened : Option Passage} (ho : ∀ p ∈ opened, p.Open) (c : Cursor)
    (line : List Char) :
    step ⟨closed, opened.map Passage.draft⟩ line = .after closed (turnAt opened c line) := by
  have hfresh : ∀ closed, step ⟨closed, none⟩ line = .after closed (turnAt none c line) := by
    intro closed
    rw [step_none]
    exact begin_eq_openAt closed _ _
  cases opened with
  | none => exact hfresh closed
  | some p =>
    cases hg : p.goesOn (lineContent line) with
    | false =>
      rw [Option.map_some, step_of_not_goesOn hg, hfresh, turnAt_some_of_not_goesOn hg,
        State.after, State.after, List.map_cons, List.append_assoc, List.singleton_append]
    | true =>
      rw [Option.map_some, step_of_goesOn (ho p rfl) hg, turnAt_some_of_goesOn hg, State.after,
        List.map_nil, List.append_nil, Option.map_some]

/-- The fold over some lines closes the blocks that are the passages of the outline, in order. -/
theorem foldl_step_eq_outlineFrom (closed : List (TokenKind × String)) {opened : Option Passage}
    (ho : ∀ p ∈ opened, p.Open) (c : Cursor) (lines : List (List Char)) :
    (lines.foldl step ⟨closed, opened.map Passage.draft⟩).close.closed =
      closed ++ (outlineFrom opened c lines).map fun p => p.draft.pair := by
  induction lines generalizing closed opened c with
  | nil => cases opened <;> rfl
  | cons line lines ih =>
    rw [List.foldl_cons, step_eq_turnAt ho c, State.after, ih _ (open_turnAt ho c line),
      outlineFrom_cons, List.map_append, List.append_assoc]

/-- The first line is read while the title is open. -/
theorem pairs_eq_outline (text : List Char) :
    pairs text = ((outline text).map fun p => p.draft.pair) ++ [(.eof, "")] := by
  rw [pairs, linesOf_eq, List.foldl_cons]
  congr 1
  by_cases ht : LineKind.ofLine (text.takeWhile inLine) = .text
  · rw [outline_of_text ht]
    generalize Cursor.origin.walk (text.takeWhile isBlank) = c
    have hfirst : step .initial (text.takeWhile inLine) =
        ⟨[], some (Passage.begun .heading c (lineContent (text.takeWhile inLine))).draft⟩ :=
      step_of_isText rfl ht
    have ho : ∀ p ∈ some (Passage.begun .heading c (lineContent (text.takeWhile inLine))),
        p.Open := by
      rintro _ ⟨⟩
      exact Passage.open_begun BlockKind.heading_ne_marker c _
    rw [hfirst]
    exact foldl_step_eq_outlineFrom [] ho _ _
  · rw [outline_of_not_text ht]
    generalize Cursor.origin.walk (text.takeWhile isBlank) = c
    have hg : (Passage.empty .heading c).goesOn (lineContent (text.takeWhile inLine)) = false := by
      rw [goesOn_eq_isText (p := .empty .heading c) BlockKind.heading_ne_comment]
      exact beq_false_of_ne ht
    have hfirst : step .initial (text.takeWhile inLine) =
        step ⟨[(Passage.empty .heading c).draft.pair], none⟩ (text.takeWhile inLine) :=
      step_of_not_goesOn hg
    have ho : ∀ p ∈ (none : Option Passage), p.Open := by simp
    rw [hfirst, ← List.foldl_cons, ← linesOf_eq]
    exact foldl_step_eq_outlineFrom _ ho .origin _

/-- The kinds and literals of a plain scan are those that a fold over the lines finds. -/
theorem map_kind_literal_scanPlain (file : Option String) (text : String) :
    (scanPlain file text).map (List.map fun t => (t.kind, t.literal)) =
      .ok (LineFold.pairs text.toList) := by
  rw [scanPlain_eq, pairs_eq_outline, Except.map, plainTokens, List.map_append, List.map_map]
  rfl

example : LineFold.pairs "Title\n  goes on\n# note\n@ - Part".toList =
    [(.heading, "Title\n  goes on"), (.comment, " note"), (.illegal, "@"), (.heading, "- Part"),
      (.eof, "")] := by
  cbv

end BlockScan
