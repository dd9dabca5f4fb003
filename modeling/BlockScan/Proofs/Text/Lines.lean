import BlockScan.Block.Text

/-!
# The lines of a text

A text is split into lines at every line break, so that a text without one is a single line and a
text that ends in one has an empty last line. A window shows the first of these lines as its line,
and the others are the lines of the window behind it (`linesOf_eq`). Blanks and the marks of a
comment stay within a line, so passing over them leaves the later lines as they are.
-/

set_option autoImplicit false

namespace BlockScan

open Charset

/-- The lines of a text. -/
def linesOf (text : List Char) : List (List Char) := text.splitOn lineBreak

/-- The lines of a text behind its first line break. -/
def moreLines (text : List Char) : List (List Char) :=
  match text.dropWhile inLine with
  | [] => []
  | _ :: rest => linesOf rest

/-- A blank does not end a line. -/
theorem inLine_of_isBlank {c : Char} (h : isBlank c = true) : inLine c = true := by
  cases hl : inLine c with
  | true => rfl
  | false =>
    have hc : c = lineBreak := by simpa [inLine] using hl
    subst hc
    exact absurd h (by decide)

/-- Blanks do not end a line. -/
theorem all_inLine_of_all_isBlank {xs : List Char} (h : xs.all isBlank = true) :
    xs.all inLine = true := by
  rw [List.all_eq_true] at h ⊢
  intro x hx
  exact inLine_of_isBlank (h x hx)

/-- Blanks are gaps. -/
theorem all_isGap_of_all_isBlank {xs : List Char} (h : xs.all isBlank = true) :
    xs.all isGap = true := by
  rw [List.all_eq_true] at h ⊢
  intro x hx
  exact isGap_of_isBlank (h x hx)

/-! ## Blanks and contents of lines -/

/-- A blank in front has no part in the content of a line. -/
theorem lineContent_cons_of_isBlank {char : Char} (h : isBlank char = true) (line : List Char) :
    lineContent (char :: line) = lineContent line :=
  List.dropWhile_cons_of_pos h

/-- A line that does not begin with a blank is its own content. -/
theorem lineContent_cons_of_not_isBlank {char : Char} (h : isBlank char = false)
    (line : List Char) : lineContent (char :: line) = char :: line :=
  List.dropWhile_cons_of_neg (by simp [h])

/-- The content of a line has no blanks in front. -/
theorem lineContent_idem (line : List Char) :
    lineContent (lineContent line) = lineContent line := by
  cases hc : lineContent line with
  | nil => rfl
  | cons char rest =>
    have hn := List.head?_dropWhile_not isBlank line
    rw [show line.dropWhile isBlank = char :: rest from hc] at hn
    exact lineContent_cons_of_not_isBlank (by simpa using hn) rest

/-- The kind of a line is that of its content. -/
theorem ofLine_lineContent (line : List Char) :
    LineKind.ofLine (lineContent line) = LineKind.ofLine line := by
  unfold LineKind.ofLine
  rw [lineContent_idem]

/-- A line is its leading blanks and its content. -/
theorem takeWhile_isBlank_append_lineContent (line : List Char) :
    line.takeWhile isBlank ++ lineContent line = line :=
  List.takeWhile_append_dropWhile

/-- What comes behind a line with some content comes behind that content. -/
theorem lineContent_append {front : List Char} (h : lineContent front ≠ []) (rest : List Char) :
    lineContent (front ++ rest) = lineContent front ++ rest := by
  have hne : (front.dropWhile isBlank).isEmpty = false := by
    rw [List.isEmpty_eq_false_iff]
    exact h
  simp only [lineContent, List.dropWhile_append, hne, Bool.false_eq_true, if_false]

/-- What follows some content has no part in the blanks in front of it. -/
theorem takeWhile_isBlank_append {front : List Char} (h : lineContent front ≠ [])
    (rest : List Char) : (front ++ rest).takeWhile isBlank = front.takeWhile isBlank := by
  have hsame : (front ++ rest).takeWhile isBlank ++ lineContent (front ++ rest) =
      front.takeWhile isBlank ++ lineContent (front ++ rest) := by
    rw [takeWhile_isBlank_append_lineContent, lineContent_append h, ← List.append_assoc,
      takeWhile_isBlank_append_lineContent]
  exact List.append_cancel_right hsame

/-- The blanks in front of a text do not end a line. -/
theorem all_inLine_takeWhile_isBlank (text : List Char) :
    (text.takeWhile isBlank).all inLine = true :=
  all_inLine_of_all_isBlank List.all_takeWhile

/-- The blanks in front of a text are gaps. -/
theorem all_isGap_takeWhile_isBlank (text : List Char) :
    (text.takeWhile isBlank).all isGap = true :=
  all_isGap_of_all_isBlank List.all_takeWhile

/-- The content of the first line is the first line behind the blanks. -/
theorem lineContent_takeWhile_inLine (chars : List Char) :
    lineContent (chars.takeWhile inLine) = (chars.dropWhile isBlank).takeWhile inLine := by
  induction chars with
  | nil => rfl
  | cons char chars ih =>
    cases hb : isBlank char with
    | true =>
      have hl := inLine_of_isBlank hb
      rw [List.takeWhile_cons_of_pos hl, lineContent_cons_of_isBlank hb, ih,
        List.dropWhile_cons_of_pos hb]
    | false =>
      rw [List.dropWhile_cons_of_neg (by simp [hb]), List.takeWhile_cons]
      split
      · exact lineContent_cons_of_not_isBlank hb _
      · rfl

/-- The blanks in front of a text lie in its first line. -/
theorem takeWhile_isBlank_takeWhile_inLine (chars : List Char) :
    (chars.takeWhile inLine).takeWhile isBlank = chars.takeWhile isBlank := by
  induction chars with
  | nil => rfl
  | cons char chars ih =>
    cases hb : isBlank char with
    | true =>
      rw [List.takeWhile_cons_of_pos (inLine_of_isBlank hb), List.takeWhile_cons_of_pos hb, ih,
        List.takeWhile_cons_of_pos hb]
    | false =>
      have hn : ¬ isBlank char = true := by simp [hb]
      rw [List.takeWhile_cons_of_neg hn, List.takeWhile_cons]
      split
      · exact List.takeWhile_cons_of_neg hn
      · rfl

/-- The first line of a text is the blanks at its beginning and the content of that line. -/
theorem takeWhile_isBlank_append_firstLine (text : List Char) :
    text.takeWhile isBlank ++ lineContent (text.takeWhile inLine) = text.takeWhile inLine := by
  rw [← takeWhile_isBlank_takeWhile_inLine, takeWhile_isBlank_append_lineContent]

/-- The content of a line is a part of a line. -/
theorem all_inLine_lineContent {line : List Char} (h : line.all inLine = true) :
    (lineContent line).all inLine = true := by
  rw [List.all_eq_true] at h ⊢
  intro x hx
  exact h x ((List.dropWhile_sublist _).subset hx)

/-! ## Lines -/

/-- There is no line break in a line. -/
theorem lineBreak_not_mem {line : List Char} (h : line.all inLine = true) : lineBreak ∉ line := by
  intro hm
  have := List.all_eq_true.1 h _ hm
  simp [inLine] at this

/-- A line followed by a line break is the first line, whatever comes behind. -/
theorem linesOf_append_lineBreak {line : List Char} (h : line.all inLine = true)
    (rest : List Char) : linesOf (line ++ lineBreak :: rest) = line :: linesOf rest :=
  List.splitOn_append_cons_self_of_not_mem (lineBreak_not_mem h) rest

/-- A text without line breaks is one line. -/
theorem linesOf_of_inLine {line : List Char} (h : line.all inLine = true) :
    linesOf line = [line] :=
  List.splitOn_eq_singleton (lineBreak_not_mem h)

/-- The first line of a text has no line break. -/
theorem all_takeWhile_inLine (text : List Char) : (text.takeWhile inLine).all inLine = true :=
  List.all_takeWhile

/-- What stands behind the first line of a text is nothing or a line break. -/
theorem dropWhile_inLine (text : List Char) :
    text.dropWhile inLine = [] ∨ ∃ rest, text.dropWhile inLine = lineBreak :: rest := by
  cases hd : text.dropWhile inLine with
  | nil => exact .inl rfl
  | cons c rest =>
    have hc := List.head?_dropWhile_not inLine text
    rw [hd] at hc
    exact .inr ⟨rest, by simpa [inLine] using hc⟩

/-- A text is its first line, alone or followed by a line break and the rest. -/
theorem exists_eq_line (text : List Char) :
    (text = text.takeWhile inLine ∧ moreLines text = []) ∨
      ∃ rest, text = text.takeWhile inLine ++ lineBreak :: rest ∧
        moreLines text = linesOf rest := by
  have ht := List.takeWhile_append_dropWhile (p := inLine) (l := text)
  rcases dropWhile_inLine text with hd | ⟨rest, hd⟩
  · rw [hd, List.append_nil] at ht
    exact .inl ⟨ht.symm, by rw [moreLines, hd]⟩
  · rw [hd] at ht
    exact .inr ⟨rest, ht.symm, by rw [moreLines, hd]⟩

/-- The lines of a text are the first one and the others behind it. -/
theorem linesOf_eq (text : List Char) :
    linesOf text = text.takeWhile inLine :: moreLines text := by
  have hall := all_takeWhile_inLine text
  rcases exists_eq_line text with ⟨ht, hm⟩ | ⟨rest, ht, hm⟩
  · rw [hm, ← linesOf_of_inLine hall, ← ht]
  · rw [hm, ← linesOf_append_lineBreak hall, ← ht]

/-- A text without characters has one line, which is empty. -/
theorem linesOf_nil : linesOf [] = [[]] := by
  rw [linesOf_eq]
  rfl

/-- A line break in front makes one more line, which is empty. -/
theorem linesOf_lineBreak_cons (rest : List Char) :
    linesOf (lineBreak :: rest) = [] :: linesOf rest := by
  have hn : ([] : List Char).all inLine = true := rfl
  exact linesOf_append_lineBreak hn rest

/-- Characters of a line in front of a text are in front of its first line. -/
theorem takeWhile_inLine_append {xs : List Char} (h : xs.all inLine = true) (rest : List Char) :
    (xs ++ rest).takeWhile inLine = xs ++ rest.takeWhile inLine :=
  List.takeWhile_append_of_pos (List.all_eq_true.1 h)

/-- Characters of a line in front of a text have no part in the lines behind its first one. -/
theorem moreLines_append {xs : List Char} (h : xs.all inLine = true) (rest : List Char) :
    moreLines (xs ++ rest) = moreLines rest := by
  rw [moreLines, List.dropWhile_append_of_pos (List.all_eq_true.1 h), moreLines]

/-- Characters that stay in the line come to stand before its first line. -/
theorem linesOf_append_of_inLine {xs : List Char} (h : xs.all inLine = true) (rest : List Char) :
    linesOf (xs ++ rest) = (xs ++ rest.takeWhile inLine) :: moreLines rest := by
  rw [linesOf_eq, takeWhile_inLine_append h, moreLines_append h]

/-- One character in front of a text is in front of its first line, unless it is a line break. -/
theorem linesOf_cons_of_inLine {c : Char} (h : inLine c = true) (rest : List Char) :
    linesOf (c :: rest) = (c :: rest.takeWhile inLine) :: moreLines rest := by
  have hc : [c].all inLine = true := by simp [h]
  exact linesOf_append_of_inLine hc rest

/-- The lines of a text have no line breaks. -/
theorem forall_mem_linesOf (text : List Char) :
    ∀ line ∈ linesOf text, line.all inLine = true := by
  induction text with
  | nil => simp [linesOf_nil]
  | cons c text ih =>
    cases hc : inLine c with
    | false =>
      have hb : c = lineBreak := by simpa [inLine] using hc
      subst hb
      rw [linesOf_lineBreak_cons, List.forall_mem_cons]
      exact ⟨rfl, ih⟩
    | true =>
      rw [linesOf_eq, List.forall_mem_cons] at ih
      rw [linesOf_cons_of_inLine hc, List.forall_mem_cons, List.all_cons, hc, Bool.true_and]
      exact ih

/-- The lines behind the first one have no line breaks. -/
theorem forall_mem_moreLines (text : List Char) :
    ∀ line ∈ moreLines text, line.all inLine = true := by
  have h := forall_mem_linesOf text
  rw [linesOf_eq, List.forall_mem_cons] at h
  exact h.2

/-! ## Texts put together from lines -/

/-- The rest of a text behind a line, given by the lines that follow. -/
def tailText (lines : List (List Char)) : List Char := lines.flatMap (lineBreak :: ·)

/-- No lines have no text. -/
@[simp] theorem tailText_nil : tailText [] = [] := rfl

/-- Each line stands behind its own line break. -/
@[simp] theorem tailText_cons (line : List Char) (lines : List (List Char)) :
    tailText (line :: lines) = lineBreak :: (line ++ tailText lines) := rfl

/-- Joined lines are the first one and the others, each behind a line break. -/
theorem intercalate_lineBreak_cons (line : List Char) (lines : List (List Char)) :
    [lineBreak].intercalate (line :: lines) = line ++ tailText lines := by
  induction lines generalizing line with
  | nil => rw [List.intercalate_singleton, tailText_nil, List.append_nil]
  | cons line' lines ih =>
    rw [List.intercalate_cons_cons, ih, tailText_cons, List.append_assoc, List.singleton_append]

/-- One more part comes behind a separator. -/
theorem intercalate_concat {sep : List Char} {parts : List (List Char)} (h : parts ≠ [])
    (part : List Char) :
    sep.intercalate (parts ++ [part]) = sep.intercalate parts ++ (sep ++ part) := by
  induction parts with
  | nil => exact absurd rfl h
  | cons first parts ih =>
    cases parts with
    | nil => simp [List.intercalate]
    | cons second parts =>
      rw [List.cons_append, List.cons_append, List.intercalate_cons_cons,
        List.intercalate_cons_cons, ← List.cons_append, ih (List.cons_ne_nil _ _)]
      simp only [List.append_assoc]

/-- A text is its first line with the rest behind it. -/
theorem takeWhile_inLine_append_tailText (text : List Char) :
    text.takeWhile inLine ++ tailText (moreLines text) = text := by
  rw [← intercalate_lineBreak_cons, ← linesOf_eq, linesOf, List.intercalate_splitOn]

/-- At a line break the lines of a text fall into two parts. -/
theorem linesOf_append_lineBreak_append (xs ys : List Char) :
    linesOf (xs ++ lineBreak :: ys) = linesOf xs ++ linesOf ys :=
  List.splitOn_append_cons_self xs ys

end BlockScan
