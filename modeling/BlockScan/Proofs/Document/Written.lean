import BlockScan.Proofs.Document.WellFormed

/-!
# Writing a document

A stream of kinds and literals is written as a document by setting its entries apart by blank lines
(`document`); in a comment, every line gets its mark back. A scan of the document of a well-formed
stream brings that stream again: the fold over the lines reads the lines of one entry after the
other (`foldl_written`), and the blank line in between closes it. Since every scan brings a
well-formed stream, the streams of scans are just the well-formed ones
(`scanPlain_entries_wellFormed`).
-/

set_option autoImplicit false

namespace BlockScan

open Charset

/-- The text of an entry in a document: its literal, and in a comment a mark ahead of every line. -/
def written (entry : TokenKind × String) : List Char :=
  if entry.1 = .comment then
    commentMark :: entry.2.toList.flatMap fun c =>
      if c = lineBreak then [lineBreak, commentMark] else [c]
  else entry.2.toList

/-- The document of a stream: all its entries but the last one, which is the end of the text. -/
def document (stream : List (TokenKind × String)) : String :=
  String.ofList ([lineBreak, lineBreak].intercalate (stream.dropLast.map written))

/-! ## The lines of a document -/

/-- An entry at the end of a document has its own lines behind a blank one. -/
theorem linesOf_intercalate_concat {parts : List (List Char)} (h : parts ≠ []) (part : List Char) :
    linesOf ([lineBreak, lineBreak].intercalate (parts ++ [part])) =
      linesOf ([lineBreak, lineBreak].intercalate parts) ++ [] :: linesOf part := by
  rw [intercalate_concat h]
  show linesOf (_ ++ lineBreak :: lineBreak :: part) = _
  rw [linesOf_append_lineBreak_append, linesOf_lineBreak_cons]

/-- Behind the first line, every line of a written comment starts with a mark. -/
theorem linesOf_flatMap_mark (text : List Char) :
    linesOf (text.flatMap fun c => if c = lineBreak then [lineBreak, commentMark] else [c]) =
      text.takeWhile inLine :: (moreLines text).map (commentMark :: ·) := by
  induction text with
  | nil => rfl
  | cons c text ih =>
    have hmark : inLine commentMark = true := by decide
    rw [List.flatMap_cons]
    cases hc : inLine c with
    | true =>
      have hne : c ≠ lineBreak := by simpa [inLine] using hc
      have hall : [c].all inLine = true := by simp [hc]
      rw [linesOf_eq, List.cons.injEq] at ih
      rw [if_neg hne, linesOf_append_of_inLine hall, ih.1, ih.2,
        List.takeWhile_cons_of_pos hc, ← moreLines_append hall text]
      rfl
    | false =>
      have hb : c = lineBreak := by simpa [inLine] using hc
      subst hb
      have hmore : moreLines (lineBreak :: text) = linesOf text := rfl
      rw [linesOf_eq, List.cons.injEq] at ih
      rw [if_pos rfl, List.cons_append, List.singleton_append, linesOf_lineBreak_cons,
        linesOf_cons_of_inLine hmark, ih.1, ih.2, hmore, linesOf_eq text]
      rfl

/-- Every line of a written comment is a comment mark with a line of the literal behind it. -/
theorem linesOf_written_comment (text : String) :
    linesOf (written (.comment, text)) = (linesOf text.toList).map (commentMark :: ·) := by
  have hmark : inLine commentMark = true := by decide
  have hlines := linesOf_flatMap_mark text.toList
  rw [linesOf_eq, List.cons.injEq] at hlines
  rw [written, if_pos rfl, linesOf_cons_of_inLine hmark, hlines.1, hlines.2, linesOf_eq text.toList]
  rfl

/-! ## Reading the lines of one entry -/

namespace LineFold

/-- The pair of a draft with the lines of a text has that text as its literal. -/
theorem pair_linesOf (kind : BlockKind) (text : String) :
    (Draft.mk kind (linesOf text.toList)).pair = (kind.tokenKind, text) := by
  rw [Draft.pair, Prod.mk.injEq]
  refine ⟨rfl, ?_⟩
  rw [← String.toList_inj, toList_joinLines]
  exact List.intercalate_splitOn lineBreak

variable {closed : List (TokenKind × String)}

/-- An open heading or paragraph that has a line goes on with all lines of text that follow. -/
theorem foldl_step_isText {kind : BlockKind} (hk : kind.isText = true)
    {lines more : List (List Char)} (hne : lines ≠ [])
    (ht : ∀ line ∈ more, LineKind.ofLine line = .text) :
    more.foldl step ⟨closed, some ⟨kind, lines⟩⟩ = ⟨closed, some ⟨kind, lines ++ more⟩⟩ := by
  induction more generalizing lines with
  | nil => rw [List.foldl_nil, List.append_nil]
  | cons line more ih =>
    rw [List.forall_mem_cons] at ht
    have hempty : lines.isEmpty = false := by simpa using hne
    rw [List.foldl_cons, step_of_isText hk ht.1]
    simp only [hempty, Bool.false_eq_true, if_false]
    rw [ih (by simp) ht.2, List.append_assoc, List.singleton_append]

/-- An open comment goes on with all lines that start with a mark. -/
theorem foldl_step_comment (lines more : List (List Char)) :
    (more.map (commentMark :: ·)).foldl step ⟨closed, some ⟨.comment, lines⟩⟩ =
      ⟨closed, some ⟨.comment, lines ++ more⟩⟩ := by
  induction more generalizing lines with
  | nil => rw [List.map_nil, List.foldl_nil, List.append_nil]
  | cons line more ih =>
    have hstep : step ⟨closed, some ⟨.comment, lines⟩⟩ (commentMark :: line) =
        ⟨closed, some ⟨.comment, lines ++ [line]⟩⟩ := rfl
    rw [List.map_cons, List.foldl_cons, hstep, ih, List.append_assoc, List.singleton_append]

/-- A title is read while it is open. -/
theorem foldl_title {text : String} (h : text = "" ∨ GoodText text.toList) :
    ((linesOf text.toList).foldl step .initial).close = ⟨[(.heading, text)], none⟩ := by
  rcases h with rfl | h
  · rfl
  · have hlines := h.goodLines
    have hpair := pair_linesOf .heading text
    cases hl : linesOf text.toList with
    | nil => exact absurd hl hlines.ne_nil
    | cons line more =>
      rw [hl] at hlines hpair
      have htext := List.forall_mem_cons.1 hlines.isText
      have hfirst : step .initial line = ⟨[], some ⟨.heading, [line]⟩⟩ := by
        rw [State.initial, step_of_isText rfl htext.1, List.isEmpty_nil, if_pos rfl,
          hlines.start line rfl]
        rfl
      rw [List.foldl_cons, hfirst, foldl_step_isText rfl (by simp) htext.2, State.close,
        Option.map_some, List.singleton_append, hpair]
      rfl

/-- A good text that does not start with the mark of a keyword is read as a heading or a
paragraph. -/
theorem foldl_goodText {text : String} (h : GoodText text.toList)
    (hm : text.toList.head? ≠ some keywordMark) :
    ((linesOf text.toList).foldl step ⟨closed, none⟩).close = ⟨closed ++
      [(if [headingMark, ' '] <+: text.toList then .heading else .paragraph, text)], none⟩ := by
  obtain ⟨char, rest, more, hl, hb, hc⟩ := h.goodLines.exists_eq_cons
  have htext := h.goodLines.isText
  have hjoin : [lineBreak].intercalate (linesOf text.toList) = text.toList :=
    List.intercalate_splitOn lineBreak
  rw [hl, List.forall_mem_cons] at htext
  rw [hl] at hjoin
  have hk : char ≠ keywordMark := by
    rintro rfl
    rw [← hjoin, intercalate_lineBreak_cons] at hm
    exact hm rfl
  -- the first line decides which of the two it is, and the others go on with it
  have hread : ∀ kind : BlockKind, kind.isText = true →
      step ⟨closed, none⟩ (char :: rest) = ⟨closed, some ⟨kind, [char :: rest]⟩⟩ →
      ((linesOf text.toList).foldl step ⟨closed, none⟩).close =
        ⟨closed ++ [(kind.tokenKind, text)], none⟩ := by
    intro kind hkind hfirst
    have hpair := pair_linesOf kind text
    rw [hl] at hpair ⊢
    rw [List.foldl_cons, hfirst, foldl_step_isText hkind (by simp) htext.2, State.close,
      Option.map_some, List.singleton_append, hpair]
    rfl
  have hfirst : step ⟨closed, none⟩ (char :: rest) = State.begin closed (char :: rest) := by
    rw [step_none, lineContent_cons_of_not_isBlank hb]
  rw [State.begin, if_neg hk, if_neg hc] at hfirst
  have hstart := headingStart_iff (char :: rest) more
  rw [hjoin] at hstart
  by_cases hp : [headingMark, ' '].isPrefixOf (char :: rest) = true
  · rw [if_pos hp] at hfirst
    rw [if_pos (hstart.2 hp)]
    exact hread .heading rfl hfirst
  · rw [if_neg hp] at hfirst
    rw [if_neg (mt hstart.1 hp)]
    exact hread .paragraph rfl hfirst

/-- The lines of a written entry are read as that entry when nothing is open. -/
theorem foldl_written {entry : TokenKind × String} (h : BlockEntry entry)
    (closed : List (TokenKind × String)) :
    ((linesOf (written entry)).foldl step ⟨closed, none⟩).close = ⟨closed ++ [entry], none⟩ := by
  cases h with
  | @heading text h hd =>
    have hm : text.toList.head? ≠ some keywordMark := by
      obtain ⟨rest, hr⟩ := hd
      have hk : headingMark ≠ keywordMark := by decide
      rw [← hr]
      simpa using hk
    show ((linesOf text.toList).foldl step ⟨closed, none⟩).close = _
    rw [foldl_goodText h hm, if_pos hd]
  | @paragraph text h hd hm =>
    show ((linesOf text.toList).foldl step ⟨closed, none⟩).close = _
    rw [foldl_goodText h hm, if_neg hd]
  | comment text =>
    have hpair := pair_linesOf .comment text
    rw [linesOf_written_comment]
    rw [linesOf_eq] at hpair ⊢
    have hfirst : step ⟨closed, none⟩ (commentMark :: text.toList.takeWhile inLine) =
        ⟨closed, some ⟨.comment, [text.toList.takeWhile inLine]⟩⟩ := by
      have hk : commentMark ≠ keywordMark := by decide
      rw [step_none, lineContent_cons_of_not_isBlank isBlank_commentMark, State.begin, if_neg hk,
        if_pos rfl]
    rw [List.map_cons, List.foldl_cons, hfirst, foldl_step_comment, State.close, Option.map_some,
      List.singleton_append, hpair]
    rfl
  | marker =>
    have hlines : linesOf (written (.illegal, "@")) = [[keywordMark]] := by
      have hall : [keywordMark].all inLine = true := by decide
      exact linesOf_of_inLine hall
    have hcontent : lineContent [keywordMark] = [keywordMark] := rfl
    rw [hlines, List.foldl_cons, List.foldl_nil, step_none, hcontent, State.begin, if_pos rfl]
    have hrest : lineContent [] = [] := rfl
    rw [hrest, State.begin, State.close, Option.map_none, Option.toList_none, List.append_nil]

/-- The document of a title and blocks is read entry by entry. -/
theorem foldl_titled {entries : List (TokenKind × String)} (h : Titled entries) :
    ((linesOf ([lineBreak, lineBreak].intercalate (entries.map written))).foldl step
      .initial).close = ⟨entries, none⟩ := by
  induction h with
  | @title text h =>
    rw [List.map_singleton, List.intercalate_singleton]
    exact foldl_title h
  | @block entries entry h hb ih =>
    have hne : entries.map written ≠ [] := by
      cases h <;> simp
    have hblank : ∀ st : State, step st [] = st.close := fun st => rfl
    rw [List.map_append, List.map_singleton, linesOf_intercalate_concat hne, List.foldl_append,
      List.foldl_cons, hblank, ih, foldl_written hb]

/-- The fold finds a well-formed stream in its document. -/
theorem pairs_document {stream : List (TokenKind × String)} (h : WellFormed stream) :
    pairs (document stream).toList = stream := by
  cases h with
  | ended h =>
    rw [pairs, document, List.dropLast_concat, String.toList_ofList, foldl_titled h]

end LineFold

/-- The kinds and literals of the tokens of a text are those that the fold finds. -/
theorem map_entry_plainTokens (file : Option String) (text : List Char) :
    (plainTokens file text).map Token.entry = LineFold.pairs text := by
  rw [pairs_eq_outline, plainTokens, List.map_append, List.map_map]
  rfl

/-- The kinds and literals of a scan are a well-formed stream, and every well-formed stream is that
of a scan of its document. -/
theorem scanPlain_entries_wellFormed (file : Option String) :
    (∀ text : String, ∃ stream, WellFormed stream ∧
      (scanPlain file text).map (List.map Token.entry) = .ok stream) ∧
    ∀ stream, WellFormed stream →
      (scanPlain file (document stream)).map (List.map Token.entry) = .ok stream := by
  have hscan : ∀ text : String, (scanPlain file text).map (List.map Token.entry) =
      .ok (LineFold.pairs text.toList) := by
    intro text
    rw [scanPlain_eq, Except.map, map_entry_plainTokens]
  constructor
  · intro text
    exact ⟨_, LineFold.wellFormed_pairs text.toList, hscan text⟩
  · intro stream h
    rw [hscan, LineFold.pairs_document h]

/-- An empty title, a heading with a list and a keyword in it, two comments with nothing in between,
the mark of a keyword alone, and a lone dash. -/
theorem scanPlain_document_dashes :
    (scanPlain none (document [(.heading, ""), (.heading, "- a\n  - b\n@c"), (.comment, ""),
      (.comment, "x\n\n# y"), (.illegal, "@"), (.paragraph, "-\n@"), (.eof, "")])).map
      (List.map Token.entry) =
    .ok [(.heading, ""), (.heading, "- a\n  - b\n@c"), (.comment, ""), (.comment, "x\n\n# y"),
      (.illegal, "@"), (.paragraph, "-\n@"), (.eof, "")] := by
  have hlist : GoodText "- a\n  - b\n@c".toList := by decide
  have hdash : GoodText "-\n@".toList := by decide
  have htitled : Titled [(.heading, "")] := .title (.inl rfl)
  have hheading := htitled.block (.heading hlist ⟨_, rfl⟩)
  have hmarker := ((hheading.block (.comment "")).block (.comment "x\n\n# y")).block .marker
  have hstream := hmarker.block (.paragraph hdash (by decide) (by decide))
  exact (scanPlain_entries_wellFormed none).2 _ (.ended hstream)

end BlockScan
