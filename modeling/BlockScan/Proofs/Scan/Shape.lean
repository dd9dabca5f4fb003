import BlockScan.Proofs.Outline.Extent
import BlockScan.Proofs.Scan.Positions

/-!
# The shape of a stream of tokens

Whatever the options are, as long as no line is refused, a scan brings a heading, then tokens of
headings, paragraphs, comments and block marks, and then the end of the text. The tokens lie in
the text in order, only the title and the end of the text may be empty, and the text has a
character that is no gap for every other one (`Shaped`). The outline gives this shape to a plain
scan (`shaped_plainTokens`), and rewriting and leaving out tokens keeps it (`Shaped.rework`). The
main statement is `tokens_shaped`.
-/

set_option autoImplicit false

namespace BlockScan

open Charset

variable {ε : Type}

/-- The tokens of a text begin with a title and come in order up to the end of the text. -/
structure Shaped (text : List Char) (title : Token) (body : List Token) (stop : Token) : Prop where
  title_kind : title.kind = .heading
  body_kind : ∀ t ∈ body, t.kind ∈ [TokenKind.heading, .paragraph, .comment, .illegal]
  body_extent : ∀ t ∈ body, t.span.start.offset < t.span.stop.offset
  stop_kind : stop.kind = .eof
  stop_literal : stop.literal = ""
  stop_start : stop.span.start.offset = text.length
  stop_extent : stop.span.stop = stop.span.start
  bounds : ∀ t ∈ title :: (body ++ [stop]), 0 ≤ t.span.start.offset ∧
    t.span.start.offset ≤ t.span.stop.offset ∧ t.span.stop.offset ≤ text.length
  ordered : (title :: (body ++ [stop])).Pairwise fun t u =>
    t.span.stop.offset ≤ u.span.start.offset
  length_le : (title :: (body ++ [stop])).length ≤ 2 + text.countP fun char => !isGap char

/-! ## The plain scan -/

/-- A block becomes a token of one of four kinds, and never the end of the text. -/
theorem tokenKind_mem (kind : BlockKind) :
    kind.tokenKind ∈ [TokenKind.heading, .paragraph, .comment, .illegal] := by
  cases kind <;> simp [BlockKind.tokenKind]

/-- The tokens of the passages of a text and the end of the text lie in order. -/
theorem pairwise_plainTokens (file : Option String) (text : List Char) :
    (plainTokens file text).Pairwise fun t u => t.span.stop.offset ≤ u.span.start.offset := by
  have htiles := tiles_outline text
  rw [plainTokens, List.pairwise_append]
  refine ⟨?_, List.pairwise_singleton _ _, ?_⟩
  · rw [List.pairwise_map]
    exact htiles.pairwise_before
  · intro t ht u hu
    rw [List.mem_map] at ht
    obtain ⟨p, hp, rfl⟩ := ht
    rw [List.mem_singleton] at hu
    subst hu
    show p.stop.offset ≤ (Cursor.origin.walk text).offset
    rw [Cursor.offset_walk]
    exact (htiles.bounds hp).2

/-- Every token of a plain scan lies within the text. -/
theorem bounds_of_mem_plainTokens {file : Option String} {text : List Char} {t : Token}
    (h : t ∈ plainTokens file text) : 0 ≤ t.span.start.offset ∧
      t.span.start.offset ≤ t.span.stop.offset ∧ t.span.stop.offset ≤ text.length := by
  have hl := locatedIn_of_mem_plainTokens h
  exact ⟨hl.start.nonneg, t.span.ordered, hl.stop.le_length⟩

/-- The tokens of a plain scan are a title, the blocks behind it and the end, in order. -/
theorem shaped_plainTokens (file : Option String) (text : List Char) :
    ∃ title body, plainTokens file text = title :: (body ++ [endOfText file text]) ∧
      Shaped text title body (endOfText file text) := by
  obtain ⟨p, passages, ho, hk⟩ := exists_outline_eq_cons text
  have heq : plainTokens file text =
      p.toToken file :: (passages.map (Passage.toToken file) ++ [endOfText file text]) := by
    rw [plainTokens, ho]
    rfl
  have htiles := tiles_outline text
  have hvisible : ∀ q ∈ passages, q.Visible := by
    intro q hq
    have hmem : q ∈ (outline text).tail := by rwa [ho]
    exact visible_of_mem_tail_outline hmem
  rw [ho] at htiles
  refine ⟨_, _, heq, ?_⟩
  exact {
    title_kind := by
      show p.kind.tokenKind = .heading
      rw [hk]
      rfl
    body_kind := by
      intro t ht
      obtain ⟨q, -, rfl⟩ := List.mem_map.1 ht
      exact tokenKind_mem q.kind
    body_extent := by
      intro t ht
      obtain ⟨q, hq, rfl⟩ := List.mem_map.1 ht
      exact htiles.start_lt_stop (List.mem_cons_of_mem _ hq) (hvisible q hq)
    stop_kind := rfl
    stop_literal := rfl
    stop_start := by
      show (Cursor.origin.walk text).offset = text.length
      rw [walk_origin]
    stop_extent := rfl
    bounds := by
      rw [← heq]
      intro t ht
      exact bounds_of_mem_plainTokens ht
    ordered := by
      rw [← heq]
      exact pairwise_plainTokens file text
    length_le := by
      obtain ⟨front, rest, ht, hrest⟩ := htiles.exists_rest
      have hle := hrest.length_le hvisible
      rw [ht, List.countP_append]
      simp only [List.length_cons, List.length_append, List.length_map, List.length_nil]
      omega }

/-! ## Other options -/

section Options

variable (options : ScanOptions ε)

/-- Rewriting and leaving out tokens neither touches the title nor the end of the text. -/
theorem filter_map_rewrite {title stop : Token} (body : List Token) (ht : title.kind = .heading)
    (hs : stop.kind = .eof) :
    ((title :: (body ++ [stop])).map options.rewrite).filter options.keeps =
      options.rewrite title :: ((body.map options.rewrite).filter options.keeps ++ [stop]) := by
  have hw : options.rewrite stop = stop := by simp [ScanOptions.rewrite, Token.hasText, hs]
  have hkt : options.keeps (options.rewrite title) = true := by simp [ScanOptions.keeps, ht]
  have hks : options.keeps stop = true := by simp [ScanOptions.keeps, hs]
  rw [List.map_cons, List.filter_cons_of_pos hkt, List.map_append, List.filter_append,
    List.map_singleton, hw, List.filter_cons_of_pos hks, List.filter_nil]

/-- Rewriting literals and dropping comments keeps a stream in shape. -/
theorem Shaped.rework {text : List Char} {title stop : Token} {body : List Token}
    (h : Shaped text title body stop) :
    Shaped text (options.rewrite title) ((body.map options.rewrite).filter options.keeps) stop := by
  have hall := filter_map_rewrite options body h.title_kind h.stop_kind
  exact {
    title_kind := by rw [options.kind_rewrite, h.title_kind]
    body_kind := by
      intro t ht
      obtain ⟨u, hu, hk, -⟩ := ScanOptions.exists_of_mem_filter ht
      rw [hk]
      exact h.body_kind u hu
    body_extent := by
      intro t ht
      obtain ⟨u, hu, -, hs⟩ := ScanOptions.exists_of_mem_filter ht
      rw [hs]
      exact h.body_extent u hu
    stop_kind := h.stop_kind
    stop_literal := h.stop_literal
    stop_start := h.stop_start
    stop_extent := h.stop_extent
    bounds := by
      rw [← hall]
      intro t ht
      obtain ⟨u, hu, -, hs⟩ := ScanOptions.exists_of_mem_filter ht
      rw [hs]
      exact h.bounds u hu
    ordered := by
      rw [← hall]
      apply List.Pairwise.filter
      rw [List.pairwise_map]
      simpa only [options.span_rewrite] using h.ordered
    length_le := by
      rw [← hall]
      refine Nat.le_trans (List.length_filter_le _ _) ?_
      rw [List.length_map]
      exact h.length_le }

end Options

/-- The tokens of a scan that comes to its end have the shape of a stream. -/
theorem exists_shaped_of_tokens_eq_ok {s : Scanner ε} {tokens : List Token}
    (h : s.tokens = .ok tokens) : ∃ title body stop, tokens = title :: (body ++ [stop]) ∧
      Shaped s.source.text title body stop := by
  obtain ⟨title, body, heq, hshaped⟩ := shaped_plainTokens s.file s.source.text
  rw [tokens_eq_rework, heq, ScanOptions.rework] at h
  split at h
  · simp at h
  · rw [Except.ok.injEq,
      filter_map_rewrite s.options body hshaped.title_kind hshaped.stop_kind] at h
    exact ⟨_, _, _, h.symm, hshaped.rework s.options⟩

/-- When no line is refused, a scan comes to its end and its tokens have the shape of a stream. -/
theorem tokens_shaped (s : Scanner ε) (h : s.options.AcceptsAll) :
    ∃ title body stop, s.tokens = .ok (title :: (body ++ [stop])) ∧
      Shaped s.source.text title body stop := by
  obtain ⟨title, body, heq, hshaped⟩ := shaped_plainTokens s.file s.source.text
  refine ⟨_, _, _, ?_, hshaped.rework s.options⟩
  rw [tokens_eq_rework, h.rework_eq, heq,
    filter_map_rewrite s.options body hshaped.title_kind hshaped.stop_kind]

/-- Emptying every line and leaving out the comments takes nothing away from the spans. -/
theorem tokens_shaped_drop :
    (ScanConfig.options ⟨.bool false, some .drop⟩).AcceptsAll ∧
      ∃ title body stop, Scanner.tokens ⟨.ofString "\r\n@\t- part\n  more\n # note\n@", none,
          ScanConfig.options ⟨.bool false, some .drop⟩⟩ = .ok (title :: (body ++ [stop])) ∧
        Shaped (Source.ofString "\r\n@\t- part\n  more\n # note\n@").text title body stop := by
  have haccepts : (ScanConfig.options ⟨.bool false, some .drop⟩).AcceptsAll :=
    acceptsAll_ofChars _ _ _
  exact ⟨haccepts, tokens_shaped ⟨.ofString "\r\n@\t- part\n  more\n # note\n@", none,
    ScanConfig.options ⟨.bool false, some .drop⟩⟩ haccepts⟩

end BlockScan
