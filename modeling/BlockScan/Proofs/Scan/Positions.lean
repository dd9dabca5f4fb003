import BlockScan.Proofs.Outline.Tiling
import BlockScan.Proofs.Scan.Factoring
import BlockScan.Proofs.Scan.States
import BlockScan.Scan.Catalogue

/-!
# Positions belong to the text

Line, column and offset of a cursor are kept apart, and a jump changes two of them only. They
belong together nevertheless (`Cursor.Locates`): at both ends of every token, and at the cursor in
every state of the stream. The main statement is `positions_locate`.
-/

set_option autoImplicit false

namespace BlockScan

variable {ε : Type}

/-- The line function, if there is one, refuses no line. -/
def ScanOptions.AcceptsAll (options : ScanOptions ε) : Prop :=
  ∀ f, options.transform = some f → ∀ line, ∃ text, f line = .ok text

/-- Both ends of a token are places of a text and name its file. -/
structure Token.LocatedIn (file : Option String) (text : List Char) (t : Token) : Prop where
  start : t.span.start.Locates text
  stop : t.span.stop.Locates text
  start_file : t.span.start.file = file
  stop_file : t.span.stop.file = file

/-- A line function that accepts every line refuses none. -/
theorem ScanOptions.AcceptsAll.refusal?_eq_none {options : ScanOptions ε}
    (h : options.AcceptsAll) (line : String) : options.refusal? line = none := by
  rw [refusal?, ScanOptions.line]
  cases hf : options.transform with
  | none => rfl
  | some f =>
    obtain ⟨text, ht⟩ := h f hf line
    rw [Option.getD_some, ht]

/-- Options that accept all lines only rewrite and leave out tokens. -/
theorem ScanOptions.AcceptsAll.rework_eq {options : ScanOptions ε} (h : options.AcceptsAll)
    (plain : List Token) :
    options.rework plain = .ok ((plain.map options.rewrite).filter options.keeps) := by
  have hnone : (plain.flatMap Token.textLines).findSome? options.refusal? = none := by
    rw [List.findSome?_eq_none_iff]
    intro line _
    exact h.refusal?_eq_none line
  rw [rework, hnone]

/-- The token of a passage of a text starts and ends at places of that text. -/
theorem locatedIn_toToken (file : Option String) {text : List Char} {p : Passage}
    (h : p ∈ outline text) : (p.toToken file).LocatedIn file text := by
  obtain ⟨before, body, rest, ht, hstart, hstop, -⟩ := (tiles_outline text).exists_body h
  refine ⟨?_, ?_, rfl, rfl⟩
  · show p.start.Locates text
    rw [hstart, ht]
    exact Cursor.locates_walk_origin before (body ++ rest)
  · show p.stop.Locates text
    rw [hstop, hstart, ← Cursor.walk_append, ht, ← List.append_assoc]
    exact Cursor.locates_walk_origin (before ++ body) rest

/-- Every token of a plain scan starts and ends at places of the text, the one at the end
included. -/
theorem locatedIn_of_mem_plainTokens {file : Option String} {text : List Char} {t : Token}
    (h : t ∈ plainTokens file text) : t.LocatedIn file text := by
  rw [plainTokens, List.mem_append, List.mem_map, List.mem_singleton] at h
  rcases h with ⟨p, hp, rfl⟩ | rfl
  · exact locatedIn_toToken file hp
  · have hend := Cursor.locates_walk_origin text []
    rw [List.append_nil] at hend
    exact ⟨hend, hend, rfl, rfl⟩

/-- When no line is refused, the scan succeeds, and line, column and offset belong together at
both ends of every token and at the cursor whenever a token was taken. -/
theorem positions_locate (s : Scanner ε) (h : s.options.AcceptsAll) :
    ∃ tokens, s.tokens = .ok tokens ∧
      (∀ t ∈ tokens, t.LocatedIn s.file s.source.text) ∧
      ∀ state, s.Reaches state → state.cursor.Locates s.source.text := by
  refine ⟨_, by rw [tokens_eq_rework, h.rework_eq], ?_, ?_⟩
  · intro t ht
    rw [List.mem_filter, List.mem_map] at ht
    obtain ⟨⟨plain, hplain, rfl⟩, -⟩ := ht
    obtain ⟨hstart, hstop, hstartFile, hstopFile⟩ := locatedIn_of_mem_plainTokens hplain
    rw [← s.options.span_rewrite plain] at hstart hstop hstartFile hstopFile
    exact ⟨hstart, hstop, hstartFile, hstopFile⟩
  · intro state hstate
    obtain ⟨rest, hs⟩ := (Scanner.standing_of_reaches hstate).stands
    exact hs.locates

/-- A function on the characters of a line accepts every line. -/
theorem acceptsAll_ofChars (includeComments : Json) (label : String) (f : List Char → List Char) :
    (ScanConfig.options ⟨includeComments, some (.ofChars label f)⟩).AcceptsAll := by
  intro g hg line
  rw [← Option.some.inj hg]
  exact ⟨_, rfl⟩

/-- Putting every line into brackets changes literals, but no position of any token. -/
theorem positions_locate_bracket :
    (ScanConfig.options { transform := some .bracket }).AcceptsAll ∧
      ∃ tokens, Scanner.tokens ⟨.ofString "Title\n\t# note\n@ - part\n  more", some "policy.txt",
          ScanConfig.options { transform := some .bracket }⟩ = .ok tokens ∧
        (∀ t ∈ tokens, t.LocatedIn (some "policy.txt")
          (Source.ofString "Title\n\t# note\n@ - part\n  more").text) ∧
        ∀ state, Scanner.Reaches ⟨.ofString "Title\n\t# note\n@ - part\n  more",
            some "policy.txt", ScanConfig.options { transform := some .bracket }⟩ state →
          state.cursor.Locates (Source.ofString "Title\n\t# note\n@ - part\n  more").text := by
  have haccepts : (ScanConfig.options { transform := some .bracket }).AcceptsAll :=
    acceptsAll_ofChars _ _ _
  exact ⟨haccepts, positions_locate ⟨.ofString "Title\n\t# note\n@ - part\n  more",
    some "policy.txt", ScanConfig.options { transform := some .bracket }⟩ haccepts⟩

end BlockScan
