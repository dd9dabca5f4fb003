import BlockScan.Proofs.Scan.Coverage
import BlockScan.Proofs.Scan.Factoring
import BlockScan.Scan.Catalogue
import BlockScan.Scan.Input

/-!
# The notes of a scan match its tokens

A scan notes what it meets, and a level shows the notes or hides them. The scan that is told the
level beforehand takes no note that would be hidden, and does not look at the word behind the mark
of a block keyword then (`Scanner.runAt`); it brings the same tokens and leaves the cursor in the
same place as the scan that takes all notes (`runAt_eq`).

The notes come about one by one, and the number in the last one is counted along the way. Seen
from the tokens that were brought, there is one note for each illegal token, in order, between one
on the beginning and one on the end (`log_run`), and the word in it is what stands in the text: the
mark and all letters behind it (`MarkedWord`). The main statement is `notes_match_tokens`.
-/

set_option autoImplicit false

namespace BlockScan

open Charset

variable {ε : Type}

/-! ## Notes that are taken at a level -/

/-- A run with those of its notes that are shown at a level. -/
def StreamRun.shownAt (run : StreamRun ε) (level : LogLevel) : StreamRun ε :=
  { run with log := level.visible run.log }

namespace Scanner

/-- What a stream still brings behind a cursor when some tokens were taken, and notes are taken at
a level: what stands at the mark of a block keyword is looked at only for a note that is shown. -/
def runAtFrom (s : Scanner ε) (level : LogLevel) (c : Cursor) (taken : Nat) : StreamRun ε :=
  match _h : s.source.nextBlock? c with
  | none =>
    let stop := s.source.skip isGap c
    ⟨⟨stop, .finished⟩, level.visible [.finished s.file (taken + 1)], .ok [s.endToken stop]⟩
  | some b =>
    let reading := b.read s.options s.file
    match reading.outcome with
    | .error e => ⟨⟨reading.cursor, .finished⟩, [], .error e⟩
    | .ok t =>
      if t.kind = .comment ∧ s.options.keepComments = false then s.runAtFrom level b.after taken
      else
        let notes := if level = .debug then s.notes t else []
        let run := s.runAtFrom level b.after (taken + 1)
        ⟨run.state, notes ++ run.log, run.outcome.map (t :: ·)⟩
termination_by (s.source.size - c.offset).toNat
decreasing_by
  all_goals
    have := Source.nextBlock?_progress _h
    omega

/-- The scan of a whole document that takes notes at a level. -/
def runAt (s : Scanner ε) (level : LogLevel) : StreamRun ε :=
  let reading := s.source.title.read s.options s.file
  let log := level.visible [.started s.file s.source.size]
  match reading.outcome with
  | .error e => ⟨⟨reading.cursor, .finished⟩, log, .error e⟩
  | .ok t =>
    let run := s.runAtFrom level s.source.title.after 1
    ⟨run.state, log ++ run.log, run.outcome.map (t :: ·)⟩

end Scanner

/-- Of no notes none is shown. -/
theorem LogLevel.visible_nil (level : LogLevel) : level.visible [] = [] := by
  rw [visible]
  split <;> rfl

/-- What is shown of two lots of notes is what is shown of each. -/
theorem LogLevel.visible_append (level : LogLevel) (notes more : List LogRecord) :
    level.visible (notes ++ more) = level.visible notes ++ level.visible more := by
  unfold visible
  split <;> rfl

namespace Scanner

variable {s : Scanner ε}

/-- Not taking a note is the same as taking and hiding it. -/
theorem runAtFrom_eq (level : LogLevel) (c : Cursor) (taken : Nat) :
    s.runAtFrom level c taken = (s.drain ⟨c, .within taken⟩).shownAt level := by
  fun_induction runAtFrom s level c taken with
  | case1 c taken hn stop =>
    rw [drain_within_of_none taken hn]
    rfl
  | case2 c taken b hb reading e he =>
    rw [drain_within_of_error taken hb he, StreamRun.shownAt, level.visible_nil]
  | case3 c taken b hb reading t ht hd ih => rw [ih, drain_within_of_dropped taken hb ht hd]
  | case4 c taken b hb reading t ht hd notes run ih =>
    rw [drain_within_of_kept taken hb ht hd]
    simp only [run, ih, StreamRun.shownAt, level.visible_append]
    rfl

/-- Looking at marks only for a note that is shown leaves the run the same but for the notes. -/
theorem runAt_eq (s : Scanner ε) (level : LogLevel) : s.runAt level = s.run.shownAt level := by
  rw [runAt]
  cases ho : (s.source.title.read s.options s.file).outcome with
  | error e =>
    rw [run_of_error ho]
    rfl
  | ok t =>
    rw [run_of_ok ho]
    simp only [runAtFrom_eq, StreamRun.shownAt, ← level.visible_append, List.singleton_append]

/-! ## The notes seen from the tokens -/

/-- The number in the last note, which was counted along the way, is that of all tokens. -/
theorem log_drain_within (c : Cursor) (taken : Nat) :
    ∀ tokens, (s.drain ⟨c, .within taken⟩).outcome = .ok tokens →
      (s.drain ⟨c, .within taken⟩).log =
        tokens.flatMap s.notes ++ [.finished s.file (taken + tokens.length)] := by
  fun_induction Source.blocksFrom s.source c generalizing taken with
  | case1 c hn =>
    rw [drain_within_of_none taken hn]
    intro tokens h
    rw [Except.ok.injEq] at h
    subst h
    rfl
  | case2 c b hb ih =>
    cases ho : (b.read s.options s.file).outcome with
    | error e =>
      rw [drain_within_of_error taken hb ho]
      intro tokens h
      simp at h
    | ok t =>
      by_cases hd : t.kind = .comment ∧ s.options.keepComments = false
      · -- a comment that is passed over is neither noted nor counted
        rw [drain_within_of_dropped taken hb ho hd]
        exact ih taken
      · rw [drain_within_of_kept taken hb ho hd]
        intro tokens h
        cases hrest : (s.drain ⟨b.after, .within (taken + 1)⟩).outcome with
        | error e => simp [hrest, Except.map] at h
        | ok rest =>
          rw [hrest, Except.map, Except.ok.injEq] at h
          subst h
          have hcount : taken + (t :: rest).length = taken + 1 + rest.length := by
            rw [List.length_cons]
            omega
          rw [List.flatMap_cons, List.append_assoc, hcount, ← ih (taken + 1) rest hrest]

/-- The notes of a scan are those on its tokens in order, between one on the beginning and one on
the end. -/
theorem log_run {tokens : List Token} (h : s.tokens = .ok tokens) :
    s.run.log = .started s.file s.source.size ::
      (tokens.flatMap s.notes ++ [.finished s.file tokens.length]) := by
  rw [Scanner.tokens] at h
  cases ho : (s.source.title.read s.options s.file).outcome with
  | error e =>
    rw [run_of_error ho] at h
    simp at h
  | ok t =>
    -- the title is no illegal token, so that it leaves no note of its own
    have hnone : s.notes t = [] := by
      rw [notes, kind_of_read ho]
      rfl
    rw [run_of_ok ho] at h ⊢
    cases hrest : (s.drain ⟨s.source.title.after, .within 1⟩).outcome with
    | error e => simp [hrest, Except.map] at h
    | ok rest =>
      rw [hrest, Except.map, Except.ok.injEq] at h
      subst h
      rw [log_drain_within s.source.title.after 1 rest hrest, List.flatMap_cons, hnone,
        List.nil_append, List.length_cons, Nat.add_comm 1]

end Scanner

/-! ## Words at block marks -/

/-- A word stands at an offset of a text: a block mark and all the letters that follow it. -/
def MarkedWord (text : List Char) (offset : Int) (word : String) : Prop :=
  ∃ before letters rest, text = before ++ (keywordMark :: letters ++ rest) ∧
    offset = before.length ∧ letters.all Text.isLetter = true ∧
    (∀ char ∈ rest.head?, Text.isLetter char = false) ∧
    word = String.ofList (keywordMark :: letters)

/-- What the reader looks up at a mark is the mark with all the letters behind it. -/
theorem markedWord_wordAt {s : Source} {before rest : List Char}
    (h : s.text = before ++ keywordMark :: rest) :
    MarkedWord s.text before.length (String.ofList (s.wordAt before.length)) := by
  have hupcoming : s.upcoming (before.length + 1) = rest := by
    have hcast : (before.length : Int) + 1 = (before.length + 1 : Nat) := rfl
    rw [hcast, Source.upcoming_natCast, h, ← List.drop_drop, List.drop_left]
    rfl
  have htext : s.text = before ++
      (keywordMark :: rest.takeWhile Text.isLetter ++ rest.dropWhile Text.isLetter) := by
    rw [List.cons_append, List.takeWhile_append_dropWhile, h]
  have hword : s.wordAt before.length = keywordMark :: rest.takeWhile Text.isLetter := by
    have hslice := Source.slice_of_text_eq htext
    rw [Source.wordAt, hupcoming, ← hslice]
    congr 1
    rw [List.length_cons]
    omega
  refine ⟨before, _, _, htext, rfl, List.all_takeWhile, ?_, by rw [hword]⟩
  intro char hchar
  have hn := List.head?_dropWhile_not Text.isLetter rest
  rw [Option.mem_def] at hchar
  rwa [hchar] at hn

/-- A passage that is the mark of a block keyword has that one character. -/
theorem stable_marked :
    Passage.Stable fun p => p.kind = .marker → p.lines = [[keywordMark]] where
  title _ h := absurd h BlockKind.heading_ne_marker
  titleLine _ _ _ _ h := absurd h BlockKind.heading_ne_marker
  marker _ _ := rfl
  opening c char rest _ _ _ h := absurd h (Passage.open_opening c char rest).kind_ne
  longer _ hk _ _ _ _ h := absurd h hk

/-- At the start of a mark passage there is a mark in the text. -/
theorem exists_mark_of_mem_outline {text : List Char} {p : Passage} (h : p ∈ outline text)
    (hk : p.kind = .marker) :
    ∃ before rest, text = before ++ keywordMark :: rest ∧ p.start.offset = before.length := by
  obtain ⟨before, body, rest, ht, hstart, -, hp⟩ := (tiles_outline text).exists_body h
  have hc : p.kind ≠ .comment := by
    rw [hk]
    decide
  rw [Passage.spells_iff_of_ne_comment hc, forall_mem_outline stable_marked text p h hk,
    List.intercalate_singleton] at hp
  refine ⟨before, rest, ?_, ?_⟩
  · rw [ht, hp]
    rfl
  · rw [hstart, walk_origin]

/-- Only block marks become illegal tokens. -/
theorem BlockKind.tokenKind_eq_illegal_iff (kind : BlockKind) :
    kind.tokenKind = .illegal ↔ kind = .marker := by
  cases kind <;> decide

/-- Options change neither the kind nor the place of a token. -/
theorem exists_mem_plainTokens {s : Scanner ε} {tokens : List Token} (h : s.tokens = .ok tokens)
    {t : Token} (ht : t ∈ tokens) :
    ∃ u ∈ plainTokens s.file s.source.text, t.kind = u.kind ∧ t.span = u.span := by
  rw [tokens_eq_rework, ScanOptions.rework] at h
  split at h
  · simp at h
  · rw [Except.ok.injEq] at h
    subst h
    exact ScanOptions.exists_of_mem_filter ht

/-- At the start of every illegal token there is a marked word. -/
theorem markedWord_of_illegal {s : Scanner ε} {tokens : List Token} (h : s.tokens = .ok tokens)
    {t : Token} (ht : t ∈ tokens) (hk : t.kind = .illegal) :
    MarkedWord s.source.text t.span.start.offset
      (String.ofList (s.source.wordAt t.span.start.offset)) := by
  obtain ⟨u, hu, hkind, hspan⟩ := exists_mem_plainTokens h ht
  rw [hkind] at hk
  rw [hspan]
  rw [plainTokens, List.mem_append, List.mem_map, List.mem_singleton] at hu
  rcases hu with ⟨p, hp, rfl⟩ | rfl
  · obtain ⟨before, rest, htext, hoffset⟩ :=
      exists_mark_of_mem_outline hp (p.kind.tokenKind_eq_illegal_iff.1 hk)
    have hstart : (p.toToken s.file).span.start.offset = before.length := hoffset
    rw [hstart]
    exact markedWord_wordAt htext
  · simp [endOfText, Token.point] at hk

/-! ## Notes on illegal tokens -/

/-- The words that are reserved for block keywords. -/
def reservedWords : List String := TokenKind.blockKeywords.map TokenKind.spelling

example : reservedWords =
    ["@meta", "@define", "@enum", "@inputs", "@outputs", "@locals", "@code"] := by decide

/-- The wording of the note on a word at the mark of a block keyword. -/
def markerWording (span : Span) (word : String) : String :=
  if word ∈ reservedWords then
    span.describe ++ ": block keyword " ++ word ++ " is reserved and not supported yet"
  else span.describe ++ ": unrecognized block marker " ++ Text.quoted word

/-- A note tells the place of a token and the word that stands there in the text, as that of a
reserved keyword when it is one and as an unrecognized one otherwise. -/
structure Token.NotedBy (text : List Char) (t : Token) (word : String) (note : LogRecord) :
    Prop where
  word_at : MarkedWord text t.span.start.offset word
  reserved_iff : (∃ keyword, keyword.spelling = word ∧ note = .reserved t.span keyword) ↔
    word ∈ reservedWords
  unrecognized_iff : note = .unrecognized t.span word ↔ word ∉ reservedWords
  message_eq : note.message = markerWording t.span word

/-- The note on a mark tells of the word that stands there. -/
theorem notedBy_onMarker {text : List Char} {t : Token} {word : String}
    (h : MarkedWord text t.span.start.offset word) :
    t.NotedBy text word (.onMarker t.span word) := by
  unfold LogRecord.onMarker
  cases hf : TokenKind.ofBlockKeyword? word with
  | some keyword =>
    have hs : keyword.spelling = word := by simpa using List.find?_some hf
    have hw : word ∈ reservedWords :=
      List.mem_map.2 ⟨keyword, List.mem_of_find?_eq_some hf, hs⟩
    refine ⟨h, iff_of_true ⟨keyword, hs, rfl⟩ hw, iff_of_false (by simp) (not_not_intro hw), ?_⟩
    rw [markerWording, if_pos hw, LogRecord.message, hs]
  | none =>
    have hw : word ∉ reservedWords := by
      rw [TokenKind.ofBlockKeyword?, List.find?_eq_none] at hf
      intro hmem
      obtain ⟨keyword, hk, hs⟩ := List.mem_map.1 hmem
      exact hf keyword hk (by simpa using hs)
    refine ⟨h, iff_of_false (by simp) hw, iff_of_true rfl hw, ?_⟩
    rw [markerWording, if_neg hw, LogRecord.message]

/-- The notes on a stream tell of its illegal tokens one by one, in order. -/
theorem forall₂_notes (s : Scanner ε) {tokens : List Token}
    (h : ∀ t ∈ tokens, t.kind = .illegal → MarkedWord s.source.text t.span.start.offset
      (String.ofList (s.source.wordAt t.span.start.offset))) :
    List.Forall₂ (fun t note => ∃ word, t.NotedBy s.source.text word note)
      (tokens.filter fun t => t.kind = .illegal) (tokens.flatMap s.notes) := by
  induction tokens with
  | nil => exact .nil
  | cons t tokens ih =>
    rw [List.forall_mem_cons] at h
    rw [List.flatMap_cons, Scanner.notes]
    by_cases hk : t.kind = .illegal
    · rw [List.filter_cons_of_pos (by simp [hk]), if_pos hk]
      exact .cons ⟨_, notedBy_onMarker (h.1 hk)⟩ (ih h.2)
    · rw [List.filter_cons_of_neg (by simp [hk]), if_neg hk]
      exact ih h.2

/-- A log tells how long the text is, then of each illegal token in order, and then how many tokens
there are, the end of the text among them. -/
def Scanner.Logs (s : Scanner ε) (tokens : List Token) (log : List LogRecord) : Prop :=
  ∃ notes, log = .started s.file s.source.text.length ::
      (notes ++ [.finished s.file tokens.length]) ∧
    List.Forall₂ (fun t note => ∃ word, t.NotedBy s.source.text word note)
      (tokens.filter fun t => t.kind = .illegal) notes

/-- When a scan succeeds, it does so with the same tokens and the same end at every level. At the
level for debugging its log tells of the tokens that it brought, and at any other level the log is
empty. -/
theorem notes_match_tokens (s : Scanner ε) {tokens : List Token} (h : s.tokens = .ok tokens) :
    (∀ level, (s.runAt level).outcome = .ok tokens ∧ s.runAt level = s.run.shownAt level) ∧
      s.Logs tokens (s.runAt .debug).log ∧
      ∀ level, level ≠ .debug → (s.runAt level).log = [] := by
  have hlog : ∀ level, (s.runAt level).log = level.visible s.run.log := by
    intro level
    rw [s.runAt_eq level]
    rfl
  refine ⟨?_, ⟨tokens.flatMap s.notes, ?_, ?_⟩, ?_⟩
  · intro level
    have hrun := s.runAt_eq level
    refine ⟨?_, hrun⟩
    rw [hrun]
    exact h
  · rw [hlog, Scanner.log_run h, ← s.source.size_eq]
    rfl
  · exact forall₂_notes s fun t ht hk => markedWord_of_illegal h ht hk
  · intro level hlevel
    rw [hlog, LogLevel.visible, if_neg hlevel]

/-- Two comments are left out and not counted, and the letters of a word are not those of ASCII
alone. -/
theorem notes_match_tokens_dropped :
    ∃ (s : Scanner LineError) (tokens : List Token),
      s = ⟨.ofString "T\n\n@meta\n# note\n@é!\n# end", some "policy.txt",
        ScanConfig.options { includeComments := .bool false }⟩ ∧
      s.tokens = .ok tokens ∧
      tokens.map Token.kind = [.heading, .illegal, .paragraph, .illegal, .paragraph, .eof] ∧
      (∀ level, (s.runAt level).outcome = .ok tokens ∧ s.runAt level = s.run.shownAt level) ∧
      s.Logs tokens (s.runAt .debug).log ∧
      ∀ level, level ≠ .debug → (s.runAt level).log = [] := by
  let options : ScanOptions LineError := ScanConfig.options { includeComments := .bool false }
  let s : Scanner LineError :=
    ⟨.ofString "T\n\n@meta\n# note\n@é!\n# end", some "policy.txt", options⟩
  have hkinds : s.tokens.map (List.map Token.kind) =
      .ok [.heading, .illegal, .paragraph, .illegal, .paragraph, .eof] := by decide +kernel
  cases htokens : s.tokens with
  | error e => simp [htokens, Except.map] at hkinds
  | ok tokens =>
    rw [htokens, Except.map, Except.ok.injEq] at hkinds
    exact ⟨s, tokens, rfl, htokens, hkinds, notes_match_tokens s htokens⟩

end BlockScan
