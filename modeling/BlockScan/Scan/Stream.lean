import BlockScan.Block.Next
import BlockScan.Scan.Log
import BlockScan.Scan.Options

/-!
# Scanning

A scanner turns a document into a stream of tokens: a heading, which is the title of the document
and may be empty, then one token for every block, then the end of the text. The stream is taken
one token at a time (`Scanner.next`) from a state that is just a cursor and how far the stream has
come, or to its end (`Scanner.drain`); a scan does the latter from the first character on.
-/

set_option autoImplicit false

namespace BlockScan

/-- What a scan works on; nothing of it changes during a scan. -/
structure Scanner (ε : Type) where
  source : Source
  file : Option String
  options : ScanOptions ε

/-- How far a stream of tokens has come. -/
inductive Stage where
  /-- Nothing was taken yet. -/
  | opening
  /-- This many tokens were taken, and the end was not. -/
  | within (taken : Nat)
  /-- The end or an error was taken. -/
  | finished
deriving DecidableEq

/-- The state of a stream of tokens. -/
structure StreamState where
  cursor : Cursor
  stage : Stage
deriving DecidableEq

/-- The state before anything was read. -/
def StreamState.initial : StreamState := ⟨.origin, .opening⟩

/-- What one step of a stream brings: the next token, none when there is no more, or an error. -/
structure StreamStep (ε : Type) where
  state : StreamState
  log : List LogRecord
  outcome : Except (ScanError ε) (Option Token)

/-- What the rest of a stream brings: all its tokens, or an error. -/
structure StreamRun (ε : Type) where
  state : StreamState
  log : List LogRecord
  outcome : Except (ScanError ε) (List Token)

namespace Scanner

variable {ε : Type}

/-- The notes on a token. -/
def notes (s : Scanner ε) (t : Token) : List LogRecord :=
  if t.kind = .illegal then
    [.onMarker t.span (String.ofList (s.source.wordAt t.span.start.offset))]
  else []

/-- The token of the end of the text. -/
def endToken (s : Scanner ε) (c : Cursor) : Token := .point .eof "" (.ofCursor s.file c)

/-- The next token behind a cursor, when some were taken. Comments that are not kept are read and
passed over. -/
def nextWithin (s : Scanner ε) (c : Cursor) (taken : Nat) : StreamStep ε :=
  match _h : s.source.nextBlock? c with
  | none =>
    let stop := s.source.skip Charset.isGap c
    ⟨⟨stop, .finished⟩, [.finished s.file (taken + 1)], .ok (some (s.endToken stop))⟩
  | some b =>
    let reading := b.read s.options s.file
    match reading.outcome with
    | .error e => ⟨⟨reading.cursor, .finished⟩, [], .error e⟩
    | .ok t =>
      if t.kind = .comment ∧ s.options.keepComments = false then s.nextWithin b.after taken
      else ⟨⟨b.after, .within (taken + 1)⟩, s.notes t, .ok (some t)⟩
termination_by (s.source.size - c.offset).toNat
decreasing_by
  have := Source.nextBlock?_progress _h
  omega

/-- The first token: the title, read as a heading whatever it starts with. -/
def nextOpening (s : Scanner ε) (c : Cursor) : StreamStep ε :=
  let b := s.source.textBlock .heading c
  let reading := b.read s.options s.file
  let log := [LogRecord.started s.file s.source.size]
  match reading.outcome with
  | .error e => ⟨⟨reading.cursor, .finished⟩, log, .error e⟩
  | .ok t => ⟨⟨b.after, .within 1⟩, log, .ok (some t)⟩

/-- The next token of a stream. -/
def next (s : Scanner ε) (state : StreamState) : StreamStep ε :=
  match state.stage with
  | .opening => s.nextOpening state.cursor
  | .within taken => s.nextWithin state.cursor taken
  | .finished => ⟨state, [], .ok none⟩

/-- A bound on the number of tokens that a stream still brings. -/
def remaining (s : Scanner ε) (state : StreamState) : Nat :=
  match state.stage with
  | .opening => s.source.size + 2
  | .within _ => (s.source.size - state.cursor.offset).toNat + 1
  | .finished => 0

/-- Behind a cursor a stream brings no more tokens than there are characters and the end. -/
theorem nextWithin_remaining (s : Scanner ε) (c : Cursor) (taken : Nat) :
    s.remaining (s.nextWithin c taken).state < (s.source.size - c.offset).toNat + 1 := by
  fun_induction nextWithin s c taken with
  | case1 => simp [remaining]
  | case2 => simp [remaining]
  | case3 c b hb _ _ _ _ ih =>
    have := Source.nextBlock?_progress hb
    omega
  | case4 c b hb =>
    have := Source.nextBlock?_progress hb
    simp only [remaining]
    omega

/-- A step that brings a token brings the end nearer. -/
theorem next_remaining {s : Scanner ε} {state : StreamState} {t : Token}
    (h : (s.next state).outcome = .ok (some t)) :
    s.remaining (s.next state).state < s.remaining state := by
  unfold next at h ⊢
  split
  · next hs =>
    have := s.source.index_le_offset_textBlock .heading state.cursor
    have hn : s.remaining (s.nextOpening state.cursor).state ≤ s.source.size + 1 := by
      unfold nextOpening
      simp only
      split
      · simp [remaining]
      · simp only [remaining]
        omega
    simp only [remaining, hs] at hn ⊢
    omega
  · next taken hs =>
    have := s.nextWithin_remaining state.cursor taken
    simp only [hs, remaining] at this ⊢
    exact this
  · next hs =>
    rw [hs] at h
    simp at h

/-- All tokens that a stream still brings. -/
def drain (s : Scanner ε) (state : StreamState) : StreamRun ε :=
  let step := s.next state
  match _h : step.outcome with
  | .error e => ⟨step.state, step.log, .error e⟩
  | .ok none => ⟨step.state, step.log, .ok []⟩
  | .ok (some t) =>
    let run := s.drain step.state
    ⟨run.state, step.log ++ run.log, run.outcome.map (t :: ·)⟩
termination_by s.remaining state
decreasing_by exact next_remaining _h

/-- The scan of a whole document. -/
def run (s : Scanner ε) : StreamRun ε := s.drain .initial

/-- The tokens of a document. -/
def tokens (s : Scanner ε) : Except (ScanError ε) (List Token) := s.run.outcome

end Scanner

/-- The tokens of a text when comments are kept and lines are taken as they are. -/
def scanPlain (file : Option String) (text : String) : Except (ScanError Empty) (List Token) :=
  Scanner.tokens ⟨.ofString text, file, {}⟩

end BlockScan
