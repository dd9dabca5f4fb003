import BlockScan.Proofs.Outline.Blocks
import BlockScan.Scan.Stream

/-!
# A scan reads the blocks of its source

Taken to its end, a stream brings the tokens of the blocks of its source in order, without those
of comments that are not kept, and then the end of the text (`tokens_eq_readBlocks`). The first
block that becomes no token ends it with an error.
-/

set_option autoImplicit false

namespace BlockScan.Scanner

open Charset

variable {ε : Type} {s : Scanner ε}

/-- The tokens of some blocks in order. Those of comments that are not kept are left out, and the
first block that becomes no token decides. -/
def readBlocks (s : Scanner ε) : List Block → Except (ScanError ε) (List Token)
  | [] => .ok []
  | b :: rest =>
    match (b.read s.options s.file).outcome with
    | .error e => .error e
    | .ok t => (s.readBlocks rest).map fun tokens =>
      if t.kind = .comment ∧ s.options.keepComments = false then tokens else t :: tokens

/-! ## One step -/

section Step

variable (taken : Nat) {c : Cursor} {b : Block} {t : Token} {e : ScanError ε}

/-- When only gaps are left the stream brings the end of the text and is finished. -/
theorem nextWithin_of_none (h : s.source.nextBlock? c = none) :
    s.nextWithin c taken = ⟨⟨s.source.skip isGap c, .finished⟩, [.finished s.file (taken + 1)],
      .ok (some (s.endToken (s.source.skip isGap c)))⟩ := by
  rw [nextWithin]
  split
  · rfl
  · next b hb => simp [h] at hb

/-- When a block cannot be read the stream brings the error and is finished, with the cursor where
the reader stopped. -/
theorem nextWithin_of_error (h : s.source.nextBlock? c = some b)
    (he : (b.read s.options s.file).outcome = .error e) :
    s.nextWithin c taken = ⟨⟨(b.read s.options s.file).cursor, .finished⟩, [], .error e⟩ := by
  rw [nextWithin]
  split
  · next hb => simp [h] at hb
  · next b' hb =>
    rw [h, Option.some.injEq] at hb
    subst hb
    simp only [he]

/-- A comment that is not kept is passed, and nothing is counted for it. -/
theorem nextWithin_of_dropped (h : s.source.nextBlock? c = some b)
    (ht : (b.read s.options s.file).outcome = .ok t)
    (hd : t.kind = .comment ∧ s.options.keepComments = false) :
    s.nextWithin c taken = s.nextWithin b.after taken := by
  rw [nextWithin]
  split
  · next hb => simp [h] at hb
  · next b' hb =>
    rw [h, Option.some.injEq] at hb
    subst hb
    simp only [ht, hd, and_self, if_true]

/-- A block that is read and not dropped becomes the next token, with its notes. -/
theorem nextWithin_of_kept (h : s.source.nextBlock? c = some b)
    (ht : (b.read s.options s.file).outcome = .ok t)
    (hk : ¬ (t.kind = .comment ∧ s.options.keepComments = false)) :
    s.nextWithin c taken = ⟨⟨b.after, .within (taken + 1)⟩, s.notes t, .ok (some t)⟩ := by
  rw [nextWithin]
  split
  · next hb => simp [h] at hb
  · next b' hb =>
    rw [h, Option.some.injEq] at hb
    subst hb
    simp only [ht, if_neg hk]

end Step

/-! ## A whole run -/

section Run

variable {state : StreamState} {t : Token} {e : ScanError ε}

/-- A stream whose next step fails brings nothing more than the error. -/
theorem drain_of_error (h : (s.next state).outcome = .error e) :
    s.drain state = ⟨(s.next state).state, (s.next state).log, .error e⟩ := by
  rw [drain]
  split
  · next e' he =>
    rw [h, Except.error.injEq] at he
    rw [he]
  · next he => simp [h] at he
  · next t he => simp [h] at he

/-- A finished stream brings nothing more. -/
theorem drain_of_none (h : (s.next state).outcome = .ok none) :
    s.drain state = ⟨(s.next state).state, (s.next state).log, .ok []⟩ := by
  rw [drain]
  split
  · next e' he => simp [h] at he
  · rfl
  · next t he => simp [h] at he

/-- A stream that brings a token goes on from the state behind it. -/
theorem drain_of_some (h : (s.next state).outcome = .ok (some t)) :
    s.drain state = ⟨(s.drain (s.next state).state).state,
      (s.next state).log ++ (s.drain (s.next state).state).log,
      (s.drain (s.next state).state).outcome.map (t :: ·)⟩ := by
  rw [drain]
  split
  · next e' he => simp [h] at he
  · next he => simp [h] at he
  · next t' he =>
    rw [h, Except.ok.injEq, Option.some.injEq] at he
    rw [he]

/-- What a stream still brings is decided by its next step. -/
theorem drain_congr {state' : StreamState} (h : s.next state = s.next state') :
    s.drain state = s.drain state' := by
  cases ho : (s.next state').outcome with
  | error e => rw [drain_of_error ho, drain_of_error (h ▸ ho), h]
  | ok t? =>
    cases t? with
    | none => rw [drain_of_none ho, drain_of_none (h ▸ ho), h]
    | some t => rw [drain_of_some ho, drain_of_some (h ▸ ho), h]

/-- The error of the next step is the outcome of the whole run. -/
theorem outcome_drain_of_error (h : (s.next state).outcome = .error e) :
    (s.drain state).outcome = .error e := by
  rw [drain_of_error h]

/-- A finished stream has no token left. -/
theorem outcome_drain_of_none (h : (s.next state).outcome = .ok none) :
    (s.drain state).outcome = .ok [] := by
  rw [drain_of_none h]

/-- A token comes before all that the stream brings behind it. -/
theorem outcome_drain_of_some (h : (s.next state).outcome = .ok (some t)) :
    (s.drain state).outcome = (s.drain (s.next state).state).outcome.map (t :: ·) := by
  rw [drain_of_some h]

/-! ## A run behind a cursor -/

section Within

variable (taken : Nat) {c : Cursor} {b : Block}

/-- Behind the last block a run ends with the token of the end. -/
theorem drain_within_of_none (h : s.source.nextBlock? c = none) :
    s.drain ⟨c, .within taken⟩ = ⟨⟨s.source.skip isGap c, .finished⟩,
      [.finished s.file (taken + 1)], .ok [s.endToken (s.source.skip isGap c)]⟩ := by
  have hstep : s.next ⟨c, .within taken⟩ = _ := nextWithin_of_none taken h
  rw [drain_of_some (by rw [hstep]), hstep, drain_of_none rfl]
  rfl

/-- A run ends at the first block that cannot be read. -/
theorem drain_within_of_error (h : s.source.nextBlock? c = some b)
    (he : (b.read s.options s.file).outcome = .error e) :
    s.drain ⟨c, .within taken⟩ =
      ⟨⟨(b.read s.options s.file).cursor, .finished⟩, [], .error e⟩ := by
  have hstep : s.next ⟨c, .within taken⟩ = _ := nextWithin_of_error taken h he
  rw [drain_of_error (by rw [hstep]), hstep]

/-- A run passes over a comment that is not kept. -/
theorem drain_within_of_dropped (h : s.source.nextBlock? c = some b)
    (ht : (b.read s.options s.file).outcome = .ok t)
    (hd : t.kind = .comment ∧ s.options.keepComments = false) :
    s.drain ⟨c, .within taken⟩ = s.drain ⟨b.after, .within taken⟩ :=
  drain_congr (nextWithin_of_dropped taken h ht hd)

/-- A run takes a block that is kept, its notes first, and goes on behind it. -/
theorem drain_within_of_kept (h : s.source.nextBlock? c = some b)
    (ht : (b.read s.options s.file).outcome = .ok t)
    (hk : ¬ (t.kind = .comment ∧ s.options.keepComments = false)) :
    s.drain ⟨c, .within taken⟩ = ⟨(s.drain ⟨b.after, .within (taken + 1)⟩).state,
      s.notes t ++ (s.drain ⟨b.after, .within (taken + 1)⟩).log,
      (s.drain ⟨b.after, .within (taken + 1)⟩).outcome.map (t :: ·)⟩ := by
  have hstep : s.next ⟨c, .within taken⟩ = _ := nextWithin_of_kept taken h ht hk
  rw [drain_of_some (by rw [hstep]), hstep]

end Within

/-- What a stream brings behind a cursor are the blocks there, read one after the other, and the
end; how many tokens were taken before has no part in it. -/
theorem outcome_drain_within (s : Scanner ε) (c : Cursor) (taken : Nat) :
    (s.drain ⟨c, .within taken⟩).outcome = (s.readBlocks (s.source.blocksFrom c)).map
      (· ++ [s.endToken (s.source.lastCursor c)]) := by
  fun_induction Source.blocksFrom s.source c generalizing taken with
  | case1 c hn =>
    have hlast : s.source.lastCursor c = s.source.skip isGap c := by
      rw [Source.lastCursor]
      split
      · rfl
      · next b hb => simp [hn] at hb
    rw [drain_within_of_none taken hn, hlast]
    rfl
  | case2 c b hb ih =>
    have hlast : s.source.lastCursor c = s.source.lastCursor b.after := by
      rw [Source.lastCursor]
      split
      · next hn => simp [hn] at hb
      · next b' hb' =>
        rw [hb, Option.some.injEq] at hb'
        rw [hb']
    rw [readBlocks, hlast]
    cases ho : (b.read s.options s.file).outcome with
    | error e =>
      rw [drain_within_of_error taken hb ho]
      rfl
    | ok t =>
      by_cases hd : t.kind = .comment ∧ s.options.keepComments = false
      · rw [drain_within_of_dropped taken hb ho hd, ih]
        simp only [hd, and_self, if_true]
        cases s.readBlocks (s.source.blocksFrom b.after) <;> rfl
      · rw [drain_within_of_kept taken hb ho hd, ih]
        simp only [if_neg hd]
        cases s.readBlocks (s.source.blocksFrom b.after) <;> rfl

/-! ## The run on a whole document -/

/-- The token of a block has the kind of the block, whatever becomes of its lines. -/
theorem kind_of_read {options : ScanOptions ε} {file : Option String} {b : Block}
    (h : (b.read options file).outcome = .ok t) : t.kind = b.kind.tokenKind := by
  unfold Block.read at h
  split at h
  · simp at h
  · split at h
    · simp at h
    · rw [Except.ok.injEq] at h
      rw [← h]

/-- A scan whose title cannot be read has begun and comes to nothing. -/
theorem run_of_error (h : (s.source.title.read s.options s.file).outcome = .error e) :
    s.run = ⟨⟨(s.source.title.read s.options s.file).cursor, .finished⟩,
      [.started s.file s.source.size], .error e⟩ := by
  have hstep : s.next .initial = ⟨⟨(s.source.title.read s.options s.file).cursor, .finished⟩,
      [.started s.file s.source.size], .error e⟩ := by
    rw [Source.title] at h ⊢
    simp only [next, nextOpening, StreamState.initial, h]
  rw [run, drain_of_error (by rw [hstep]), hstep]

/-- A scan takes the title and then what the stream brings behind it. -/
theorem run_of_ok (h : (s.source.title.read s.options s.file).outcome = .ok t) :
    s.run = ⟨(s.drain ⟨s.source.title.after, .within 1⟩).state,
      .started s.file s.source.size :: (s.drain ⟨s.source.title.after, .within 1⟩).log,
      (s.drain ⟨s.source.title.after, .within 1⟩).outcome.map (t :: ·)⟩ := by
  have hstep : s.next .initial = ⟨⟨s.source.title.after, .within 1⟩,
      [.started s.file s.source.size], .ok (some t)⟩ := by
    rw [Source.title] at h ⊢
    simp only [next, nextOpening, StreamState.initial, h]
  rw [run, drain_of_some (by rw [hstep]), hstep, List.singleton_append]

/-- The tokens of a document are those of its blocks, and the end of the text. -/
theorem tokens_eq_readBlocks (s : Scanner ε) :
    s.tokens = (s.readBlocks s.source.blocks).map
      (· ++ [s.endToken (Cursor.origin.walk s.source.text)]) := by
  rw [tokens, Source.blocks, readBlocks, ← lastCursor_title]
  cases ho : (s.source.title.read s.options s.file).outcome with
  | error e =>
    rw [run_of_error ho]
    rfl
  | ok t =>
    have hk : ¬ (t.kind = .comment ∧ s.options.keepComments = false) := by
      rw [kind_of_read ho]
      simp [Source.title, Source.textBlock, BlockKind.tokenKind]
    rw [run_of_ok ho, outcome_drain_within]
    simp only [if_neg hk]
    cases s.readBlocks (s.source.blocksFrom s.source.title.after) <;> rfl

end Run

end BlockScan.Scanner
