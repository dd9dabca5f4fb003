import BlockScan.Proofs.Outline.Blocks
import BlockScan.Proofs.Scan.Run

/-!
# The states of a stream

A stream goes from state to state by taking tokens (`Scanner.Reaches`). In every state that it
comes to, its cursor stands in the text, and before the first token it stands at the beginning
(`Scanner.Standing`): taking a token keeps this (`Standing.next`), so it holds of all states that
are reached (`standing_of_reaches`).

Taking one token takes the first one of all tokens that are still to come and leaves the others to
come (`next_of_drain_eq_ok`), and when none is to come the state stays as it is.
-/

set_option autoImplicit false

namespace BlockScan.Scanner

variable {ε : Type} {s : Scanner ε}

/-- The states in which a stream can be when some tokens were taken from it. -/
inductive Reaches (s : Scanner ε) : StreamState → Prop
  | initial : s.Reaches .initial
  | next {state : StreamState} {t : Token} (h : s.Reaches state)
      (ht : (s.next state).outcome = .ok (some t)) : s.Reaches (s.next state).state

/-- The cursor of a state stands in the text, at the beginning when nothing was taken. -/
structure Standing (s : Scanner ε) (state : StreamState) : Prop where
  opening : state.stage = .opening → state.cursor = .origin
  stands : ∃ rest, s.source.Stands state.cursor rest

/-- A stream begins at the beginning of its text. -/
theorem standing_initial (s : Scanner ε) : s.Standing .initial :=
  ⟨fun _ => rfl, s.source.text, Source.Stands.origin s.source⟩

/-- Behind the title the cursor stands in the text. -/
theorem standing_nextOpening {t : Token} (ht : (s.nextOpening .origin).outcome = .ok (some t)) :
    s.Standing (s.nextOpening .origin).state := by
  obtain ⟨p, rest, -, hs, -⟩ := title_yields s.source
  have hs : s.source.Stands (s.source.textBlock .heading .origin).after rest := hs
  cases ho : ((s.source.textBlock .heading .origin).read s.options s.file).outcome with
  | error e => simp [nextOpening, ho] at ht
  | ok t' =>
    simp only [nextOpening, ho]
    refine ⟨?_, rest, hs⟩
    intro h
    simp at h

/-- Behind every token but the title the cursor stands in the text, also when comments were passed
over on the way. -/
theorem standing_nextWithin {c : Cursor} {rest : List Char} (hs : s.source.Stands c rest)
    (taken : Nat) {t : Token} (ht : (s.nextWithin c taken).outcome = .ok (some t)) :
    s.Standing (s.nextWithin c taken).state := by
  fun_induction nextWithin s c taken generalizing rest with
  | case1 c hn =>
    refine ⟨?_, [], (stands_skip_of_nextBlock?_eq_none hs hn).1⟩
    intro h
    simp at h
  | case2 c b hb reading e => simp at ht
  | case3 c b hb reading t' ht' hd =>
    rename_i ih
    obtain ⟨p, rest', -, hs', -⟩ := nextBlock?_yields hs hb
    exact ih hs' ht
  | case4 c b hb reading t' ht' =>
    obtain ⟨p, rest', -, hs', -⟩ := nextBlock?_yields hs hb
    refine ⟨?_, rest', hs'⟩
    intro h
    simp at h

/-- Taking a token leaves the cursor standing in the text. -/
theorem Standing.next {state : StreamState} (h : s.Standing state) {t : Token}
    (ht : (s.next state).outcome = .ok (some t)) : s.Standing (s.next state).state := by
  obtain ⟨hopening, rest, hs⟩ := h
  unfold Scanner.next at ht ⊢
  split at ht
  · next hstage =>
    rw [hopening hstage] at ht ⊢
    exact standing_nextOpening ht
  · next taken hstage => exact standing_nextWithin hs taken ht
  · next hstage => simp at ht

/-- In every state that a stream reaches its cursor stands in the text. -/
theorem standing_of_reaches {state : StreamState} (h : s.Reaches state) : s.Standing state := by
  induction h with
  | initial => exact standing_initial s
  | next h ht ih => exact ih.next ht

/-! ## What is still to come -/

/-- A step that brings no token has found the stream at its end, and leaves it there. -/
theorem state_next_of_none {state : StreamState} (h : (s.next state).outcome = .ok none) :
    (s.next state).state = state := by
  have hwithin : ∀ c taken, (s.nextWithin c taken).outcome ≠ .ok none := by
    intro c taken
    fun_induction nextWithin s c taken with
    | case1 => simp
    | case2 => simp
    | case3 c b hb reading t ht hd ih => exact ih
    | case4 => simp
  unfold Scanner.next at h ⊢
  split at h
  · unfold nextOpening at h
    simp only at h
    split at h <;> simp at h
  · exact (hwithin _ _ h).elim
  · rfl

/-- A step brings the first one of the tokens that are still to come. -/
theorem next_of_drain_eq_ok {state : StreamState} {tokens : List Token}
    (h : (s.drain state).outcome = .ok tokens) :
    (s.next state).outcome = .ok tokens.head? ∧
      (s.drain (s.next state).state).outcome = .ok tokens.tail := by
  cases ho : (s.next state).outcome with
  | error e => simp [outcome_drain_of_error ho] at h
  | ok t? =>
    cases t? with
    | none =>
      rw [outcome_drain_of_none ho, Except.ok.injEq] at h
      subst h
      rw [state_next_of_none ho, outcome_drain_of_none ho]
      exact ⟨rfl, rfl⟩
    | some t =>
      rw [outcome_drain_of_some ho] at h
      cases hd : (s.drain (s.next state).state).outcome with
      | error e => simp [hd, Except.map] at h
      | ok rest =>
        rw [hd, Except.map, Except.ok.injEq] at h
        subst h
        exact ⟨rfl, rfl⟩

/-- Taking a token, or finding that there is none, comes to a state of the stream. -/
theorem Reaches.next_of_ok {state : StreamState} (h : s.Reaches state) {t? : Option Token}
    (ht : (s.next state).outcome = .ok t?) : s.Reaches (s.next state).state := by
  cases t? with
  | none => rwa [state_next_of_none ht]
  | some t => exact h.next ht

end BlockScan.Scanner
