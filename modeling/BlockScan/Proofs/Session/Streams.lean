import Mathlib.Data.List.Basic
import BlockScan.Proofs.Scan.Positions
import BlockScan.Proofs.Session.Actions

/-!
# Scanners at work side by side

The scanners of a session have nothing to do with one another, and none of them looks at what is
active once it is made. A step that takes the next token of one scanner finds it as the last such
step has left it, whatever was done in between (`bench?_act`), so these steps bring the
tokens of one scan (`Bench.awaits_next`). The main statement is `next_brings_one_by_one`.
-/

set_option autoImplicit false

namespace BlockScan

open Scanner

variable {ε : Type}

/-! ## One scanner -/

/-- A scanner is at work, and some tokens are still to come from it. -/
structure Bench.Awaits (b : Bench ε) (scanner : Scanner ε) (tokens : List Token) : Prop where
  scanner_eq : b.scanner = scanner
  reaches : scanner.Reaches b.state
  drain_eq : (scanner.drain b.state).outcome = .ok tokens

namespace Bench

variable {b : Bench ε} {scanner : Scanner ε} {tokens : List Token}

/-- From a new scanner all its tokens are still to come. -/
theorem awaits_ofScanner (h : scanner.tokens = .ok tokens) :
    (ofScanner scanner).Awaits scanner tokens := ⟨rfl, .initial, h⟩

/-- A stream whose cursor has not been moved by hand never has to look before the text. -/
theorem Awaits.isBeforeText (h : b.Awaits scanner tokens) : b.isBeforeText = false := by
  obtain ⟨rest, hs⟩ := (standing_of_reaches h.reaches).stands
  obtain ⟨k, hk, -, -⟩ := hs.exists_index
  rw [Bench.isBeforeText, Bench.cursor, Bool.not_eq_false', Source.reaches, decide_eq_true_eq, hk]
  omega

/-- Taking the next token brings the first one that was to come, and leaves the others. -/
theorem awaits_next (h : b.Awaits scanner tokens) :
    b.next.1.Awaits scanner tokens.tail ∧ b.next.2.2 = .ok tokens.head? := by
  obtain ⟨ho, hd⟩ := next_of_drain_eq_ok h.drain_eq
  have hguard : ¬ (b.state.stage ≠ .finished ∧ b.isBeforeText = true) := by
    rw [h.isBeforeText]
    simp
  unfold Bench.next guarded
  simp only [if_neg hguard, h.scanner_eq]
  refine ⟨⟨rfl, h.reaches.next_of_ok ho, hd⟩, ?_⟩
  rw [ho]
  rfl

end Bench

/-! ## One action -/

/-- What a step answers. -/
def StepResult.answer : StepResult ε → Answer ε
  | .mk a _ _ _ => a

namespace Action

/-- Whether an action takes the next token of the scanner with a name. -/
def takesNext (name : String) : Action ε → Bool
  | .next n => n == name
  | _ => false

/-- Whether an action does anything else to the scanner with a name: puts another one in its place,
lets its stream begin anew, takes all tokens at once, or handles it. -/
def disturbs (name : String) : Action ε → Bool
  | .newScanner n _ _ _ | .restart n | .rest n | .handle n _ => n == name
  | _ => false

/-- The one action that takes the next token of a scanner is asking for it by the name of the
scanner. -/
theorem eq_next_of_takesNext {name : String} {a : Action ε} (h : a.takesNext name = true) :
    a = .next name := by
  cases a with
  | next n => rw [eq_of_beq h]
  | _ => simp [takesNext] at h

end Action

namespace Session

/-- The scanner at work under a name. -/
def bench? (s : Session ε) (name : String) : Option (Bench ε) := s.store.benches.lookup name

/-- A new scanner is made for its own text and the configuration of the action or, without one, the
configuration that is active. -/
theorem bench?_newScanner {s : Session ε} {name : String} {input : ScanInput}
    {file : Option String} {config : Option (Except ConfigError (ScanConfig ε))}
    {c : ScanConfig ε} {text : List Char}
    (hc : s.configOf config = .ok c) (hl : input.load ε file = .ok text) :
    (s.act (.newScanner name input file config)).2.bench? name =
      some (.ofScanner (c.scanner file text)) := by
  simp only [act, hc, hl]
  exact lookup_setPair_self ..

/-- Work at the bench of one name leaves the scanners of other names as they are. -/
theorem bench?_benchResult_of_ne {α : Type} (s : Session ε) {name other : String} (h : other ≠ name)
    (answer : α → Answer ε)
    (work : Bench ε → Bench ε × List LogRecord × Except (BenchError ε) α) :
    (s.benchResult other answer work).2.bench? name = s.bench? name := by
  unfold benchResult bench?
  cases s.store.benches.lookup other with
  | none => rfl
  | some b => exact lookup_setPair_of_ne h ..

/-- A whole scan leaves all scanners at work as they are. -/
theorem benches_scan (store : Store ε) (profile : Option Nat) (c : ScanConfig ε)
    (file : Option String) (input : ScanInput) :
    (store.scan profile c file input).2.benches = store.benches := by
  unfold Store.scan
  cases input.load ε file with
  | error e => rfl
  | ok text =>
    cases profile with
    | none => rfl
    | some number =>
      simp only
      cases (c.scanner file text).run.outcome <;> rfl

/-- Nothing that is done elsewhere has to do with a scanner. -/
theorem bench?_act {s : Session ε} {name : String} {a : Action ε} (hn : a.takesNext name = false)
    (hd : a.disturbs name = false) : (s.act a).2.bench? name = s.bench? name := by
  cases a with
  | next other => exact bench?_benchResult_of_ne s (ne_of_beq_false hn) ..
  | restart other => exact bench?_benchResult_of_ne s (ne_of_beq_false hd) ..
  | rest other => exact bench?_benchResult_of_ne s (ne_of_beq_false hd) ..
  | handle other handling => exact bench?_benchResult_of_ne s (ne_of_beq_false hd) ..
  | newScanner other input file config =>
    rw [act]
    cases s.configOf config with
    | error e => rfl
    | ok c =>
      cases input.load ε file with
      | error e => rfl
      | ok text => exact lookup_setPair_of_ne (ne_of_beq_false hd) ..
  | setConfig config =>
    cases config <;> rfl
  | enterConfig other config =>
    cases config <;> rfl
  | leaveConfig other =>
    rw [act]
    cases s.scope.leaveConfig? other <;> rfl
  | leaveProfile other =>
    rw [act]
    cases s.scope.leaveProfile? other <;> rfl
  | summary other =>
    rw [act]
    cases s.store.profile? other <;> rfl
  | record other sourceLength kinds microseconds file =>
    rw [act]
    cases s.store.profileNames.lookup other with
    | none => rfl
    | some number => cases kindsOf kinds <;> rfl
  | scan input file config detailed =>
    rw [act]
    cases s.configOf config with
    | error e => rfl
    | ok c => exact congrArg (List.lookup name) (benches_scan ..)
  | _ => rfl

/-- Taking the next token of a scanner answers with it and leaves the rest to come. -/
theorem act_next {s : Session ε} {name : String} {b : Bench ε} {scanner : Scanner ε}
    {tokens : List Token} (hb : s.bench? name = some b) (h : b.Awaits scanner tokens) :
    (s.act (.next name)).1.answer = .token tokens.head? ∧
      (s.act (.next name)).2.bench? name = some b.next.1 := by
  have hb : s.store.benches.lookup name = some b := hb
  simp only [act, benchResult, hb]
  refine ⟨?_, lookup_setPair_self ..⟩
  rw [StepResult.answer, (Bench.awaits_next h).2]
  rfl

/-! ## Any actions -/

/-- What the steps that take the next token of a scanner have answered. -/
def answers (name : String) (done : List (Session ε × Action ε)) : List (Answer ε) :=
  (done.filter fun entry => entry.2.takesNext name).map fun entry => (entry.1.act entry.2).1.answer

/-- Some answers bring the first ones of some tokens, one token each, and no token once there are
no more. -/
def OneByOne (tokens : List Token) (answers : List (Answer ε)) : Prop :=
  answers = (tokens.take answers.length).map (fun t => .token (some t)) ++
    List.replicate (answers.length - tokens.length) (.token none)

/-- One more answer, with the next token or with none, goes on one by one. -/
theorem OneByOne.concat {tokens : List Token} {answers : List (Answer ε)}
    (h : OneByOne tokens answers) :
    OneByOne tokens (answers ++ [.token (tokens.drop answers.length).head?]) := by
  unfold OneByOne at h ⊢
  rw [List.length_append, List.length_singleton, List.head?_drop]
  by_cases hlt : answers.length < tokens.length
  · rw [Nat.sub_eq_zero_of_le (Nat.le_of_lt hlt), List.replicate_zero, List.append_nil] at h
    rw [Nat.sub_eq_zero_of_le hlt, List.replicate_zero, List.append_nil,
      List.getElem?_eq_getElem hlt, List.take_add_one, List.getElem?_eq_getElem hlt,
      List.map_append, ← h]
    rfl
  · have hle : tokens.length ≤ answers.length := Nat.le_of_not_lt hlt
    rw [List.take_of_length_le hle] at h
    rw [List.take_of_length_le (Nat.le_succ_of_le hle), List.getElem?_eq_none hle,
      Nat.succ_sub hle, List.replicate_succ', ← List.append_assoc, ← h]

/-- Some actions that were done, after which the scanner with a name has brought as many of its
tokens as it was asked for, and awaits the others. -/
structure Served (name : String) (scanner : Scanner ε) (tokens : List Token) (store : Store ε)
    (done : List (Session ε × Action ε)) : Prop where
  oneByOne : OneByOne tokens (answers name done)
  awaits : ∃ b, store.benches.lookup name = some b ∧
    b.Awaits scanner (tokens.drop (answers name done).length)

section Served

variable {name : String} {scanner : Scanner ε} {tokens : List Token} {store : Store ε}
  {done : List (Session ε × Action ε)}

/-- A scanner that was just made has brought as much as it was asked for. -/
theorem served_ofScanner (ht : scanner.tokens = .ok tokens)
    (hb : store.benches.lookup name = some (.ofScanner scanner)) :
    Served name scanner tokens store [] :=
  ⟨by simp [answers, OneByOne], _, hb, Bench.awaits_ofScanner ht⟩

/-- Any action but one that disturbs the scanner keeps it served. -/
theorem Served.act {s : Session ε} (h : Served name scanner tokens s.store done) {a : Action ε}
    (hd : a.disturbs name = false) :
    Served name scanner tokens (s.act a).2.store (done ++ [(s, a)]) := by
  obtain ⟨hone, b, hb, hawaits⟩ := h
  have happend : answers name (done ++ [(s, a)]) = answers name done ++ answers name [(s, a)] := by
    rw [answers, answers, answers, List.filter_append, List.map_append]
  cases hn : a.takesNext name with
  | false =>
    have hnone : answers name [(s, a)] = [] := by simp [answers, hn]
    rw [hnone, List.append_nil] at happend
    refine ⟨by rwa [happend], b, ?_, by rwa [happend]⟩
    exact (bench?_act hn hd).trans hb
  | true =>
    obtain rfl : a = .next name := Action.eq_next_of_takesNext hn
    obtain ⟨hanswer, hbench⟩ := act_next hb hawaits
    have hone' : answers name [(s, .next name)] =
        [.token (tokens.drop (answers name done).length).head?] := by
      simp only [answers, List.filter_cons, hn, if_true, List.filter_nil, List.map_cons,
        List.map_nil, hanswer]
    rw [hone'] at happend
    refine ⟨by rw [happend]; exact hone.concat, b.next.1, hbench, ?_⟩
    have hlength : (answers name (done ++ [(s, .next name)])).length =
        (answers name done).length + 1 := by
      rw [happend, List.length_append, List.length_singleton]
    rw [hlength, ← List.tail_drop]
    exact (Bench.awaits_next hawaits).1

end Served

/-- From the moment a scanner is made under a name, and for as long as nothing disturbs it, the
steps that take its next token are answered one by one. -/
def ServesAll (name : String) (store : Store ε) (past : List (Session ε × Action ε)) : Prop :=
  ∀ before t a after later scanner tokens, past = before ++ (t, a) :: (after ++ later) →
    scanner.tokens = .ok tokens → (t.act a).2.bench? name = some (.ofScanner scanner) →
    (∀ entry ∈ after, entry.2.disturbs name = false) →
    OneByOne tokens (answers name after) ∧ (later = [] → Served name scanner tokens store after)

/-- One more action keeps the promise to every scanner that was made under a name. -/
theorem ServesAll.act {name : String} {s : Session ε} {past : List (Session ε × Action ε)}
    (h : ServesAll name s.store past) (x : Action ε) :
    ServesAll name (s.act x).2.store (past ++ [(s, x)]) := by
  intro before t a after later scanner tokens hpast ht hb hafter
  rcases List.eq_nil_or_concat' later with rfl | ⟨later, last, rfl⟩
  · have hserved : Served name scanner tokens (s.act x).2.store after := by
      rw [List.append_nil] at hpast
      rcases List.eq_nil_or_concat' after with rfl | ⟨after, last, rfl⟩
      · obtain ⟨-, hlast⟩ := List.append_inj' hpast rfl
        rw [List.cons.injEq, Prod.mk.injEq] at hlast
        obtain ⟨⟨rfl, rfl⟩, -⟩ := hlast
        exact served_ofScanner ht hb
      · rw [← List.cons_append, ← List.append_assoc] at hpast
        obtain ⟨hbefore, hlast⟩ := List.append_inj' hpast rfl
        rw [List.singleton_inj] at hlast
        subst hlast
        rw [List.forall_mem_append, List.forall_mem_singleton] at hafter
        have hserved := h before t a after [] scanner tokens (by rw [hbefore, List.append_nil]) ht
          hb hafter.1
        exact (hserved.2 rfl).act hafter.2
    exact ⟨hserved.oneByOne, fun _ => hserved⟩
  · rw [← List.append_assoc, ← List.cons_append, ← List.append_assoc] at hpast
    obtain ⟨hbefore, -⟩ := List.append_inj' hpast rfl
    refine ⟨(h before t a after later scanner tokens hbefore ht hb hafter).1, ?_⟩
    intro hnil
    simp at hnil

/-- Whatever steps are done, in whatever scopes: a scanner is made for its own text and the
configuration that is given or active then, and from then on, until something else is done with
this very scanner, the steps that take its next token bring the tokens that a scan of its text with
its own options brings, one by one in their order. -/
theorem next_brings_one_by_one (name : String) :
    (∀ (t : Session ε) (input : ScanInput) (file : Option String)
      (config : Option (Except ConfigError (ScanConfig ε))) (c : ScanConfig ε) (text : List Char),
      t.configOf config = .ok c → input.load ε file = .ok text →
      (t.act (.newScanner name input file config)).2.bench? name =
        some (.ofScanner (c.scanner file text))) ∧
    ∀ (s : Session ε) (steps : List (Step ε)) (before : List (Session ε × Action ε)) (t : Session ε)
      (a : Action ε) (after later : List (Session ε × Action ε)) (scanner : Scanner ε),
      trace steps s = before ++ (t, a) :: (after ++ later) →
      (t.act a).2.bench? name = some (.ofScanner scanner) →
      (∀ entry ∈ after, entry.2.disturbs name = false) →
      scanner.options.AcceptsAll →
      ∃ tokens, scanner.tokens = .ok tokens ∧
        tokens = ((plainTokens scanner.file scanner.source.text).map
          scanner.options.rewrite).filter scanner.options.keeps ∧
        OneByOne tokens (answers name after) := by
  refine ⟨fun t input file config c text => bench?_newScanner, ?_⟩
  intro s steps before t a after later scanner htrace hb hafter haccepts
  refine ⟨_, by rw [tokens_eq_rework, haccepts.rework_eq], rfl, ?_⟩
  have hserves : ServesAll name (runSteps steps s).2.store ([] ++ trace steps s) := by
    apply invariant_runSteps (fun s x past _ h => h.act x) steps s [] (fun _ _ => trivial)
    intro before t a after later scanner tokens hpast
    simp at hpast
  rw [List.nil_append] at hserves
  exact (hserves before t a after later scanner _ htrace
    (by rw [tokens_eq_rework, haccepts.rework_eq]) hb hafter).1

/-- Two scanners that take turns, one of which drops comments and puts lines into brackets, while
other configurations are set, blocks are entered and left, and another text is scanned. -/
theorem next_brings_one_by_one_turns :
    let start : Session LineError := {}
    let bracket : ScanConfig LineError :=
      { includeComments := .bool false, transform := some .bracket }
    let first : Action LineError :=
      .newScanner "first" (.text "Title\n# note\n@ - part\n  more") none (some (.ok bracket))
    let steps : List (Step LineError) := [
      .action first,
      .action (.newScanner "second" (.text "# a\n\n# b") (some "b") none),
      .action (.next "first"),
      .action (.setConfig (.ok { transform := some .refuseBang })),
      .action (.next "second"),
      .isolated true [.action (.enterConfig "block" (.ok bracket)), .action (.next "second"),
        .action (.next "first"), .action (.scan (.text "@ !") none none true)],
      .action (.leaveConfig "block"),
      .action (.next "first"),
      .action .resetConfig,
      .action (.next "first"),
      .action (.next "first"),
      .action (.next "first")]
    let scanner : Scanner LineError :=
      bracket.scanner none "Title\n# note\n@ - part\n  more".toList
    trace steps start = [] ++ (start, first) :: ((trace steps start).tail ++ []) ∧
      (start.act first).2.bench? "first" = some (.ofScanner scanner) ∧
      (∀ entry ∈ (trace steps start).tail, entry.2.disturbs "first" = false) ∧
      scanner.options.AcceptsAll ∧
      (answers "first" (trace steps start).tail).length = 6 ∧
      ∃ tokens, scanner.tokens = .ok tokens ∧
        tokens = ((plainTokens scanner.file scanner.source.text).map
          scanner.options.rewrite).filter scanner.options.keeps ∧
        OneByOne tokens (answers "first" (trace steps start).tail) := by
  intro start bracket first steps scanner
  have htrace : trace steps start = [] ++ (start, first) :: ((trace steps start).tail ++ []) := by
    rw [List.append_nil]
    rfl
  have hbench : (start.act first).2.bench? "first" = some (.ofScanner scanner) :=
    (next_brings_one_by_one "first").1 start _ none (some (.ok bracket)) _ _ rfl rfl
  have hafter : ∀ entry ∈ (trace steps start).tail, entry.2.disturbs "first" = false := by
    simp [steps, first, trace, stepTrace, Action.disturbs]
  have haccepts : scanner.options.AcceptsAll := acceptsAll_ofChars _ _ _
  exact ⟨htrace, hbench, hafter, haccepts, rfl,
    (next_brings_one_by_one "first").2 start steps [] start first _ [] scanner htrace hbench hafter
      haccepts⟩

end Session

end BlockScan
