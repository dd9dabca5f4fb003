import Mathlib.Algebra.BigOperators.Group.List.Basic
import Mathlib.Algebra.GroupWithZero.Nat
import BlockScan.Proofs.Scan.Shape
import BlockScan.Proofs.Session.Actions
import BlockScan.Scan.Catalogue

/-!
# What a profile sums up

While a profile is active, every scan that brings tokens is added to it, and nothing else is: not a
scan that fails, and not one that is made in a block with another profile. So after any steps the
profile is the sum of the scans that have returned under it (`Profile.Sums`). A scan brings one end
of the text and at least one heading, which bounds the counts of a profile by one another. The main
statement is `profile_sums_up`.
-/

set_option autoImplicit false

namespace BlockScan

/-- How many characters there are in the text that is given to a scan; none when no text is. -/
def ScanInput.size : ScanInput → Nat
  | .text s => s.length
  | .bytes data =>
    match Utf8.decode data with
    | .ok chars => chars.length
    | .error _ => 0
  | .other _ => 0

/-- A scan that has brought tokens. -/
structure Returned where
  /-- How many characters were scanned. -/
  size : Nat
  file : Option String
  tokens : List Token

namespace Returned

/-- The kinds of the tokens of a scan. -/
def kinds (call : Returned) : List TokenKind := call.tokens.map Token.kind

/-- Whether a scan has brought an illegal token. -/
def hasIllegal (call : Returned) : Bool := call.kinds.contains .illegal

end Returned

/-- The counts of a profile are the totals over some scans. -/
structure Profile.Sums (p : Profile) (calls : List Returned) : Prop where
  scans : p.scans = calls.length
  sourceLength : p.sourceLength = (calls.map Returned.size).sum
  count (kind : TokenKind) : p.tokens.count kind = (calls.map fun call => call.kinds.count kind).sum
  tokenCount : p.tokenCount = (calls.map fun call => call.tokens.length).sum
  illegalSources : p.illegalSources =
    (calls.filter Returned.hasIllegal).map fun call => sourceLabel call.file

namespace Tally

/-- Adding tokens raises the count of a kind by how often it is among them. -/
theorem count_addAll (t : Tally) (kinds : List TokenKind) (kind : TokenKind) :
    (t.addAll kinds).count kind = t.count kind + kinds.count kind := by
  induction kinds generalizing t with
  | nil => rfl
  | cons k kinds ih =>
    have hadd : t.addAll (k :: kinds) = (t.add k).addAll kinds := rfl
    have heq : (k == kind) = decide (kind = k) := by
      rw [Bool.beq_eq_decide_eq, decide_eq_decide]
      exact eq_comm
    rw [hadd, ih, count_add, List.count_cons, heq]
    simp only [decide_eq_true_eq]
    omega

/-- Adding tokens raises the total by how many there are. -/
theorem total_addAll (t : Tally) (kinds : List TokenKind) :
    (t.addAll kinds).total = t.total + kinds.length := by
  induction kinds generalizing t with
  | nil => rfl
  | cons k kinds ih =>
    have hadd : t.addAll (k :: kinds) = (t.add k).addAll kinds := rfl
    rw [hadd, ih, total_add, List.length_cons]
    omega

end Tally

namespace Profile.Sums

/-- A new profile is the sum of no scans. -/
theorem empty : ({} : Profile).Sums [] where
  scans := rfl
  sourceLength := rfl
  count _ := rfl
  tokenCount := rfl
  illegalSources := rfl

variable {p : Profile} {calls : List Returned}

/-- Recording one more scan keeps a profile a sum. -/
theorem record (h : p.Sums calls) (call : Returned) (milliseconds : Float) :
    (p.record call.size call.kinds milliseconds call.file).Sums (calls ++ [call]) where
  scans := by
    show p.scans + 1 = _
    rw [h.scans, List.length_append, List.length_singleton]
  sourceLength := by
    show p.sourceLength + call.size = _
    rw [h.sourceLength, List.map_append, List.sum_append, List.map_singleton, List.sum_singleton]
    exact (Int.natCast_add _ _).symm
  count kind := by
    show (p.tokens.addAll call.kinds).count kind = _
    rw [Tally.count_addAll, h.count, List.map_append, List.sum_append, List.map_singleton,
      List.sum_singleton]
  tokenCount := by
    have hcount := h.tokenCount
    unfold Profile.tokenCount at hcount
    show (p.tokens.addAll call.kinds).total = _
    rw [Tally.total_addAll, hcount, List.map_append, List.sum_append, List.map_singleton,
      List.sum_singleton, Returned.kinds, List.length_map]
  illegalSources := by
    show (if call.hasIllegal then p.illegalSources ++ [sourceLabel call.file]
      else p.illegalSources) = _
    rw [h.illegalSources, List.filter_append, List.map_append]
    cases hi : call.hasIllegal with
    | true => rw [if_pos rfl, List.filter_cons_of_pos hi, List.filter_nil, List.map_singleton]
    | false =>
      rw [if_neg (by decide), List.filter_cons_of_neg (by simp [hi]), List.filter_nil,
        List.map_nil, List.append_nil]

end Profile.Sums

/-! ## What a scan brings -/

/-- The tokens of a scan have one end and at least one heading. -/
structure Returned.Whole (call : Returned) : Prop where
  count_eof : call.kinds.count .eof = 1
  count_heading : 1 ≤ call.kinds.count .heading

/-- What a scanner brings is whole. -/
theorem whole_of_tokens_eq_ok {ε : Type} {scanner : Scanner ε} {call : Returned}
    (h : scanner.tokens = .ok call.tokens) : call.Whole := by
  obtain ⟨title, body, stop, ht, hshaped⟩ := exists_shaped_of_tokens_eq_ok h
  have hkinds : call.kinds = .heading :: (body.map Token.kind ++ [.eof]) := by
    rw [Returned.kinds, ht, List.map_cons, List.map_append, List.map_singleton,
      hshaped.title_kind, hshaped.stop_kind]
  have hbody : (body.map Token.kind).count .eof = 0 := by
    rw [List.count_eq_zero]
    intro hm
    obtain ⟨t, hmem, hk⟩ := List.mem_map.1 hm
    have hkind := hshaped.body_kind t hmem
    rw [hk] at hkind
    exact absurd hkind (by decide)
  constructor
  · rw [hkinds, List.count_cons_of_ne (by decide), List.count_append, hbody]
    rfl
  · rw [hkinds, List.count_cons_self]
    omega

/-- A text that was loaded is as long as was counted. -/
theorem size_of_load_eq_ok {ε : Type} {input : ScanInput} {file : Option String} {text : List Char}
    (h : input.load ε file = .ok text) : input.size = text.length := by
  cases input with
  | text s =>
    rw [ScanInput.load, Except.ok.injEq] at h
    rw [ScanInput.size, ← h, String.length_toList]
  | bytes data =>
    rw [ScanInput.load] at h
    rw [ScanInput.size]
    cases hd : Utf8.decode data with
    | ok chars =>
      rw [hd, Except.mapError, Except.ok.injEq] at h
      rw [h]
    | error fault => simp [hd, Except.mapError] at h
  | other kind => simp [ScanInput.load] at h

namespace Session

variable {ε : Type}

/-- The scan that an action brings to its end, if it is one that does. -/
def returned? (s : Session ε) (a : Action ε) : Option Returned :=
  match a, (s.act a).1 with
  | .scan input file _ _, .mk (.scanned tokens _) _ _ _ => some ⟨input.size, file, tokens⟩
  | _, _ => none

/-- The scans that have returned while the profile with a number was active. -/
def callsUnder (number : Nat) (done : List (Session ε × Action ε)) : List Returned :=
  (done.filter fun entry => entry.1.scope.context.profile == some number).filterMap fun entry =>
    entry.1.returned? entry.2

/-- The profiles after a scan has returned, when this one is active. -/
def recorded (active : Option Nat) (call : Returned) (milliseconds : Float)
    (profiles : List Profile) : List Profile :=
  match active with
  | none => profiles
  | some number => profiles.modify number fun p =>
      p.record call.size call.kinds milliseconds call.file

/-- A scan that has returned changes no profile but the active one. -/
theorem getElem?_recorded_of_ne {active : Option Nat} {number : Nat} (h : active ≠ some number)
    (call : Returned) (milliseconds : Float) (profiles : List Profile) :
    (recorded active call milliseconds profiles)[number]? = profiles[number]? := by
  cases active with
  | none => rfl
  | some other =>
    have hne : other ≠ number := fun he => h (by rw [he])
    rw [recorded, List.getElem?_modify_ne _ _ hne]

/-- A scan fails and leaves all profiles as they are, or it reads some text to its end and is added
to the active profile. -/
theorem act_scan (s : Session ε) (input : ScanInput) (file : Option String)
    (config : Option (Except ConfigError (ScanConfig ε))) (detailed : Bool) :
    (s.returned? (.scan input file config detailed) = none ∧
      (s.act (.scan input file config detailed)).2.store.profiles = s.store.profiles) ∨
    ∃ (call : Returned) (scanner : Scanner ε) (milliseconds : Float),
      s.returned? (.scan input file config detailed) = some call ∧
      scanner.tokens = .ok call.tokens ∧
      (s.act (.scan input file config detailed)).2.store.profiles =
        recorded s.scope.context.profile call milliseconds s.store.profiles := by
  cases hc : s.configOf config with
  | error e => exact .inl (by simp [returned?, act, hc, StepResult.ofAnswer])
  | ok c =>
    cases hl : input.load ε file with
    | error e =>
      left
      simp [returned?, act, hc, Store.scan, hl, Except.mapError, Answer.ofOutcome]
    | ok text =>
      have hsize := size_of_load_eq_ok hl
      cases ho : (c.scanner file text).run.outcome with
      | error e =>
        left
        cases hp : s.scope.context.profile with
        | none =>
          simp [returned?, act, hc, Store.scan, hl, hp, ho, Except.mapError, Answer.ofOutcome]
        | some number =>
          simp [returned?, act, hc, Store.scan, hl, hp, ho, Except.mapError, Answer.ofOutcome]
      | ok tokens =>
        right
        cases hp : s.scope.context.profile with
        | none =>
          refine ⟨⟨input.size, file, tokens⟩, c.scanner file text, 0, ?_, ho, ?_⟩
          · simp [returned?, act, hc, Store.scan, hl, hp, ho, Except.mapError, Answer.ofOutcome]
          · simp [act, hc, Store.scan, hl, hp, recorded]
        | some number =>
          refine ⟨⟨input.size, file, tokens⟩, c.scanner file text,
            millisecondsBetween s.store.clock.read.1 s.store.clock.read.2.read.1, ?_, ho, ?_⟩
          · simp [returned?, act, hc, Store.scan, hl, hp, ho, Except.mapError, Answer.ofOutcome]
          · simp [act, hc, Store.scan, hl, hp, ho, recorded, Store.modifyProfile, Returned.kinds,
              hsize]

/-- An action that is no scan brings none to its end. -/
theorem returned?_eq_none {s : Session ε} {a : Action ε} (hs : a.isScan = false) :
    s.returned? a = none := by
  cases a with
  | scan input file config detailed => simp [Action.isScan] at hs
  | _ => rfl

/-! ## What the steps of a session bring -/

/-- The scans under a profile are counted on both sides of a cut. -/
theorem callsUnder_append (number : Nat) (past done : List (Session ε × Action ε)) :
    callsUnder number (past ++ done) = callsUnder number past ++ callsUnder number done := by
  rw [callsUnder, List.filter_append, List.filterMap_append]
  rfl

/-- An action that brings no scan to its end adds none. -/
theorem callsUnder_singleton_of_none {s : Session ε} {a : Action ε} (h : s.returned? a = none)
    (number : Nat) : callsUnder number [(s, a)] = [] := by
  rw [callsUnder, List.filterMap_eq_nil_iff]
  intro entry he
  rwa [List.mem_singleton.1 (List.mem_filter.1 he).1]

/-- A scan that has returned counts for the profile that was active, and for no other. -/
theorem callsUnder_singleton_of_some {s : Session ε} {a : Action ε} {call : Returned}
    (h : s.returned? a = some call) (number : Nat) :
    callsUnder number [(s, a)] =
      if s.scope.context.profile = some number then [call] else [] := by
  by_cases hp : s.scope.context.profile = some number
  · simp [callsUnder, hp, h]
  · simp [callsUnder, hp]

-- A scan under another profile is no call of this one, and neither is one that fails.
/-- One more action keeps a profile the sum of the scans under it. -/
theorem sums_act {number : Nat} {s : Session ε} {a : Action ε} {past : List (Session ε × Action ε)}
    (hr : a.isRecord = false)
    (h : ∃ p, s.store.profiles[number]? = some p ∧ p.Sums (callsUnder number past)) :
    ∃ p, (s.act a).2.store.profiles[number]? = some p ∧
      p.Sums (callsUnder number (past ++ [(s, a)])) := by
  obtain ⟨p, hp, hsums⟩ := h
  rw [callsUnder_append]
  cases hs : a.isScan with
  | false =>
    obtain ⟨added, hadded⟩ := profiles_act (s := s) hr hs
    refine ⟨p, ?_, ?_⟩
    · rw [hadded, List.getElem?_append_left (List.getElem?_eq_some_iff.1 hp).1, hp]
    · rwa [callsUnder_singleton_of_none (returned?_eq_none hs), List.append_nil]
  | true =>
    obtain ⟨input, file, config, detailed, rfl⟩ := Action.exists_of_isScan hs
    rcases s.act_scan input file config detailed with
      ⟨hnone, hsame⟩ | ⟨call, scanner, milliseconds, hsome, -, hprofiles⟩
    · refine ⟨p, by rw [hsame, hp], ?_⟩
      rwa [callsUnder_singleton_of_none hnone, List.append_nil]
    · rw [callsUnder_singleton_of_some hsome, hprofiles]
      by_cases hactive : s.scope.context.profile = some number
      · rw [if_pos hactive, hactive, recorded, List.getElem?_modify_eq, hp]
        exact ⟨_, rfl, hsums.record call milliseconds⟩
      · rw [if_neg hactive, List.append_nil]
        exact ⟨p, (getElem?_recorded_of_ne hactive call milliseconds _).trans hp, hsums⟩

/-- Every scan that has returned under a profile is whole. -/
theorem whole_of_mem_callsUnder {number : Nat} {done : List (Session ε × Action ε)}
    {call : Returned} (h : call ∈ callsUnder number done) : call.Whole := by
  obtain ⟨⟨s, a⟩, -, hsome⟩ := List.mem_filterMap.1 h
  cases hs : a.isScan with
  | false => simp [returned?_eq_none hs] at hsome
  | true =>
    obtain ⟨input, file, config, detailed, rfl⟩ := Action.exists_of_isScan hs
    rcases s.act_scan input file config detailed with
      ⟨hnone, -⟩ | ⟨call', scanner, milliseconds, hsome', htokens, -⟩
    · simp [hnone] at hsome
    · rw [hsome', Option.some.injEq] at hsome
      subst hsome
      exact whole_of_tokens_eq_ok htokens

end Session

namespace Profile.Sums

variable {p : Profile} {calls : List Returned}

/-- Under a profile there are as many ends of texts as scans, because each scan brings one. -/
theorem count_eof (h : p.Sums calls) (hw : ∀ call ∈ calls, call.Whole) :
    p.tokens.count .eof = p.scans := by
  have hone : (calls.map fun call => call.kinds.count .eof) = calls.map fun _ => 1 :=
    List.map_congr_left fun call hc => (hw call hc).count_eof
  rw [h.count, h.scans, hone, List.map_const', List.sum_replicate_nat, Nat.mul_one]

/-- Under a profile there are at least as many headings as scans, because each scan brings a
title. -/
theorem scans_le_count_heading (h : p.Sums calls) (hw : ∀ call ∈ calls, call.Whole) :
    p.scans ≤ p.tokens.count .heading := by
  have hle := List.length_le_sum_of_one_le (calls.map fun call => call.kinds.count .heading)
  rw [List.length_map] at hle
  rw [h.count, h.scans]
  apply hle
  intro n hn
  obtain ⟨call, hc, rfl⟩ := List.mem_map.1 hn
  exact (hw call hc).count_heading

/-- Under a profile a source is named at most once for each scan, and only for a scan with an
illegal token. -/
theorem length_illegalSources_le (h : p.Sums calls) :
    p.illegalSources.length ≤ min p.scans p.illegalCount := by
  have hcount := h.count .illegal
  rw [illegalCount, h.scans, hcount, h.illegalSources, List.length_map, Nat.le_min]
  refine ⟨List.length_filter_le _ _, ?_⟩
  clear h hcount
  induction calls with
  | nil => exact Nat.le_refl _
  | cons call calls ih =>
    rw [List.map_cons, List.sum_cons]
    cases hi : call.hasIllegal with
    | false =>
      rw [List.filter_cons_of_neg (by simp [hi])]
      omega
    | true =>
      have hpos : 0 < call.kinds.count .illegal := by
        rw [List.count_pos_iff]
        simpa [Returned.hasIllegal] using hi
      rw [List.filter_cons_of_pos hi, List.length_cons]
      omega

end Profile.Sums

namespace Session

variable {ε : Type}

/-- The session in a block with a new profile. -/
def profiled (s : Session ε) (name : String) : Session ε := (s.act (.enterProfile name)).2

/-- After any steps in a block with a new profile, in which no record is made by hand, the profile
is the sum of the scans that have returned while it was active. A scan that does not return changes
no profile, and one that returns changes the active one only. -/
theorem profile_sums_up (s : Session ε) (name : String) (steps : List (Step ε))
    (h : ∀ entry ∈ trace steps (s.profiled name), entry.2.isRecord = false) :
    (s.profiled name).scope.context.profile = some s.store.profiles.length ∧
    (∃ p, (runSteps steps (s.profiled name)).2.store.profiles[s.store.profiles.length]? = some p ∧
      p.Sums (callsUnder s.store.profiles.length (trace steps (s.profiled name))) ∧
      p.tokens.count .eof = p.scans ∧ p.scans ≤ p.tokens.count .heading ∧
      p.illegalSources.length ≤ min p.scans p.illegalCount) ∧
    ∀ (t : Session ε) (input : ScanInput) (file : Option String)
      (config : Option (Except ConfigError (ScanConfig ε))) (detailed : Bool),
      (t.returned? (.scan input file config detailed) = none →
        (t.act (.scan input file config detailed)).2.store.profiles = t.store.profiles) ∧
      ∀ number, t.scope.context.profile ≠ some number →
        (t.act (.scan input file config detailed)).2.store.profiles[number]? =
          t.store.profiles[number]? := by
  refine ⟨rfl, ?_, ?_⟩
  · have hnew : (s.profiled name).store.profiles[s.store.profiles.length]? = some {} :=
      List.getElem?_concat_length
    obtain ⟨p, hp, hsums⟩ := invariant_runSteps
      (P := fun store done => ∃ p, store.profiles[s.store.profiles.length]? = some p ∧
        p.Sums (callsUnder s.store.profiles.length done))
      (fun _ _ _ => sums_act) steps (s.profiled name) [] h ⟨{}, hnew, .empty⟩
    rw [List.nil_append] at hsums
    have hwhole : ∀ call ∈ callsUnder s.store.profiles.length (trace steps (s.profiled name)),
        call.Whole := fun _ => whole_of_mem_callsUnder
    exact ⟨p, hp, hsums, hsums.count_eof hwhole, hsums.scans_le_count_heading hwhole,
      hsums.length_illegalSources_le⟩
  · intro t input file config detailed
    rcases t.act_scan input file config detailed with
      ⟨-, hsame⟩ | ⟨call, scanner, milliseconds, hsome, -, hprofiles⟩
    · exact ⟨fun _ => hsame, fun number _ => by rw [hsame]⟩
    · constructor
      · intro hnone
        simp [hnone] at hsome
      · intro number hne
        rw [hprofiles]
        exact getElem?_recorded_of_ne hne call milliseconds _

/-- Scans that return, in the block itself and in a copy of its context, with a scan in a nested
block and three that fail in between. -/
theorem profile_sums_up_nested :
    let steps : List (Step LineError) := [
      .action (.scan (.text "@ a\n\n# b") (some "") none false),
      .action (.enterProfile "inner"),
      .action (.scan (.text "@") none none false),
      .action (.leaveProfile "inner"),
      .action (.scan (.bytes [0x40, 0xff]) none none false),
      .action (.scan (.other .int) none none true),
      .action (.setConfig (.ok { transform := some .refuseBang })),
      .action (.scan (.text "a!") none none false),
      .isolated false [.action (.scan (.bytes [0x40]) (some "c") none false)]]
    (∀ entry ∈ trace steps (profiled {} "outer"), entry.2.isRecord = false) ∧
      ∃ p, (runSteps steps (profiled {} "outer")).2.store.profiles[0]? = some p ∧
        p.Sums (callsUnder 0 (trace steps (profiled {} "outer"))) ∧
        p.tokens.count .eof = p.scans ∧ p.scans ≤ p.tokens.count .heading ∧
        p.illegalSources.length ≤ min p.scans p.illegalCount := by
  intro steps
  have h : ∀ entry ∈ trace steps (profiled {} "outer"), entry.2.isRecord = false := by
    simp [steps, trace, stepTrace, Action.isRecord]
  exact ⟨h, (profile_sums_up {} "outer" steps h).2.1⟩

end Session

end BlockScan
