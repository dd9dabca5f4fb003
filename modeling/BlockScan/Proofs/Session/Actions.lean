import BlockScan.Session.Steps

/-!
# What is done in a session

Most actions leave most of a session as it is: only entering and leaving blocks and setting a
configuration have to do with the scope (`scope_act`), and only scans and records made by hand with
the profiles that there are already (`profiles_act`).

The steps of a session come down to actions, one after the other, and each of them finds the
session in some state (`Session.trace`). The store goes through all of them, in whatever scope they
are done, so a property of the store and of what was done so far that is kept by every action holds
at the end (`invariant_runSteps`).
-/

set_option autoImplicit false

namespace BlockScan

namespace Action

variable {ε : Type}

/-- Whether an action is a whole scan. -/
def isScan : Action ε → Bool
  | .scan _ _ _ _ => true
  | _ => false

/-- Whether an action adds to a profile by hand. -/
def isRecord : Action ε → Bool
  | .record _ _ _ _ _ => true
  | _ => false

/-- Whether an action enters or leaves a block. -/
def isBracket : Action ε → Bool
  | .enterConfig _ _ | .leaveConfig _ | .enterProfile _ | .leaveProfile _ => true
  | _ => false

/-- The configuration that an action makes active, if it is one that does so outside of brackets. -/
def setting? : Action ε → Option (ScanConfig ε)
  | .setConfig config => config.toOption
  | .resetConfig => some .standard
  | _ => none

/-- A whole scan is given by its text, file, configuration and wish for details. -/
theorem exists_of_isScan {a : Action ε} (h : a.isScan = true) :
    ∃ input file config detailed, a = .scan input file config detailed := by
  cases a with
  | scan input file config detailed => exact ⟨input, file, config, detailed, rfl⟩
  | _ => simp [isScan] at h

end Action

namespace Session

variable {ε : Type}

/-! ## What an action leaves as it is -/

/-- Work at a bench has nothing to do with what is active and with the profiles. -/
theorem frame_benchResult {α : Type} (s : Session ε) (name : String) (answer : α → Answer ε)
    (work : Bench ε → Bench ε × List LogRecord × Except (BenchError ε) α) :
    (s.benchResult name answer work).2.scope = s.scope ∧
      (s.benchResult name answer work).2.store.profiles = s.store.profiles := by
  unfold benchResult
  cases s.store.benches.lookup name <;> exact ⟨rfl, rfl⟩

/-- Outside of brackets, an action does nothing to the scope but make a configuration active. -/
theorem scope_act (s : Session ε) {a : Action ε} (h : a.isBracket = false) :
    (s.act a).2.scope = a.setting?.toList.foldl Scope.setConfig s.scope := by
  cases a with
  | enterConfig name config => simp [Action.isBracket] at h
  | leaveConfig name => simp [Action.isBracket] at h
  | enterProfile name => simp [Action.isBracket] at h
  | leaveProfile name => simp [Action.isBracket] at h
  | setConfig config =>
    cases config <;> rfl
  | summary name =>
    rw [act]
    cases s.store.profile? name <;> rfl
  | record name sourceLength kinds microseconds file =>
    rw [act]
    cases s.store.profileNames.lookup name with
    | none => rfl
    | some number => cases kindsOf kinds <;> rfl
  | scan input file config detailed =>
    rw [act]
    cases s.configOf config <;> rfl
  | newScanner name input file config =>
    rw [act]
    cases s.configOf config with
    | error e => rfl
    | ok c => cases input.load ε file <;> rfl
  | restart name => exact (frame_benchResult ..).1
  | next name => exact (frame_benchResult ..).1
  | rest name => exact (frame_benchResult ..).1
  | handle name handling => exact (frame_benchResult ..).1
  | _ => rfl

/-- Leaving a block with a configuration gives back the scope before it, and changes nothing when no
such block is open. -/
theorem scope_act_leaveConfig (s : Session ε) (name : String) :
    (s.act (.leaveConfig name)).2.scope = (s.scope.leaveConfig? name).getD s.scope := by
  rw [act]
  cases s.scope.leaveConfig? name <;> rfl

/-- Leaving a block with a profile gives back the scope before it, and changes nothing when no such
block is open. -/
theorem scope_act_leaveProfile (s : Session ε) (name : String) :
    (s.act (.leaveProfile name)).2.scope = (s.scope.leaveProfile? name).getD s.scope := by
  rw [act]
  cases s.scope.leaveProfile? name <;> rfl

/-- An action that is no scan, and does not make a record by hand, at most adds new profiles. -/
theorem profiles_act {s : Session ε} {a : Action ε} (hr : a.isRecord = false)
    (hs : a.isScan = false) :
    ∃ added, (s.act a).2.store.profiles = s.store.profiles ++ added := by
  have hsame : ∀ s' : Session ε, s'.store.profiles = s.store.profiles →
      ∃ added, s'.store.profiles = s.store.profiles ++ added := by
    intro s' h
    exact ⟨[], by rw [h, List.append_nil]⟩
  cases a with
  | scan input file config detailed => simp [Action.isScan] at hs
  | record name sourceLength kinds microseconds file => simp [Action.isRecord] at hr
  | enterProfile name => exact ⟨[{}], rfl⟩
  | newProfile name => exact ⟨[{}], rfl⟩
  | setConfig config =>
    apply hsame
    cases config <;> rfl
  | enterConfig name config =>
    apply hsame
    cases config <;> rfl
  | leaveConfig name =>
    apply hsame
    rw [act]
    cases s.scope.leaveConfig? name <;> rfl
  | leaveProfile name =>
    apply hsame
    rw [act]
    cases s.scope.leaveProfile? name <;> rfl
  | summary name =>
    apply hsame
    rw [act]
    cases s.store.profile? name <;> rfl
  | newScanner name input file config =>
    apply hsame
    rw [act]
    cases s.configOf config with
    | error e => rfl
    | ok c => cases input.load ε file <;> rfl
  | getConfig => exact hsame _ rfl
  | resetConfig => exact hsame _ rfl
  | activeProfile => exact hsame _ rfl
  | extendClock readings => exact hsame _ rfl
  | restart name => exact hsame _ (frame_benchResult ..).2
  | next name => exact hsame _ (frame_benchResult ..).2
  | rest name => exact hsame _ (frame_benchResult ..).2
  | handle name handling => exact hsame _ (frame_benchResult ..).2

/-! ## One action after the other -/

mutual

/-- The actions of a step, each with the session in which it is done. -/
def stepTrace (step : Step ε) (s : Session ε) : List (Session ε × Action ε) :=
  match step with
  | .action a => [(s, a)]
  | .isolated fresh steps =>
    trace steps ⟨s.store, { context := if fresh then {} else s.scope.context }⟩

/-- The actions of some steps, each with the session in which it is done. -/
def trace (steps : List (Step ε)) (s : Session ε) : List (Session ε × Action ε) :=
  match steps with
  | [] => []
  | step :: rest => stepTrace step s ++ trace rest (runStep step s).2

end

section Invariant

variable {P : Store ε → List (Session ε × Action ε) → Prop} {allowed : Session ε × Action ε → Prop}

-- By induction on the steps, with what was done before them left open: the steps of an isolated
-- list come behind the same past, and the store that they leave is the one of the whole step.
mutual

/-- What every action keeps holds after a step, be it one action or an isolated list of steps. -/
theorem invariant_runStep
    (hact : ∀ (s : Session ε) (a : Action ε) (past : List (Session ε × Action ε)), allowed (s, a) →
      P s.store past → P (s.act a).2.store (past ++ [(s, a)]))
    (step : Step ε) (s : Session ε) (past : List (Session ε × Action ε))
    (ha : ∀ entry ∈ stepTrace step s, allowed entry) (hp : P s.store past) :
    P (runStep step s).2.store (past ++ stepTrace step s) :=
  match step with
  | .action a => hact s a past (ha _ (List.mem_singleton_self _)) hp
  | .isolated fresh steps => invariant_runSteps hact steps
      ⟨s.store, { context := if fresh then {} else s.scope.context }⟩ past ha hp

/-- What every action keeps holds after any steps. -/
theorem invariant_runSteps
    (hact : ∀ (s : Session ε) (a : Action ε) (past : List (Session ε × Action ε)), allowed (s, a) →
      P s.store past → P (s.act a).2.store (past ++ [(s, a)]))
    (steps : List (Step ε)) (s : Session ε) (past : List (Session ε × Action ε))
    (ha : ∀ entry ∈ trace steps s, allowed entry) (hp : P s.store past) :
    P (runSteps steps s).2.store (past ++ trace steps s) :=
  match steps with
  | [] => by
    rw [trace, List.append_nil]
    exact hp
  | step :: rest => by
    rw [trace, List.forall_mem_append] at ha
    have hstep := invariant_runStep hact step s past ha.1 hp
    have hrest := invariant_runSteps hact rest (runStep step s).2 _ ha.2 hstep
    rwa [List.append_assoc] at hrest

end

end Invariant

end Session

end BlockScan
