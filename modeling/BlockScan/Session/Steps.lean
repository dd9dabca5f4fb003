import BlockScan.Session.Store

/-!
# Sessions

A session is a list of steps that work on one store. Each step has an answer; a step that fails
answers with its error, and the session goes on. A step may be a list of steps of its own that
runs in isolation: in a new scope, whose context is fresh or a copy of the present one, so that no
change of what is active gets out.
-/

set_option autoImplicit false

namespace BlockScan

/-- A step that is not made of other steps. A configuration comes with a step as it was read, which
may have failed; that is found out when the step is done. -/
inductive Action (ε : Type) where
  | getConfig
  | setConfig (config : Except ConfigError (ScanConfig ε))
  | resetConfig
  | enterConfig (name : String) (config : Except ConfigError (ScanConfig ε))
  | leaveConfig (name : String)
  | enterProfile (name : String)
  | leaveProfile (name : String)
  | activeProfile
  | summary (name : String)
  | newProfile (name : String)
  | record (name : String) (sourceLength : Int) (kinds : List String) (microseconds : Int)
      (file : Option String)
  | extendClock (readings : List Int)
  /-- A whole scan; `detailed` asks for the tokens in words as well. -/
  | scan (input : ScanInput) (file : Option String)
      (config : Option (Except ConfigError (ScanConfig ε))) (detailed : Bool)
  | newScanner (name : String) (input : ScanInput) (file : Option String)
      (config : Option (Except ConfigError (ScanConfig ε)))
  | restart (name : String)
  | next (name : String)
  | rest (name : String)
  | handle (name : String) (handling : Handling)

/-- A step of a session. -/
inductive Step (ε : Type) where
  | action (a : Action ε)
  /-- Steps in a scope of their own, with a fresh context or a copy of the present one. -/
  | isolated (fresh : Bool) (steps : List (Step ε))

/-- Why a step fails. -/
inductive StepError (ε : Type) where
  | config (e : ConfigError)
  | scan (e : ScanFailure ε)
  | beforeText
  | unknownName (name : String)
deriving DecidableEq

/-- The wording of an error, given the wording of the errors of line functions. -/
def StepError.message {ε : Type} (wording : ε → String) : StepError ε → String
  | .config e => e.message
  | .scan e => e.message wording
  | .beforeText => "string index out of range"
  | .unknownName name => Text.quoted name

/-- The error of a step at a bench. -/
def StepError.ofBench {ε : Type} : BenchError ε → StepError ε
  | .scan e => .scan (.scan e)
  | .beforeText => .beforeText
  | .unknownName name => .unknownName name

mutual

/-- What a step answers. -/
inductive Answer (ε : Type) where
  | done
  /-- The active configuration. -/
  | config (c : ScanConfig ε)
  /-- A block was left; the active configuration. -/
  | leftConfig (c : ScanConfig ε)
  /-- There was no block to leave; the active configuration. -/
  | noConfigBlock (c : ScanConfig ε)
  /-- The name of the active profile. -/
  | profile (name : Option String)
  /-- A block was left; the name of the active profile. -/
  | leftProfile (name : Option String)
  /-- There was no block to leave; the name of the active profile. -/
  | noProfileBlock (name : Option String)
  | summary (p : Profile)
  | scanned (tokens : List Token) (detailed : Bool)
  | token (t : Option Token)
  | tokens (ts : List Token)
  | handled (h : Handled)
  | inner (results : List (StepResult ε))
  | failed (e : StepError ε)
  /-- No profile or scanner has the name. -/
  | unknown

/-- The answer of a step with what else it did. -/
inductive StepResult (ε : Type) where
  | mk (answer : Answer ε) (log : List LogRecord) (clockReads : Nat) (cursor : Option Cursor)

end

/-- The result of a step that logs nothing and moves nothing. -/
def StepResult.ofAnswer {ε : Type} (a : Answer ε) : StepResult ε := .mk a [] 0 none

/-- The answer for an outcome. -/
def Answer.ofOutcome {ε α : Type} (answer : α → Answer ε) :
    Except (StepError ε) α → Answer ε
  | .ok a => answer a
  | .error e => .failed e

/-- A session between two steps. -/
structure Session (ε : Type) where
  store : Store ε := {}
  scope : Scope ε := {}

namespace Session

variable {ε : Type}

/-- The name of the active profile. -/
def activeName (s : Session ε) : Option String :=
  s.scope.context.profile.bind s.store.profileName?

/-- The result of a step at a bench. -/
def benchResult {α : Type} (s : Session ε) (name : String) (answer : α → Answer ε)
    (work : Bench ε → Bench ε × List LogRecord × Except (BenchError ε) α) :
    StepResult ε × Session ε :=
  match s.store.benches.lookup name with
  | none => (.ofAnswer .unknown, s)
  | some bench =>
    let (bench, log, outcome) := work bench
    (.mk (.ofOutcome answer (outcome.mapError .ofBench)) log 0 (some bench.cursor),
      { s with store := s.store.setBench name bench })

/-- The configuration of a step; the active one when the step has none. -/
def configOf (s : Session ε) (config : Option (Except ConfigError (ScanConfig ε))) :
    Except ConfigError (ScanConfig ε) :=
  config.getD (.ok s.scope.context.config)

/-- The kinds with some names; the first name that no kind has is the error. -/
def kindsOf : List String → Except (StepError ε) (List TokenKind)
  | [] => .ok []
  | name :: rest =>
    match TokenKind.ofName? name with
    | some kind => (kindsOf rest).map (kind :: ·)
    | none => .error (.unknownName name)

/-- Runs a step that is not made of other steps. -/
def act (s : Session ε) : Action ε → StepResult ε × Session ε
  | .getConfig => (.ofAnswer (.config s.scope.context.config), s)
  | .setConfig config =>
    match config with
    | .error e => (.ofAnswer (.failed (.config e)), s)
    | .ok c => (.ofAnswer (.config c), { s with scope := s.scope.setConfig c })
  | .resetConfig =>
    (.ofAnswer (.config .standard), { s with scope := s.scope.setConfig .standard })
  | .enterConfig name config =>
    match config with
    | .error e => (.ofAnswer (.failed (.config e)), s)
    | .ok c => (.ofAnswer (.config c), { s with scope := s.scope.enterConfig name c })
  | .leaveConfig name =>
    match s.scope.leaveConfig? name with
    | none => (.ofAnswer (.noConfigBlock s.scope.context.config), s)
    | some scope => (.ofAnswer (.leftConfig scope.context.config), { s with scope })
  | .enterProfile name =>
    let (number, store) := s.store.addProfile name
    let s : Session ε := ⟨store, s.scope.enterProfile name number⟩
    (.ofAnswer (.profile s.activeName), s)
  | .leaveProfile name =>
    match s.scope.leaveProfile? name with
    | none => (.ofAnswer (.noProfileBlock s.activeName), s)
    | some scope =>
      let s : Session ε := { s with scope }
      (.ofAnswer (.leftProfile s.activeName), s)
  | .activeProfile => (.ofAnswer (.profile s.activeName), s)
  | .summary name =>
    match s.store.profile? name with
    | none => (.ofAnswer .unknown, s)
    | some p => (.ofAnswer (.summary p), s)
  | .newProfile name =>
    (.ofAnswer (.summary {}), { s with store := (s.store.addProfile name).2 })
  | .record name sourceLength kinds microseconds file =>
    match s.store.profileNames.lookup name, kindsOf kinds with
    | none, _ => (.ofAnswer .unknown, s)
    | some _, .error e => (.ofAnswer (.failed e), s)
    | some number, .ok kinds =>
      let store := s.store.modifyProfile number fun p =>
        p.record sourceLength kinds (Decimal.floatOfInt microseconds (-3)) file
      let answer := match store.profile? name with
        | some p => .summary p
        | none => .unknown
      (.ofAnswer answer, { s with store })
  | .extendClock readings =>
    (.ofAnswer .done,
      { s with store := { s.store with clock := s.store.clock.extend readings } })
  | .scan input file config detailed =>
    match s.configOf config with
    | .error e => (.ofAnswer (.failed (.config e)), s)
    | .ok c =>
      let (report, store) := s.store.scan s.scope.context.profile c file input
      (.mk (.ofOutcome (.scanned · detailed) (report.outcome.mapError .scan)) report.log
        report.clockReads none, { s with store })
  | .newScanner name input file config =>
    match s.configOf config with
    | .error e => (.ofAnswer (.failed (.config e)), s)
    | .ok c =>
      match input.load ε file with
      | .error e => (.ofAnswer (.failed (.scan e)), s)
      | .ok text =>
        let bench := Bench.ofScanner (c.scanner file text)
        (.mk .done [] 0 (some bench.cursor), { s with store := s.store.setBench name bench })
  | .restart name => s.benchResult name (fun _ => .done) fun b => (b.restart, [], .ok ())
  | .next name => s.benchResult name .token Bench.next
  | .rest name => s.benchResult name .tokens Bench.rest
  | .handle name handling => s.benchResult name .handled fun b => b.handle handling

mutual

/-- Runs a step. -/
def runStep (step : Step ε) (s : Session ε) : StepResult ε × Session ε :=
  match step with
  | .action a => s.act a
  | .isolated fresh steps =>
    let (results, inner) :=
      runSteps steps ⟨s.store, { context := if fresh then {} else s.scope.context }⟩
    (.ofAnswer (.inner results), ⟨inner.store, s.scope⟩)

/-- Runs steps one after the other. -/
def runSteps (steps : List (Step ε)) (s : Session ε) : List (StepResult ε) × Session ε :=
  match steps with
  | [] => ([], s)
  | step :: rest =>
    let (result, s) := runStep step s
    let (results, s) := runSteps rest s
    (result :: results, s)

end

/-- The results of the steps of a session. -/
def run (steps : List (Step ε)) : List (StepResult ε) := (runSteps steps {}).1

end Session

end BlockScan
