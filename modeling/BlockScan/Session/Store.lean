import BlockScan.Scan.Profile
import BlockScan.Session.Bench

/-!
# Contexts and the store of a session

A context says which configuration and which profile are active. Both can be replaced for the time
of a block: entering the block keeps what was active, and leaving it makes that active again,
whatever happened in between. A store holds what all contexts share: the clock, the profiles and
the scanners.

The clock shows the readings it was given, in nanoseconds, one after the other, and goes on showing
the last one when there are no more. A reading is taken in seconds, and the time between two
readings in milliseconds, as doubles.
-/

set_option autoImplicit false

namespace BlockScan

/-- A clock with the readings that are still to come. -/
structure Clock where
  pending : List Int := []
  /-- What is shown when no reading is to come. -/
  last : Int := 0
deriving DecidableEq

namespace Clock

/-- A reading of the clock in seconds, and the clock after it. -/
def read (c : Clock) : Float × Clock :=
  let (now, next) := match c.pending with
    | [] => (c.last, c)
    | reading :: rest => (reading, ⟨rest, reading⟩)
  (Decimal.floatOfInt now 0 / 1e9, next)

/-- The clock with more readings to come. -/
def extend (c : Clock) (readings : List Int) : Clock := { c with pending := c.pending ++ readings }

end Clock

/-- The milliseconds between two readings in seconds. -/
def millisecondsBetween (start stop : Float) : Float := (stop - start) * 1000.0

/-- What is active. -/
structure Context (ε : Type) where
  config : ScanConfig ε := .standard
  /-- The number of the active profile in the store. -/
  profile : Option Nat := none

/-- A context with the blocks that were entered in it and not left yet, by name, each with what
was active before it. -/
structure Scope (ε : Type) where
  context : Context ε := {}
  configBlocks : List (String × ScanConfig ε) := []
  profileBlocks : List (String × Option Nat) := []

namespace Scope

variable {ε : Type}

/-- Makes a configuration active. -/
def setConfig (s : Scope ε) (c : ScanConfig ε) : Scope ε :=
  { s with context := { s.context with config := c } }

/-- Makes a profile active, or none. -/
def setProfile (s : Scope ε) (p : Option Nat) : Scope ε :=
  { s with context := { s.context with profile := p } }

/-- Enters a block with a configuration. -/
def enterConfig (s : Scope ε) (name : String) (c : ScanConfig ε) : Scope ε :=
  { s.setConfig c with configBlocks := setPair name s.context.config s.configBlocks }

/-- Leaves a block with a configuration; none when the block is not open. -/
def leaveConfig? (s : Scope ε) (name : String) : Option (Scope ε) :=
  (s.configBlocks.lookup name).map fun previous =>
    { s.setConfig previous with configBlocks := s.configBlocks.filter fun b => b.1 != name }

/-- Enters a block with a profile. -/
def enterProfile (s : Scope ε) (name : String) (p : Nat) : Scope ε :=
  { s.setProfile (some p) with profileBlocks := setPair name s.context.profile s.profileBlocks }

/-- Leaves a block with a profile; none when the block is not open. -/
def leaveProfile? (s : Scope ε) (name : String) : Option (Scope ε) :=
  (s.profileBlocks.lookup name).map fun previous =>
    { s.setProfile previous with profileBlocks := s.profileBlocks.filter fun b => b.1 != name }

end Scope

/-- What all contexts of a session share. -/
structure Store (ε : Type) where
  clock : Clock := {}
  profiles : List Profile := []
  /-- The number of the profile with a name. -/
  profileNames : List (String × Nat) := []
  benches : List (String × Bench ε) := []

/-- What one scan brings, besides the store after it. -/
structure ScanReport (ε : Type) where
  log : List LogRecord
  clockReads : Nat
  outcome : Except (ScanFailure ε) (List Token)

namespace Store

variable {ε : Type}

/-- Puts a new profile under a name, in place of one that has the name already. -/
def addProfile (s : Store ε) (name : String) : Nat × Store ε :=
  (s.profiles.length,
    { s with
      profiles := s.profiles ++ [{}]
      profileNames := setPair name s.profiles.length s.profileNames })

/-- The profile with a name. -/
def profile? (s : Store ε) (name : String) : Option Profile := do
  s.profiles[(← s.profileNames.lookup name)]?

/-- The name of the profile with a number; none when another profile has taken its name. -/
def profileName? (s : Store ε) (number : Nat) : Option String :=
  (s.profileNames.find? fun entry => entry.2 == number).map Prod.fst

/-- Changes the profile with a number. -/
def modifyProfile (s : Store ε) (number : Nat) (f : Profile → Profile) : Store ε :=
  { s with profiles := s.profiles.modify number f }

/-- Puts a bench under a name. -/
def setBench (s : Store ε) (name : String) (b : Bench ε) : Store ε :=
  { s with benches := setPair name b s.benches }

/-- Scans what is given, under a configuration. Under an active profile the clock is read before
and after the scan, and a scan that brings tokens is recorded. -/
def scan (s : Store ε) (profile : Option Nat) (config : ScanConfig ε) (file : Option String)
    (input : ScanInput) : ScanReport ε × Store ε :=
  match input.load ε file with
  | .error e => (⟨[], 0, .error e⟩, s)
  | .ok text =>
    let run := (config.scanner file text).run
    match profile with
    | none => (⟨run.log, 0, run.outcome.mapError .scan⟩, s)
    | some number =>
      let (started, clock) := s.clock.read
      match run.outcome with
      | .error e => (⟨run.log, 1, .error (.scan e)⟩, { s with clock })
      | .ok tokens =>
        let (ended, clock) := clock.read
        (⟨run.log, 2, .ok tokens⟩,
          { s with clock }.modifyProfile number fun p =>
            p.record text.length (tokens.map Token.kind) (millisecondsBetween started ended) file)

end Store

end BlockScan
