import BlockScan.Decimal.Layout
import BlockScan.Position
import BlockScan.Token.Basic

/-!
# Profiles

A profile sums up scans: how many there were, how many characters they read, how long they took,
how many tokens of each kind they brought, and which texts held an illegal token.
-/

set_option autoImplicit false

namespace BlockScan

/-- How often each kind of token was met. A kind that was not met has no entry. -/
structure Tally where
  entries : List (TokenKind × Nat) := []
deriving DecidableEq

namespace Tally

/-- How often a kind was met. -/
def count (t : Tally) (kind : TokenKind) : Nat := (t.entries.lookup kind).getD 0

/-- How many tokens were met. -/
def total (t : Tally) : Nat := t.entries.foldr (fun e n => e.2 + n) 0

/-- The entries with one more token of a kind. -/
def bump (kind : TokenKind) : List (TokenKind × Nat) → List (TokenKind × Nat)
  | [] => [(kind, 1)]
  | (k, n) :: rest => if k = kind then (k, n + 1) :: rest else (k, n) :: bump kind rest

/-- A tally with one more token of a kind. -/
def add (t : Tally) (kind : TokenKind) : Tally := ⟨bump kind t.entries⟩

/-- A tally with more tokens. -/
def addAll (t : Tally) (kinds : List TokenKind) : Tally := kinds.foldl add t

/-- The entries in the order of the names of the kinds. -/
def byName (t : Tally) : List (TokenKind × Nat) :=
  t.entries.mergeSort fun a b => decide (a.1.name ≤ b.1.name)

/-- Adding a token raises the count of its own kind by one and no other count. -/
theorem count_add (t : Tally) (kind k : TokenKind) :
    (t.add kind).count k = t.count k + if k = kind then 1 else 0 := by
  obtain ⟨entries⟩ := t
  simp only [count, add]
  induction entries with
  | nil =>
    by_cases h : k = kind
    · simp [bump, h]
    · simp [bump, List.lookup_cons, h, beq_false_of_ne h]
  | cons e rest ih =>
    obtain ⟨j, n⟩ := e
    by_cases hj : j = kind
    · subst hj
      by_cases hk : k = j
      · simp [bump, hk]
      · simp [bump, List.lookup_cons, hk, beq_false_of_ne hk]
    · by_cases hk : k = j
      · subst hk
        simp [bump, hj]
      · simpa [bump, List.lookup_cons, hj, beq_false_of_ne hk] using ih

/-- Adding a token raises the total by one, whatever its kind. -/
theorem total_add (t : Tally) (kind : TokenKind) : (t.add kind).total = t.total + 1 := by
  obtain ⟨entries⟩ := t
  simp only [total, add]
  induction entries with
  | nil => simp [bump]
  | cons e rest ih =>
    obtain ⟨j, n⟩ := e
    by_cases hj : j = kind
    · simp only [bump, if_pos hj, List.foldr_cons]
      omega
    · simp only [bump, if_neg hj, List.foldr_cons, ih]
      omega

end Tally

/-- The sum of some scans. -/
structure Profile where
  scans : Nat := 0
  sourceLength : Int := 0
  milliseconds : Float := 0.0
  slowestMilliseconds : Float := 0.0
  tokens : Tally := {}
  /-- The texts that held an illegal token, in the order of the scans. -/
  illegalSources : List String := []

namespace Profile

/-- A profile with one more scan. -/
def record (p : Profile) (sourceLength : Int) (kinds : List TokenKind) (milliseconds : Float)
    (file : Option String) : Profile :=
  { scans := p.scans + 1
    sourceLength := p.sourceLength + sourceLength
    milliseconds := p.milliseconds + milliseconds
    slowestMilliseconds :=
      if milliseconds > p.slowestMilliseconds then milliseconds else p.slowestMilliseconds
    tokens := p.tokens.addAll kinds
    illegalSources :=
      if kinds.contains .illegal then p.illegalSources ++ [sourceLabel file]
      else p.illegalSources }

/-- How many tokens there were. -/
def tokenCount (p : Profile) : Nat := p.tokens.total

/-- How many illegal tokens there were. -/
def illegalCount (p : Profile) : Nat := p.tokens.count .illegal

/-- The places with which times are reported. -/
def timePlaces : Nat := 3

/-- The time of all scans as it is reported. -/
def reportedTime (p : Profile) : String := Decimal.fixed timePlaces p.milliseconds

/-- The time of the slowest scan as it is reported. -/
def reportedSlowest (p : Profile) : String := Decimal.fixed timePlaces p.slowestMilliseconds

end Profile

end BlockScan
