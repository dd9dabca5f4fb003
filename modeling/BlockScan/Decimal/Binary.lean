/-!
# The exact value of a double

A finite double is a sign, a natural number and a power of two. Everything that is written about
a double, or compared with one, is computed from this exact value.
-/

set_option autoImplicit false

namespace BlockScan.Decimal

/-- A finite double without its sign: `mantissa * 2 ^ power`. -/
structure Binary where
  mantissa : Nat
  power : Int
  /-- The gap to the next smaller double is half the gap to the next larger one. -/
  narrowBelow : Bool
deriving DecidableEq

/-- What a double stands for. -/
inductive Reading where
  | notANumber
  | infinite (negative : Bool)
  | finite (negative : Bool) (magnitude : Binary)
deriving DecidableEq

/-- Reads the sign, exponent and fraction fields of a double. -/
def Reading.ofBits (bits : UInt64) : Reading :=
  let negative := (bits >>> 63) == 1
  let exponent := ((bits >>> 52) &&& 0x7FF).toNat
  let fraction := (bits &&& 0xFFFFFFFFFFFFF).toNat
  if exponent == 0x7FF then
    if fraction == 0 then .infinite negative else .notANumber
  else if exponent == 0 then
    .finite negative ⟨fraction, -1074, false⟩
  else
    .finite negative
      ⟨0x10000000000000 + fraction, (exponent : Int) - 1075, fraction == 0 && exponent > 1⟩

/-- What a double stands for. -/
def Reading.ofFloat (x : Float) : Reading := Reading.ofBits x.toBits

/-- A power with a whole exponent; an exponent below zero counts as zero. -/
def wholePower (base : Nat) (exponent : Int) : Nat := Nat.pow base exponent.toNat

/-- Compares `a * 10 ^ i` with `n * 2 ^ j`, exactly. -/
def compareScaled (a : Nat) (i : Int) (n : Nat) (j : Int) : Ordering :=
  compare (a * wholePower 10 i * wholePower 2 (-j)) (n * wholePower 2 j * wholePower 10 (-i))

/-- Compares an integer with a signed double, exactly. -/
def compareInt (i : Int) (negative : Bool) (x : Binary) : Ordering :=
  let n : Int := if negative then -(x.mantissa : Int) else x.mantissa
  compare (i * wholePower 2 (-x.power)) (n * wholePower 2 x.power)

/-- The nearest double to a decimal `digits * 10 ^ exponent`. An exponent so far out that the digits
do not matter gives zero or infinity at once. -/
def magnitudeNear (digits : Nat) (exponent : Int) : Float :=
  let size := (Nat.log2 digits + 1 : Int)
  if digits = 0 then 0.0
  else if exponent < -400 - size then 0.0
  else if exponent > 400 then Float.ofScientific 1 false 400
  else Float.ofScientific digits (decide (exponent < 0)) exponent.natAbs

/-- The nearest double to a decimal with its sign. Zero keeps its sign. -/
def floatNear (negative : Bool) (digits : Nat) (exponent : Int) : Float :=
  if negative then -(magnitudeNear digits exponent) else magnitudeNear digits exponent

/-- The nearest double to `i * 10 ^ exponent`. -/
def floatOfInt (i : Int) (exponent : Int) : Float := floatNear (decide (i < 0)) i.natAbs exponent

end BlockScan.Decimal
