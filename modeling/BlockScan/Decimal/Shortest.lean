import BlockScan.Decimal.Binary
import BlockScan.Decimal.Whole

/-!
# The fewest digits that read back

The decimals that read back as a given double fill an interval around it. The decimal written for
a double is the one in that interval with the fewest digits; among those of that length it is the
nearest, and on an exact tie the one whose last digit is even.
-/

set_option autoImplicit false

namespace BlockScan.Decimal

/-- The decimal `digits * 10 ^ exponent`. -/
structure Scientific where
  digits : Nat
  exponent : Int
deriving DecidableEq

/-- Whether a decimal reads back as a double: it lies between the midpoints to the neighbours of
the double, ends included exactly when the mantissa is even. -/
def Binary.readsBack (x : Binary) (d : Scientific) : Bool :=
  let low := if x.narrowBelow then 4 * x.mantissa - 1 else 4 * x.mantissa - 2
  let high := 4 * x.mantissa + 2
  let ends := x.mantissa % 2 == 0
  let atLow := compareScaled d.digits d.exponent low (x.power - 2)
  let atHigh := compareScaled d.digits d.exponent high (x.power - 2)
  (atLow == .gt || (ends && atLow == .eq)) && (atHigh == .lt || (ends && atHigh == .eq))

/-- The least `k` such that the double lies below `10 ^ k`, for a double that is not zero. -/
def Binary.scale (x : Binary) : Int :=
  let least (k : Int) : Bool := compareScaled 1 k x.mantissa x.power == .gt
  let guess := ((Nat.log2 x.mantissa : Int) + x.power) * 1233 / 4096 - 1
  (((List.range 6).map fun (i : Nat) => guess + i).find? least).getD guess

/-- The whole number of steps of size `10 ^ exponent` below the double. -/
def Binary.steps (x : Binary) (exponent : Int) : Nat :=
  (x.mantissa * wholePower 2 x.power * wholePower 10 (-exponent)) /
    (wholePower 10 exponent * wholePower 2 (-x.power))

/-- The better one of the two neighbours of a double on the grid of step `10 ^ exponent`, if one
of them reads back. -/
def Binary.onGrid? (x : Binary) (exponent : Int) : Option Scientific :=
  let below : Scientific := ⟨x.steps exponent, exponent⟩
  let above : Scientific := ⟨x.steps exponent + 1, exponent⟩
  match x.readsBack below, x.readsBack above with
  | false, false => none
  | true, false => some below
  | false, true => some above
  | true, true =>
    match compareScaled (2 * below.digits + 1) exponent x.mantissa (x.power + 1) with
    | .lt => some above
    | .gt => some below
    | .eq => some (if below.digits % 2 = 0 then below else above)

/-- A decimal with its trailing zeros moved into the exponent. -/
def Scientific.strip (d : Scientific) : Scientific :=
  if h : d.digits ≠ 0 ∧ d.digits % 10 = 0 then
    Scientific.strip ⟨d.digits / 10, d.exponent + 1⟩
  else d
termination_by d.digits
decreasing_by omega

/-- The decimal with the fewest digits that reads back as a double that is not zero. Seventeen
digits always suffice; the exact value stands in for a search without a result. -/
def Binary.shortest (x : Binary) : Scientific :=
  let grids := (List.range 17).map fun (n : Nat) => x.scale - (n + 1)
  match grids.findSome? x.onGrid? with
  | some d => d.strip
  | none =>
    Scientific.strip
      ⟨x.mantissa * wholePower 2 x.power * wholePower 5 (-x.power), min x.power 0⟩

end BlockScan.Decimal
