import BlockScan.Decimal.Shortest

/-!
# How a double is written

A double is written with the fewest digits that read back, positionally when the exponent of its
first digit is between -4 and 15, and otherwise with one digit before the point and an exponent
that has a sign and at least two digits. A positional number always shows a point, so that it is
told apart from an integer. Formats that share this rule differ in the words for the values that
have no digits.

With a fixed number of places a double is its exact value rounded to the nearest multiple of the
last place; a value half way between two multiples goes to the even one.
-/

set_option autoImplicit false

namespace BlockScan.Decimal

/-- The words of a format for the values that have no digits. -/
structure FloatWords where
  notANumber : String
  infinity : String

/-- The digits `ds` of a number whose first digit has the given exponent, with its point. -/
def positional (ds : List Char) (exponent : Int) : List Char :=
  if exponent < 0 then
    ['0', '.'] ++ List.replicate (-exponent - 1).toNat '0' ++ ds
  else
    let whole := exponent.toNat + 1
    let fraction := ds.drop whole
    ds.take whole ++ List.replicate (whole - ds.length) '0' ++
      ['.'] ++ (if fraction.isEmpty then ['0'] else fraction)

/-- The digits `ds` of a number in exponent form. -/
def exponential (ds : List Char) (exponent : Int) : List Char :=
  let size := digits exponent.natAbs
  let fraction := ds.drop 1
  ds.take 1 ++ (if fraction.isEmpty then [] else '.' :: fraction) ++
    ['e', if exponent < 0 then '-' else '+'] ++
    (if size.length < 2 then '0' :: size else size)

/-- The layout of a decimal that is not zero. -/
def Scientific.layout (d : Scientific) : List Char :=
  let ds := Decimal.digits d.digits
  let exponent := d.exponent + ds.length - 1
  if -4 ≤ exponent ∧ exponent < 16 then positional ds exponent else exponential ds exponent

/-- A double, with the words of a format for the values that have no digits. -/
def FloatWords.write (words : FloatWords) (x : Float) : String :=
  let sign (negative : Bool) := if negative then "-" else ""
  match Reading.ofFloat x with
  | .notANumber => words.notANumber
  | .infinite negative => sign negative ++ words.infinity
  | .finite negative magnitude =>
    sign negative ++
      if magnitude.mantissa = 0 then "0.0" else String.ofList magnitude.shortest.layout

/-! ## A fixed number of places -/

/-- The quotient rounded to the nearest whole number, a half going to the even neighbour. -/
def roundDiv (num den : Nat) : Nat :=
  let q := num / den
  match compare (2 * (num % den)) den with
  | .lt => q
  | .gt => q + 1
  | .eq => if q % 2 = 0 then q else q + 1

/-- A non-negative finite double in units of `10 ^ (-places)`, rounded. -/
def Binary.rounded (x : Binary) (places : Nat) : Nat :=
  roundDiv (x.mantissa * wholePower 2 x.power * wholePower 10 places) (wholePower 2 (-x.power))

/-- A count of units of `10 ^ (-places)` with its point, for at least one place. -/
def withPlaces (units places : Nat) : List Char :=
  let ds := digits units
  let padded := List.replicate (places + 1 - ds.length) '0' ++ ds
  let whole := padded.length - places
  padded.take whole ++ ['.'] ++ padded.drop whole

/-- A double with a fixed number of places. -/
def fixed (places : Nat) (x : Float) : String :=
  match Reading.ofFloat x with
  | .notANumber => "nan"
  | .infinite negative => if negative then "-inf" else "inf"
  | .finite negative magnitude =>
    (if negative then "-" else "") ++
      String.ofList (withPlaces (magnitude.rounded places) places)

end BlockScan.Decimal
