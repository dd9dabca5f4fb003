import BlockScan.Decimal.Binary
import BlockScan.Json.Basic

/-!
# Comparing JSON values

Truth values count as zero and one, and all numbers are compared by their exact values. Texts are
compared by code points and arrays by the first items that differ. No other two values are
ordered.
-/

set_option autoImplicit false

namespace BlockScan.Json

/-- The comparison of two numbers, none when one of them is not a number; the outer option is
none when one of the values is no number at all. -/
def compareNumbers? : Json → Json → Option (Option Ordering)
  | .float x, .float y =>
    some (if x < y then some .lt else if x == y then some .eq else if x > y then some .gt else none)
  | .float x, v => (whole? v).map fun i => (compareWhole i x).map Ordering.swap
  | v, .float y => (whole? v).map fun i => compareWhole i y
  | v, w => do
    let i ← whole? v
    let j ← whole? w
    return some (compare i j)
where
  /-- The whole number that a truth value or an integer counts as. -/
  whole? : Json → Option Int
    | .bool b => some (if b then 1 else 0)
    | .int i => some i
    | _ => none
  /-- The exact comparison of a whole number with a double. -/
  compareWhole (i : Int) (x : Float) : Option Ordering :=
    match Decimal.Reading.ofFloat x with
    | .notANumber => none
    | .infinite negative => some (if negative then .gt else .lt)
    | .finite negative magnitude => some (Decimal.compareInt i negative magnitude)

/-- Whether a value is the number that is not a number. -/
def isNotANumber : Json → Bool
  | .float x => x != x
  | _ => false

mutual

/-- Whether two values are the same: numbers by value, arrays item by item, and objects field by
field in any order. Two values that are not a number are the same. -/
def same : Json → Json → Bool
  | .null, .null => true
  | .string s, .string t => s == t
  | .array xs, .array ys => sameItems xs ys
  | .object fs, .object gs => fs.length == gs.length && sameFields fs gs
  | v, w =>
    (isNotANumber v && isNotANumber w) || compareNumbers? v w == some (some .eq)

/-- Whether two lists of items are the same, item by item. -/
def sameItems : List Json → List Json → Bool
  | [], [] => true
  | x :: xs, y :: ys => same x y && sameItems xs ys
  | _, _ => false

/-- Whether every field of the first list is the same in the second one. -/
def sameFields : List (String × Json) → List (String × Json) → Bool
  | [], _ => true
  | (name, v) :: rest, gs =>
    (match gs.lookup name with
      | some w => same v w
      | none => false) && sameFields rest gs

end

/-- Two values of these kinds are not ordered. -/
structure Unordered where
  left : Kind
  right : Kind
deriving DecidableEq

mutual

/-- Whether the first value is greater than the second one. -/
def exceeds : Json → Json → Except Unordered Bool
  | .string s, .string t => .ok (decide (t < s))
  | .array xs, .array ys => itemsExceed xs ys
  | v, w =>
    match compareNumbers? v w with
    | some order => .ok (order == some .gt)
    | none => .error ⟨v.kind, w.kind⟩

/-- Whether the first list of items is greater than the second one: the first items that differ
decide, and of two lists one of which begins the other the longer one is greater. -/
def itemsExceed : List Json → List Json → Except Unordered Bool
  | x :: xs, y :: ys => if same x y then itemsExceed xs ys else exceeds x y
  | _ :: _, [] => .ok true
  | [], _ => .ok false

end

end BlockScan.Json
