import BlockScan.Decimal.Binary
import BlockScan.Decimal.Whole
import BlockScan.Json.Basic
import BlockScan.Text.Basic

/-!
# Reading JSON words and numbers

A number is the longest beginning of the text that has the form of one. It is a whole number
unless it has a fraction or an exponent, and then the nearest double.
-/

set_option autoImplicit false

namespace BlockScan.Json

/-- A number with its sign. -/
def withSign (negative : Bool) (n : Nat) : Int := if negative then -(n : Int) else n

/-- The parts of a number as they are written. -/
structure Numeral where
  negative : Bool
  whole : List Char
  fraction : List Char
  /-- The exponent, when one is written. -/
  exponent : Option Int

/-- The number that a numeral stands for. A sign on a whole zero is lost. -/
def Numeral.value (n : Numeral) : Json :=
  if n.fraction.isEmpty && n.exponent.isNone then
    .int (withSign n.negative (Decimal.valueOf n.whole))
  else
    .float (Decimal.floatNear n.negative (Decimal.valueOf (n.whole ++ n.fraction))
      (n.exponent.getD 0 - n.fraction.length))

/-- The digits before the point: a single zero, or digits that do not start with zero. -/
def readWhole : List Char → List Char × List Char
  | '0' :: rest => (['0'], rest)
  | cs => (cs.takeWhile Decimal.isDigit, cs.dropWhile Decimal.isDigit)

/-- The digits of a fraction, none when no point with a digit follows. -/
def readFraction : List Char → List Char × List Char
  | '.' :: rest =>
    if (rest.takeWhile Decimal.isDigit).isEmpty then ([], '.' :: rest)
    else (rest.takeWhile Decimal.isDigit, rest.dropWhile Decimal.isDigit)
  | cs => ([], cs)

/-- The sign in front of the digits of an exponent, and what follows it. -/
def readSign : List Char → Bool × List Char
  | '-' :: rest => (true, rest)
  | '+' :: rest => (false, rest)
  | cs => (false, cs)

/-- The digits of an exponent behind its letter, with their sign. -/
def readPower? (cs : List Char) : Option (Int × List Char) :=
  let ds := (readSign cs).2.takeWhile Decimal.isDigit
  if ds.isEmpty then none
  else
    some (withSign (readSign cs).1 (Decimal.valueOf ds), (readSign cs).2.dropWhile Decimal.isDigit)

/-- The exponent, none when no letter with a digit follows. -/
def readExponent (cs : List Char) : Option Int × List Char :=
  match cs with
  | 'e' :: rest | 'E' :: rest =>
    match readPower? rest with
    | some (p, left) => (some p, left)
    | none => (none, cs)
  | _ => (none, cs)

/-- The number at the beginning of a text. -/
def readNumber? (cs : List Char) : Option (Json × List Char) :=
  let (negative, body) := match cs with
    | '-' :: rest => (true, rest)
    | _ => (false, cs)
  let (whole, afterWhole) := readWhole body
  if whole.isEmpty then none
  else
    let (fraction, afterFraction) := readFraction afterWhole
    let (exponent, rest) := readExponent afterFraction
    some (Numeral.value { negative, whole, fraction, exponent }, rest)

/-- The words that stand for values. -/
def words : List (List Char × Json) := [
  ("null".toList, .null),
  ("true".toList, .bool true),
  ("false".toList, .bool false),
  ("NaN".toList, .float (0.0 / 0.0)),
  ("Infinity".toList, .float (1.0 / 0.0)),
  ("-Infinity".toList, .float (-1.0 / 0.0))]

/-- The word at the beginning of a text. -/
def readWord? (cs : List Char) : Option (Json × List Char) :=
  words.findSome? fun w => (Text.behind? w.1 cs).map fun rest => (w.2, rest)

/-- The word or number at the beginning of a text. -/
def readScalar? (cs : List Char) : Option (Json × List Char) :=
  (readWord? cs).or (readNumber? cs)

/-- A run that is not empty is taken from the text. -/
theorem length_dropWhile_lt {p : Char → Bool} {cs : List Char}
    (h : (cs.takeWhile p).isEmpty = false) : (cs.dropWhile p).length < cs.length := by
  have hl : (cs.takeWhile p ++ cs.dropWhile p).length = cs.length := by
    rw [List.takeWhile_append_dropWhile]
  cases ht : cs.takeWhile p with
  | nil => simp [ht] at h
  | cons c t =>
    rw [ht, List.length_append, List.length_cons] at hl
    omega

/-- The digits before the point are taken from the text when there are any. -/
theorem readWhole_length {cs : List Char} (h : (readWhole cs).1.isEmpty = false) :
    (readWhole cs).2.length < cs.length := by
  unfold readWhole at h ⊢
  split
  · simp
  · next hz =>
    split at h
    · next rest => exact absurd rfl (hz rest)
    · exact length_dropWhile_lt h

/-- A fraction is taken from the text, or nothing is. -/
theorem readFraction_length (cs : List Char) : (readFraction cs).2.length ≤ cs.length := by
  unfold readFraction
  split
  · next rest =>
    split
    · simp
    · exact Nat.le_succ_of_le (List.dropWhile_sublist _).length_le
  · simp

/-- A sign is taken from the text, or nothing is. -/
theorem readSign_length (cs : List Char) : (readSign cs).2.length ≤ cs.length := by
  unfold readSign
  split <;> simp

/-- What follows the digits of an exponent is a part of what they were read from. -/
theorem readPower?_length {cs : List Char} {r : Int × List Char} (h : readPower? cs = some r) :
    r.2.length ≤ cs.length := by
  unfold readPower? at h
  simp only at h
  split at h
  · simp at h
  · simp only [Option.some.injEq] at h
    subst h
    exact Nat.le_trans (List.dropWhile_sublist _).length_le (readSign_length cs)

/-- An exponent is taken from the text, or nothing is. -/
theorem readExponent_length (cs : List Char) : (readExponent cs).2.length ≤ cs.length := by
  unfold readExponent
  split
  · split
    · next h => exact Nat.le_succ_of_le (readPower?_length h)
    · simp
  · split
    · next h => exact Nat.le_succ_of_le (readPower?_length h)
    · simp
  · simp

/-- A number is taken from the text, one digit at least. -/
theorem readNumber?_length {cs : List Char} {r : Json × List Char}
    (h : readNumber? cs = some r) : r.2.length < cs.length := by
  unfold readNumber? at h
  split at h
  next negative body hb =>
  have hbody : body.length ≤ cs.length := by
    split at hb <;> simp only [Prod.mk.injEq] at hb <;> obtain ⟨-, rfl⟩ := hb <;> simp
  simp only at h
  split at h
  · simp at h
  · next hw =>
    simp only [Option.some.injEq] at h
    subst h
    have h1 := readWhole_length (Bool.eq_false_iff.2 hw)
    have h2 := readFraction_length (readWhole body).2
    have h3 := readExponent_length (readFraction (readWhole body).2).2
    simp only
    omega

/-- A word is taken from the text, and none of the words is empty. -/
theorem readWord?_length {cs : List Char} {r : Json × List Char} (h : readWord? cs = some r) :
    r.2.length < cs.length := by
  obtain ⟨w, hw, h⟩ := List.exists_of_findSome?_eq_some h
  obtain ⟨rest, hr, rfl⟩ := Option.map_eq_some_iff.1 h
  have hl := Text.behind?_length hr
  have hpos : 0 < w.1.length := by
    simp only [words, List.mem_cons, List.not_mem_nil, or_false] at hw
    rcases hw with rfl | rfl | rfl | rfl | rfl | rfl <;> decide
  simp only
  omega

/-- A scalar is taken from the text, so the reader moves on behind it. -/
theorem readScalar?_length {cs : List Char} {r : Json × List Char}
    (h : readScalar? cs = some r) : r.2.length < cs.length := by
  unfold readScalar? at h
  cases hw : readWord? cs with
  | some q =>
    simp only [hw, Option.some_or, Option.some.injEq] at h
    subst h
    exact readWord?_length hw
  | none =>
    simp only [hw, Option.none_or] at h
    exact readNumber?_length h

end BlockScan.Json
