import BlockScan.Json.Reader
import Mathlib.Data.List.DropRight

/-!
# Steps of the reader

One lemma for each way the reader goes on: what it does with the character in front, whatever
spaces stand before that character.
-/

set_option autoImplicit false

namespace BlockScan.Json

section Spaces

variable {ws cs : List Char}

/-- Spaces in front of a text make no difference to what is skipped to. -/
theorem skipSpace_append (h : ws.all isSpace = true) (cs : List Char) :
    skipSpace (ws ++ cs) = skipSpace cs :=
  List.dropWhile_append_of_pos (List.all_eq_true.1 h)

/-- Nothing is skipped in front of a character that is no space. -/
theorem skipSpace_cons {c : Char} (h : isSpace c = false) (cs : List Char) :
    skipSpace (c :: cs) = c :: cs :=
  List.dropWhile_cons_of_neg (by simp [h])

/-- After white space was skipped there is none left to skip. -/
theorem skipSpace_skipSpace (cs : List Char) : skipSpace (skipSpace cs) = skipSpace cs :=
  List.dropWhile_idempotent isSpace cs

end Spaces

section Steps

variable {frames outer : List Frame} {cs rest : List Char} {items : List Json}
  {fields : List (String × Json)} {name : String} {v : Json}

/-- At the end of the text, with no frame open, what was read is the answer. -/
theorem readFrom_end (h : skipSpace cs = []) : readFrom (.after v) [] cs = .ok v := by
  rw [readFrom]
  simp [h]

/-- A comma in an array takes the value into the frame and asks for the next one. -/
theorem readFrom_item (h : skipSpace cs = ',' :: rest) :
    readFrom (.after v) (.array items :: outer) cs =
      readFrom .value (.array (v :: items) :: outer) rest := by
  conv => lhs; rw [readFrom]
  split <;> simp_all

/-- A closing bracket makes the items read so far an array, which the outer frame gets. -/
theorem readFrom_closeArray (h : skipSpace cs = ']' :: rest) :
    readFrom (.after v) (.array items :: outer) cs =
      readFrom (.after (.array (v :: items).reverse)) outer rest := by
  conv => lhs; rw [readFrom]
  split <;> simp_all

/-- A comma in an object sets the field and asks for the next name. -/
theorem readFrom_field (h : skipSpace cs = ',' :: rest) :
    readFrom (.after v) (.object fields name :: outer) cs =
      readFrom (.name (putField name v fields)) outer rest := by
  conv => lhs; rw [readFrom]
  split <;> simp_all

/-- A closing brace sets the last field and hands the object to the outer frame. -/
theorem readFrom_closeObject (h : skipSpace cs = '\x7d' :: rest) :
    readFrom (.after v) (.object fields name :: outer) cs =
      readFrom (.after (.object (putField name v fields))) outer rest := by
  conv => lhs; rw [readFrom]
  split <;> simp_all

/-- The colon behind a name asks for the value of the field. -/
theorem readFrom_colon (h : skipSpace cs = ':' :: rest) :
    readFrom (.colon fields name) frames cs =
      readFrom .value (.object fields name :: frames) rest := by
  conv => lhs; rw [readFrom]
  split <;> simp_all

/-- A string where a name is asked for is the name of a field. -/
theorem readFrom_name {s left : List Char} (h : skipSpace cs = '"' :: rest)
    (hs : readString ('"' :: rest) [] rest = .ok (s, left)) :
    readFrom (.name fields) frames cs = readFrom (.colon fields (String.ofList s)) frames left := by
  conv => lhs; rw [readFrom]
  split
  · next rest' heq =>
    cases h.symm.trans heq
    split <;> simp_all
  · simp_all

/-- A string where a value is asked for is the value. -/
theorem readFrom_string {s left : List Char} (h : skipSpace cs = '"' :: rest)
    (hs : readString ('"' :: rest) [] rest = .ok (s, left)) :
    readFrom .value frames cs = readFrom (.after (.string (String.ofList s))) frames left := by
  conv => lhs; rw [readFrom]
  split
  · next rest' heq => cases h.symm.trans heq
  · next rest' heq => cases h.symm.trans heq
  · next rest' heq =>
    cases h.symm.trans heq
    split <;> simp_all
  · simp_all

/-- Two brackets with only spaces between them are an empty array. -/
theorem readFrom_emptyArray (h : skipSpace cs = '[' :: rest) {left : List Char}
    (hrest : skipSpace rest = ']' :: left) :
    readFrom .value frames cs = readFrom (.after (.array [])) frames left := by
  conv => lhs; rw [readFrom]
  split
  · next rest' heq =>
    cases h.symm.trans heq
    split <;> simp_all
  all_goals simp_all

/-- An opening bracket with no closing one behind it opens a frame without items. -/
theorem readFrom_openArray (h : skipSpace cs = '[' :: rest)
    (hrest : ∀ left, skipSpace rest ≠ ']' :: left) :
    readFrom .value frames cs = readFrom .value (.array [] :: frames) (skipSpace rest) := by
  conv => lhs; rw [readFrom]
  split
  · next rest' heq =>
    cases h.symm.trans heq
    split <;> simp_all
  all_goals simp_all

/-- Two braces with only spaces between them are an empty object. -/
theorem readFrom_emptyObject (h : skipSpace cs = '\x7b' :: rest) {left : List Char}
    (hrest : skipSpace rest = '\x7d' :: left) :
    readFrom .value frames cs = readFrom (.after (.object [])) frames left := by
  conv => lhs; rw [readFrom]
  split
  · next rest' heq => cases h.symm.trans heq
  · next rest' heq =>
    cases h.symm.trans heq
    split <;> simp_all
  all_goals simp_all

/-- An opening brace with no closing one behind it asks for the first name. -/
theorem readFrom_openObject (h : skipSpace cs = '\x7b' :: rest)
    (hrest : ∀ left, skipSpace rest ≠ '\x7d' :: left) :
    readFrom .value frames cs = readFrom (.name []) frames (skipSpace rest) := by
  conv => lhs; rw [readFrom]
  split
  · next rest' heq => cases h.symm.trans heq
  · next rest' heq =>
    cases h.symm.trans heq
    split <;> simp_all
  all_goals simp_all

/-- A word, or a number that fits the limit on digits, is taken where nothing else can begin. -/
theorem readFrom_scalar (hread : readScalar? (skipSpace cs) = some (v, rest))
    (hlong : v.isLong = false)
    (ha : ∀ left, skipSpace cs ≠ '[' :: left) (ho : ∀ left, skipSpace cs ≠ '\x7b' :: left)
    (hs : ∀ left, skipSpace cs ≠ '"' :: left) :
    readFrom .value frames cs = readFrom (.after v) frames rest := by
  conv => lhs; rw [readFrom]
  split
  · next rest' heq => exact absurd heq (ha rest')
  · next rest' heq => exact absurd heq (ho rest')
  · next rest' heq => exact absurd heq (hs rest')
  · split <;> simp_all

end Steps

end BlockScan.Json
