import BlockScan.Json.Quotation
import BlockScan.Json.Scalar

/-!
# Reading JSON

A text is read from left to right by a machine that keeps the arrays and objects it is inside of.
Each step reads one bracket, comma, colon, string, word or number, so the text gets shorter and
reading ends. A name that an object holds twice keeps its first place and its last value.

Of the limits that an interpreter sets, the one on the digits of an integer is kept: an integer
with too many of them is refused where it stands. The others are outside of this model: arrays and
objects are nested to any depth, where an interpreter gives up at the depth of its recursion, and
memory does not run out.
-/

set_option autoImplicit false

namespace BlockScan.Json

/-- An array or object whose closing bracket is still to come. -/
inductive Frame where
  /-- The items read so far, the last one first. -/
  | array (items : List Json)
  /-- The fields read so far, and the name of the field whose value comes next. -/
  | object (fields : List (String × Json)) (name : String)

/-- What must come next. -/
inductive Goal where
  /-- A value. -/
  | value
  /-- The name of a field of an object with these fields. -/
  | name (fields : List (String × Json))
  /-- The colon behind the name of a field. -/
  | colon (fields : List (String × Json)) (name : String)
  /-- A comma, a closing bracket or the end, behind this value. -/
  | after (value : Json)

/-- The characters that may stand between the parts of a value. -/
def isSpace (c : Char) : Bool := c == ' ' || c == '\t' || c == '\n' || c == '\r'

/-- The text without the spaces at its beginning. -/
def skipSpace (cs : List Char) : List Char := cs.dropWhile isSpace

/-- Skipping white space never makes the text longer. -/
theorem skipSpace_length (cs : List Char) : (skipSpace cs).length ≤ cs.length :=
  (List.dropWhile_sublist isSpace).length_le

/-- What is left after white space, when the reader has named it, is no longer than the text. -/
theorem skipSpace_eq_length {cs rest : List Char} (h : skipSpace cs = rest) :
    rest.length ≤ cs.length :=
  h ▸ skipSpace_length cs

/-- Behind the white space and one more character the text is shorter, which is why the reader comes
to an end. -/
theorem skipSpace_cons_length {cs rest : List Char} {c : Char} (h : skipSpace cs = c :: rest) :
    rest.length < cs.length :=
  skipSpace_eq_length h

/-- Reads on from a goal inside the frames, the innermost one first. There may be any number of
frames: a limit on the depth of recursion is outside of the model. -/
def readFrom (goal : Goal) (frames : List Frame) (cs : List Char) : Except Fault Json :=
  match goal with
  | .value =>
    match _h : skipSpace cs with
    | '[' :: rest =>
      match _h' : skipSpace rest with
      | ']' :: rest' => readFrom (.after (.array [])) frames rest'
      | rest' => readFrom .value (.array [] :: frames) rest'
    | '\x7b' :: rest =>
      match _h' : skipSpace rest with
      | '\x7d' :: rest' => readFrom (.after (.object [])) frames rest'
      | rest' => readFrom (.name []) frames rest'
    | '"' :: rest =>
      match _h' : readString ('"' :: rest) [] rest with
      | .ok (s, rest') => readFrom (.after (.string (String.ofList s))) frames rest'
      | .error fault => .error fault
    | rest =>
      match _h' : readScalar? rest with
      | some (v, rest') =>
        if v.isLong then .error ⟨.tooManyDigits v.digitCount, rest⟩
        else readFrom (.after v) frames rest'
      | none => .error ⟨.noValue, rest⟩
  | .name fields =>
    match _h : skipSpace cs with
    | '"' :: rest =>
      match _h' : readString ('"' :: rest) [] rest with
      | .ok (s, rest') => readFrom (.colon fields (String.ofList s)) frames rest'
      | .error fault => .error fault
    | rest => .error ⟨.noName, rest⟩
  | .colon fields name =>
    match _h : skipSpace cs with
    | ':' :: rest => readFrom .value (.object fields name :: frames) rest
    | rest => .error ⟨.noColon, rest⟩
  | .after v =>
    match frames with
    | [] => if (skipSpace cs).isEmpty then .ok v else .error ⟨.extraData, skipSpace cs⟩
    | .array items :: outer =>
      match _h : skipSpace cs with
      | ',' :: rest => readFrom .value (.array (v :: items) :: outer) rest
      | ']' :: rest => readFrom (.after (.array (v :: items).reverse)) outer rest
      | rest => .error ⟨.noComma, rest⟩
    | .object fields name :: outer =>
      match _h : skipSpace cs with
      | ',' :: rest => readFrom (.name (putField name v fields)) outer rest
      | '\x7d' :: rest => readFrom (.after (.object (putField name v fields))) outer rest
      | rest => .error ⟨.noComma, rest⟩
termination_by cs.length
decreasing_by
  · exact Nat.lt_trans (skipSpace_cons_length _h') (skipSpace_cons_length _h)
  · exact Nat.lt_of_le_of_lt (skipSpace_eq_length _h') (skipSpace_cons_length _h)
  · exact Nat.lt_trans (skipSpace_cons_length _h') (skipSpace_cons_length _h)
  · exact Nat.lt_of_le_of_lt (skipSpace_eq_length _h') (skipSpace_cons_length _h)
  · exact Nat.lt_trans (readString_length _h') (skipSpace_cons_length _h)
  · exact Nat.lt_of_lt_of_le (readScalar?_length _h') (skipSpace_eq_length _h)
  · exact Nat.lt_trans (readString_length _h') (skipSpace_cons_length _h)
  all_goals exact skipSpace_cons_length _h

/-- Reads a text that holds one value and nothing else but spaces. -/
def read (text : String) : Except ReadError Json :=
  let cs := text.toList
  if cs.head? = some '\uFEFF' then .error (Fault.locate ⟨.byteOrderMark, cs⟩ cs)
  else (readFrom .value [] cs).mapError fun fault => fault.locate cs

end BlockScan.Json
