import BlockScan.Decimal.Layout
import BlockScan.Json.Basic
import BlockScan.Text.Basic

/-!
# Writing JSON

A value is written with the fields of every object in the order of their names, in ASCII, either
on one line or with one line per item, indented by its depth.

Every value has a text in every style (`write`). Of the limits that an interpreter sets, `encode`
keeps two: a number of spaces to indent by must fit an index, and an integer must not have too many
digits. The others, on the depth of nesting and on memory, are outside of this model, and so are
texts that hold lone surrogates, which are no texts of characters.
-/

set_option autoImplicit false

namespace BlockScan.Json

/-- How the items of arrays and objects are set apart. -/
inductive Style where
  /-- On one line, with a space after each comma. -/
  | inline
  /-- One line per item, indented by this text once for every level. -/
  | indented (unit : String)
deriving DecidableEq

/-- The style that an indent setting asks for: a number of spaces, where a truth value counts as
zero or one and no number of spaces is below zero, or a text. Every other setting keeps all on one
line. -/
def Style.ofIndent : Json → Style
  | .int n => .indented (String.ofList (List.replicate n.toNat ' '))
  | .bool b => .indented (if b then " " else "")
  | .string unit => .indented unit
  | _ => .inline

/-- The words for the floating-point values without digits. -/
def floatWords : Decimal.FloatWords := ⟨"NaN", "Infinity"⟩

/-- What stands before the items of a level, and before the bracket that closes the level above. -/
def Style.newLine : Style → Nat → List Char
  | .inline, _ => []
  | .indented unit, level => '\n' :: (List.replicate level unit.toList).flatten

/-- What stands between two items of a level. -/
def Style.comma : Style → Nat → List Char
  | .inline, _ => [',', ' ']
  | style, level => ',' :: style.newLine level

/-- The escape of one UTF-16 unit. -/
def unitEscape (code : Nat) : List Char := '\\' :: 'u' :: Text.hexDigits 4 code

/-- A character inside a string: the printable part of ASCII stands for itself, the quote and the
backslash are escaped, and everything else is an escape of its one or two UTF-16 units. -/
def escapeChar (c : Char) : List Char :=
  if c = '"' then ['\\', '"']
  else if c = '\\' then ['\\', '\\']
  else if c = '\n' then ['\\', 'n']
  else if c = '\r' then ['\\', 'r']
  else if c = '\t' then ['\\', 't']
  else if c = '\x08' then ['\\', 'b']
  else if c = '\x0c' then ['\\', 'f']
  else if ' ' ≤ c ∧ c ≤ '~' then [c]
  else if c.toNat < 0x10000 then unitEscape c.toNat
  else unitEscape (0xD800 + (c.toNat - 0x10000) / 0x400) ++
    unitEscape (0xDC00 + (c.toNat - 0x10000) % 0x400)

/-- A string between its quotes. -/
def writeString (s : String) : List Char := '"' :: s.toList.flatMap escapeChar ++ ['"']

/-- The fields of an object in the order of their names. -/
def sortFields (fields : List (String × Json)) : List (String × Json) :=
  fields.mergeSort fun a b => decide (a.1 ≤ b.1)

mutual

/-- A value with the fields of every object in it, at every depth, in the order of their names. -/
def sorted : Json → Json
  | .array items => .array (sortedItems items)
  | .object fields => .object (sortFields (sortedFields fields))
  | v => v

/-- The items of an array, each sorted. -/
def sortedItems : List Json → List Json
  | [] => []
  | v :: rest => sorted v :: sortedItems rest

/-- The fields of an object in their own order, the value of each sorted. -/
def sortedFields : List (String × Json) → List (String × Json)
  | [] => []
  | (name, v) :: rest => (name, sorted v) :: sortedFields rest

end

mutual

/-- A value at a level of nesting, with the fields of its objects in their own order. -/
def writeAt (style : Style) (level : Nat) : Json → List Char
  | .null => "null".toList
  | .bool true => "true".toList
  | .bool false => "false".toList
  | .int i => Decimal.signed i
  | .float x => (floatWords.write x).toList
  | .string s => writeString s
  | .array [] => ['[', ']']
  | .array (v :: rest) =>
    '[' :: style.newLine (level + 1) ++ writeAt style (level + 1) v ++
      writeItems style (level + 1) rest ++ style.newLine level ++ [']']
  | .object [] => ['{', '}']
  | .object ((name, v) :: rest) =>
    '{' :: style.newLine (level + 1) ++ writeString name ++ ':' :: ' ' ::
      writeAt style (level + 1) v ++ writeFields style (level + 1) rest ++
      style.newLine level ++ ['}']

/-- The items of an array after the first. -/
def writeItems (style : Style) (level : Nat) : List Json → List Char
  | [] => []
  | v :: rest => style.comma level ++ writeAt style level v ++ writeItems style level rest

/-- The fields of an object after the first. -/
def writeFields (style : Style) (level : Nat) : List (String × Json) → List Char
  | [] => []
  | (name, v) :: rest =>
    style.comma level ++ writeString name ++ ':' :: ' ' :: writeAt style level v ++
      writeFields style level rest

end

/-- The text of a value. -/
def write (style : Style) (v : Json) : String := String.ofList (writeAt style 0 v.sorted)

/-! ## What cannot be written -/

/-- Why a value cannot be written. -/
inductive WriteError where
  /-- The number of spaces to indent by fits no index. -/
  | wideIndent
  /-- An integer has too many digits. -/
  | tooManyDigits
deriving DecidableEq

/-- The wording of an error. -/
def WriteError.message : WriteError → String
  | .wideIndent => "cannot fit 'int' into an index-sized integer"
  | .tooManyDigits => Decimal.longMessage ""

/-- The first number that is too large for an index. -/
def indexBound : Int := 0x8000000000000000

/-- Whether the spaces that an indent setting asks for can be made: a number of them, which may be
below zero, must fit an index. -/
def indentFits : Json → Bool
  | .int n => decide (-indexBound ≤ n ∧ n < indexBound)
  | _ => true

/-- The text of a value, with the indentation that a setting asks for. The indentation is made
before anything is written. There is always enough memory for it, and a value may be nested to any
depth. -/
def encode (indent v : Json) : Except WriteError String :=
  if !indent.indentFits then .error .wideIndent
  else if v.holds isLong then .error .tooManyDigits
  else .ok (write (.ofIndent indent) v)

end BlockScan.Json
