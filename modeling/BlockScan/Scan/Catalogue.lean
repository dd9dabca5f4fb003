import BlockScan.Scan.Config

/-!
# A catalogue of line functions

A small catalogue of functions on lines, each with the specification by which it is asked for. One
of them refuses some lines, and a value that is no function refuses every line.
-/

set_option autoImplicit false

namespace BlockScan

/-- Why a line is refused. -/
inductive LineError where
  /-- The line has an exclamation mark. -/
  | bang (line : String)
  /-- There is no function to apply, but a value of this kind. -/
  | noFunction (kind : Json.Kind)
deriving DecidableEq

/-- The wording of an error. -/
def LineError.message : LineError → String
  | .bang line => "rejected: " ++ line
  | .noFunction kind => Text.quoted kind.name ++ " object is not callable"

namespace LineFunction

/-- A function on the characters of a line, none of which it refuses. -/
def ofChars (label : String) (f : List Char → List Char) : LineFunction LineError :=
  ⟨.string label, fun line => .ok (String.ofList (f line.toList))⟩

/-- The small letters of ASCII become capital letters. -/
def upper : LineFunction LineError := .ofChars "upper" (List.map Char.toUpper)

/-- The line is put into square brackets. -/
def bracket : LineFunction LineError := .ofChars "bracket" fun cs => '[' :: cs ++ [']']

/-- The characters are put into reverse order. -/
def reverse : LineFunction LineError := .ofChars "reverse" List.reverse

/-- The line becomes the number of its characters. -/
def length : LineFunction LineError := .ofChars "length" fun cs => Decimal.digits cs.length

/-- The line becomes empty. -/
def drop : LineFunction LineError := .ofChars "drop" fun _ => []

/-- Every space becomes a line break. -/
def split : LineFunction LineError :=
  .ofChars "split" (List.map fun c => if c = ' ' then Charset.lineBreak else c)

/-- A line with an exclamation mark is refused, any other one is left as it is. -/
def refuseBang : LineFunction LineError :=
  ⟨.string "fail_on_bang", fun line =>
    if line.toList.contains '!' then .error (.bang line) else .ok line⟩

/-- Every occurrence of the first text becomes the second one. -/
def replace (old new : String) : LineFunction LineError :=
  ⟨.object [("replace", .array [.string old, .string new])], fun line =>
    .ok (String.ofList (Text.replaceAll old.toList new.toList line.toList))⟩

/-- A value that is no function; it is found out when it is applied. -/
def value (v : Json) : LineFunction LineError :=
  ⟨.object [("raw", v)], fun _ => .error (.noFunction v.kind)⟩

/-- The function that a specification asks for, none for null. -/
def ofJson? : Json → Option (LineFunction LineError)
  | .null => none
  | .string "upper" => some upper
  | .string "bracket" => some bracket
  | .string "reverse" => some reverse
  | .string "length" => some length
  | .string "drop" => some drop
  | .string "split" => some split
  | .string "fail_on_bang" => some refuseBang
  | .object [("replace", .array [.string old, .string new])] => some (replace old new)
  | .object [("raw", .null)] => none
  | .object [("raw", v)] => some (value v)
  | v => some (value v)

end LineFunction

/-- Reads a configuration with a line function from the catalogue. -/
def ScanConfig.ofCatalogue (v : Json) : Except ConfigError (ScanConfig LineError) :=
  ofJson LineFunction.ofJson? v

end BlockScan
