import BlockScan.Decimal.Whole

/-!
# Faults in JSON text

A reader that meets a fault keeps what is left of the text there; the place of the fault is
worked out from the length of the rest.
-/

set_option autoImplicit false

namespace BlockScan.Json

/-- What is wrong with a text that is no JSON. -/
inductive Cause where
  /-- The text starts with a byte order mark. -/
  | byteOrderMark
  /-- No value starts here. -/
  | noValue
  /-- Something follows the complete value. -/
  | extraData
  /-- No field name starts here. -/
  | noName
  /-- No colon follows the field name. -/
  | noColon
  /-- Neither a comma nor the closing bracket follows an item. -/
  | noComma
  /-- The string that starts here has no end. -/
  | unterminated
  /-- A string holds a control character. -/
  | controlCharacter
  /-- No escape is written like this. -/
  | badEscape
  /-- The four hexadecimal digits of an escape are missing or wrong. -/
  | badUnitEscape
  /-- An integer has this many digits, more than it may have. -/
  | tooManyDigits (count : Nat)
deriving DecidableEq

/-- The wording of a cause. -/
def Cause.message : Cause → String
  | .byteOrderMark => "Unexpected UTF-8 BOM (decode using utf-8-sig)"
  | .noValue => "Expecting value"
  | .extraData => "Extra data"
  | .noName => "Expecting property name enclosed in double quotes"
  | .noColon => "Expecting ':' delimiter"
  | .noComma => "Expecting ',' delimiter"
  | .unterminated => "Unterminated string starting at"
  | .controlCharacter => "Invalid control character at"
  | .badEscape => "Invalid \\escape"
  | .badUnitEscape => "Invalid \\uXXXX escape"
  | .tooManyDigits count =>
    Decimal.longMessage (": value has " ++ Decimal.ofNat count ++ " digits")

/-- A fault met while reading. -/
structure Fault where
  cause : Cause
  /-- The text from the place of the fault on. -/
  rest : List Char
deriving DecidableEq

/-- A fault with its place in the whole text. -/
structure ReadError where
  cause : Cause
  /-- How many characters stand before the fault. -/
  offset : Nat
  /-- One more than the number of line breaks before the fault. -/
  line : Nat
  /-- One more than the number of characters between the start of the line and the fault. -/
  column : Nat
deriving DecidableEq

/-- The place of a fault in a text. -/
def Fault.locate (fault : Fault) (text : List Char) : ReadError :=
  let offset := text.length - fault.rest.length
  let before := text.take offset
  { cause := fault.cause
    offset
    line := before.count '\n' + 1
    column := (before.reverse.takeWhile (· != '\n')).length + 1 }

/-- The line, the column and the offset of an error. -/
def ReadError.place (e : ReadError) : String :=
  "line " ++ Decimal.ofNat e.line ++ " column " ++ Decimal.ofNat e.column ++
    " (char " ++ Decimal.ofNat e.offset ++ ")"

/-- The wording of an error, with its place unless it is about the digits of an integer. -/
def ReadError.message (e : ReadError) : String :=
  match e.cause with
  | .tooManyDigits count => Cause.message (.tooManyDigits count)
  | cause => cause.message ++ ": " ++ e.place

end BlockScan.Json
