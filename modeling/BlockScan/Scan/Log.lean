import BlockScan.Token.Basic

/-!
# The log of a scan

A scan notes its beginning, every mark of a block keyword, and its end. The notes are debugging
notes: they are shown at the level for debugging only.
-/

set_option autoImplicit false

namespace BlockScan

/-- The levels of a log. -/
inductive LogLevel where
  | debug
  | info
  | warning
deriving DecidableEq

/-- Something that a scan notes. -/
inductive LogRecord where
  /-- A scan of a text with this many characters begins. -/
  | started (file : Option String) (size : Nat)
  /-- The mark of a block keyword. -/
  | reserved (span : Span) (keyword : TokenKind)
  /-- A mark with a word that is no block keyword. -/
  | unrecognized (span : Span) (word : String)
  /-- A scan has ended with this many tokens. -/
  | finished (file : Option String) (count : Nat)
deriving DecidableEq

/-- The version of the library. -/
def version : String := "0.1.0"

/-- The full name of a logger: all names lie below one root. -/
def loggerName (name : String) : String :=
  if name = "policyscript" ∨ "policyscript.".toList.isPrefixOf name.toList then name
  else "policyscript." ++ name

namespace LogRecord

/-- The name of the logger of a note. -/
def logger : LogRecord → String
  | .started .. | .finished .. => loggerName "scanner.core"
  | .reserved .. | .unrecognized .. => loggerName "scanner.readers.marker"

/-- The wording of a note. -/
def message : LogRecord → String
  | .started file size =>
    "scanning " ++ sourceLabel file ++ " (" ++ Decimal.ofNat size ++ " chars)"
  | .reserved span keyword =>
    span.describe ++ ": block keyword " ++ keyword.spelling ++
      " is reserved and not supported yet"
  | .unrecognized span word =>
    span.describe ++ ": unrecognized block marker " ++ Text.quoted word
  | .finished file count =>
    "scanned " ++ sourceLabel file ++ ": " ++ Decimal.ofNat count ++ " tokens"

/-- The note on a token: what the word at its start is, if it is the mark of a block keyword. -/
def onMarker (span : Span) (word : String) : LogRecord :=
  match TokenKind.ofBlockKeyword? word with
  | some keyword => .reserved span keyword
  | none => .unrecognized span word

end LogRecord

/-- The notes that are shown at a level. -/
def LogLevel.visible (level : LogLevel) (records : List LogRecord) : List LogRecord :=
  if level = .debug then records else []

end BlockScan
