import BlockScan.Scan.Config
import BlockScan.Scan.Stream
import BlockScan.Text.Utf8

/-!
# What may be scanned

A scan takes a text, or bytes that are the UTF-8 encoding of one. Bytes that encode no text are
refused before anything is scanned, with the line and column at which the bad sequence would
stand.
-/

set_option autoImplicit false

namespace BlockScan

/-- What is given to a scan. -/
inductive ScanInput where
  | text (s : String)
  | bytes (data : List UInt8)
  /-- Something else, a value of this kind. -/
  | other (kind : Json.Kind)

/-- Bytes that are no text, with the place of the bad sequence. -/
structure SourceDecodeError where
  /-- What is wrong. -/
  text : String
  byteOffset : Int
  line : Int
  column : Int
  file : Option String
deriving DecidableEq

/-- The wording of an error, behind its place. -/
def SourceDecodeError.message (e : SourceDecodeError) : String :=
  let place : Position := ⟨⟨e.line, e.column, e.byteOffset⟩, e.file⟩
  place.describe ++ ": " ++ e.text

/-- The error for a fault in the bytes of a file. The line breaks in the text before the fault give
the line, and what follows the last one of them the column. -/
def SourceDecodeError.ofFault (file : Option String) (fault : Utf8.Fault) : SourceDecodeError :=
  { text := "invalid UTF-8 at byte " ++ Decimal.ofNat fault.offset ++ ": " ++ fault.reason.message
    byteOffset := fault.offset
    line := fault.before.count Charset.lineBreak + 1
    column := fault.before.length - lineStart fault.before
    file }

/-- Why a scan brings no tokens, when the line function has errors of type `ε`. -/
inductive ScanFailure (ε : Type) where
  /-- The bytes are no text. -/
  | undecodable (e : SourceDecodeError)
  /-- Neither text nor bytes were given. -/
  | noText (kind : Json.Kind)
  /-- The scan itself failed. -/
  | scan (e : ScanError ε)
deriving DecidableEq

/-- The wording of an error, given the wording of the errors of the line function. -/
def ScanFailure.message {ε : Type} (wording : ε → String) : ScanFailure ε → String
  | .undecodable e => e.message
  | .noText kind => "scan() expects str or bytes, got " ++ kind.name
  | .scan (.refused e) => wording e
  | .scan (.reversed e) => e.message

/-- The text that is to be scanned. -/
def ScanInput.load (ε : Type) (file : Option String) :
    ScanInput → Except (ScanFailure ε) (List Char)
  | .text s => .ok s.toList
  | .bytes data =>
    (Utf8.decode data).mapError fun fault => .undecodable (.ofFault file fault)
  | .other kind => .error (.noText kind)

/-- The scanner of a text under a configuration. -/
def ScanConfig.scanner {ε : Type} (c : ScanConfig ε) (file : Option String) (text : List Char) :
    Scanner ε :=
  ⟨.ofList text, file, c.options⟩

end BlockScan
