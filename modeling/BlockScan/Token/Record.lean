import BlockScan.Json.Basic
import BlockScan.Json.Order
import BlockScan.Json.Reader
import BlockScan.Json.Writer
import BlockScan.Token.Basic

/-!
# Tokens as JSON

A list of tokens is stored as a JSON array of objects. What is read back is a list of records: the
kind of a record is known and its start does not lie after its end, but its literal and the parts
of its two points may be any JSON values, which are kept as they are.
-/

set_option autoImplicit false

namespace BlockScan

/-- A point of a text as it is stored. -/
structure PointRecord where
  line : Json
  column : Json
  offset : Json
  file : Json

/-- A token as it is stored. -/
structure TokenRecord where
  kind : TokenKind
  literal : Json
  start : PointRecord
  stop : PointRecord

/-- Why a text holds no stored tokens. -/
inductive DecodeError where
  /-- The text is no JSON. -/
  | malformed (e : Json.ReadError)
  /-- The value is no array. -/
  | notArray (kind : Json.Kind)
  /-- A field is asked of a value that has no fields. -/
  | noFields (kind : Json.Kind)
  /-- A field is missing. -/
  | missing (field : String)
  /-- The kind is an array or an object, which cannot be a name. -/
  | noName (kind : Json.Kind)
  /-- No kind of tokens has this name. -/
  | unknownKind (name : Json)
  /-- The offsets of the two points are not ordered. -/
  | unordered (e : Json.Unordered)
  /-- The start lies after the end. -/
  | reversed (start stop : PointRecord)

/-- Why a record cannot be shown. -/
inductive DisplayError where
  /-- The literal has no length. -/
  | noLength (kind : Json.Kind)
  /-- The literal is an array that is too long to be shown. -/
  | longArray
  /-- The literal is an object that is too long to be shown. -/
  | longObject
deriving DecidableEq

namespace PointRecord

/-- The line and the column. -/
def place (p : PointRecord) : String := p.line.shown ++ ":" ++ p.column.shown

/-- The line and the column, behind the file name if there is one to show. -/
def describe (p : PointRecord) : String :=
  if p.file.truthy then p.file.shown ++ ":" ++ p.place else p.place

/-- The record of a position. -/
def ofPosition (p : Position) : PointRecord :=
  ⟨.int p.line, .int p.column, .int p.offset, Json.ofText? p.file⟩

/-- The position of a record whose parts are three integers and a text or null. -/
def toPosition? (r : PointRecord) : Option Position :=
  match r with
  | ⟨.int line, .int column, .int offset, .null⟩ => some { line, column, offset, file := none }
  | ⟨.int line, .int column, .int offset, .string s⟩ =>
    some { line, column, offset, file := some s }
  | _ => none

/-- A record as a JSON object. -/
def toJson (p : PointRecord) : Json :=
  .object [("line", p.line), ("column", p.column), ("offset", p.offset), ("source_file", p.file)]

end PointRecord

namespace DecodeError

/-- The wording of an error. -/
def message : DecodeError → String
  | .malformed e => e.message
  | .notArray kind => "Expected a JSON array of tokens, got " ++ kind.name
  | .noFields .array => "list indices must be integers or slices, not str"
  | .noFields .string => "string indices must be integers, not 'str'"
  | .noFields kind => Text.quoted kind.name ++ " object is not subscriptable"
  | .missing field => "Missing field " ++ Text.quoted field ++ " in serialized token"
  | .noName kind => "unhashable type: " ++ Text.quoted kind.name
  | .unknownKind name => "Unknown token type: " ++ name.display
  | .unordered e =>
    "'>' not supported between instances of " ++ Text.quoted e.left.name ++ " and " ++
      Text.quoted e.right.name
  | .reversed start stop =>
    "Range start " ++ start.describe ++ " lies after end " ++ stop.describe

end DecodeError

/-- The wording of an error. -/
def DisplayError.message : DisplayError → String
  | .noLength kind => "object of type " ++ Text.quoted kind.name ++ " has no len()"
  | .longArray => "can only concatenate list (not \"str\") to list"
  | .longObject => "unhashable type: 'slice'"

/-- A field of a stored object. -/
def Json.require (name : String) (v : Json) : Except DecodeError Json :=
  match v with
  | .object fields =>
    match fields.lookup name with
    | some w => .ok w
    | none => .error (.missing name)
  | _ => .error (.noFields v.kind)

/-- Reads a point. The file may be missing. -/
def PointRecord.ofJson (v : Json) : Except DecodeError PointRecord := do
  let line ← v.require "line"
  let column ← v.require "column"
  let offset ← v.require "offset"
  return ⟨line, column, offset, (v.field? "source_file").getD .null⟩

/-- The kind of tokens that a value names. -/
def TokenKind.ofJson (v : Json) : Except DecodeError TokenKind :=
  match v with
  | .array _ | .object _ => .error (.noName v.kind)
  | .string name =>
    match TokenKind.ofName? name with
    | some kind => .ok kind
    | none => .error (.unknownKind v)
  | _ => .error (.unknownKind v)

namespace TokenRecord

/-- The record of a token. -/
def ofToken (t : Token) : TokenRecord :=
  ⟨t.kind, .string t.literal, .ofPosition t.span.start, .ofPosition t.span.stop⟩

/-- The token of a record whose literal is a text and whose points are positions in order. -/
def toToken? (r : TokenRecord) : Option Token :=
  match r.literal, r.start.toPosition?, r.stop.toPosition? with
  | .string literal, some start, some stop =>
    if h : start.offset ≤ stop.offset then some ⟨r.kind, literal, ⟨start, stop, h⟩⟩ else none
  | _, _, _ => none

/-- A record as a JSON object. -/
def toJson (r : TokenRecord) : Json :=
  .object [
    ("type", .string r.kind.name),
    ("literal", r.literal),
    ("range", .object [("start", r.start.toJson), ("end", r.stop.toJson)])]

/-- Reads a record. All fields are fetched first, then the kind is looked up, and at last the two
points are compared. -/
def ofJson (v : Json) : Except DecodeError TokenRecord := do
  let name ← v.require "type"
  let literal ← v.require "literal"
  let range ← v.require "range"
  let start ← PointRecord.ofJson (← range.require "start")
  let stop ← PointRecord.ofJson (← range.require "end")
  let kind ← TokenKind.ofJson name
  match start.offset.exceeds stop.offset with
  | .error e => .error (.unordered e)
  | .ok true => .error (.reversed start stop)
  | .ok false => .ok ⟨kind, literal, start, stop⟩

/-- Reads the records of an array; the first one with an error decides. -/
def ofItems : List Json → Except DecodeError (List TokenRecord)
  | [] => .ok []
  | v :: rest => do
    let r ← ofJson v
    let rs ← ofItems rest
    return r :: rs

/-- Reads the records of an array. -/
def ofArray : Json → Except DecodeError (List TokenRecord)
  | .array items => ofItems items
  | v => .error (.notArray v.kind)

/-- Reads the records stored in a text. -/
def decode (text : String) : Except DecodeError (List TokenRecord) := do
  ofArray (← (Json.read text).mapError .malformed)

/-- The text in which records are stored. -/
def encode (style : Json.Style) (records : List TokenRecord) : String :=
  Json.write style (.array (records.map toJson))

/-- Stores records in a text, with the indentation that a setting asks for, unless that cannot be
written. -/
def store (indent : Json) (records : List TokenRecord) : Except Json.WriteError String :=
  Json.encode indent (.array (records.map toJson))

/-- The lines and columns of both ends. -/
def extent (r : TokenRecord) : String := r.start.place ++ "-" ++ r.stop.place

/-- A literal as it is shown: in full, or the beginning of a long text. -/
def shortened : Json → Except DisplayError Json
  | .string s => .ok (.string (Token.shortened s))
  | .array items =>
    if items.length > Token.shownLength then .error .longArray else .ok (.array items)
  | .object fields =>
    if fields.length > Token.shownLength then .error .longObject else .ok (.object fields)
  | v => .error (.noLength v.kind)

/-- The record on one line. -/
def display (r : TokenRecord) : Except DisplayError String := do
  let literal ← shortened r.literal
  return "Token(" ++ r.kind.name ++ ", " ++ literal.display ++ ", " ++ r.extent ++ ")"

/-- Both ends of a record. -/
def describeSpan (r : TokenRecord) : String := r.start.describe ++ "-" ++ r.stop.describe

end TokenRecord

/-- Stores tokens in a text, with the indentation that a setting asks for. -/
def Token.encode (indent : Json) (tokens : List Token) : Except Json.WriteError String :=
  TokenRecord.store indent (tokens.map TokenRecord.ofToken)

/-- Whether tokens are read back unchanged from a text. -/
def Token.readBack (tokens : List Token) (text : String) : Except DecodeError Bool := do
  let records ← TokenRecord.decode text
  return records.mapM TokenRecord.toToken? == some tokens

end BlockScan
