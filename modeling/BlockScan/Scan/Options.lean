import BlockScan.Block.Basic
import BlockScan.Token.Basic

/-!
# From blocks to tokens

The options of a scan decide what becomes of the blocks of a document: whether comments are kept,
and what a function makes of every line of a heading or paragraph. That function may refuse a
line. The spans of the tokens do not depend on the options.
-/

set_option autoImplicit false

namespace BlockScan

/-- The options of a scan, for a line function with errors of type `ε`. -/
structure ScanOptions (ε : Type) where
  /-- Whether comments become tokens. -/
  keepComments : Bool := true
  /-- The function that is applied to every line of a heading or paragraph. -/
  transform : Option (String → Except ε String) := none

/-- Why a block becomes no token. -/
inductive ScanError (ε : Type) where
  /-- The line function refused a line. -/
  | refused (e : ε)
  /-- The block starts behind its end. -/
  | reversed (e : Reversed)
deriving DecidableEq

/-- Lines joined by line breaks. -/
def joinLines (lines : List String) : String :=
  String.ofList ([Charset.lineBreak].intercalate (lines.map String.toList))

/-- Applies a line function to lines in order. The first line that is refused decides, and the
cursor at its end is returned with the error. -/
def applyToLines {ε : Type} (f : String → Except ε String) :
    List Line → Except (ε × Cursor) (List String)
  | [] => .ok []
  | line :: rest =>
    match f (String.ofList line.text) with
    | .error e => .error (e, line.stop)
    | .ok text => (applyToLines f rest).map (text :: ·)

/-- Whether the lines of a kind of blocks are text, to which a line function is applied. -/
def BlockKind.isText : BlockKind → Bool
  | .heading | .paragraph => true
  | .comment | .marker => false

/-- The lines of the literal of a block. -/
def Block.literalLines {ε : Type} (options : ScanOptions ε) (b : Block) :
    Except (ε × Cursor) (List String) :=
  match options.transform with
  | some f =>
    if b.kind.isText then applyToLines f b.lines
    else .ok (b.lines.map fun line => String.ofList line.text)
  | none => .ok (b.lines.map fun line => String.ofList line.text)

/-- Without a transformer a line of a block is taken as it stands. -/
theorem Block.literalLines_of_transform_eq_none {ε : Type} {options : ScanOptions ε}
    (h : options.transform = none) (b : Block) :
    b.literalLines options = .ok (b.lines.map fun line => String.ofList line.text) := by
  rw [literalLines, h]

/-- The lines of a comment and of a mark are taken as they stand: a transformer is applied to blocks
of text alone. -/
theorem Block.literalLines_of_not_isText {ε : Type} (options : ScanOptions ε) {b : Block}
    (h : b.kind.isText = false) :
    b.literalLines options = .ok (b.lines.map fun line => String.ofList line.text) := by
  rw [literalLines, h]
  split <;> rfl

/-- The result of reading one block: where the cursor is left, and the token or the error. -/
structure BlockReading (ε : Type) where
  cursor : Cursor
  outcome : Except (ScanError ε) Token

/-- The token of a block in the text of a file. -/
def Block.read {ε : Type} (options : ScanOptions ε) (file : Option String) (b : Block) :
    BlockReading ε :=
  match b.literalLines options with
  | .error (e, c) => ⟨c, .error (.refused e)⟩
  | .ok lines =>
    match Span.between (.ofCursor file b.start) (.ofCursor file b.stop) with
    | .error e => ⟨b.after, .error (.reversed e)⟩
    | .ok span => ⟨b.after, .ok ⟨b.kind.tokenKind, joinLines lines, span⟩⟩

/-- A block none of whose lines is refused and whose end does not lie before its start becomes a
token. -/
theorem Block.read_of_ordered {ε : Type} {options : ScanOptions ε} {b : Block}
    {lines : List String} (hl : b.literalLines options = .ok lines) (file : Option String)
    (h : b.start.offset ≤ b.stop.offset) :
    b.read options file = ⟨b.after, .ok ⟨b.kind.tokenKind, joinLines lines,
      ⟨.ofCursor file b.start, .ofCursor file b.stop, h⟩⟩⟩ := by
  rw [read, hl, Span.between_ofCursor file h]

end BlockScan
