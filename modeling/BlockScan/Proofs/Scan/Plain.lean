import BlockScan.Proofs.Outline.Blocks
import BlockScan.Proofs.Scan.Run

/-!
# The tokens of the outline

A passage becomes a token whose literal is its lines joined by line breaks (`Passage.toToken`). The
line function of a scan is applied to the lines of headings and paragraphs only: the first line
that it refuses decides (`Describes.read_of_refused`), and otherwise the token differs from that
of the passage in its literal alone (`Describes.read_of_accepted`). A plain scan brings the tokens
of the outline and then the end of the text (`scanPlain_eq`).
-/

set_option autoImplicit false

namespace BlockScan

variable {ε : Type}

/-- The lines of a passage as texts. -/
def Passage.texts (p : Passage) : List String := p.lines.map String.ofList

/-- The token of a passage in the text of a file. -/
def Passage.toToken (file : Option String) (p : Passage) : Token :=
  ⟨p.kind.tokenKind, joinLines p.texts, ⟨.ofCursor file p.start, .ofCursor file p.stop, p.ordered⟩⟩

/-- The token of the end of a text. -/
def endOfText (file : Option String) (text : List Char) : Token :=
  .point .eof "" (.ofCursor file (Cursor.origin.walk text))

/-- The tokens of the passages of a text, and the end of the text. -/
def plainTokens (file : Option String) (text : List Char) : List Token :=
  (outline text).map (Passage.toToken file) ++ [endOfText file text]

/-- Joined lines are the lines with line breaks in between. -/
theorem toList_joinLines (lines : List (List Char)) :
    (joinLines (lines.map String.ofList)).toList = [Charset.lineBreak].intercalate lines := by
  have hid : String.toList ∘ String.ofList = id := by
    funext line
    exact String.toList_ofList
  rw [joinLines, String.toList_ofList, List.map_map, hid, List.map_id]

/-- The literal of the token of a passage is its lines with line breaks in between. -/
theorem toList_literal_toToken (file : Option String) (p : Passage) :
    (p.toToken file).literal.toList = [Charset.lineBreak].intercalate p.lines :=
  toList_joinLines p.lines

/-! ## What options do to lines -/

namespace ScanOptions

variable (options : ScanOptions ε)

/-- The line function, which is the identity when none was given. -/
def line : String → Except ε String := options.transform.getD .ok

/-- The error with which a line is refused, if it is. -/
def refusal? (line : String) : Option ε :=
  match options.line line with
  | .error e => some e
  | .ok _ => none

/-- What becomes of a line that is not refused. -/
def replaced (line : String) : String :=
  match options.line line with
  | .error _ => line
  | .ok text => text

variable {options}

/-- Without a line function no line is refused. -/
theorem findSome?_refusal?_of_transform_eq_none (h : options.transform = none)
    (lines : List String) : lines.findSome? options.refusal? = none := by
  rw [List.findSome?_eq_none_iff]
  intro text _
  rw [refusal?, line, h]
  rfl

/-- Without a line function every line is kept. -/
theorem replaced_of_transform_eq_none (h : options.transform = none) : options.replaced = id := by
  funext text
  rw [replaced, line, h]
  rfl

end ScanOptions

section Lines

variable {options : ScanOptions ε} {f : String → Except ε String}

/-- The first line that is refused decides. -/
theorem applyToLines_of_refused (hf : options.transform = some f) {e : ε} {lines : List Line}
    (h : (lines.map fun l => String.ofList l.text).findSome? options.refusal? = some e) :
    ∃ c, applyToLines f lines = .error (e, c) := by
  have hline : options.line = f := by rw [ScanOptions.line, hf, Option.getD_some]
  induction lines with
  | nil => simp at h
  | cons l lines ih =>
    rw [List.map_cons, List.findSome?_cons, ScanOptions.refusal?, hline] at h
    rw [applyToLines]
    cases hl : f (String.ofList l.text) with
    | error e' =>
      rw [hl, Option.some.injEq] at h
      exact ⟨l.stop, by rw [h]⟩
    | ok text =>
      rw [hl] at h
      obtain ⟨c, hc⟩ := ih h
      exact ⟨c, by rw [hc]; rfl⟩

/-- When no line is refused, a line function brings the replaced lines. -/
theorem applyToLines_of_accepted (hf : options.transform = some f) {lines : List Line}
    (h : (lines.map fun l => String.ofList l.text).findSome? options.refusal? = none) :
    applyToLines f lines =
      .ok ((lines.map fun l => String.ofList l.text).map options.replaced) := by
  have hline : options.line = f := by rw [ScanOptions.line, hf, Option.getD_some]
  induction lines with
  | nil => rfl
  | cons l lines ih =>
    rw [List.map_cons, List.findSome?_cons, ScanOptions.refusal?, hline] at h
    rw [applyToLines, List.map_cons, List.map_cons, ScanOptions.replaced, hline]
    cases hl : f (String.ofList l.text) with
    | error e => simp [hl] at h
    | ok text =>
      rw [hl] at h
      rw [ih h]
      rfl

end Lines

/-! ## Blocks that a passage describes -/

namespace Passage.Describes

variable {p : Passage} {b : Block} {options : ScanOptions ε} {file : Option String}

/-- The lines of a passage are the lines of the block that it describes. -/
theorem texts_eq (h : p.Describes b) : p.texts = b.lines.map fun l => String.ofList l.text := by
  rw [texts, h.lines_eq, List.map_map]
  rfl

/-- A heading or paragraph with a refused line becomes no token. -/
theorem read_of_refused (h : p.Describes b) (ht : p.kind.isText = true) {e : ε}
    (he : p.texts.findSome? options.refusal? = some e) :
    (b.read options file).outcome = .error (.refused e) := by
  rw [h.texts_eq] at he
  rw [h.kind_eq] at ht
  cases hf : options.transform with
  | none => simp [ScanOptions.findSome?_refusal?_of_transform_eq_none hf] at he
  | some f =>
    obtain ⟨c, hc⟩ := applyToLines_of_refused hf he
    rw [Block.read, Block.literalLines, hf]
    simp only [ht, if_true, hc]

/-- A block whose lines are not refused becomes the token of its passage, up to what was made of the
lines of text. -/
theorem read_of_accepted (h : p.Describes b)
    (ha : p.kind.isText = true → p.texts.findSome? options.refusal? = none) :
    (b.read options file).outcome = .ok { p.toToken file with
      literal := joinLines (if p.kind.isText then p.texts.map options.replaced else p.texts) } := by
  have hlines : b.literalLines options =
      .ok (if p.kind.isText then p.texts.map options.replaced else p.texts) := by
    rw [Block.literalLines, h.texts_eq, h.kind_eq]
    rw [h.texts_eq, h.kind_eq] at ha
    cases hf : options.transform with
    | none => simp only [ScanOptions.replaced_of_transform_eq_none hf, List.map_id, ite_self]
    | some f =>
      cases ht : b.kind.isText with
      | false => simp only [Bool.false_eq_true, if_false]
      | true => simp only [if_true, applyToLines_of_accepted hf (ha ht)]
  have hspan : Span.between (.ofCursor file b.start) (.ofCursor file b.stop) =
      .ok (p.toToken file).span := by
    rw [Span.between, ← h.start_eq, ← h.stop_eq]
    exact dif_pos p.ordered
  rw [Block.read, hlines, hspan, ← h.kind_eq]
  rfl

end Passage.Describes

/-! ## The plain scan -/

/-- Without a line function, and with comments kept, every block becomes the token of its
passage. -/
theorem readBlocks_plain {s : Scanner ε} (hf : s.options.transform = none)
    (hk : s.options.keepComments = true) {passages : List Passage} {blocks : List Block}
    (h : List.Forall₂ Passage.Describes passages blocks) :
    s.readBlocks blocks = .ok (passages.map (Passage.toToken s.file)) := by
  induction h with
  | nil => rfl
  | @cons p b passages blocks hp h ih =>
    have hnone := ScanOptions.findSome?_refusal?_of_transform_eq_none hf p.texts
    have hread : (b.read s.options s.file).outcome = .ok (p.toToken s.file) := by
      rw [hp.read_of_accepted (fun _ => hnone), ScanOptions.replaced_of_transform_eq_none hf,
        List.map_id, ite_self]
      rfl
    rw [Scanner.readBlocks, ih, hread]
    simp [hk, Except.map]

/-- A plain scan brings the tokens of the outline and the end of the text. -/
theorem scanPlain_eq (file : Option String) (text : String) :
    scanPlain file text = .ok (plainTokens file text.toList) := by
  have hblocks := outline_describes_blocks (.ofString text)
  rw [scanPlain, Scanner.tokens_eq_readBlocks, readBlocks_plain rfl rfl hblocks]
  rfl

end BlockScan
