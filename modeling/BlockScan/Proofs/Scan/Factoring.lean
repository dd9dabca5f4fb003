import BlockScan.Proofs.Outline.Invariant
import BlockScan.Proofs.Scan.Plain

/-!
# Options act on the plain scan

The options of a scan have no influence on where blocks begin and end. What they do can be told
from the tokens of the plain scan alone (`ScanOptions.rework`): the first line of text that the
line function refuses makes the scan fail, and otherwise each literal of text is replaced line by
line and the comments are left out unless they are kept. In particular a line that the function
returns is not read again.
-/

set_option autoImplicit false

namespace BlockScan

open Charset

variable {ε : Type}

namespace Token

/-- Whether a token is a heading or a paragraph that is not empty. -/
def hasText (t : Token) : Bool :=
  decide ((t.kind = .heading ∨ t.kind = .paragraph) ∧ t.literal ≠ "")

/-- The lines of the literal. -/
def lines (t : Token) : List String := (linesOf t.literal.toList).map String.ofList

/-- The lines to which a line function is applied. -/
def textLines (t : Token) : List String := if t.hasText then t.lines else []

end Token

namespace ScanOptions

variable (options : ScanOptions ε)

/-- A token after every line of its text was replaced. -/
def rewrite (t : Token) : Token :=
  if t.hasText then { t with literal := joinLines (t.lines.map options.replaced) } else t

/-- Whether a token is kept: all are but comments, which may be left out. -/
def keeps (t : Token) : Bool := options.keepComments || t.kind != .comment

/-- What the options make of the tokens of a plain scan. -/
def rework (plain : List Token) : Except (ScanError ε) (List Token) :=
  match (plain.flatMap Token.textLines).findSome? options.refusal? with
  | some e => .error (.refused e)
  | none => .ok ((plain.map options.rewrite).filter options.keeps)

/-- Rewriting a token leaves its kind as it is. -/
@[simp] theorem kind_rewrite (t : Token) : (options.rewrite t).kind = t.kind := by
  rw [rewrite]
  split <;> rfl

/-- Rewriting a token leaves its span as it is. -/
@[simp] theorem span_rewrite (t : Token) : (options.rewrite t).span = t.span := by
  rw [rewrite]
  split <;> rfl

variable {options}

/-- A token that is kept comes from one of the same kind in the same place. -/
theorem exists_of_mem_filter {plain : List Token} {t : Token}
    (h : t ∈ (plain.map options.rewrite).filter options.keeps) :
    ∃ u ∈ plain, t.kind = u.kind ∧ t.span = u.span := by
  obtain ⟨u, hu, rfl⟩ := List.mem_map.1 (List.mem_filter.1 h).1
  exact ⟨u, hu, options.kind_rewrite u, options.span_rewrite u⟩

/-- A line refused in the first token refuses the stream, whatever comes behind. -/
theorem rework_cons_of_refused {t : Token} {e : ε}
    (h : t.textLines.findSome? options.refusal? = some e) (rest : List Token) :
    options.rework (t :: rest) = .error (.refused e) := by
  rw [rework, List.flatMap_cons, List.findSome?_append, h]
  rfl

/-- A first token without a refused line is rewritten, and kept or dropped, before the others. -/
theorem rework_cons_of_accepted {t : Token} (h : t.textLines.findSome? options.refusal? = none)
    (rest : List Token) :
    options.rework (t :: rest) = (options.rework rest).map fun tokens =>
      if options.keeps t then options.rewrite t :: tokens else tokens := by
  have hk : options.keeps (options.rewrite t) = options.keeps t := by
    rw [keeps, kind_rewrite, keeps]
  rw [rework, rework, List.flatMap_cons, List.findSome?_append, h, Option.none_or, List.map_cons,
    List.filter_cons, hk]
  cases (rest.flatMap Token.textLines).findSome? options.refusal? <;> rfl

/-- The end of the text is not affected. -/
theorem rework_concat_endOfText (tokens : List Token) (file : Option String) (text : List Char) :
    options.rework (tokens ++ [endOfText file text]) =
      (options.rework tokens).map (· ++ [endOfText file text]) := by
  have hl : (endOfText file text).textLines = [] := rfl
  have hw : options.rewrite (endOfText file text) = endOfText file text := rfl
  have hk : options.keeps (endOfText file text) = true := Bool.or_true _
  rw [rework, rework, List.flatMap_append, List.flatMap_singleton, hl, List.append_nil,
    List.map_append, List.map_singleton, hw, List.filter_append]
  simp only [List.filter_cons_of_pos hk, List.filter_nil]
  cases (tokens.flatMap Token.textLines).findSome? options.refusal? <;> rfl

end ScanOptions

/-! ## Literals and their lines -/

/-- The blocks of text are those that become headings and paragraphs. -/
theorem BlockKind.isText_eq (kind : BlockKind) :
    kind.isText = decide (kind.tokenKind = .heading ∨ kind.tokenKind = .paragraph) := by
  cases kind <;> rfl

namespace Passage.Sound

variable {p : Passage} (file : Option String)

/-- The lines can be read off the literal when there are any. -/
theorem lines_toToken (h : p.Sound) (hne : p.lines ≠ []) : (p.toToken file).lines = p.texts := by
  have hlines : ∀ line ∈ p.lines, lineBreak ∉ line := by
    intro line hm
    exact lineBreak_not_mem (h.inLine line hm)
  rw [Token.lines, toList_literal_toToken, linesOf, List.splitOn_intercalate _ hlines hne, texts]

/-- The literal of a heading or paragraph is empty only when there are no lines. -/
theorem hasText_toToken (h : p.Sound) (ht : p.kind.isText = true) :
    (p.toToken file).hasText = !p.lines.isEmpty := by
  have hkind := ht
  rw [BlockKind.isText_eq, decide_eq_true_eq] at hkind
  cases hl : p.lines with
  | nil =>
    have hempty : (p.toToken file).literal = "" := by
      rw [toToken, texts, hl]
      rfl
    simp [Token.hasText, hempty]
  | cons line lines =>
    have hline := h.isText ht line (by rw [hl]; exact List.mem_cons_self ..)
    have hne : (p.toToken file).literal ≠ "" := by
      intro he
      have hnil := congrArg String.toList he
      rw [toToken, texts, toList_joinLines, hl] at hnil
      have : line = [] := by
        cases lines with
        | nil => simpa [List.intercalate] using hnil
        | cons => simp [List.intercalate, List.intersperse] at hnil
      subst this
      exact absurd hline (by decide)
    have hk : (p.toToken file).kind = p.kind.tokenKind := rfl
    simp only [Token.hasText, hk, hkind, hne, ne_eq, not_false_eq_true, and_self,
      decide_true, List.isEmpty_cons, Bool.not_false]

/-- A comment or a mark has no text that a line function is applied to. -/
theorem hasText_of_not_isText (ht : p.kind.isText = false) : (p.toToken file).hasText = false := by
  rw [BlockKind.isText_eq, decide_eq_false_iff_not] at ht
  have hk : (p.toToken file).kind = p.kind.tokenKind := rfl
  simp [Token.hasText, hk, ht]

/-- The lines that a line function is applied to are the lines of the passage. -/
theorem textLines_toToken (h : p.Sound) :
    (p.toToken file).textLines = if p.kind.isText then p.texts else [] := by
  cases ht : p.kind.isText with
  | false =>
    rw [Token.textLines, hasText_of_not_isText file ht]
    rfl
  | true =>
    rw [Token.textLines, h.hasText_toToken file ht, if_pos rfl]
    cases hl : p.lines with
    | nil =>
      rw [texts, hl]
      rfl
    | cons line lines =>
      rw [List.isEmpty_cons, Bool.not_false, if_pos rfl, h.lines_toToken file (by simp [hl])]

/-- Rewriting the token of a passage replaces the lines of the passage one by one. -/
theorem rewrite_toToken (h : p.Sound) (options : ScanOptions ε) :
    options.rewrite (p.toToken file) = { p.toToken file with
      literal := joinLines (if p.kind.isText then p.texts.map options.replaced else p.texts) } := by
  cases ht : p.kind.isText with
  | false =>
    rw [ScanOptions.rewrite, hasText_of_not_isText file ht]
    rfl
  | true =>
    rw [ScanOptions.rewrite, h.hasText_toToken file ht, if_pos rfl]
    cases hl : p.lines with
    | nil =>
      rw [texts, hl]
      simp only [toToken, texts, hl]
      rfl
    | cons line lines =>
      rw [List.isEmpty_cons, Bool.not_false, if_pos rfl, h.lines_toToken file (by simp [hl])]

end Passage.Sound

/-! ## The scan under options -/

/-- Reading the blocks under some options is reworking the tokens of a plain scan: induction on the
blocks, one refused line ending both. -/
theorem readBlocks_eq_rework (s : Scanner ε) {passages : List Passage} {blocks : List Block}
    (h : List.Forall₂ Passage.Describes passages blocks) (hs : ∀ p ∈ passages, p.Sound) :
    s.readBlocks blocks = s.options.rework (passages.map (Passage.toToken s.file)) := by
  induction h with
  | nil => rfl
  | @cons p b passages blocks hp h ih =>
    have hsound := hs p (List.mem_cons_self ..)
    have ih := ih fun q hq => hs q (List.mem_cons_of_mem _ hq)
    have hlines := hsound.textLines_toToken s.file
    rw [List.map_cons, Scanner.readBlocks, ih]
    cases he : (p.toToken s.file).textLines.findSome? s.options.refusal? with
    | some e =>
      rw [ScanOptions.rework_cons_of_refused he]
      rw [hlines] at he
      cases ht : p.kind.isText with
      | false => simp [ht] at he
      | true =>
        rw [ht, if_pos rfl] at he
        rw [hp.read_of_refused ht he]
    | none =>
      rw [ScanOptions.rework_cons_of_accepted he]
      have hnone : p.kind.isText = true → p.texts.findSome? s.options.refusal? = none := by
        intro ht
        rw [hlines, ht, if_pos rfl] at he
        exact he
      have hkeep : ((s.options.rewrite (p.toToken s.file)).kind = .comment ∧
          s.options.keepComments = false) ↔ ¬ s.options.keeps (p.toToken s.file) = true := by
        simp [ScanOptions.keeps, and_comm]
      rw [hp.read_of_accepted hnone, ← hsound.rewrite_toToken]
      simp only [hkeep, ite_not]

/-- The tokens of a scan are those of the plain scan as its options rework them. -/
theorem tokens_eq_rework (s : Scanner ε) :
    s.tokens = s.options.rework (plainTokens s.file s.source.text) := by
  rw [Scanner.tokens_eq_readBlocks,
    readBlocks_eq_rework s (outline_describes_blocks s.source) fun p => sound_of_mem_outline,
    plainTokens, ScanOptions.rework_concat_endOfText]
  rfl

/-- The result of a scan under any options is determined by the plain scan of the same text. -/
theorem tokens_factor_through_scanPlain (options : ScanOptions ε) (file : Option String)
    (text : String) : ∃ plain, scanPlain file text = .ok plain ∧
      Scanner.tokens ⟨.ofString text, file, options⟩ = options.rework plain :=
  ⟨plainTokens file text.toList, scanPlain_eq file text, tokens_eq_rework _⟩

end BlockScan
