import BlockScan.Proofs.Outline.LineEnds
import BlockScan.Proofs.Scan.Plain

/-!
# Both ways to end a line scan alike

Whether the lines of a text end in a line break alone or in a carriage return and a line break
makes no difference to a plain scan, but for the carriage returns in literals and for offsets. The
main statement is `scanPlain_withReturns`.
-/

set_option autoImplicit false

namespace BlockScan

open Charset

/-- Two tokens of one kind that take up the same lines of two texts, and whose literals differ at
most in carriage returns. -/
structure Token.Alike (t t' : Token) : Prop where
  kind_eq : t.kind = t'.kind
  start_line : t.span.start.line = t'.span.start.line
  stop_line : t.span.stop.line = t'.span.stop.line
  literal_eq : withoutReturns t.literal.toList = withoutReturns t'.literal.toList

/-- Two such tokens that start in the same column. -/
structure Token.AlikeInPlace (t t' : Token) : Prop extends t.Alike t' where
  start_column : t.span.start.column = t'.span.start.column

/-- Carriage returns are dropped on both sides of a cut. -/
theorem withoutReturns_append (xs ys : List Char) :
    withoutReturns (xs ++ ys) = withoutReturns xs ++ withoutReturns ys := List.filter_append xs ys

/-- Dropping carriage returns keeps the line breaks, so it can be done line by line. -/
theorem withoutReturns_tailText (lines : List (List Char)) :
    withoutReturns (tailText lines) = tailText (lines.map withoutReturns) := by
  induction lines with
  | nil => rfl
  | cons line lines ih =>
    have hbreak : withoutReturns [lineBreak] = [lineBreak] := by decide
    rw [tailText_cons, List.map_cons, tailText_cons, ← List.singleton_append,
      withoutReturns_append, withoutReturns_append, ih, hbreak]
    rfl

/-- Taking the carriage returns out of lines takes them out of the text that the lines make up. -/
theorem withoutReturns_intercalate (lines : List (List Char)) :
    withoutReturns ([lineBreak].intercalate lines) =
      [lineBreak].intercalate (lines.map withoutReturns) := by
  cases lines with
  | nil => rfl
  | cons line lines =>
    rw [intercalate_lineBreak_cons, List.map_cons, intercalate_lineBreak_cons,
      withoutReturns_append, withoutReturns_tailText]

section Tokens

variable (file : Option String)

/-- Passages that agree become tokens that are alike and start in the same column. -/
theorem alikeInPlace_toToken {p p' : Passage} (h : p.Agrees p') :
    (p.toToken file).AlikeInPlace (p'.toToken file) where
  kind_eq := congrArg BlockKind.tokenKind h.kind_eq
  start_line := h.start.line_eq
  stop_line := h.stop_line
  literal_eq := by
    rw [toList_literal_toToken, toList_literal_toToken, withoutReturns_intercalate,
      withoutReturns_intercalate, h.lines_eq]
  start_column := h.start.column_eq

/-- Empty titles in the same line become tokens that are alike, though their columns may differ. -/
theorem alike_toToken_empty {c c' : Cursor} (h : c.line = c'.line) :
    ((Passage.empty .heading c).toToken file).Alike ((Passage.empty .heading c').toToken file) :=
  ⟨rfl, h, h, rfl⟩

/-- Both texts end in the same line and column. -/
theorem alikeInPlace_endOfText (text : List Char) :
    (endOfText file text).AlikeInPlace (endOfText file (withReturns text)) := by
  have hstart : Cursor.origin.Level .origin := ⟨rfl, rfl⟩
  have hend := level_walk_withReturns hstart text
  exact ⟨⟨rfl, hend.line_eq, hend.line_eq, rfl⟩, hend.column_eq⟩

end Tokens

/-- With a carriage return in front of every line break, a plain scan brings the same tokens in the
same lines, but for carriage returns in their literals. They start in the same columns as well,
unless the title is empty, which may start in another one. -/
theorem scanPlain_withReturns (file : Option String) (text : String) :
    ∃ title rest title' rest', scanPlain file text = .ok (title :: rest) ∧
      scanPlain file (String.ofList (withReturns text.toList)) = .ok (title' :: rest') ∧
      title.Alike title' ∧
      (title.span.start.column = title'.span.start.column ∨
        title.kind = .heading ∧ title.literal = "") ∧
      List.Forall₂ Token.AlikeInPlace rest rest' := by
  obtain ⟨title, rest, title', rest', ho, ho', hrest, htitle⟩ := agrees_outline text.toList
  have htokens : List.Forall₂ Token.AlikeInPlace
      (rest.map (Passage.toToken file) ++ [endOfText file text.toList])
      (rest'.map (Passage.toToken file) ++ [endOfText file (withReturns text.toList)]) := by
    apply List.rel_append
    · rw [List.forall₂_map_left_iff, List.forall₂_map_right_iff]
      exact hrest.imp fun p p' h => alikeInPlace_toToken file h
    · exact .cons (alikeInPlace_endOfText file text.toList) .nil
  refine ⟨title.toToken file, _, title'.toToken file, _, ?_, ?_, ?_, ?_, htokens⟩
  · rw [scanPlain_eq, plainTokens, ho]
    rfl
  · rw [scanPlain_eq, String.toList_ofList, plainTokens, ho']
    rfl
  · rcases htitle with h | ⟨c, c', hline, rfl, rfl⟩
    · exact (alikeInPlace_toToken file h).toAlike
    · exact alike_toToken_empty file hline
  · rcases htitle with h | ⟨c, c', hline, rfl, rfl⟩
    · exact .inl h.start.column_eq
    · exact .inr ⟨rfl, rfl⟩

end BlockScan
