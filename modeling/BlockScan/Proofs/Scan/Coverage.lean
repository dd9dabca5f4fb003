import BlockScan.Proofs.Outline.Tiling
import BlockScan.Proofs.Scan.Plain

/-!
# The tokens of a plain scan hold the whole text

Nothing of a text is lost in a plain scan, and nothing comes up twice. A character that is neither
a blank nor a line break lies in the span of exactly one token, and the literal of every token can
be had from the part of the text in its span: for a comment by taking the mark off every line, and
for any other token as it is. The main statement is `scanPlain_covers_text`.
-/

set_option autoImplicit false

namespace BlockScan

open Charset

namespace Token

/-- Whether an offset lies in the span of a token, the end of it left out. -/
def covers (offset : Int) (t : Token) : Bool :=
  decide (t.span.start.offset ≤ offset ∧ offset < t.span.stop.offset)

/-- The part of a text in the span of a token. -/
def part (s : Source) (t : Token) : List Char := s.slice t.span.start.offset t.span.stop.offset

/-- The literal of a token is the part of the text in its span; in a comment, without the blanks
and the one mark ahead of every line. -/
def Recovers (s : Source) (t : Token) : Prop :=
  if t.kind = .comment then
    (unmarkLines? (t.part s)).map [lineBreak].intercalate = some t.literal.toList
  else t.part s = t.literal.toList

end Token

/-- The part of a text between two offsets is what stands between them. -/
theorem Source.slice_of_text_eq {s : Source} {before body rest : List Char}
    (h : s.text = before ++ (body ++ rest)) :
    s.slice before.length (before.length + body.length : Nat) = body := by
  have hsize : s.size = before.length + (body.length + rest.length) := by
    rw [s.size_eq, h, List.length_append, List.length_append]
  rw [slice, s.indexOf_natCast (by omega), s.indexOf_natCast (by omega), drop_eq, h,
    List.drop_left, Nat.add_sub_cancel_left, List.take_left]

section Passages

variable {p : Passage} {s : Source}

/-- Comments, and nothing else, become comment tokens. -/
theorem kind_toToken_eq_comment_iff (file : Option String) :
    (p.toToken file).kind = .comment ↔ p.kind = .comment := by
  show p.kind.tokenKind = .comment ↔ _
  cases p.kind <;> decide

/-- The literal of the token of a passage is recovered from the text in its span. -/
theorem recovers_toToken (file : Option String) (h : p ∈ outline s.text) :
    (p.toToken file).Recovers s := by
  obtain ⟨before, body, rest, ht, hstart, hstop, hp⟩ := (tiles_outline s.text).exists_body h
  have hpart : (p.toToken file).part s = body := by
    have h1 : p.start.offset = before.length := by rw [hstart, walk_origin]
    have h2 : p.stop.offset = (before.length + body.length : Nat) := by
      rw [hstop, Cursor.offset_walk, h1]
      rfl
    have hslice := Source.slice_of_text_eq ht
    rw [← h1, ← h2] at hslice
    exact hslice
  have hkind := kind_toToken_eq_comment_iff (p := p) file
  by_cases hk : p.kind = .comment
  · rw [Passage.spells_iff_of_comment hk] at hp
    rw [Token.Recovers, if_pos (hkind.2 hk), hpart, hp, toList_literal_toToken, Option.map_some]
  · rw [Passage.spells_iff_of_ne_comment hk] at hp
    rw [Token.Recovers, if_neg (mt hkind.1 hk), hpart, hp, toList_literal_toToken]

end Passages

section Tokens

variable (file : Option String) (text : List Char)

/-- As many tokens cover an offset as passages do: the token at the end covers none. -/
theorem countP_covers_plainTokens (i : Nat) :
    (plainTokens file text).countP (Token.covers i) = (outline text).countP (Passage.covers i) := by
  have hend : (endOfText file text).covers i = false := by
    rw [Token.covers, decide_eq_false_iff_not]
    simp only [endOfText, Token.point, Span.point]
    omega
  rw [plainTokens, List.countP_append, List.countP_map, List.countP_singleton, hend]
  rfl

/-- Every character that is no gap lies in the span of one token. -/
theorem countP_covers_eq_one {i : Nat} {char : Char} (hi : text[i]? = some char)
    (hg : isGap char = false) : (plainTokens file text).countP (Token.covers i) = 1 := by
  have horigin : Cursor.origin.offset = 0 := rfl
  have hcount := ((tiles_outline text).countP_covers hi).2 hg
  rw [horigin, Int.zero_add] at hcount
  rw [countP_covers_plainTokens, hcount]

/-- The token at the end spans no text and has no literal. -/
theorem recovers_endOfText (s : Source) : (endOfText file s.text).Recovers s := by
  have hk : ¬ (endOfText file s.text).kind = .comment := by
    show ¬ TokenKind.eof = .comment
    decide
  have hoffset : (Cursor.origin.walk s.text).offset = s.text.length := by rw [walk_origin]
  have htext : s.text = s.text ++ ([] ++ []) := by simp
  have hslice := Source.slice_of_text_eq htext
  rw [List.length_nil, Nat.add_zero, ← hoffset] at hslice
  rw [Token.Recovers, if_neg hk]
  exact hslice

end Tokens

/-- The tokens of a plain scan cover every character that is no gap exactly once, and their
literals are the parts of the text that they cover. -/
theorem scanPlain_covers_text (file : Option String) (text : String) :
    ∃ tokens, scanPlain file text = .ok tokens ∧
      (∀ (i : Nat) (char : Char), text.toList[i]? = some char → isGap char = false →
        tokens.countP (Token.covers i) = 1) ∧
      (∀ (i : Nat) (char : Char), text.toList[i]? = some char →
        (∀ t ∈ tokens, t.covers i = false) → isGap char = true) ∧
      ∀ t ∈ tokens, t.Recovers (.ofString text) := by
  refine ⟨plainTokens file text.toList, scanPlain_eq file text, ?_, ?_, ?_⟩
  · intro i char hi hg
    exact countP_covers_eq_one file text.toList hi hg
  · intro i char hi hnone
    cases hg : isGap char with
    | true => rfl
    | false =>
      have hpos : 0 < (plainTokens file text.toList).countP (Token.covers i) := by
        rw [countP_covers_eq_one file text.toList hi hg]
        exact Nat.one_pos
      obtain ⟨t, ht, hcovers⟩ := List.countP_pos_iff.1 hpos
      rw [hnone t ht] at hcovers
      exact absurd hcovers Bool.false_ne_true
  · intro t ht
    rw [plainTokens, List.mem_append, List.mem_map, List.mem_singleton] at ht
    rcases ht with ⟨p, hp, rfl⟩ | rfl
    · exact recovers_toToken file hp
    · exact recovers_endOfText file (.ofString text)

end BlockScan
