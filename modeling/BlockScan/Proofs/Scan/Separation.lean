import BlockScan.Proofs.Outline.Separation
import BlockScan.Proofs.Scan.Coverage

/-!
# Tokens are as long as they can be

A paragraph, a heading with some text and a comment end at a line break, and unless a comment meets
something else, a blank line stands between them and the next token (`Token.SetApart`). Every token
but the title begins at a character that is no gap, and what stands there tells its kind
(`Token.Begins`). The main statement is `scanPlain_separates`.
-/

set_option autoImplicit false

namespace BlockScan

open Charset

namespace Token

/-- The part of a text between two tokens. -/
def between (s : Source) (t u : Token) : List Char := s.slice t.span.stop.offset u.span.start.offset

/-- A paragraph, or a heading that is not empty. -/
def HoldsText (t : Token) : Prop := t.kind = .paragraph ∨ t.kind = .heading ∧ t.literal ≠ ""

/-- What stands between two tokens that follow one another: at least a line break behind text or a
comment, which comes at once, and a blank line where otherwise one block would go on. -/
structure SetApart (s : Source) (t u : Token) : Prop where
  blankLine : t.HoldsText ∧ u.kind ≠ .comment ∨ t.kind = .comment ∧ u.kind = .comment →
    2 ≤ (t.between s u).count lineBreak
  lineEnd : t.HoldsText ∨ t.kind = .comment →
    1 ≤ (t.between s u).count lineBreak ∧
      s.text[t.span.stop.offset.toNat]? = some lineBreak

/-- What stands in a text where a token begins: a character that is no gap, and the marks of its
kind, where a paragraph has none. -/
structure Begins (s : Source) (t : Token) : Prop where
  visible : ∃ char, s.text[t.span.start.offset.toNat]? = some char ∧ isGap char = false
  heading_iff : t.kind = .heading ↔
    [headingMark, ' '] <+: s.text.drop t.span.start.offset.toNat
  comment_iff : t.kind = .comment ↔ [commentMark] <+: s.text.drop t.span.start.offset.toNat
  illegal_iff : t.kind = .illegal ↔ [keywordMark] <+: s.text.drop t.span.start.offset.toNat
  paragraph_iff : t.kind = .paragraph ↔
    ¬ [headingMark, ' '] <+: s.text.drop t.span.start.offset.toNat ∧
      ¬ [commentMark] <+: s.text.drop t.span.start.offset.toNat ∧
      ¬ [keywordMark] <+: s.text.drop t.span.start.offset.toNat

end Token

/-! ## The tokens of two passages -/

section Passages

variable {p q : Passage} (file : Option String)

/-- A token with text, or a comment, is no passage that may end anywhere in a line. -/
theorem not_loose_of_holdsText (h : (p.toToken file).HoldsText ∨ (p.toToken file).kind = .comment) :
    ¬ p.Loose := by
  rintro (hm | ⟨hk, hl⟩)
  · have hkind : (p.toToken file).kind = .illegal := congrArg BlockKind.tokenKind hm
    rw [Token.HoldsText, hkind] at h
    simp at h
  · have hkind : (p.toToken file).kind = .heading := congrArg BlockKind.tokenKind hk
    have hliteral : (p.toToken file).literal = "" := by
      rw [← String.toList_inj, toList_literal_toToken, hl]
      rfl
    rw [Token.HoldsText, hkind, hliteral] at h
    simp at h

/-- A token with text comes of no comment. -/
theorem not_comment_of_holdsText (h : (p.toToken file).HoldsText) : p.kind ≠ .comment := by
  rintro hk
  rw [← kind_toToken_eq_comment_iff file] at hk
  rw [Token.HoldsText, hk] at h
  simp at h

variable {s : Source}

/-- What sets two passages apart in the text sets their tokens apart. -/
theorem setApart_toToken (h : p.Adjoins .origin s.text q) :
    (p.toToken file).SetApart s (q.toToken file) := by
  obtain ⟨before, gap, rest, ht, hstop, hstart, hparts, -⟩ := h
  have hoffset : p.stop.offset = before.length := by rw [hstop, walk_origin]
  have hbetween : (p.toToken file).between s (q.toToken file) = gap := by
    have hnext : q.start.offset = (before.length + gap.length : Nat) := by
      rw [hstart, Cursor.offset_walk, hoffset]
      rfl
    have hslice := Source.slice_of_text_eq ht
    rw [← hoffset, ← hnext] at hslice
    exact hslice
  constructor
  · intro hkinds
    rw [hbetween]
    rcases hparts with hloose | ⟨-, hcount | hkind⟩
    · exact absurd hloose (not_loose_of_holdsText file (hkinds.imp And.left And.left))
    · exact hcount
    · rw [← kind_toToken_eq_comment_iff file] at hkind
      rcases hkinds with ⟨htext, hn⟩ | ⟨hc, hc'⟩
      · exact absurd (hkind.2 (not_comment_of_holdsText file htext)) hn
      · exact absurd ((kind_toToken_eq_comment_iff file).1 hc) (hkind.1 hc')
  · intro hkind
    obtain ⟨hhead, -⟩ := hparts.resolve_left (not_loose_of_holdsText file hkind)
    obtain ⟨later, rfl⟩ := List.head?_eq_some_iff.1 hhead
    constructor
    · rw [hbetween, List.count_cons_self]
      omega
    · show s.text[p.stop.offset.toNat]? = some lineBreak
      rw [hoffset, Int.toNat_natCast, ht, List.getElem?_append_right (Nat.le_refl _), Nat.sub_self]
      rfl

/-- What stands in the text where a passage begins tells the kind of its token. -/
theorem begins_toToken (h : p.Adjoins .origin s.text q) : (q.toToken file).Begins s := by
  obtain ⟨before, gap, rest, ht, hstop, hstart, -, hbegins⟩ := h
  have hoffset : q.start.offset = (before ++ gap).length := by
    rw [hstart, hstop, ← Cursor.walk_append, walk_origin]
  have hdrop : s.text.drop (q.toToken file).span.start.offset.toNat = rest := by
    show s.text.drop q.start.offset.toNat = rest
    rw [hoffset, Int.toNat_natCast, ht, ← List.append_assoc, List.drop_left]
  obtain ⟨hvisible, hheading, hcomment, hmarker⟩ := hbegins
  have hkind : (q.toToken file).kind = q.kind.tokenKind := rfl
  constructor
  · obtain ⟨char, later, hrest, hg⟩ := hvisible
    refine ⟨char, ?_, hg⟩
    rw [← List.head?_drop, hdrop, hrest]
    rfl
  · rw [hdrop, ← hheading, hkind]
    cases q.kind <;> decide
  · rw [hdrop, ← hcomment, hkind]
    cases q.kind <;> decide
  · rw [hdrop, ← hmarker, hkind]
    cases q.kind <;> decide
  · rw [hdrop, ← hheading, ← hcomment, ← hmarker, hkind]
    cases q.kind <;> decide

end Passages

/-! ## All tokens -/

/-- Two tokens that follow one another in front of the last one come from two such passages. -/
theorem exists_mem_zip_of_mem {α β : Type} (f : α → β) (stop : β) {p : α} {passages : List α}
    {pair : β × β}
    (h : pair ∈ ((p :: passages).map f ++ [stop]).zip (passages.map f ++ [stop])) :
    pair.2 = stop ∨ ∃ pq ∈ (p :: passages).zip passages, pair = (f pq.1, f pq.2) := by
  induction passages generalizing p with
  | nil =>
    left
    simp at h
    exact congrArg Prod.snd h
  | cons q passages ih =>
    rw [List.map_cons, List.map_cons, List.cons_append, List.cons_append, List.zip_cons_cons,
      List.mem_cons] at h
    rcases h with rfl | h
    · exact .inr ⟨(p, q), by simp, rfl⟩
    · rcases ih h with hstop | ⟨pq, hmem, rfl⟩
      · exact .inl hstop
      · exact .inr ⟨pq, by simp [hmem], rfl⟩

/-- Every item of a list but the first one follows another one. -/
theorem exists_mem_zip_tail {α : Type} {items : List α} {y : α} (h : y ∈ items.tail) :
    ∃ x, (x, y) ∈ items.zip items.tail := by
  cases items with
  | nil => simp at h
  | cons x items =>
    rw [List.tail_cons] at h ⊢
    induction items generalizing x with
    | nil => simp at h
    | cons z items ih =>
      rw [List.zip_cons_cons]
      rcases List.mem_cons.1 h with rfl | h
      · exact ⟨x, List.mem_cons_self ..⟩
      · obtain ⟨w, hw⟩ := ih z h
        exact ⟨w, List.mem_cons_of_mem _ hw⟩

/-- In a plain scan, every two tokens that follow one another are set apart by as much as ends the
first one, and every token but the title and the end of the text begins with the marks of its
kind. -/
theorem scanPlain_separates (file : Option String) (text : String) :
    ∃ tokens, scanPlain file text = .ok tokens ∧
      (∀ pair ∈ tokens.zip tokens.tail, pair.2.kind ≠ .eof →
        pair.1.SetApart (.ofString text) pair.2) ∧
      ∀ t ∈ tokens.tail, t.kind ≠ .eof → t.Begins (.ofString text) := by
  obtain ⟨title, rest, ho, hadjoins⟩ := adjoins_outline text.toList
  have hpairs : ∀ pair ∈ (plainTokens file text.toList).zip (plainTokens file text.toList).tail,
      pair.2.kind ≠ .eof → ∃ p q : Passage, pair = (p.toToken file, q.toToken file) ∧
        p.Adjoins .origin text.toList q := by
    rw [plainTokens, ho]
    intro pair hpair hkind
    rcases exists_mem_zip_of_mem _ _ hpair with hstop | ⟨pq, hmem, rfl⟩
    · rw [hstop] at hkind
      exact absurd rfl hkind
    · exact ⟨pq.1, pq.2, rfl, hadjoins pq hmem⟩
  refine ⟨_, scanPlain_eq file text, ?_, ?_⟩
  · intro pair hpair hkind
    obtain ⟨p, q, rfl, h⟩ := hpairs pair hpair hkind
    exact setApart_toToken file h
  · intro t ht hkind
    obtain ⟨u, hmem⟩ := exists_mem_zip_tail ht
    obtain ⟨p, q, hpair, h⟩ := hpairs (u, t) hmem hkind
    rw [Prod.mk.injEq] at hpair
    rw [hpair.2]
    exact begins_toToken file h

end BlockScan
