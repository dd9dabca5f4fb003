import BlockScan.Proofs.Outline.Composition
import BlockScan.Proofs.Scan.Plain

/-!
# Scanning texts put together

Two parts of a text that are set apart by blank lines can be scanned apart. The tokens of the
whole are those of the first part without the end of it, and then those of the second part behind
its title, where they stand in the whole. How many blank lines there are, and what blanks are in
them, has no influence on the kinds, the literals and the columns. The main statement is
`scanPlain_append_blankLines`.
-/

set_option autoImplicit false

namespace BlockScan

open Charset

/-- The position some lines further down and some characters further on. -/
def Position.shift (down ahead : Int) (p : Position) : Position :=
  .ofCursor p.file (p.toCursor.shift down ahead)

/-- The token that far further on in a text. -/
def Token.shift (down ahead : Int) (t : Token) : Token :=
  { t with span := ⟨t.span.start.shift down ahead, t.span.stop.shift down ahead,
      Int.add_le_add_right t.span.ordered ahead⟩ }

/-- What a token shows on its own line: the kind, the literal, and the columns of both ends. -/
def Token.face (t : Token) : TokenKind × String × Int × Int :=
  (t.kind, t.literal, t.span.start.column, t.span.stop.column)

/-- A token shows the same on its line wherever that line is. -/
theorem face_comp_shift (down ahead : Int) : Token.face ∘ Token.shift down ahead = Token.face := rfl

/-- The token of a moved passage is the moved token. -/
theorem toToken_comp_shift (file : Option String) (down ahead : Int) :
    Passage.toToken file ∘ Passage.shift down ahead =
      Token.shift down ahead ∘ Passage.toToken file := rfl

/-- The end of two parts with blank lines between them is the end of the second part, moved. -/
theorem endOfText_append_blankLines (file : Option String) {gap : List Char} (h : BlankLines gap)
    (text rest : List Char) :
    endOfText file (text ++ lineBreak :: (gap ++ rest)) =
      (endOfText file (lineBreak :: rest)).shift (text.count lineBreak + gap.count lineBreak)
        (text.length + gap.length) := by
  have hsplit : text ++ lineBreak :: (gap ++ rest) = (text ++ lineBreak :: gap) ++ rest := by
    rw [List.append_assoc, List.cons_append]
  unfold endOfText
  rw [hsplit, Cursor.walk_append, ← h.walk_origin_eq_shift, walk_shift, Cursor.walk_cons]
  rfl

/-- The tokens of two parts with blank lines between them are those of the first part and the moved
ones of the second, title aside. -/
theorem plainTokens_append_blankLines (file : Option String) {gap : List Char}
    (h : BlankLines gap) (text rest : List Char) :
    plainTokens file (text ++ lineBreak :: (gap ++ rest)) =
      (outline text).map (Passage.toToken file) ++
        ((outline (lineBreak :: rest)).tail.map (Passage.toToken file) ++
          [endOfText file (lineBreak :: rest)]).map (Token.shift
            (text.count lineBreak + gap.count lineBreak) (text.length + gap.length)) := by
  unfold plainTokens
  rw [outline_append_blankLines h, endOfText_append_blankLines file h, List.map_append,
    List.append_assoc, List.map_append, List.map_singleton, List.map_map, List.map_map,
    toToken_comp_shift]

/-- Scanning two parts with blank lines between them brings the tokens of the first part and those
of the second part, moved; their faces are the same for any other blank lines. -/
theorem scanPlain_append_blankLines (file : Option String) (a gap b : String)
    (h : BlankLines gap.toList) :
    ∃ front stop title back,
      scanPlain file a = .ok (front ++ [stop]) ∧ stop.kind = .eof ∧
      scanPlain file ("\n" ++ b) = .ok (title :: back) ∧ title.kind = .heading ∧
      scanPlain file (a ++ "\n" ++ gap ++ b) = .ok (front ++ back.map (Token.shift
        (a.toList.count '\n' + gap.toList.count '\n') (a.length + gap.length))) ∧
      ∀ gap' : String, BlankLines gap'.toList →
        (scanPlain file (a ++ "\n" ++ gap' ++ b)).map (List.map Token.face) =
          (scanPlain file (a ++ "\n" ++ gap ++ b)).map (List.map Token.face) := by
  have hbreak : ("\n" ++ b).toList = lineBreak :: b.toList := String.toList_append
  have hwhole : ∀ gap : String,
      (a ++ "\n" ++ gap ++ b).toList = a.toList ++ lineBreak :: (gap.toList ++ b.toList) := by
    intro gap
    simp [String.toList_append, lineBreak]
  obtain ⟨front, hfront⟩ : ∃ front, front = (outline a.toList).map (Passage.toToken file) :=
    ⟨_, rfl⟩
  obtain ⟨back, hback⟩ : ∃ back, back =
      (outline (lineBreak :: b.toList)).tail.map (Passage.toToken file) ++
        [endOfText file (lineBreak :: b.toList)] := ⟨_, rfl⟩
  have hscan : ∀ gap : String, BlankLines gap.toList →
      scanPlain file (a ++ "\n" ++ gap ++ b) = .ok (front ++ back.map (Token.shift
        (a.toList.count '\n' + gap.toList.count '\n') (a.length + gap.length))) := by
    intro gap h
    rw [scanPlain_eq, hwhole, plainTokens_append_blankLines file h, hfront, hback,
      String.length_toList, String.length_toList]
    rfl
  refine ⟨front, endOfText file a.toList, Passage.toToken file (.empty .heading .origin), back,
    ?_, rfl, ?_, rfl, hscan gap h, ?_⟩
  · rw [scanPlain_eq, hfront]
    rfl
  · rw [scanPlain_eq, hbreak, hback, plainTokens, outline_lineBreak_cons]
    rfl
  · intro gap' h'
    rw [hscan gap h, hscan gap' h']
    simp only [Except.map, List.map_append, List.map_map, face_comp_shift]

/-- A comment with a mark open at its end is closed by a blank line with blanks in it. -/
theorem scanPlain_append_blankLines_remark : BlankLines "\t\n\r\n".toList ∧
    ∃ front stop title back,
      scanPlain none "# a\n@-" = .ok (front ++ [stop]) ∧ stop.kind = .eof ∧
      scanPlain none ("\n" ++ " # b") = .ok (title :: back) ∧ title.kind = .heading ∧
      scanPlain none ("# a\n@-" ++ "\n" ++ "\t\n\r\n" ++ " # b") =
        .ok (front ++ back.map (Token.shift
          ("# a\n@-".toList.count '\n' + "\t\n\r\n".toList.count '\n')
          ("# a\n@-".length + "\t\n\r\n".length))) ∧
      ∀ gap' : String, BlankLines gap'.toList →
        (scanPlain none ("# a\n@-" ++ "\n" ++ gap' ++ " # b")).map (List.map Token.face) =
          (scanPlain none ("# a\n@-" ++ "\n" ++ "\t\n\r\n" ++ " # b")).map
            (List.map Token.face) := by
  have hgap : BlankLines "\t\n\r\n".toList := by
    refine ⟨[['\t'], ['\r']], by simp, by decide, by decide⟩
  exact ⟨hgap, scanPlain_append_blankLines none "# a\n@-" "\t\n\r\n" " # b" hgap⟩

end BlockScan
