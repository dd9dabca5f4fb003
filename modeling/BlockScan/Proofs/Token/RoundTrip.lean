import BlockScan.Proofs.Json.RoundTrip
import BlockScan.Token.Record

/-!
# Reading stored tokens back

What is stored of a record is read back as the record, its parts sorted. Fields are fetched by
name, so it does not matter that they are stored in another order than they are listed in. The
parts of a token are texts and integers, which sorting leaves alone, and the offsets of a span are
ordered, so every list of tokens that can be stored is read back unchanged
(`Token.decode_encode_of_fits`).

Two limits stand in the way of storing one (`Token.encode_eq`): the spaces to indent by must fit an
index, and no integer may have too many digits.
-/

set_option autoImplicit false

namespace BlockScan

open Json

namespace Json

/-- Sorting an exact value sorts what its fields hold and keeps the fields. -/
theorem require_sorted {v : Json} (hv : Exact v) (name : String) :
    v.sorted.require name = (v.require name).map sorted := by
  cases hv with
  | @object fields names h =>
    rw [sorted, require, require]
    simp only [lookup_sortFields names]
    cases fields.lookup name <;> rfl
  | _ => rfl

/-- Sorting an exact value sorts what stands for a name in it, and no field comes or goes. -/
theorem field?_sorted {v : Json} (hv : Exact v) (name : String) :
    v.sorted.field? name = (v.field? name).map sorted := by
  cases hv with
  | @object fields names h =>
    rw [sorted, field?, field?]
    exact lookup_sortFields names name
  | _ => rfl

/-- A field that is found is found after sorting, sorted itself. -/
theorem require_sorted_of_eq_ok {v w : Json} {name : String} (hv : Exact v)
    (h : v.require name = .ok w) : v.sorted.require name = .ok w.sorted := by
  rw [require_sorted hv, h]
  rfl

/-- A field of an exact value is exact. -/
theorem exact_of_require {v w : Json} {name : String} (hv : Exact v) (h : v.require name = .ok w) :
    Exact w := by
  cases hv with
  | @object fields names hfields =>
    rw [require] at h
    cases hw : fields.lookup name with
    | none => simp [hw] at h
    | some u =>
      simp only [hw, Except.ok.injEq] at h
      subst h
      exact hfields (name, u) ((lookup_eq_some_iff_mem names).1 hw)
  | _ => cases h

/-- Integers are compared as such. -/
theorem exceeds_int (i j : Int) : (Json.int i).exceeds (.int j) = .ok (decide (j < i)) := by
  have hnumbers : compareNumbers? (.int i) (.int j) = some (some (compare i j)) := rfl
  rw [exceeds, hnumbers]
  · rw [Except.ok.injEq, Bool.eq_iff_iff, beq_iff_eq, Option.some.injEq, Int.compare_eq_gt,
      decide_eq_true_eq]
  all_goals simp

/-- An integer does not exceed one that is not below it. -/
theorem exceeds_int_of_le {i j : Int} (h : i ≤ j) :
    (Json.int i).exceeds (.int j) = .ok false := by
  rw [exceeds_int, decide_eq_false (Int.not_lt.2 h)]

/-- A file name, given or not, is read back as it is. -/
theorem exact_ofText? (s : Option String) : Exact (ofText? s) := by
  cases s with
  | none => exact .null
  | some s => exact .string s

/-- There is nothing to sort in a file name. -/
theorem sorted_ofText? (s : Option String) : (ofText? s).sorted = ofText? s := by
  cases s <;> rfl

end Json

namespace PointRecord

/-- A record of a point with the fields of every object in its parts in the order of their
names. -/
def sorted (p : PointRecord) : PointRecord :=
  ⟨p.line.sorted, p.column.sorted, p.offset.sorted, p.file.sorted⟩

/-- A point that was written in sorted form is read as the sorted point. -/
theorem ofJson_sorted {p : PointRecord} (h : p.toJson.Exact) :
    ofJson p.toJson.sorted = .ok p.sorted := by
  have hline := require_sorted_of_eq_ok h (show p.toJson.require "line" = .ok p.line from rfl)
  have hcolumn := require_sorted_of_eq_ok h (show p.toJson.require "column" = .ok p.column from rfl)
  have hoffset := require_sorted_of_eq_ok h (show p.toJson.require "offset" = .ok p.offset from rfl)
  have hfile : p.toJson.sorted.field? "source_file" = some p.file.sorted :=
    field?_sorted h "source_file"
  rw [ofJson, hline, hcolumn, hoffset, hfile]
  rfl

end PointRecord

namespace TokenRecord

/-- A record of a token with the fields of every object in its parts in the order of their
names. -/
def sorted (r : TokenRecord) : TokenRecord :=
  ⟨r.kind, r.literal.sorted, r.start.sorted, r.stop.sorted⟩

/-- The two points of a record as a JSON object. -/
def range (r : TokenRecord) : Json :=
  .object [("start", r.start.toJson), ("end", r.stop.toJson)]

/-- A record that was written in sorted form is read as the sorted record, when its offsets are in
order after sorting. -/
theorem ofJson_sorted {r : TokenRecord} (h : r.toJson.Exact)
    (hordered : r.start.offset.sorted.exceeds r.stop.offset.sorted = .ok false) :
    ofJson r.toJson.sorted = .ok r.sorted := by
  have hrange : r.toJson.require "range" = .ok r.range := rfl
  have hstart : r.range.require "start" = .ok r.start.toJson := rfl
  have hstop : r.range.require "end" = .ok r.stop.toJson := rfl
  have hexact := exact_of_require h hrange
  have hname := require_sorted_of_eq_ok h
    (show r.toJson.require "type" = .ok (.string r.kind.name) from rfl)
  have hliteral := require_sorted_of_eq_ok h
    (show r.toJson.require "literal" = .ok r.literal from rfl)
  have hkind : TokenKind.ofJson (Json.string r.kind.name).sorted = .ok r.kind := by
    rw [Json.sorted, TokenKind.ofJson, TokenKind.ofName?_name]
    all_goals simp
  simp only [ofJson, bind, Except.bind, hname, hliteral, require_sorted_of_eq_ok h hrange,
    require_sorted_of_eq_ok hexact hstart, require_sorted_of_eq_ok hexact hstop, hkind,
    PointRecord.ofJson_sorted (exact_of_require hexact hstart),
    PointRecord.ofJson_sorted (exact_of_require hexact hstop)]
  rw [PointRecord.sorted, PointRecord.sorted, hordered]
  rfl

/-- Records that were written in sorted form are read one after another as the sorted records. -/
theorem ofItems_sorted {records : List TokenRecord} (h : ∀ r ∈ records, r.toJson.Exact)
    (hordered : ∀ r ∈ records, r.start.offset.sorted.exceeds r.stop.offset.sorted = .ok false) :
    ofItems (sortedItems (records.map toJson)) = .ok (records.map sorted) := by
  induction records with
  | nil => rfl
  | cons r records ih =>
    have hr := ofJson_sorted (h r (List.mem_cons_self ..)) (hordered r (List.mem_cons_self ..))
    have hrest := ih (fun u hu => h u (List.mem_cons_of_mem r hu))
      (fun u hu => hordered u (List.mem_cons_of_mem r hu))
    rw [List.map_cons, sortedItems, ofItems, hr, hrest]
    rfl

/-- Stored records are read back with their parts sorted, provided that they are exact and that the
sorted offsets are ordered. -/
theorem decode_encode {style : Style} (hstyle : style.IsSpacing) {records : List TokenRecord}
    (h : ∀ r ∈ records, r.toJson.Exact)
    (hordered : ∀ r ∈ records, r.start.offset.sorted.exceeds r.stop.offset.sorted = .ok false) :
    decode (encode style records) = .ok (records.map sorted) := by
  have hexact : Exact (.array (records.map toJson)) := by
    apply Exact.array
    intro v hv
    obtain ⟨r, hr, rfl⟩ := List.mem_map.1 hv
    exact h r hr
  rw [decode, encode, read_write hstyle hexact, Json.sorted]
  exact ofItems_sorted h hordered

end TokenRecord

/-- The integers of a position. -/
def Position.coordinates (p : Position) : List Int := [p.line, p.column, p.offset]

/-- The integers of the two ends of a token. -/
def Token.coordinates (t : Token) : List Int :=
  t.span.start.coordinates ++ t.span.stop.coordinates

namespace PointRecord

/-- The values that are stored of a point. -/
def parts (p : PointRecord) : List Json := [p.line, p.column, p.offset, p.file]

/-- A point holds what one of its parts holds. -/
theorem holds_toJson (q : Json → Bool) (p : PointRecord) :
    p.toJson.holds q = p.parts.any (holds q) := by
  rw [toJson, holds, fieldsHold_eq_any]
  rfl

/-- A point is read back when its parts are. -/
theorem exact_toJson {p : PointRecord} (h : ∀ v ∈ p.parts, v.Exact) : p.toJson.Exact := by
  simp only [parts, List.forall_mem_cons] at h
  apply Exact.object
  · show ["line", "column", "offset", "source_file"].Nodup
    decide
  · simp only [List.forall_mem_cons]
    exact ⟨h.1, h.2.1, h.2.2.1, h.2.2.2.1, by simp⟩

variable (p : Position)

/-- The parts of a position are exact when its numbers fit the limit on digits. -/
theorem exact_parts_ofPosition (h : ∀ i ∈ p.coordinates, Decimal.isLong i = false) :
    ∀ v ∈ (ofPosition p).parts, v.Exact := by
  simp only [Position.coordinates, List.forall_mem_cons] at h
  simp only [parts, List.forall_mem_cons]
  exact ⟨.int h.1, .int h.2.1, .int h.2.2.1, exact_ofText? _, by simp⟩

/-- Among the parts of a position only its three numbers can be too long. -/
theorem any_isLong_parts_ofPosition :
    (ofPosition p).parts.any (holds isLong) = p.coordinates.any Decimal.isLong := by
  have hfile : (ofText? p.file).holds isLong = false := by
    cases p.file <;> rfl
  simp only [parts, ofPosition, Position.coordinates, List.any_cons, List.any_nil, hfile,
    Bool.or_false]
  rfl

/-- There is nothing to sort in a position. -/
theorem sorted_ofPosition : (ofPosition p).sorted = ofPosition p := by
  rw [sorted, ofPosition, sorted_ofText?]
  rfl

/-- A position is found again in its record. -/
theorem toPosition?_ofPosition : (ofPosition p).toPosition? = some p := by
  obtain ⟨⟨line, column, offset⟩, file⟩ := p
  cases file <;> rfl

end PointRecord

namespace TokenRecord

/-- The values that are stored of a token, besides its kind. -/
def parts (r : TokenRecord) : List Json := r.literal :: (r.start.parts ++ r.stop.parts)

/-- A record holds what one of its parts holds, but for strings: the name of its kind is one. -/
theorem holds_toJson {q : Json → Bool} (hq : ∀ s, q (.string s) = false) (r : TokenRecord) :
    r.toJson.holds q = r.parts.any (holds q) := by
  have hrange : r.range.holds q = (r.start.parts ++ r.stop.parts).any (holds q) := by
    rw [range, holds, fieldsHold_eq_any, List.any_append, ← PointRecord.holds_toJson,
      ← PointRecord.holds_toJson, ← Bool.or_false (holds q r.stop.toJson)]
    rfl
  have hfields : r.toJson.holds q =
      (q (.string r.kind.name) || (r.literal.holds q || (r.range.holds q || false))) := by
    rw [toJson, holds, fieldsHold_eq_any]
    rfl
  rw [hfields, hq, hrange, Bool.false_or, Bool.or_false, parts, List.any_cons]

/-- A record is read back when its parts are. -/
theorem exact_toJson {r : TokenRecord} (h : ∀ v ∈ r.parts, v.Exact) : r.toJson.Exact := by
  rw [parts, List.forall_mem_cons, List.forall_mem_append] at h
  have hrange : r.range.Exact := by
    apply Exact.object
    · show ["start", "end"].Nodup
      decide
    · simp only [List.forall_mem_cons]
      exact ⟨PointRecord.exact_toJson h.2.1, PointRecord.exact_toJson h.2.2, by simp⟩
  apply Exact.object
  · show ["type", "literal", "range"].Nodup
    decide
  · simp only [List.forall_mem_cons]
    exact ⟨.string _, h.1, hrange, by simp⟩

variable (t : Token)

/-- The record of a token is exact when its numbers fit the limit on digits. -/
theorem exact_ofToken (h : ∀ i ∈ t.coordinates, Decimal.isLong i = false) :
    (ofToken t).toJson.Exact := by
  rw [Token.coordinates, List.forall_mem_append] at h
  apply exact_toJson
  rw [parts, List.forall_mem_cons, List.forall_mem_append]
  exact ⟨.string _, PointRecord.exact_parts_ofPosition _ h.1,
    PointRecord.exact_parts_ofPosition _ h.2⟩

/-- In the record of a token only the six numbers can be too long. -/
theorem holds_isLong_ofToken :
    (ofToken t).toJson.holds isLong = t.coordinates.any Decimal.isLong := by
  rw [holds_toJson fun _ => rfl, parts, List.any_cons, List.any_append, Token.coordinates,
    List.any_append, ← PointRecord.any_isLong_parts_ofPosition,
    ← PointRecord.any_isLong_parts_ofPosition]
  rfl

/-- There is nothing to sort in the parts of a token. -/
theorem sorted_ofToken : (ofToken t).sorted = ofToken t := by
  rw [sorted, ofToken, PointRecord.sorted_ofPosition, PointRecord.sorted_ofPosition]
  rfl

/-- The two points of a token are in order, because its span is. -/
theorem ordered_ofToken :
    (ofToken t).start.offset.sorted.exceeds (ofToken t).stop.offset.sorted = .ok false :=
  exceeds_int_of_le t.span.ordered

/-- A token is found again in its record. -/
theorem toToken?_ofToken : (ofToken t).toToken? = some t := by
  obtain ⟨kind, literal, start, stop, ordered⟩ := t
  simp only [toToken?, ofToken, PointRecord.toPosition?_ofPosition, dif_pos ordered]

/-- All tokens are found again in their records. -/
theorem mapM_toToken? (tokens : List Token) : (tokens.map ofToken).mapM toToken? = some tokens := by
  induction tokens with
  | nil => rfl
  | cons t tokens ih =>
    rw [List.map_cons, List.mapM_cons, toToken?_ofToken, ih]
    rfl

end TokenRecord

/-- What becomes of tokens that are to be stored. They are refused if the spaces to indent by cannot
be made, then if an integer of one of them has too many digits, and for no other reason. -/
theorem Token.encode_eq (indent : Json) (tokens : List Token) :
    Token.encode indent tokens =
      if !indent.indentFits then .error .wideIndent
      else if tokens.any fun t => t.coordinates.any Decimal.isLong then .error .tooManyDigits
      else .ok (TokenRecord.encode (.ofIndent indent) (tokens.map TokenRecord.ofToken)) := by
  have hlong : (Json.array ((tokens.map TokenRecord.ofToken).map TokenRecord.toJson)).holds isLong =
      tokens.any fun t => t.coordinates.any Decimal.isLong := by
    rw [holds, itemsHold_eq_any, List.any_map, List.any_map]
    exact congrArg tokens.any (funext TokenRecord.holds_isLong_ofToken)
  rw [Token.encode, TokenRecord.store, Json.encode, hlong]
  rfl

/-- Tokens whose integers do not have too many digits are stored, with any indentation by spaces
that can be made, in a text that is read back as the records of the same tokens. -/
theorem Token.decode_encode_of_fits {tokens : List Token} {indent : Json}
    (hindent : indent.IsIndent) (hfits : indent.indentFits = true)
    (hshort : ∀ t ∈ tokens, ∀ i ∈ t.coordinates, Decimal.digitCount i ≤ Decimal.maxDigits) :
    ∃ text, Token.encode indent tokens = .ok text ∧
      TokenRecord.decode text = .ok (tokens.map TokenRecord.ofToken) ∧
      (tokens.map TokenRecord.ofToken).mapM TokenRecord.toToken? = some tokens := by
  have hlong : ∀ t ∈ tokens, ∀ i ∈ t.coordinates, Decimal.isLong i = false := by
    intro t ht i hi
    rw [Decimal.isLong, decide_eq_false_iff_not, Nat.not_lt]
    exact hshort t ht i hi
  have hnone : (tokens.any fun t => t.coordinates.any Decimal.isLong) = false := by
    rw [List.any_eq_false]
    intro t ht
    rw [Bool.not_eq_true, List.any_eq_false]
    intro i hi
    rw [Bool.not_eq_true, hlong t ht i hi]
  have hexact : ∀ r ∈ tokens.map TokenRecord.ofToken, r.toJson.Exact :=
    List.forall_mem_map.2 fun t ht => TokenRecord.exact_ofToken t (hlong t ht)
  have hordered : ∀ r ∈ tokens.map TokenRecord.ofToken,
      r.start.offset.sorted.exceeds r.stop.offset.sorted = .ok false :=
    List.forall_mem_map.2 fun t _ => TokenRecord.ordered_ofToken t
  have hsorted : (tokens.map TokenRecord.ofToken).map TokenRecord.sorted =
      tokens.map TokenRecord.ofToken := by
    rw [List.map_map]
    exact List.map_congr_left fun t _ => TokenRecord.sorted_ofToken t
  refine ⟨TokenRecord.encode (.ofIndent indent) (tokens.map TokenRecord.ofToken), ?_, ?_,
    TokenRecord.mapM_toToken? tokens⟩
  · rw [Token.encode_eq, hfits, hnone]
    rfl
  · rw [TokenRecord.decode_encode (isSpacing_ofIndent hindent) hexact hordered, hsorted]

/-- A token of a kind that no scan emits, with every sort of character in its literal and with
offsets of both signs that fit no machine word. -/
def Token.escaped : Token where
  kind := .lineEnd
  literal := "\"\\/\x08\x0c\n\r\t\x00\x7f é\uFFFF😀"
  span :=
    { start := { line := 0, column := -1, offset := -1180591620717411303424, file := some "\t" }
      stop := { line := -7, column := 10, offset := 1180591620717411303424 }
      ordered := by decide }

/-- A token with characters that are escaped is written with an indent of white space and read
back. -/
theorem Token.decode_encode_of_fits_escaped :
    (Json.string " \t\r\n").IsIndent ∧ (Json.string " \t\r\n").indentFits = true ∧
      (∀ t ∈ [Token.escaped], ∀ i ∈ t.coordinates, Decimal.digitCount i ≤ Decimal.maxDigits) ∧
      ∃ text, Token.encode (.string " \t\r\n") [Token.escaped] = .ok text ∧
        TokenRecord.decode text = .ok [TokenRecord.ofToken Token.escaped] ∧
        [TokenRecord.ofToken Token.escaped].mapM TokenRecord.toToken? = some [Token.escaped] := by
  have hshort : ∀ t ∈ [Token.escaped], ∀ i ∈ t.coordinates,
      Decimal.digitCount i ≤ Decimal.maxDigits := by
    decide +kernel
  exact ⟨rfl, rfl, hshort, Token.decode_encode_of_fits rfl rfl hshort⟩

/-- The tokens of a text that is a title of one letter. -/
def Token.titleOnly : List Token :=
  let stop : Position := { line := 1, column := 1, offset := 1 }
  [⟨.heading, "T",
      { start := { line := 1, column := 0, offset := 0 }, stop, ordered := by decide }⟩,
    .point .eof "" stop]

/-- The end of a text in the line with the least number that has too many digits. -/
def Token.farEnd : Token :=
  .point .eof "" { line := (10 ^ Decimal.maxDigits : Nat), column := 0, offset := 0 }

/-- Not all tokens are stored and read back with every indentation by spaces. Even when the spaces
can be made, and when there are none to make, an integer may have too many digits. -/
theorem Token.not_forall_decode_encode :
    (¬ ∀ (tokens : List Token) (indent : Json), indent.IsIndent → ∃ text records,
      Token.encode indent tokens = .ok text ∧ TokenRecord.decode text = .ok records ∧
        records.mapM TokenRecord.toToken? = some tokens) ∧
      ¬ ∀ tokens : List Token, ∃ text records,
        Token.encode .null tokens = .ok text ∧ TokenRecord.decode text = .ok records ∧
          records.mapM TokenRecord.toToken? = some tokens := by
  constructor
  · intro h
    obtain ⟨text, records, hencode, -, -⟩ := h Token.titleOnly (.int (-9223372036854775809)) trivial
    have hwide : (Json.int (-9223372036854775809)).indentFits = false := by decide
    rw [Token.encode_eq, hwide] at hencode
    cases hencode
  · intro h
    obtain ⟨text, records, hencode, -, -⟩ := h [Token.farEnd]
    have hlong : Decimal.isLong (10 ^ Decimal.maxDigits : Nat) = true :=
      (Decimal.isLong_iff _).2 (Nat.le_refl _)
    have hmem : ((10 ^ Decimal.maxDigits : Nat) : Int) ∈ Token.farEnd.coordinates :=
      List.mem_cons_self ..
    have hany : ([Token.farEnd].any fun t => t.coordinates.any Decimal.isLong) = true :=
      List.any_eq_true.2 ⟨_, List.mem_singleton_self _, List.any_eq_true.2 ⟨_, hmem, hlong⟩⟩
    rw [Token.encode_eq, hany] at hencode
    cases hencode

end BlockScan
