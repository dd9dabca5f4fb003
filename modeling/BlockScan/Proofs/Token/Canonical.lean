import BlockScan.Proofs.Json.Comparison
import BlockScan.Proofs.Token.RoundTrip

/-!
# Stored tokens have a canonical form

The values that are stored of a token are not checked, so a text may hold tokens in many ways: with
any spaces and escapes, with the fields in any order or twice, with fields that mean nothing. What
is read from it holds no name twice and no integer with too many digits
(`TokenRecord.sound_of_decode`), and sorting does not change what the check of the two points says
(`Json.exceeds_sorted`). So one pass of reading and writing comes to a text that another pass leaves
as it is. The main statement is `encode_decode_fixed`.
-/

set_option autoImplicit false

namespace BlockScan

open Json

/-- What is read in two steps is read by both. -/
theorem exists_of_bind_eq_ok {ε α β : Type} {x : Except ε α} {f : α → Except ε β} {b : β}
    (h : (x >>= f) = .ok b) : ∃ a, x = .ok a ∧ f a = .ok b := by
  cases x with
  | error e => cases h
  | ok a => exact ⟨a, rfl, h⟩

/-! ## What is read -/

namespace Json

variable {v w : Json} {name : String}

/-- A field of a regular value is regular. -/
theorem regular_of_require (hv : v.Regular) (h : v.require name = .ok w) : w.Regular := by
  cases v with
  | object fields =>
    rw [require] at h
    cases hw : fields.lookup name with
    | none => simp [hw] at h
    | some u =>
      simp only [hw, Except.ok.injEq] at h
      rw [← h]
      exact regular_of_lookup_eq_some hv hw
  | _ => cases h

/-- A field of a regular value is regular also where a field that is not there counts as null. -/
theorem regular_getD_field? (hv : v.Regular) : ((v.field? name).getD .null).Regular := by
  cases hw : v.field? name with
  | none => exact .null
  | some w =>
    cases v with
    | object fields => exact regular_of_lookup_eq_some hv hw
    | _ => cases hw

end Json

/-- The parts of a point that was read from a regular value are regular. -/
theorem PointRecord.regular_parts {v : Json} {p : PointRecord} (hv : v.Regular)
    (h : ofJson v = .ok p) : ∀ w ∈ p.parts, w.Regular := by
  obtain ⟨line, hline, h⟩ := exists_of_bind_eq_ok h
  obtain ⟨column, hcolumn, h⟩ := exists_of_bind_eq_ok h
  obtain ⟨offset, hoffset, h⟩ := exists_of_bind_eq_ok h
  cases h
  simp only [parts, List.forall_mem_cons]
  exact ⟨regular_of_require hv hline, regular_of_require hv hcolumn,
    regular_of_require hv hoffset, regular_getD_field? hv, by simp⟩

namespace TokenRecord

/-- A record as it may have been read: its values are regular, and its points are in order. -/
structure Sound (r : TokenRecord) : Prop where
  regular : ∀ v ∈ r.parts, v.Regular
  ordered : r.start.offset.exceeds r.stop.offset = .ok false

/-- A record that was read from a regular value is sound. -/
theorem sound_of_ofJson {v : Json} {r : TokenRecord} (hv : v.Regular) (h : ofJson v = .ok r) :
    r.Sound := by
  obtain ⟨name, -, h⟩ := exists_of_bind_eq_ok h
  obtain ⟨literal, hliteral, h⟩ := exists_of_bind_eq_ok h
  obtain ⟨range, hrange, h⟩ := exists_of_bind_eq_ok h
  obtain ⟨first, hfirst, h⟩ := exists_of_bind_eq_ok h
  obtain ⟨start, hstart, h⟩ := exists_of_bind_eq_ok h
  obtain ⟨last, hlast, h⟩ := exists_of_bind_eq_ok h
  obtain ⟨stop, hstop, h⟩ := exists_of_bind_eq_ok h
  obtain ⟨kind, -, h⟩ := exists_of_bind_eq_ok h
  have hregular := regular_of_require hv hrange
  split at h
  · cases h
  · cases h
  · next hordered =>
    cases h
    refine ⟨?_, hordered⟩
    rw [parts, List.forall_mem_cons, List.forall_mem_append]
    exact ⟨regular_of_require hv hliteral,
      PointRecord.regular_parts (regular_of_require hregular hfirst) hstart,
      PointRecord.regular_parts (regular_of_require hregular hlast) hstop⟩

/-- Records that were read from regular values one after another are sound. -/
theorem sound_of_ofItems {items : List Json} {records : List TokenRecord}
    (hi : ∀ v ∈ items, v.Regular) (h : ofItems items = .ok records) : ∀ r ∈ records, r.Sound := by
  induction items generalizing records with
  | nil =>
    cases h
    simp
  | cons v items ih =>
    rw [List.forall_mem_cons] at hi
    obtain ⟨r, hr, h⟩ := exists_of_bind_eq_ok h
    obtain ⟨rs, hrs, h⟩ := exists_of_bind_eq_ok h
    cases h
    rw [List.forall_mem_cons]
    exact ⟨sound_of_ofJson hi.1 hr, ih hi.2 hrs⟩

/-- All records that were read from a text are sound, since what is read from a text is regular. -/
theorem sound_of_decode {text : String} {records : List TokenRecord}
    (h : decode text = .ok records) : ∀ r ∈ records, r.Sound := by
  obtain ⟨v, hv, h⟩ := exists_of_bind_eq_ok h
  cases hread : Json.read text with
  | error e => simp [hread, Except.mapError] at hv
  | ok w =>
    rw [hread, Except.mapError, Except.ok.injEq] at hv
    subst hv
    cases regular_of_read hread with
    | array hitems => exact sound_of_ofItems hitems h
    | _ => cases h

end TokenRecord

/-! ## What is written -/

/-- Sorting the parts of a point before it is written changes nothing once the whole is sorted. -/
theorem PointRecord.sorted_toJson_sorted {p : PointRecord} (h : ∀ v ∈ p.parts, v.Regular) :
    p.sorted.toJson.sorted = p.toJson.sorted := by
  simp only [parts, List.forall_mem_cons] at h
  simp only [toJson, sorted, Json.sorted, sortedFields, sorted_sorted h.1, sorted_sorted h.2.1,
    sorted_sorted h.2.2.1, sorted_sorted h.2.2.2.1]

namespace TokenRecord

/-- Sorting the parts of a record before it is written changes nothing once the whole is sorted. -/
theorem sorted_toJson_sorted {r : TokenRecord} (h : ∀ v ∈ r.parts, v.Regular) :
    r.sorted.toJson.sorted = r.toJson.sorted := by
  rw [parts, List.forall_mem_cons, List.forall_mem_append] at h
  simp only [toJson, sorted, Json.sorted, sortedFields, sorted_sorted h.1,
    PointRecord.sorted_toJson_sorted h.2.1, PointRecord.sorted_toJson_sorted h.2.2]

/-- Records whose values hold no name twice are written like the sorted ones. -/
theorem encode_sorted (style : Style) {records : List TokenRecord}
    (h : ∀ r ∈ records, ∀ v ∈ r.parts, v.Regular) :
    encode style (records.map sorted) = encode style records := by
  have heach : (records.map sorted).map (fun r => r.toJson.sorted) =
      records.map fun r => r.toJson.sorted := by
    rw [List.map_map]
    exact List.map_congr_left fun r hr => sorted_toJson_sorted (h r hr)
  have hsorted : (Json.array ((records.map sorted).map toJson)).sorted =
      (Json.array (records.map toJson)).sorted := by
    rw [Json.sorted, Json.sorted, sortedItems_eq_map, sortedItems_eq_map, List.map_map,
      List.map_map (f := toJson)]
    exact congrArg array heach
  rw [encode, encode, write, write, hsorted]

/-- Records that were read are stored again whenever the spaces to indent by can be made: none of
their integers has too many digits. -/
theorem store_of_decode {text : String} {records : List TokenRecord}
    (h : decode text = .ok records) {indent : Json} (hfits : indent.indentFits = true) :
    store indent records = .ok (encode (.ofIndent indent) records) := by
  have hlong : (Json.array (records.map toJson)).holds isLong = false := by
    rw [holds, itemsHold_eq_any, List.any_map, List.any_eq_false]
    intro r hr
    rw [Function.comp_apply, holds_toJson fun _ => rfl, Bool.not_eq_true, List.any_eq_false]
    intro v hv
    rw [Bool.not_eq_true, ((sound_of_decode h r hr).regular v hv).not_holds_isLong]
  rw [store, Json.encode, hfits, hlong]
  rfl

/-- Whatever text tokens are read from, as long as there is no floating-point number among their
values: written again, with any indentation by spaces, they are accepted, and reading and writing
once more does not change the text. -/
theorem encode_decode_fixed {text : String} {records : List TokenRecord}
    (h : decode text = .ok records) (hf : ∀ r ∈ records, ∀ v ∈ r.parts, v.holdsFloat = false)
    {indent : Json} (hindent : indent.IsIndent) :
    ∃ again, decode (encode (.ofIndent indent) records) = .ok again ∧
      encode (.ofIndent indent) again = encode (.ofIndent indent) records := by
  have hsound := sound_of_decode h
  have hexact : ∀ r ∈ records, r.toJson.Exact := by
    intro r hr
    apply exact_toJson
    intro v hv
    exact ((hsound r hr).regular v hv).exact (hf r hr v hv)
  have hordered : ∀ r ∈ records,
      r.start.offset.sorted.exceeds r.stop.offset.sorted = .ok false := by
    intro r hr
    rw [exceeds_sorted, (hsound r hr).ordered]
    · apply (hsound r hr).regular
      simp [parts, PointRecord.parts]
    · apply (hsound r hr).regular
      simp [parts, PointRecord.parts]
  refine ⟨records.map sorted, decode_encode (isSpacing_ofIndent hindent) hexact hordered, ?_⟩
  exact encode_sorted _ fun r hr => (hsound r hr).regular

/-- A text with an escape, a name that comes twice and one that means nothing, and with offsets that
are the same but for the order of their fields. -/
def untidy : String :=
  "[\x7b\"type\":\"EOF\",\n\"type\":\"HEADING\",\"x\":1.5,\"literal\":\x7b\"\\u0062\":[],\"a\":-0\x7d,\"range\":\x7b" ++
    "\"end\":\x7b\"line\":1,\"column\":\"\",\"offset\":[\x7b\"b\":1,\"a\":2\x7d]\x7d," ++
    "\"start\":\x7b\"offset\":[\x7b\"a\":2,\"b\":true\x7d],\"line\":1,\"column\":0\x7d\x7d\x7d ]"

/-- The untidy text is decoded to one record, whose canonical text is decoded and written again as
it is. -/
theorem encode_decode_fixed_untidy :
    ∃ records, decode untidy = .ok records ∧ records.length = 1 ∧
      (∀ r ∈ records, ∀ v ∈ r.parts, v.holdsFloat = false) ∧ (Json.bool false).IsIndent ∧
      ∃ again, decode (encode (.ofIndent (.bool false)) records) = .ok again ∧
        encode (.ofIndent (.bool false)) again = encode (.ofIndent (.bool false)) records := by
  have hread : ∃ records ∈ (decode untidy).toOption, records.length = 1 ∧
      ∀ r ∈ records, ∀ v ∈ r.parts, v.holdsFloat = false := by
    decide +kernel
  obtain ⟨records, hsome, hlength, hfree⟩ := hread
  cases hread : decode untidy with
  | error e => simp [hread, Except.toOption] at hsome
  | ok found =>
    rw [hread, Except.toOption, Option.mem_some_iff] at hsome
    subst hsome
    exact ⟨found, rfl, hlength, hfree, trivial, encode_decode_fixed hread hfree trivial⟩

end TokenRecord

end BlockScan
