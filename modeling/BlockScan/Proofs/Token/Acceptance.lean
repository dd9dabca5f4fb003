import BlockScan.Proofs.Token.Refusal

/-!
# Which texts hold stored tokens

An array of values in which the parts of stored tokens have the kinds that are written there, as far
as they are present, is read as tokens if and only if all parts are present, every type is the name
of a kind and no start lies after its end. Otherwise the first check that fails at all decides, and
what it answers is a refusal. The main statement is `decode_of_isTyped`.
-/

set_option autoImplicit false

namespace BlockScan

namespace Json

/-- The parts of a stored token whose kinds matter, the token itself in front. -/
def typedParts : List (List String × Kind) :=
  [([], .object), (["type"], .string), (["range"], .object),
    (["range", "start"], .object), (["range", "start", "offset"], .int),
    (["range", "end"], .object), (["range", "end", "offset"], .int)]

/-- The parts that every stored token has. -/
def storedParts : List (List String) :=
  [["type"], ["literal"], ["range"],
    ["range", "start"], ["range", "start", "line"], ["range", "start", "column"],
    ["range", "start", "offset"],
    ["range", "end"], ["range", "end", "line"], ["range", "end", "column"],
    ["range", "end", "offset"]]

/-- Wherever they are present, the parts of a stored token have the kinds that are written there. -/
def IsTyped (v : Json) : Prop := ∀ part ∈ typedParts, ∀ w ∈ v.inner? part.1, w.kind = part.2

/-- A value is a stored token: all parts are there, the type is the name of a kind, and the start
does not lie after the end. -/
structure IsStored (v : Json) : Prop where
  present : ∀ path ∈ storedParts, (v.inner? path).isSome
  known : ∃ kind : TokenKind, v.inner? ["type"] = some (.string kind.name)
  ordered : ∃ i j : Int, v.inner? ["range", "start", "offset"] = some (.int i) ∧
    v.inner? ["range", "end", "offset"] = some (.int j) ∧ i ≤ j

/-- Whether all parts are of their kinds can be told by looking at each of them. -/
instance (v : Json) : Decidable v.IsTyped :=
  inferInstanceAs (Decidable (∀ part ∈ typedParts, ∀ w ∈ v.inner? part.1, w.kind = part.2))

variable {v : Json}

/-- The value at the end of a path that is there is what stands there. -/
theorem part_eq {path : List String} {w : Json} (h : v.inner? path = some w) : v.part path = w := by
  rw [part, h]
  rfl

/-- What is present of a typed value has its kind. -/
theorem IsTyped.kind_part (h : v.IsTyped) {path : List String} {kind : Kind}
    (ht : (path, kind) ∈ typedParts) (hs : (v.inner? path).isSome) : (v.part path).kind = kind := by
  obtain ⟨w, hw⟩ := Option.isSome_iff_exists.1 hs
  rw [part_eq hw]
  exact h (path, kind) ht w hw

/-- The offset of a point of a typed value is an integer, if it is there. -/
theorem IsTyped.exists_offset (h : v.IsTyped) {name : String} (hname : name ∈ ["start", "end"])
    (hs : (v.inner? ["range", name, "offset"]).isSome) :
    ∃ i, v.inner? ["range", name, "offset"] = some (.int i) := by
  obtain ⟨w, hw⟩ := Option.isSome_iff_exists.1 hs
  have hkind : w.kind = .int := by
    rw [← part_eq hw]
    apply h.kind_part _ hs
    rcases List.mem_pair.1 hname with rfl | rfl <;> simp [typedParts]
  cases w with
  | int i => exact ⟨i, hw⟩
  | _ => cases hkind

end Json

namespace TokenRecord

open Json

namespace Check

variable {v : Json} {c : Check}

/-! ## Typed values suit the checks -/

/-- A check among those for fields is a check for a field. -/
theorem mem_fields_of_find? {path names : List String}
    (h : ((fields path names).find? fun c => ¬ c.Passes v) = some c) :
    ∃ name, c = .has path name := by
  obtain ⟨name, -, rfl⟩ := List.mem_map.1 (List.mem_of_find?_eq_some h)
  exact ⟨name, rfl⟩

/-- In a typed value the type can be looked up as a name. -/
theorem suits_known (hv : v.IsTyped) : known.Suits v := by
  rw [Suits]
  by_cases hname : (v.inner? ["type"]).isSome
  · have hkind : (v.part ["type"]).kind = .string := hv.kind_part (by simp [typedParts]) hname
    rw [hkind]
    decide
  · rw [part, Option.not_isSome_iff_eq_none.1 hname]
    decide

/-- A check that a point or one of its fields is there suits a typed value in which the range is
there. -/
theorem suits_of_find?_point (hv : v.IsTyped) {name : String} (hname : name ∈ ["start", "end"])
    (hrange : (v.inner? ["range"]).isSome)
    (h : ((has ["range"] name :: point name).find? fun c => ¬ c.Passes v) = some c) :
    c.Suits v := by
  by_cases hpoint : (has ["range"] name).Passes v
  · rw [List.find?_cons_of_neg (by simpa using hpoint)] at h
    obtain ⟨field, rfl⟩ := mem_fields_of_find? h
    apply hv.kind_part _ hpoint
    rcases List.mem_pair.1 hname with rfl | rfl <;> simp [typedParts]
  · rw [List.find?_cons_of_pos (by simpa using hpoint), Option.some.injEq] at h
    subst h
    exact hv.kind_part (by simp [typedParts]) hrange

-- The check belongs to one of the four groups of `all`, and all checks of the groups in front of it
-- are passed: whatever the check looks at is there, so it has its kind.
/-- In a typed value the first check that is not passed can be made on what it looks at. -/
theorem Stops.suits (h : c.Stops v) (hv : v.IsTyped) : c.Suits v := by
  rw [← find?_eq_some_iff_stops, all, List.find?_append, List.find?_append, List.find?_append] at h
  simp only [Option.or_eq_some_iff, Option.or_eq_none_iff, List.find?_eq_none, decide_eq_true_eq,
    not_not] at h
  rcases h with ((h | ⟨hself, h⟩) | ⟨⟨hself, -⟩, h⟩) | ⟨⟨⟨-, hstart⟩, hend⟩, h⟩
  · obtain ⟨name, rfl⟩ := mem_fields_of_find? h
    exact hv.kind_part (by simp [typedParts]) rfl
  · exact suits_of_find?_point hv (by simp) (hself (.has [] "range") (by simp [fields])) h
  · exact suits_of_find?_point hv (by simp) (hself (.has [] "range") (by simp [fields])) h
  · obtain rfl | rfl : c = known ∨ c = ordered := by
      simpa using List.mem_of_find?_eq_some h
    · exact suits_known hv
    · obtain ⟨i, hi⟩ := hv.exists_offset (by simp) (hstart (.has ["range", "start"] "offset")
        (by simp [point, fields]))
      obtain ⟨j, hj⟩ := hv.exists_offset (by simp) (hend (.has ["range", "end"] "offset")
        (by simp [point, fields]))
      refine ⟨decide (j < i), ?_⟩
      rw [pointIn, pointIn, part_eq hi, part_eq hj, exceeds_int]

end Check

/-! ## Stored tokens -/

/-- All checks are passed when all parts are there, the kind is known, and the points are in
order. -/
theorem forall_mem_all_iff {v : Json} :
    (∀ c ∈ Check.all, c.Passes v) ↔ (∀ path ∈ storedParts, (v.inner? path).isSome) ∧
      Check.known.Passes v ∧ Check.ordered.Passes v := by
  simp [Check.all, Check.point, Check.fields, storedParts, Check.Passes, and_assoc]

/-- A typed value is a stored token exactly if it passes all checks. -/
theorem isStored_iff {v : Json} (hv : v.IsTyped) :
    v.IsStored ↔ ∀ c ∈ Check.all, c.Passes v := by
  constructor
  · rintro ⟨hpresent, hknown, i, j, hi, hj, hle⟩
    have hordered : Check.ordered.Passes v := by
      rw [Check.Passes, pointIn, pointIn, part_eq hi, part_eq hj, exceeds_int_of_le hle]
    exact forall_mem_all_iff.2 ⟨hpresent, hknown, hordered⟩
  · intro h
    obtain ⟨hpresent, hknown, hordered⟩ := forall_mem_all_iff.1 h
    obtain ⟨i, hi⟩ := hv.exists_offset (by simp) (hpresent ["range", "start", "offset"]
      (by simp [storedParts]))
    obtain ⟨j, hj⟩ := hv.exists_offset (by simp) (hpresent ["range", "end", "offset"]
      (by simp [storedParts]))
    rw [Check.Passes, pointIn, pointIn, part_eq hi, part_eq hj, exceeds_int, Except.ok.injEq,
      decide_eq_false_iff_not, Int.not_lt] at hordered
    exact ⟨hpresent, hknown, i, j, hi, hj, hordered⟩

/-- A text that holds an array of typed values is read as tokens if and only if every value is a
stored token, and then the tokens carry what the values hold. Otherwise the first value that is none
is to blame, for the first check that it does not pass, and what is answered is a refusal. -/
theorem decode_of_isTyped {text : String} {items : List Json}
    (hread : Json.read text = .ok (.array items)) (hitems : ∀ v ∈ items, v.IsTyped) :
    ((∃ records, decode text = .ok records) ↔ ∀ v ∈ items, v.IsStored) ∧
      (∀ records, decode text = .ok records → List.Forall₂ Carries records items) ∧
      ((¬ ∀ v ∈ items, v.IsStored) → ∃ before v after, items = before ++ v :: after ∧
        (∀ u ∈ before, u.IsStored) ∧ ∃ c : Check, c.Stops v ∧
          decode text = .error (c.refusal v) ∧ (c.refusal v).isRefusal) := by
  have hdecode : decode text = ofItems items := decode_eq_ofArray hread
  have hstored : (∀ v ∈ items, v.IsStored) ↔ ∀ v ∈ items, ∀ c ∈ Check.all, c.Passes v :=
    forall₂_congr fun v hv => isStored_iff (hitems v hv)
  rw [hdecode, hstored]
  refine ⟨exists_ofItems_eq_ok_iff, fun records h => (ofItems_eq_ok_iff.1 h).2, fun h => ?_⟩
  obtain ⟨v, c, hstop⟩ := exists_stopsAt h
  have herror := ofItems_eq_error_of_stopsAt hstop
  obtain ⟨hstops, before, after, rfl, hbefore⟩ := hstop
  have hv : v.IsTyped := hitems v (by simp)
  refine ⟨before, v, after, rfl, fun u hu => ?_, c, hstops, ?_, Check.isRefusal_refusal⟩
  · exact (isStored_iff (hitems u (by simp [hu]))).2 (hbefore u hu)
  · rw [herror, Check.error_eq_refusal (hstops.suits hv)]

/-- Two values, of which the first one is a stored token. The second one lacks an offset, and its
type is not the name of a kind. -/
def twoFaults : String :=
  "[\x7b\"range\":\x7b\"start\":\x7b\"line\":1,\"column\":0,\"offset\":-3\x7d," ++
    "\"end\":\x7b\"line\":[],\"column\":0,\"offset\":0\x7d\x7d," ++
    "\"type\":\"EOF\",\"literal\":null,\"x\":\x7b\x7d\x7d,\n" ++
    "\x7b\"range\":\x7b\"start\":\x7b\"line\":1,\"column\":0,\"offset\":7\x7d," ++
    "\"end\":\x7b\"line\":1,\"column\":0\x7d\x7d,\"type\":\"eof\",\"literal\":\"\"\x7d]"

/-- The second of two values lacks an offset and names no kind: the missing offset is answered,
because it is looked at first. -/
theorem decode_of_isTyped_twoFaults :
    ∃ items, Json.read twoFaults = .ok (.array items) ∧ (∀ v ∈ items, v.IsTyped) ∧
      (¬ ∀ v ∈ items, v.IsStored) ∧ ∃ before v after, items = before ++ v :: after ∧
        (∀ u ∈ before, u.IsStored) ∧ ∃ c : Check, c.Stops v ∧
          decode twoFaults = .error (c.refusal v) ∧ (c.refusal v).isRefusal := by
  have hfound : (match Json.read twoFaults with
      | .ok (.array items) => decide ((∀ v ∈ items, v.IsTyped) ∧
          ∃ v ∈ items, (v.inner? ["range", "end", "offset"]).isNone)
      | .ok .null | .ok (.bool _) | .ok (.int _) | .ok (.float _) | .ok (.string _)
      | .ok (.object _) | .error _ => false) = true := by
    decide +kernel
  split at hfound
  case h_1 items hread =>
    obtain ⟨htyped, v, hv, hoffset⟩ := of_decide_eq_true hfound
    have hnot : ¬ ∀ v ∈ items, v.IsStored := by
      intro h
      have hsome := (h v hv).present ["range", "end", "offset"] (by simp [storedParts])
      rw [Option.isNone_iff_eq_none.1 hoffset] at hsome
      cases hsome
    exact ⟨items, hread, htyped, hnot, (decode_of_isTyped hread htyped).2.2 hnot⟩
  all_goals cases hfound

end TokenRecord

end BlockScan
