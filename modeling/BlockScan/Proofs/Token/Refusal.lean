import BlockScan.Proofs.Token.Checks

/-!
# Refusing a text

A text that holds no stored tokens is refused: it is no JSON or no array, a field is missing, a kind
is unknown or a start lies after its end. The checks are made on values of any kind, though, and a
value may be asked for something that values of its kind do not have: a number for its fields, an
array as a name, a text and a number for their order. A text is accepted or refused if and only if
this does not happen at the check that decides (`decode_refused_iff`), and it may happen
(`not_forall_decode_refused`).
-/

set_option autoImplicit false

namespace BlockScan

/-- Whether an error says of a text that it holds no stored tokens. The other errors say of a value
that it cannot be asked for its fields, as a name or for its order. -/
def DecodeError.isRefusal : DecodeError → Bool
  | .malformed _ | .notArray _ | .missing _ | .unknownKind _ | .reversed .. => true
  | .noFields _ | .noName _ | .unordered _ => false

namespace TokenRecord

namespace Check

variable (v : Json)

/-- What a check looks at is of a kind that it can be made on: fields are asked of an object, a name
is a value that can be looked up, and the two offsets are ordered. -/
def Suits : Check → Prop
  | has path _ => (v.part path).kind = .object
  | known => (v.part ["type"]).kind ≠ .array ∧ (v.part ["type"]).kind ≠ .object
  | ordered => ∃ b, (pointIn v "start").offset.exceeds (pointIn v "end").offset = .ok b

/-- What is answered when a value that suits a check does not pass it. -/
def refusal : Check → DecodeError
  | has _ name => .missing name
  | known => .unknownKind (v.part ["type"])
  | ordered => .reversed (pointIn v "start") (pointIn v "end")

variable {v} {c : Check}

/-- A check that can be made answers as the format says. -/
theorem error_eq_refusal (h : c.Suits v) : c.error v = c.refusal v := by
  cases c with
  | has path name => exact if_pos h
  | known =>
    rw [error, refusal]
    cases hw : v.part ["type"] with
    | array items => exact absurd (congrArg Json.kind hw) h.1
    | object fields => exact absurd (congrArg Json.kind hw) h.2
    | _ => rfl
  | ordered =>
    obtain ⟨b, hb⟩ := h
    rw [error, refusal, hb]

/-- What the format says is always a refusal. -/
theorem isRefusal_refusal : (c.refusal v).isRefusal = true := by
  cases c <;> rfl

/-- A check that is not passed is answered with a refusal exactly if it can be made. -/
theorem isRefusal_error_iff : (c.error v).isRefusal = true ↔ c.Suits v := by
  refine ⟨fun h => ?_, fun h => error_eq_refusal h ▸ isRefusal_refusal⟩
  cases c with
  | has path name =>
    by_contra hkind
    rw [Suits] at hkind
    rw [error, if_neg hkind] at h
    cases h
  | known =>
    rw [error] at h
    cases hw : v.part ["type"] with
    | array items =>
      rw [hw] at h
      cases h
    | object fields =>
      rw [hw] at h
      cases h
    | _ =>
      rw [Suits, hw]
      exact ⟨by simp [Json.kind], by simp [Json.kind]⟩
  | ordered =>
    rw [error] at h
    cases hb : (pointIn v "start").offset.exceeds (pointIn v "end").offset with
    | error e =>
      rw [hb] at h
      cases h
    | ok b => exact ⟨b, hb⟩

end Check

/-- A text is accepted or refused if and only if it holds no array, or an array in which the first
value that does not pass all checks suits the check that it does not pass. -/
theorem decode_refused_iff (text : String) :
    ((∃ records, decode text = .ok records) ∨ ∃ e, decode text = .error e ∧ e.isRefusal) ↔
      ∀ items, Json.read text = .ok (.array items) →
        ∀ (v : Json) (c : Check), c.StopsAt v items → c.Suits v := by
  cases hread : Json.read text with
  | error e =>
    have hdecode : decode text = .error (.malformed e) := by
      rw [decode, hread]
      rfl
    simp [hdecode, DecodeError.isRefusal]
  | ok value =>
    rw [decode_eq_ofArray hread]
    cases value with
    | array items =>
      simp only [Except.ok.injEq, Json.array.injEq, forall_eq']
      constructor
      · intro h v c hstop
        have herror : ofArray (.array items) = .error (c.error v) :=
          ofItems_eq_error_of_stopsAt hstop
        rw [herror] at h
        simpa [Check.isRefusal_error_iff] using h
      · intro h
        by_cases hpass : ∀ v ∈ items, ∀ c ∈ Check.all, c.Passes v
        · exact .inl (exists_ofItems_eq_ok_iff.2 hpass)
        · obtain ⟨v, c, hstop⟩ := exists_stopsAt hpass
          refine .inr ⟨c.error v, ofItems_eq_error_of_stopsAt hstop, ?_⟩
          exact Check.isRefusal_error_iff.2 (h v c hstop)
    | _ => simp [ofArray, DecodeError.isRefusal]

/-- A stored token whose type is an array. -/
def namedByArray : String :=
  "[\x7b\"type\": [], \"literal\": \"x\", \"range\": " ++
    "\x7b\"start\": \x7b\"line\": 1, \"column\": 0, \"offset\": 0\x7d, " ++
    "\"end\": \x7b\"line\": 1, \"column\": 1, \"offset\": 1\x7d\x7d\x7d]"

/-- Not every text is either decoded or refused: a token whose type is an array ends in an error of
another class. -/
theorem not_forall_decode_refused :
    ¬ ∀ text, (∃ records, decode text = .ok records) ∨
      ∃ e, decode text = .error e ∧ e.isRefusal := by
  intro h
  have hfails : (match decode namedByArray with
      | .ok _ => true
      | .error e => e.isRefusal) = false := by
    decide +kernel
  rcases h namedByArray with ⟨records, hrecords⟩ | ⟨e, he, hrefusal⟩
  · simp [hrecords] at hfails
  · simp [he, hrefusal] at hfails

end TokenRecord

end BlockScan
