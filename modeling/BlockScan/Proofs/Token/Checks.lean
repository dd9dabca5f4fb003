import BlockScan.Proofs.Token.Canonical

/-!
# The checks a stored token goes through

A value is read as a stored token by a fixed sequence of checks (`Check.all`): the fields of the
token and of its two points must be there, the type must name a kind of tokens, and the start must
not lie after the end. The first check that is not passed decides what the reader answers
(`ofJson_eq_settle`), and of the values of an array the first one that does not pass them all
(`ofItems_eq_error_of_stopsAt`).
-/

set_option autoImplicit false

namespace BlockScan

namespace Json

variable (v : Json)

/-- The value at the end of a path of names; none when a field on the way is missing. -/
def inner? (path : List String) : Option Json := path.foldlM (fun w name => w.field? name) v

/-- The value at the end of a path of names; null when a field on the way is missing. -/
def part (path : List String) : Json := (v.inner? path).getD .null

/-- A path with one more name leads to a field of the value at its end. -/
theorem inner?_concat (path : List String) (name : String) :
    v.inner? (path ++ [name]) = (v.part path).field? name := by
  rw [part, inner?, List.foldlM_append, ← inner?]
  cases v.inner? path with
  | none => rfl
  | some w => exact bind_pure (w.field? name)

/-- A path with one more name leads to a field of the value at its end also where a field that is
not there counts as null. -/
theorem part_concat (path : List String) (name : String) :
    v.part (path ++ [name]) = ((v.part path).field? name).getD .null := by
  rw [part, inner?_concat]

variable {v}

/-- A field that is there is found. -/
theorem require_of_field?_eq_some {w : Json} {name : String} (h : v.field? name = some w) :
    v.require name = .ok w := by
  cases v with
  | object fields =>
    have hlookup : fields.lookup name = some w := h
    simp only [require, hlookup]
  | _ => cases h

/-- A field that is not there is missing from an object, and cannot be asked of anything else. -/
theorem require_of_field?_eq_none {name : String} (h : v.field? name = none) :
    v.require name = .error (if v.kind = .object then .missing name else .noFields v.kind) := by
  cases v with
  | object fields =>
    have hlookup : fields.lookup name = none := h
    simp only [require, hlookup]
    rfl
  | _ => rfl

end Json

namespace TokenKind

/-- A name is that of one kind at most. -/
theorem ofName?_eq_some_iff {name : String} {kind : TokenKind} :
    ofName? name = some kind ↔ name = kind.name := by
  constructor
  · intro h
    have hname := List.find?_some h
    exact (beq_iff_eq.1 hname).symm
  · rintro rfl
    exact ofName?_name kind

/-- A kind is read from its name, and from nothing else. -/
theorem ofJson_eq_ok_iff {v : Json} {kind : TokenKind} :
    ofJson v = .ok kind ↔ v = .string kind.name := by
  cases v with
  | string name =>
    rw [ofJson, Json.string.injEq, ← ofName?_eq_some_iff]
    cases ofName? name <;> simp
  | _ => simp [ofJson]

/-- What is answered for a value that names no kind. -/
def unnamed (v : Json) : DecodeError :=
  match v with
  | .array _ | .object _ => .noName v.kind
  | _ => .unknownKind v

/-- What is answered for a value that names no kind depends on the value alone. -/
theorem eq_unnamed_of_ofJson {v : Json} {e : DecodeError} (h : ofJson v = .error e) :
    e = unnamed v := by
  cases v with
  | string name =>
    rw [ofJson] at h
    cases hname : ofName? name <;> simp [hname] at h
    exact h.symm
  | _ =>
    cases h
    rfl

end TokenKind

namespace TokenRecord

/-- What is checked of a stored token. -/
inductive Check where
  /-- The value at the end of a path has a field. -/
  | has (path : List String) (name : String)
  /-- The type is the name of a kind of tokens. -/
  | known
  /-- The start does not lie after the end. -/
  | ordered

/-- One of the two points of a stored token, as it is found there. -/
def pointIn (v : Json) (name : String) : PointRecord where
  line := v.part ["range", name, "line"]
  column := v.part ["range", name, "column"]
  offset := v.part ["range", name, "offset"]
  file := v.part ["range", name, "source_file"]

namespace Check

/-- The checks that fields of a value are there. -/
def fields (path names : List String) : List Check := names.map (has path)

/-- The checks that the fields of a point are there. -/
def point (name : String) : List Check := fields ["range", name] ["line", "column", "offset"]

/-- All checks in the order in which they are made. -/
def all : List Check :=
  fields [] ["type", "literal", "range"] ++
    (has ["range"] "start" :: point "start") ++ (has ["range"] "end" :: point "end") ++
      [known, ordered]

variable (v : Json)

/-- Whether a value passes a check. -/
def Passes : Check → Prop
  | has path name => (v.inner? (path ++ [name])).isSome
  | known => ∃ kind : TokenKind, v.inner? ["type"] = some (.string kind.name)
  | ordered => (pointIn v "start").offset.exceeds (pointIn v "end").offset = .ok false

/-- What is answered when a value does not pass a check. A value that is asked for a field, for the
kind that it names or for its order may also be of a kind that cannot be asked for that. -/
def error : Check → DecodeError
  | has path name =>
    if (v.part path).kind = .object then .missing name else .noFields (v.part path).kind
  | known => TokenKind.unnamed (v.part ["type"])
  | ordered =>
    match (pointIn v "start").offset.exceeds (pointIn v "end").offset with
    | .error e => .unordered e
    | .ok _ => .reversed (pointIn v "start") (pointIn v "end")

/-- The check of the kind is passed exactly if the kind can be read. -/
theorem passes_known_iff :
    known.Passes v ↔ ∃ kind, TokenKind.ofJson (v.part ["type"]) = .ok kind := by
  simp only [Passes, TokenKind.ofJson_eq_ok_iff, Json.part]
  cases v.inner? ["type"] <;> simp

/-- Every check can be decided, since it asks for one field, one name or one comparison. -/
instance (c : Check) : Decidable (c.Passes v) :=
  match c with
  | has path name => inferInstanceAs (Decidable ((v.inner? (path ++ [name])).isSome = true))
  | known => decidable_of_iff ((TokenKind.ofJson (v.part ["type"])).isOk = true) (by
      rw [passes_known_iff]
      cases TokenKind.ofJson (v.part ["type"]) <;> simp [Except.isOk, Except.toBool])
  | ordered => inferInstanceAs
      (Decidable ((pointIn v "start").offset.exceeds (pointIn v "end").offset = .ok false))

end Check

/-! ## One value -/

section Settle

variable {α β : Type} (v : Json)

/-- The answer of a sequence of checks: that of the first one that is not passed, or what comes
behind them. -/
def settle (checks : List Check) (behind : Except DecodeError α) : Except DecodeError α :=
  match checks.find? fun c => ¬ c.Passes v with
  | some c => .error (c.error v)
  | none => behind

variable {v} {c : Check} {cs ds : List Check} {x : Except DecodeError α}

/-- A check that is passed leaves the answer to the others. -/
theorem settle_cons_of_passes (h : c.Passes v) : settle v (c :: cs) x = settle v cs x := by
  simp [settle, h]

/-- A check that is not passed is answered. -/
theorem settle_cons_of_not (h : ¬ c.Passes v) : settle v (c :: cs) x = .error (c.error v) := by
  simp [settle, h]

/-- Checks can be made in two parts. -/
theorem settle_append : settle v (cs ++ ds) x = settle v cs (settle v ds x) := by
  rw [settle, settle, List.find?_append]
  cases cs.find? fun c => ¬ c.Passes v <;> rfl

/-- Going on after some checks is going on with what comes behind them. -/
theorem settle_bind (f : α → Except DecodeError β) :
    (settle v cs x >>= f) = settle v cs (x >>= f) := by
  rw [settle, settle]
  cases cs.find? fun c => ¬ c.Passes v <;> rfl

/-- Asking for a field is the check that it is there. -/
theorem require_bind (path : List String) (name : String) (f : Json → Except DecodeError α) :
    ((v.part path).require name >>= f) =
      settle v [.has path name] (f (v.part (path ++ [name]))) := by
  have hinner := v.inner?_concat path name
  have hpart := v.part_concat path name
  cases hw : (v.part path).field? name with
  | some w =>
    rw [hw] at hinner hpart
    rw [settle_cons_of_passes (by simp [Check.Passes, hinner]), hpart,
      Json.require_of_field?_eq_some hw]
    rfl
  | none =>
    rw [hw] at hinner
    rw [settle_cons_of_not (by simp [Check.Passes, hinner]), Json.require_of_field?_eq_none hw]
    rfl

/-- Asking the token itself for a field is the check that it is there. -/
theorem require_bind_self (name : String) (f : Json → Except DecodeError α) :
    (v.require name >>= f) = settle v [.has [] name] (f (v.part [name])) :=
  require_bind [] name f

/-- Reading a point is the checks for its fields, in order. -/
theorem point_bind (name : String) (f : PointRecord → Except DecodeError α) :
    (PointRecord.ofJson (v.part ["range", name]) >>= f) =
      settle v (Check.point name) (f (pointIn v name)) := by
  have hfile := v.part_concat ["range", name] "source_file"
  have hpoint : PointRecord.ofJson (v.part ["range", name]) =
      settle v (Check.point name) (.ok (pointIn v name)) := by
    rw [PointRecord.ofJson, ← hfile, require_bind, require_bind, require_bind, ← settle_append,
      ← settle_append]
    rfl
  rw [hpoint, settle_bind]
  rfl

/-- Reading the kind is the check that it is known. -/
theorem kind_bind {f : TokenKind → Except DecodeError α}
    (h : ∀ kind, TokenKind.ofJson (v.part ["type"]) = .ok kind → f kind = settle v cs x) :
    (TokenKind.ofJson (v.part ["type"]) >>= f) = settle v (.known :: cs) x := by
  cases hkind : TokenKind.ofJson (v.part ["type"]) with
  | ok kind =>
    rw [settle_cons_of_passes ((Check.passes_known_iff v).2 ⟨kind, hkind⟩)]
    exact h kind hkind
  | error e =>
    have hnot : ¬ Check.known.Passes v := by
      rw [Check.passes_known_iff, hkind]
      simp
    rw [settle_cons_of_not hnot, Check.error, ← TokenKind.eq_unnamed_of_ofJson hkind]
    rfl

/-- Comparing the two offsets is the check that they are in order. -/
theorem match_exceeds (r : α) :
    (match (pointIn v "start").offset.exceeds (pointIn v "end").offset with
      | .error e => .error (.unordered e)
      | .ok true => .error (.reversed (pointIn v "start") (pointIn v "end"))
      | .ok false => .ok r) = settle v [.ordered] (.ok r) := by
  cases h : (pointIn v "start").offset.exceeds (pointIn v "end").offset with
  | error e =>
    rw [settle_cons_of_not (by simp [Check.Passes, h]), Check.error, h]
  | ok b =>
    cases b with
    | true => rw [settle_cons_of_not (by simp [Check.Passes, h]), Check.error, h]
    | false =>
      rw [settle_cons_of_passes (c := .ordered) h]
      rfl

/-- The first check that a value does not pass decides. -/
theorem ofJson_eq_settle (v : Json) :
    ofJson v = settle v Check.all ((TokenKind.ofJson (v.part ["type"])).map fun kind =>
      ⟨kind, v.part ["literal"], pointIn v "start", pointIn v "end"⟩) := by
  -- a field that is fetched is a check in front of what is done with it, from first to last
  rw [ofJson, require_bind_self, require_bind_self, require_bind_self, require_bind,
    List.singleton_append, point_bind, require_bind, List.singleton_append, point_bind, kind_bind]
  · simp only [← settle_append]
    rfl
  · intro kind hkind
    rw [hkind]
    exact match_exceeds _

/-- There is a result exactly if all checks are passed and what comes behind has one. -/
theorem settle_eq_ok_iff {a : α} :
    settle v cs x = .ok a ↔ (∀ c ∈ cs, c.Passes v) ∧ x = .ok a := by
  rw [settle]
  cases h : cs.find? fun c => ¬ c.Passes v with
  | none =>
    have hall : ∀ c ∈ cs, c.Passes v := by simpa using h
    exact (and_iff_right hall).symm
  | some c =>
    have hc : ¬ c.Passes v := by simpa using List.find?_some h
    have hmem := List.mem_of_find?_eq_some h
    simp only [reduceCtorEq, false_iff, not_and]
    exact fun hall => absurd (hall c hmem) hc

end Settle

/-- The check is the first one that a value does not pass. -/
def Check.Stops (c : Check) (v : Json) : Prop :=
  ¬ c.Passes v ∧ ∃ earlier later, all = earlier ++ c :: later ∧ ∀ d ∈ earlier, d.Passes v

/-- A record holds what is found in a value, unchanged. A file that is not there counts as null. -/
structure Carries (r : TokenRecord) (v : Json) : Prop where
  kind : .string r.kind.name = v.part ["type"]
  literal : r.literal = v.part ["literal"]
  start : r.start = pointIn v "start"
  stop : r.stop = pointIn v "end"

variable {v : Json} {r : TokenRecord} {e : DecodeError}

/-- A token is read exactly if it passes all checks, and then it carries what is stored. -/
theorem ofJson_eq_ok_iff :
    ofJson v = .ok r ↔ (∀ c ∈ Check.all, c.Passes v) ∧ r.Carries v := by
  rw [ofJson_eq_settle, settle_eq_ok_iff, and_congr_right_iff]
  intro _
  constructor
  · intro h
    cases hkind : TokenKind.ofJson (v.part ["type"]) with
    | error e => simp [hkind, Except.map] at h
    | ok kind =>
      rw [hkind, Except.map, Except.ok.injEq] at h
      subst h
      exact ⟨(TokenKind.ofJson_eq_ok_iff.1 hkind).symm, rfl, rfl, rfl⟩
  · rintro ⟨hkind, hliteral, hstart, hstop⟩
    rw [TokenKind.ofJson_eq_ok_iff.2 hkind.symm, ← hliteral, ← hstart, ← hstop]
    rfl

/-- A token is read exactly if it passes all checks. -/
theorem exists_ofJson_eq_ok_iff :
    (∃ r, ofJson v = .ok r) ↔ ∀ c ∈ Check.all, c.Passes v := by
  constructor
  · rintro ⟨r, h⟩
    exact (ofJson_eq_ok_iff.1 h).1
  · intro h
    obtain ⟨kind, hkind⟩ := (Check.passes_known_iff v).1 (h .known (by simp [Check.all]))
    have hname := (TokenKind.ofJson_eq_ok_iff.1 hkind).symm
    exact ⟨⟨kind, _, _, _⟩, ofJson_eq_ok_iff.2 ⟨h, hname, rfl, rfl, rfl⟩⟩

/-- The first check that is not passed is the one that stops a value. -/
theorem find?_eq_some_iff_stops {c : Check} :
    (Check.all.find? fun c => ¬ c.Passes v) = some c ↔ c.Stops v := by
  simp [List.find?_eq_some_iff_append, Check.Stops]

/-- The check that stops a value is answered. -/
theorem ofJson_eq_error_of_stops {c : Check} (h : c.Stops v) : ofJson v = .error (c.error v) := by
  rw [ofJson_eq_settle, settle, find?_eq_some_iff_stops.2 h]

/-- When not all checks are passed, one of them is the first that is not. -/
theorem exists_stops (h : ¬ ∀ c ∈ Check.all, c.Passes v) : ∃ c : Check, c.Stops v := by
  cases hfind : Check.all.find? fun c => ¬ c.Passes v with
  | none => exact absurd (by simpa using hfind) h
  | some c => exact ⟨c, find?_eq_some_iff_stops.1 hfind⟩

/-! ## A list of values -/

/-- The check is the first one that is not passed, and the value the first one that does not pass
it, in a list of values that are read one after another. -/
def Check.StopsAt (c : Check) (v : Json) (items : List Json) : Prop :=
  c.Stops v ∧
    ∃ before after, items = before ++ v :: after ∧ ∀ u ∈ before, ∀ d ∈ all, d.Passes u

variable {items : List Json} {c : Check}

/-- A list is read exactly if each value passes all checks, and then each record carries its
value. -/
theorem ofItems_eq_ok_iff {records : List TokenRecord} :
    ofItems items = .ok records ↔
      (∀ v ∈ items, ∀ c ∈ Check.all, c.Passes v) ∧ List.Forall₂ Carries records items := by
  induction items generalizing records with
  | nil => cases records <;> simp [ofItems]
  | cons v items ih =>
    rw [List.forall_mem_cons]
    constructor
    · intro h
      obtain ⟨r, hr, h⟩ := exists_of_bind_eq_ok h
      obtain ⟨rs, hrs, h⟩ := exists_of_bind_eq_ok h
      cases h
      obtain ⟨hpass, hcarries⟩ := ofJson_eq_ok_iff.1 hr
      obtain ⟨hpassed, hcarried⟩ := ih.1 hrs
      exact ⟨⟨hpass, hpassed⟩, .cons hcarries hcarried⟩
    · rintro ⟨⟨hpass, hpassed⟩, hcarried⟩
      cases hcarried with
      | cons hcarries hcarried =>
        rw [ofItems, ofJson_eq_ok_iff.2 ⟨hpass, hcarries⟩, ih.2 ⟨hpassed, hcarried⟩]
        rfl

/-- A list is read exactly if each value passes all checks. -/
theorem exists_ofItems_eq_ok_iff :
    (∃ records, ofItems items = .ok records) ↔ ∀ v ∈ items, ∀ c ∈ Check.all, c.Passes v := by
  constructor
  · rintro ⟨records, h⟩
    exact (ofItems_eq_ok_iff.1 h).1
  · intro h
    induction items with
    | nil => exact ⟨[], rfl⟩
    | cons v items ih =>
      rw [List.forall_mem_cons] at h
      obtain ⟨r, hr⟩ := exists_ofJson_eq_ok_iff.2 h.1
      obtain ⟨rs, hrs⟩ := ih h.2
      refine ⟨r :: rs, ?_⟩
      rw [ofItems, hr, hrs]
      rfl

/-- The first check that stops the first value to be stopped is answered for the list. -/
theorem ofItems_eq_error_of_stopsAt (h : c.StopsAt v items) :
    ofItems items = .error (c.error v) := by
  obtain ⟨hstop, before, after, rfl, hpassed⟩ := h
  induction before with
  | nil =>
    rw [List.nil_append, ofItems, ofJson_eq_error_of_stops hstop]
    rfl
  | cons u before ih =>
    rw [List.forall_mem_cons] at hpassed
    obtain ⟨r, hr⟩ := exists_ofJson_eq_ok_iff.2 hpassed.1
    rw [List.cons_append, ofItems, hr, ih hpassed.2]
    rfl

/-- When not all values pass all checks, one value is the first that does not. -/
theorem exists_stopsAt (h : ¬ ∀ v ∈ items, ∀ c ∈ Check.all, c.Passes v) :
    ∃ (v : Json) (c : Check), c.StopsAt v items := by
  induction items with
  | nil => simp at h
  | cons u items ih =>
    by_cases hu : ∀ c ∈ Check.all, c.Passes u
    · rw [List.forall_mem_cons, not_and] at h
      obtain ⟨v, c, hstop, before, after, rfl, hpassed⟩ := ih (h hu)
      exact ⟨v, c, hstop, u :: before, after, rfl, List.forall_mem_cons.2 ⟨hu, hpassed⟩⟩
    · obtain ⟨c, hstop⟩ := exists_stops hu
      exact ⟨u, c, hstop, [], items, rfl, by simp⟩

/-! ## A text -/

/-- Behind the reading of the text, decoding looks at the value alone. -/
theorem decode_eq_ofArray {text : String} (h : Json.read text = .ok v) :
    decode text = ofArray v := by
  rw [decode, h]
  rfl

end TokenRecord

end BlockScan
