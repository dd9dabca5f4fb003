import BlockScan.Json.Reader
import BlockScan.Proofs.Json.Sorted

/-!
# What is read is regular

A text may give the same name twice in one object, but what is read from it does not: a name that
comes again takes its old place. And an integer with too many digits is not read at all. The reader
keeps both in everything it has read so far (`regular_of_readFrom`), so they hold of every value it
brings.
-/

set_option autoImplicit false

namespace BlockScan.Json

/-- No object in a value holds a name twice, and no integer in it has too many digits. -/
inductive Regular : Json → Prop
  | null : Regular .null
  | bool (b : Bool) : Regular (.bool b)
  | int {i : Int} (short : Decimal.isLong i = false) : Regular (.int i)
  | float (x : Float) : Regular (.float x)
  | string (s : String) : Regular (.string s)
  | array {items : List Json} (h : ∀ v ∈ items, Regular v) : Regular (.array items)
  | object {fields : List (String × Json)} (names : (fields.map Prod.fst).Nodup)
      (h : ∀ f ∈ fields, Regular f.2) : Regular (.object fields)

/-- Whether there is a floating-point number in a value. -/
def holdsFloat (v : Json) : Bool := v.holds fun w => w.kind == .float

/-- A regular value in which there is no floating-point number is told apart by its text. -/
theorem Regular.exact {v : Json} (hv : v.Regular) (hf : v.holdsFloat = false) : v.Exact := by
  induction hv with
  | null => exact .null
  | bool b => exact .bool b
  | int short => exact .int short
  | float x => cases hf
  | string s => exact .string s
  | array h ih =>
    rw [holdsFloat, holds, itemsHold_eq_any, List.any_eq_false] at hf
    apply Exact.array
    intro v hv
    exact ih v hv (Bool.eq_false_iff.2 (hf v hv))
  | object names h ih =>
    rw [holdsFloat, holds, fieldsHold_eq_any, List.any_eq_false] at hf
    apply Exact.object names
    intro f hmem
    exact ih f hmem (Bool.eq_false_iff.2 (hf f hmem))

/-- There is no integer with too many digits in a regular value. -/
theorem Regular.not_holds_isLong {v : Json} (hv : v.Regular) : v.holds isLong = false := by
  induction hv with
  | null => rfl
  | bool b => rfl
  | int short => exact short
  | float x => rfl
  | string s => rfl
  | array h ih =>
    rw [holds, itemsHold_eq_any, List.any_eq_false]
    intro v hv
    exact Bool.eq_false_iff.1 (ih v hv)
  | object names h ih =>
    rw [holds, fieldsHold_eq_any, List.any_eq_false]
    intro f hf
    exact Bool.eq_false_iff.1 (ih f hf)

section Fields

variable {fields : List (String × Json)} {items : List Json} {name : String} {v w : Json}

/-- What a name stands for in a regular object is regular. -/
theorem regular_of_lookup_eq_some (h : (object fields).Regular)
    (hv : fields.lookup name = some v) : v.Regular := by
  cases h with
  | object names h => exact h (name, v) ((lookup_eq_some_iff_mem names).1 hv)

/-- Setting a field adds its name and no other one. -/
theorem mem_map_fst_putField {n : String} :
    n ∈ (putField name v fields).map Prod.fst ↔ n = name ∨ n ∈ fields.map Prod.fst := by
  induction fields with
  | nil => simp [putField]
  | cons f rest ih =>
    rw [putField]
    split
    · next h =>
      subst h
      simp
    · rw [List.map_cons, List.map_cons, List.mem_cons, List.mem_cons, ih]
      exact or_left_comm

/-- Setting a field replaces the one with its name, so names stay apart. -/
theorem nodup_putField (h : (fields.map Prod.fst).Nodup) :
    ((putField name v fields).map Prod.fst).Nodup := by
  induction fields with
  | nil => simp [putField]
  | cons f rest ih =>
    rw [List.map_cons, List.nodup_cons] at h
    rw [putField]
    split
    · rw [List.map_cons, List.nodup_cons]
      exact h
    · next hne =>
      rw [List.map_cons, List.nodup_cons, mem_map_fst_putField, not_or]
      exact ⟨⟨hne, h.1⟩, ih h.2⟩

/-- After a field was set, every value is the one that was set or was there before. -/
theorem mem_putField {f : String × Json} (h : f ∈ putField name v fields) :
    f.2 = v ∨ f ∈ fields := by
  induction fields with
  | nil =>
    rw [putField, List.mem_singleton] at h
    exact .inl (congrArg Prod.snd h)
  | cons g rest ih =>
    rw [putField] at h
    split at h
    · rcases List.mem_cons.1 h with rfl | h
      · exact .inl rfl
      · exact .inr (List.mem_cons_of_mem _ h)
    · rcases List.mem_cons.1 h with rfl | h
      · exact .inr (List.mem_cons_self ..)
      · exact (ih h).imp_right (List.mem_cons_of_mem _)

/-- Setting a field keeps the names of an object apart, whether or not the name is there already. -/
theorem regular_putField (h : (object fields).Regular) (hv : v.Regular) :
    (object (putField name v fields)).Regular := by
  cases h with
  | object names h =>
    apply Regular.object (nodup_putField names)
    intro f hf
    rcases mem_putField hf with heq | hmem
    · rwa [heq]
    · exact h f hmem

/-- One more regular item keeps an array regular. -/
theorem regular_cons (hv : v.Regular) (h : (array items).Regular) :
    (array (v :: items)).Regular := by
  cases h with
  | array h =>
    apply Regular.array
    intro w hw
    rcases List.mem_cons.1 hw with rfl | hw
    · exact hv
    · exact h w hw

/-- The order of its items has no part in whether an array is regular. -/
theorem regular_reverse (h : (array items).Regular) : (array items.reverse).Regular := by
  cases h with
  | array h =>
    apply Regular.array
    intro w hw
    exact h w (List.mem_reverse.1 hw)

end Fields

/-- A word or number is no array and no object, so it is regular unless it has too many digits. -/
theorem regular_of_readScalar? {cs rest : List Char} {v : Json}
    (h : readScalar? cs = some (v, rest)) (hlong : v.isLong = false) : v.Regular := by
  rw [readScalar?, Option.or_eq_some_iff] at h
  rcases h with h | ⟨-, h⟩
  · obtain ⟨w, hw, h⟩ := List.exists_of_findSome?_eq_some h
    obtain ⟨left, -, heq⟩ := Option.map_eq_some_iff.1 h
    rw [Prod.mk.injEq] at heq
    obtain ⟨rfl, -⟩ := heq
    simp only [words, List.mem_cons, List.not_mem_nil, or_false] at hw
    rcases hw with rfl | rfl | rfl | rfl | rfl | rfl
    · exact .null
    · exact .bool true
    · exact .bool false
    all_goals exact .float _
  · have hvalue : ∀ n : Numeral, n.value.isLong = false → n.value.Regular := by
      intro n hn
      rw [Numeral.value] at hn ⊢
      split at hn
      · rw [if_pos ‹_›]
        exact .int hn
      · rw [if_neg ‹_›]
        exact .float _
    unfold readNumber? at h
    split at h
    next negative body hbody =>
    simp only at h
    split at h
    · simp at h
    · rw [Option.some.injEq, Prod.mk.injEq] at h
      rw [← h.1] at hlong ⊢
      exact hvalue _ hlong

/-- What was read of a goal is regular. -/
def Goal.Regular : Goal → Prop
  | .value => True
  | .name fields => (object fields).Regular
  | .colon fields _ => (object fields).Regular
  | .after v => v.Regular

/-- What was read of a frame is regular. -/
def Frame.Regular : Frame → Prop
  | .array items => (Json.array items).Regular
  | .object fields _ => (Json.object fields).Regular

/-- A reader that has read nothing but regular values brings a regular value. -/
theorem regular_of_readFrom {goal : Goal} {frames : List Frame} {cs : List Char} {v : Json}
    (hgoal : goal.Regular) (hframes : ∀ f ∈ frames, f.Regular)
    (h : readFrom goal frames cs = .ok v) : v.Regular := by
  have hnil : (Json.array []).Regular := .array (by simp)
  have hnone : (Json.object []).Regular := .object .nil (by simp)
  fun_induction readFrom goal frames cs with
  | case1 frames cs rest hskip rest' hskip' ih => exact ih hnil hframes h
  | case2 frames cs rest hskip hopen ih =>
    exact ih trivial (List.forall_mem_cons.2 ⟨hnil, hframes⟩) h
  | case3 frames cs rest hskip rest' hskip' ih => exact ih hnone hframes h
  | case4 frames cs rest hskip hopen ih => exact ih hnone hframes h
  | case5 frames cs rest hskip s rest' hs ih => exact ih (.string _) hframes h
  | case8 frames cs v rest' hlong _ _ _ hv ih =>
    exact ih (regular_of_readScalar? hv (Bool.eq_false_iff.2 hlong)) hframes h
  | case10 frames cs fields rest hskip s rest' hs ih => exact ih hgoal hframes h
  | case13 frames cs fields name rest hskip ih =>
    exact ih trivial (List.forall_mem_cons.2 ⟨hgoal, hframes⟩) h
  | case15 cs v hend =>
    rw [Except.ok.injEq] at h
    rwa [← h]
  | case17 cs v items outer rest hskip ih =>
    rw [List.forall_mem_cons] at hframes
    exact ih trivial (List.forall_mem_cons.2 ⟨regular_cons hgoal hframes.1, hframes.2⟩) h
  | case18 cs v items outer rest hskip ih =>
    rw [List.forall_mem_cons] at hframes
    exact ih (regular_reverse (regular_cons hgoal hframes.1)) hframes.2 h
  | case20 cs v fields name outer rest hskip ih =>
    rw [List.forall_mem_cons] at hframes
    exact ih (regular_putField hframes.1 hgoal) hframes.2 h
  | case21 cs v fields name outer rest hskip ih =>
    rw [List.forall_mem_cons] at hframes
    exact ih (regular_putField hframes.1 hgoal) hframes.2 h
  | _ => cases h

/-- Every value that is read is regular. -/
theorem regular_of_read {text : String} {v : Json} (h : read text = .ok v) : v.Regular := by
  unfold read at h
  simp only at h
  split at h
  · cases h
  · cases hread : readFrom .value [] text.toList with
    | error fault => simp [hread, Except.mapError] at h
    | ok w =>
      rw [hread, Except.mapError, Except.ok.injEq] at h
      have hgoal : Goal.value.Regular := trivial
      rw [← h]
      exact regular_of_readFrom hgoal (by simp) hread

end BlockScan.Json
