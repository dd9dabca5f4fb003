import BlockScan.Json.Writer
import Mathlib.Data.List.Nodup

/-!
# Sorting the fields of a value

Sorting changes the order of the fields of objects and nothing else. While no object holds a name
twice, every field is found under its name as before.
-/

set_option autoImplicit false

namespace BlockScan.Json

/-- A value that is read back from its text as it is: there is no floating-point number in
it, no integer in it has too many digits, and no object in it holds a name twice. -/
inductive Exact : Json → Prop
  | null : Exact .null
  | bool (b : Bool) : Exact (.bool b)
  | int {i : Int} (short : Decimal.isLong i = false) : Exact (.int i)
  | string (s : String) : Exact (.string s)
  | array {items : List Json} (h : ∀ v ∈ items, Exact v) : Exact (.array items)
  | object {fields : List (String × Json)} (names : (fields.map Prod.fst).Nodup)
      (h : ∀ f ∈ fields, Exact f.2) : Exact (.object fields)

section Lookup

variable {fields fields' : List (String × Json)} {name : String}

/-- When names are kept apart, a name stands for the value of its one field. -/
theorem lookup_eq_some_iff_mem {v : Json} (h : (fields.map Prod.fst).Nodup) :
    fields.lookup name = some v ↔ (name, v) ∈ fields := by
  induction fields with
  | nil => simp
  | cons f rest ih =>
    obtain ⟨n, w⟩ := f
    rw [List.map_cons, List.nodup_cons] at h
    by_cases hname : name = n
    · subst hname
      have hrest : (name, v) ∉ rest := by
        intro hmem
        exact h.1 (List.mem_map.2 ⟨_, hmem, rfl⟩)
      simp [hrest, eq_comm]
    · have hbeq : (name == n) = false := by simpa using hname
      simp [List.lookup_cons, hbeq, hname, ih h.2]

/-- What a name stands for does not depend on the order of fields. -/
theorem lookup_of_perm (h : (fields.map Prod.fst).Nodup) (hperm : fields.Perm fields') :
    fields.lookup name = fields'.lookup name := by
  have h' : (fields'.map Prod.fst).Nodup := (hperm.map Prod.fst).nodup_iff.1 h
  apply Option.ext
  intro v
  rw [lookup_eq_some_iff_mem h, lookup_eq_some_iff_mem h', hperm.mem_iff]

end Lookup

/-- The items of an array are sorted one by one. -/
theorem sortedItems_eq_map (items : List Json) : sortedItems items = items.map sorted := by
  induction items with
  | nil => rw [sortedItems, List.map_nil]
  | cons v rest ih => rw [sortedItems, ih, List.map_cons]

/-- The values of an object are sorted one by one. -/
theorem sortedFields_eq_map (fields : List (String × Json)) :
    sortedFields fields = fields.map fun f => (f.1, f.2.sorted) := by
  induction fields with
  | nil => rw [sortedFields, List.map_nil]
  | cons f rest ih => rw [sortedFields, ih, List.map_cons]

/-- Sorting the values leaves the names as they are. -/
theorem map_fst_sortedFields (fields : List (String × Json)) :
    (sortedFields fields).map Prod.fst = fields.map Prod.fst := by
  rw [sortedFields_eq_map, List.map_map]
  rfl

/-- Sorting the fields of an object loses none and adds none. -/
theorem sortFields_perm (fields : List (String × Json)) : (sortFields fields).Perm fields :=
  List.mergeSort_perm _ _

/-- A value that is read back is read back when it is sorted too. -/
theorem exact_sorted {v : Json} (h : Exact v) : Exact v.sorted := by
  induction h with
  | null => exact .null
  | bool b => exact .bool b
  | int short => exact .int short
  | string s => exact .string s
  | array h ih =>
    rw [sorted, sortedItems_eq_map]
    apply Exact.array
    intro v hv
    obtain ⟨w, hw, rfl⟩ := List.mem_map.1 hv
    exact ih w hw
  | object names h ih =>
    rw [sorted]
    apply Exact.object
    · rw [((sortFields_perm _).map Prod.fst).nodup_iff, map_fst_sortedFields]
      exact names
    · intro f hf
      rw [(sortFields_perm _).mem_iff, sortedFields_eq_map] at hf
      obtain ⟨g, hg, rfl⟩ := List.mem_map.1 hf
      exact ih g hg

/-- After the values were sorted, a name stands for what it stood for, sorted. -/
theorem lookup_sortedFields (fields : List (String × Json)) (name : String) :
    (sortedFields fields).lookup name = (fields.lookup name).map sorted := by
  induction fields with
  | nil => rfl
  | cons f rest ih =>
    rw [sortedFields, List.lookup_cons, List.lookup_cons, ih]
    split <;> rfl

/-- After values and fields were sorted, a name stands for what it stood for, sorted, when names are
kept apart. -/
theorem lookup_sortFields {fields : List (String × Json)} (h : (fields.map Prod.fst).Nodup)
    (name : String) :
    (sortFields (sortedFields fields)).lookup name = (fields.lookup name).map sorted := by
  rw [← map_fst_sortedFields, ← ((sortFields_perm _).map Prod.fst).nodup_iff] at h
  rw [lookup_of_perm h (sortFields_perm _), lookup_sortedFields]

end BlockScan.Json
