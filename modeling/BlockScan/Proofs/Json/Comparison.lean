import BlockScan.Json.Order
import BlockScan.Proofs.Json.Regular

/-!
# Sorted values compare as before

Sorting the fields of a value a second time changes nothing, and comparisons do not see the order
of fields: values that hold no name twice compare as they did, and where two of them cannot be
ordered, the same kinds are to blame.
-/

set_option autoImplicit false

namespace BlockScan.Json

/-! ## Sorting twice -/

/-- Sorting goes by names alone, so changing the values before or after makes no difference. -/
theorem map_sortFields (f : Json → Json) (fields : List (String × Json)) :
    (sortFields fields).map (fun field => (field.1, f field.2)) =
      sortFields (fields.map fun field => (field.1, f field.2)) := by
  apply List.map_mergeSort
  intro a _ b _
  rfl

/-- Fields that are sorted already stay as they are. -/
theorem sortFields_sortFields (fields : List (String × Json)) :
    sortFields (sortFields fields) = sortFields fields := by
  apply List.mergeSort_of_pairwise
  apply List.pairwise_mergeSort
  · intro a b c hab hbc
    rw [decide_eq_true_eq] at hab hbc ⊢
    exact String.le_trans hab hbc
  · intro a b
    rw [Bool.or_eq_true, decide_eq_true_eq, decide_eq_true_eq]
    exact String.le_total a.1 b.1

/-- Sorting a value a second time changes nothing, deep inside it either. -/
theorem sorted_sorted {v : Json} (hv : v.Regular) : v.sorted.sorted = v.sorted := by
  induction hv with
  | array h ih =>
    rw [sorted, sorted, sortedItems_eq_map, sortedItems_eq_map, List.map_map]
    exact congrArg array (List.map_congr_left ih)
  | @object fields names h ih =>
    have htwice : sortedFields (sortedFields fields) = sortedFields fields := by
      rw [sortedFields_eq_map, sortedFields_eq_map, List.map_map]
      apply List.map_congr_left
      intro f hf
      exact congrArg (Prod.mk f.1) (ih f hf)
    rw [sorted, sorted, sortedFields_eq_map (sortFields _), map_sortFields, ← sortedFields_eq_map,
      htwice, sortFields_sortFields]
  | _ => rfl

/-! ## Comparing -/

/-- Fields are the same when the value of each one is the same as what its name stands for among the
others. -/
theorem sameFields_eq_all (fields gs : List (String × Json)) :
    sameFields fields gs = fields.all fun f => (gs.lookup f.1).any (same f.2) := by
  induction fields with
  | nil => rfl
  | cons f rest ih =>
    obtain ⟨name, v⟩ := f
    rw [sameFields, ih, List.all_cons]
    cases gs.lookup name <;> rfl

/-- Sorting keeps the number of fields. -/
theorem length_sortFields_sortedFields (fields : List (String × Json)) :
    (sortFields (sortedFields fields)).length = fields.length := by
  rw [(sortFields_perm _).length_eq, sortedFields_eq_map, List.length_map]

section Compare

variable {items others : List Json} {fields gs : List (String × Json)}

/-- Items are compared as they were when the comparison of each one is kept. -/
theorem sameItems_sortedItems (ho : ∀ w ∈ others, w.Regular)
    (h : ∀ v ∈ items, ∀ w : Json, w.Regular → same v.sorted w.sorted = same v w) :
    sameItems (sortedItems items) (sortedItems others) = sameItems items others := by
  induction items generalizing others with
  | nil => cases others <;> rfl
  | cons v items ih =>
    cases others with
    | nil => rfl
    | cons w others =>
      rw [List.forall_mem_cons] at ho h
      rw [sortedItems, sortedItems, sameItems, sameItems, h.1 w ho.1, ih ho.2 h.2]

/-- Fields are compared as they were when the comparison of each one is kept: names are looked up,
so their order makes no difference. -/
theorem sameFields_sorted (hg : (object gs).Regular)
    (h : ∀ f ∈ fields, ∀ w : Json, w.Regular → same f.2.sorted w.sorted = same f.2 w) :
    sameFields (sortFields (sortedFields fields)) (sortFields (sortedFields gs)) =
      sameFields fields gs := by
  cases hg with
  | object names hg =>
    rw [sameFields_eq_all, sameFields_eq_all, (sortFields_perm _).all_eq,
      sortedFields_eq_map fields, List.all_map, Bool.eq_iff_iff, List.all_eq_true, List.all_eq_true]
    apply forall₂_congr
    intro f hf
    rw [Function.comp_apply, lookup_sortFields names]
    cases hw : gs.lookup f.1 with
    | none => rfl
    | some w => exact Bool.eq_iff_iff.1 (h f hf w (regular_of_lookup_eq_some (.object names hg) hw))

/-- Whether two values are the same does not depend on the order of fields in them. -/
theorem same_sorted {v w : Json} (hv : v.Regular) (hw : w.Regular) :
    same v.sorted w.sorted = same v w := by
  induction hv generalizing w with
  | @array items h ih =>
    cases hw with
    | array ho => exact sameItems_sortedItems ho fun v hv w hw => ih v hv hw
    | _ => rfl
  | @object fields names h ih =>
    cases hw with
    | @object gs names' hg =>
      rw [sorted, sorted, same, same, length_sortFields_sortedFields,
        length_sortFields_sortedFields,
        sameFields_sorted (.object names' hg) fun f hf w hw => ih f hf hw]
    | _ => rfl
  | _ => cases hw <;> rfl

/-- Which list of items is greater is kept when the comparison of each pair is. -/
theorem itemsExceed_sortedItems (hi : ∀ v ∈ items, v.Regular) (ho : ∀ w ∈ others, w.Regular)
    (h : ∀ v ∈ items, ∀ w : Json, w.Regular → exceeds v.sorted w.sorted = exceeds v w) :
    itemsExceed (sortedItems items) (sortedItems others) = itemsExceed items others := by
  induction items generalizing others with
  | nil => cases others <;> rfl
  | cons v items ih =>
    cases others with
    | nil => rfl
    | cons w others =>
      rw [List.forall_mem_cons] at hi ho h
      rw [sortedItems, sortedItems, itemsExceed, itemsExceed, same_sorted hi.1 ho.1,
        ih hi.2 ho.2 h.2, h.1 w ho.1]

/-- The order of fields has no part in whether one value is greater than another, or whether the
two are ordered at all. -/
theorem exceeds_sorted {v w : Json} (hv : v.Regular) (hw : w.Regular) :
    exceeds v.sorted w.sorted = exceeds v w := by
  induction hv generalizing w with
  | @array items h ih =>
    cases hw with
    | array ho => exact itemsExceed_sortedItems h ho fun v hv w hw => ih v hv hw
    | _ => rfl
  | _ => cases hw <;> rfl

end Compare

end BlockScan.Json
