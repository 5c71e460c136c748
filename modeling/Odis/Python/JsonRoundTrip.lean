import Mathlib.Data.List.Perm.Basic
import Odis.Python.Validation

/-!
# Values sent as JSON

A value that is written with `json.dumps(v, sort_keys=True)` and read with `json.loads` is the same
value, but for the order of the entries of its dicts (`throughText`): the keys come back sorted.

* `item_throughText`: what is stored under a name survives.
* `scalar_throughText`: so does every value but a list or a dict, unchanged.
* `throughText_throughText`: a value that was read is sent unchanged.
-/

namespace Odis.Json

variable {F : Type}

/-- The entries of a dict, sorted by their keys. -/
def sortFields (fields : List (String × Json F)) : List (String × Json F) :=
  fields.mergeSort fun a b => a.1 ≤ b.1

mutual

/-- `json.loads(json.dumps(v, sort_keys=True))`. -/
def throughText : Json F → Json F
  | arr items => arr (itemsThroughText items)
  | obj fields => obj (sortFields (fieldsThroughText fields))
  | v => v

/-- The items of a list, one by one. -/
def itemsThroughText : List (Json F) → List (Json F)
  | [] => []
  | v :: items => v.throughText :: itemsThroughText items

/-- The entries of a dict, one by one. -/
def fieldsThroughText : List (String × Json F) → List (String × Json F)
  | [] => []
  | (name, v) :: fields => (name, v.throughText) :: fieldsThroughText fields

end

/-- A value that is neither a list nor a dict. -/
def Scalar : Json F → Prop
  | arr _ => False
  | obj _ => False
  | _ => True

section Lemmas

variable {v : Json F} {items : List (Json F)} {fields : List (String × Json F)} {name : String}

/-- A scalar goes through the text as it is. -/
theorem scalar_throughText (h : v.Scalar) : v.throughText = v := by
  cases v with
  | arr items => exact absurd h id
  | obj fields => exact absurd h id
  | _ => rfl

/-- Only null becomes null. -/
theorem throughText_eq_null_iff : v.throughText = null ↔ v = null := by
  cases v <;> simp [throughText]

/-- The items of an array go through the text one by one. -/
theorem itemsThroughText_eq : itemsThroughText items = items.map throughText := by
  induction items with
  | nil => rfl
  | cons v items ih => rw [itemsThroughText, ih, List.map_cons]

/-- So do the fields of an object, under their names. -/
theorem fieldsThroughText_eq :
    fieldsThroughText fields = fields.map fun field => (field.1, field.2.throughText) := by
  induction fields with
  | nil => rfl
  | cons field fields ih => rw [fieldsThroughText, ih, List.map_cons]

/-- The entries of a dict of scalars come back in another order. -/
theorem obj_throughText (h : ∀ field ∈ fields, field.2.Scalar) :
    (obj fields).throughText = obj (sortFields fields) := by
  have hfields : fields.map (fun field => (field.1, field.2.throughText)) = fields := by
    conv_rhs => rw [← List.map_id' fields]
    exact List.map_congr_left fun field hfield => by rw [scalar_throughText (h field hfield)]
  rw [throughText, fieldsThroughText_eq, hfields]

/-- Sorting the fields only permutes them. -/
theorem sortFields_perm (fields : List (String × Json F)) : (sortFields fields).Perm fields :=
  List.mergeSort_perm _ _

/-- A key of a dict leads to its only entry. -/
theorem lookup_eq_some_iff (hnodup : (fields.map Prod.fst).Nodup) :
    lookup fields name = some v ↔ (name, v) ∈ fields := by
  induction fields with
  | nil => simp [lookup]
  | cons field fields ih =>
      obtain ⟨key, w⟩ := field
      rw [List.map_cons, List.nodup_cons] at hnodup
      by_cases hkey : key = name
      · subst hkey
        have hfree : (key, v) ∉ fields := fun h => hnodup.1 (List.mem_map.mpr ⟨_, h, rfl⟩)
        simp [lookup, List.find?_cons_of_pos, hfree, eq_comm]
      · have hne : (name, v) ≠ (key, w) := fun h => hkey (Prod.mk.inj h).1.symm
        rw [List.mem_cons, or_iff_right hne, ← ih hnodup.2, lookup, lookup,
          List.find?_cons_of_neg (by simpa using hkey)]

/-- With distinct names a field is found by its name. -/
theorem item_of_mem (hnodup : (fields.map Prod.fst).Nodup) (h : (name, v) ∈ fields) :
    (obj fields).item name = v := by
  rw [item, field_obj, (lookup_eq_some_iff hnodup).mpr h]
  rfl

/-- The order of the entries does not matter to a lookup. -/
theorem lookup_perm {fields' : List (String × Json F)} (hperm : fields.Perm fields')
    (hnodup : (fields.map Prod.fst).Nodup) : lookup fields name = lookup fields' name := by
  have hnodup' : (fields'.map Prod.fst).Nodup := (hperm.map Prod.fst).nodup_iff.mp hnodup
  apply Option.ext
  intro v
  rw [lookup_eq_some_iff hnodup, lookup_eq_some_iff hnodup', hperm.mem_iff]

/-- A field is looked up before or after it goes through the text. -/
theorem lookup_fieldsThroughText :
    lookup (fieldsThroughText fields) name = (lookup fields name).map throughText := by
  induction fields with
  | nil => rfl
  | cons field fields ih =>
      obtain ⟨key, w⟩ := field
      by_cases hkey : key = name
      · simp [fieldsThroughText, lookup, hkey]
      · rw [fieldsThroughText, lookup, lookup, List.find?_cons_of_neg (by simpa using hkey),
          List.find?_cons_of_neg (by simpa using hkey)]
        exact ih

/-- The names stay as they are. -/
theorem map_fst_fieldsThroughText :
    (fieldsThroughText fields).map Prod.fst = fields.map Prod.fst := by
  rw [fieldsThroughText_eq, List.map_map]
  rfl

/-- What a dict stores under a name is found under it again. -/
theorem item_throughText (hnodup : (fields.map Prod.fst).Nodup) :
    (obj fields).throughText.item name = ((obj fields).item name).throughText := by
  have hnodup' : ((fieldsThroughText fields).map Prod.fst).Nodup := by
    rwa [map_fst_fieldsThroughText]
  have hlookup : lookup (sortFields (fieldsThroughText fields)) name =
      (lookup fields name).map throughText := by
    rw [← lookup_fieldsThroughText]
    exact (lookup_perm (sortFields_perm _).symm hnodup').symm
  rw [throughText, item, field_obj, hlookup, item, field_obj]
  cases lookup fields name <;> rfl

end Lemmas

section Twice

/-- Sorting commutes with going through the text. -/
theorem fieldsThroughText_sortFields (fields : List (String × Json F)) :
    fieldsThroughText (sortFields fields) = sortFields (fieldsThroughText fields) := by
  rw [fieldsThroughText_eq, fieldsThroughText_eq, sortFields, sortFields]
  exact List.map_mergeSort fun _ _ _ _ => rfl

/-- Sorted fields are sorted already. -/
theorem sortFields_sortFields (fields : List (String × Json F)) :
    sortFields (sortFields fields) = sortFields fields := by
  refine List.mergeSort_of_pairwise ?_
  refine List.pairwise_mergeSort ?_ ?_ fields
  · intro a b c hab hbc
    simp only [decide_eq_true_eq] at hab hbc ⊢
    exact String.le_trans hab hbc
  · intro a b
    simp only [Bool.or_eq_true, decide_eq_true_eq]
    exact String.le_total _ _

mutual

/-- The text of a value that was read from a text is read as the same value. -/
theorem throughText_throughText : (v : Json F) → v.throughText.throughText = v.throughText
  | .arr items => congrArg arr (itemsThroughText_itemsThroughText items)
  | .obj fields => by
      rw [throughText, throughText, fieldsThroughText_sortFields,
        fieldsThroughText_fieldsThroughText fields, sortFields_sortFields]
  | .null => rfl
  | .bool _ => rfl
  | .int _ => rfl
  | .float _ => rfl
  | .str _ => rfl

/-- A second time changes nothing in the items. -/
theorem itemsThroughText_itemsThroughText :
    (items : List (Json F)) → itemsThroughText (itemsThroughText items) = itemsThroughText items
  | [] => rfl
  | v :: items => by
      rw [itemsThroughText, itemsThroughText, throughText_throughText v,
        itemsThroughText_itemsThroughText items]

/-- Nor does it in the fields. -/
theorem fieldsThroughText_fieldsThroughText : (fields : List (String × Json F)) →
    fieldsThroughText (fieldsThroughText fields) = fieldsThroughText fields
  | [] => rfl
  | (name, v) :: fields => by
      rw [fieldsThroughText, fieldsThroughText, throughText_throughText v,
        fieldsThroughText_fieldsThroughText fields]

end

end Twice

end Odis.Json
