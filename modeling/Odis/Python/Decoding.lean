import Odis.Library.Exceptions
import Odis.Python.JsonRoundTrip

/-!
# Decoders of JSON objects

What a hand-written `from_json_dict` does with a decoded value: subscripts, `get`, loops and the
conversions `float` and `datetime.fromisoformat`, each on values of every type.

* `subscript_reloaded`, `get_reloaded`: a reloaded dict has the reloaded values.
* `mapM_reloaded`: a loop over a reloaded list decodes what was encoded.
-/

namespace Odis

/-- The numbers that texts are read as. -/
class FloatText (F : Type) where
  /-- `float(s)`, unless it raises `ValueError`. -/
  floatOfText : String → Option F

namespace Json

open Exceptions

variable {F : Type}

/-- `v[name]`. A list or a string is not indexed with a name, and nothing else is indexed at all. -/
def subscript (v : Json F) (name : String) : Except PyException (Json F) :=
  match v with
  | obj fields => getItem fields name
  | _ => .error .typeError

/-- `v.get(name, default)`. -/
def get (v : Json F) (name : String) (default : Json F) : Except PyException (Json F) :=
  match v with
  | obj fields => .ok ((lookup fields name).getD default)
  | _ => .error .attributeError

/-- `iter(v)`. -/
def iterate : Json F → Except PyException (List (Json F))
  | arr items => .ok items
  | str s => .ok (s.toList.map fun c => str c.toString)
  | obj fields => .ok (fields.map fun field => str field.1)
  | _ => .error .typeError

/-- `low, high = v`. -/
def unpackPair (v : Json F) : Except PyException (Json F × Json F) := do
  match ← v.iterate with
  | [low, high] => return (low, high)
  | _ => throw .valueError

/-- `float(v)`. -/
def readFloat [PyFloat F] [FloatText F] : Json F → Except PyException F
  | int n => intToFloat n
  | float x => .ok x
  | bool b => .ok (PyFloat.ofInt (if b then 1 else 0))
  | str s =>
      match FloatText.floatOfText s with
      | some x => .ok x
      | none => .error .valueError
  | _ => .error .typeError

/-- `None if v is None else float(v)`. -/
def readOptionalFloat [PyFloat F] [FloatText F] : Json F → Except PyException (Option F)
  | null => .ok none
  | v => v.readFloat.map some

/-- `datetime.fromisoformat(str(v))`. -/
def readDatetime [JsonText F] (v : Json F) :
    Except PyException { read : Datetime.IsoDatetime // read.InRange } :=
  match h : Datetime.fromIsoformat? v.text with
  | some read => .ok ⟨read, Datetime.inRange_of_fromIsoformat? h⟩
  | none => .error .valueError

/-- An optional number. -/
def optionalFloat : Option F → Json F
  | some x => float x
  | none => null

/-- `json.loads(json.dumps(v, sort_keys=sort_keys))`. -/
def reloaded (sortKeys : Bool) (v : Json F) : Json F := if sortKeys then v.throughText else v

section Lemmas

variable {v : Json F} {sortKeys : Bool} {fields : List (String × Json F)} {name : String}

/-- A scalar is reloaded as it is. -/
theorem reloaded_scalar (h : v.Scalar) : v.reloaded sortKeys = v := by
  rw [reloaded]
  split_ifs
  · exact scalar_throughText h
  · rfl

@[simp]
theorem reloaded_str (s : String) : (str s : Json F).reloaded sortKeys = str s :=
  reloaded_scalar trivial

@[simp]
theorem reloaded_int (n : ℤ) : (int n : Json F).reloaded sortKeys = int n := reloaded_scalar trivial

@[simp]
theorem reloaded_float (x : F) : (float x).reloaded sortKeys = float x := reloaded_scalar trivial

@[simp]
theorem reloaded_null : (null : Json F).reloaded sortKeys = null := reloaded_scalar trivial

/-- So is a float that may be missing. -/
@[simp]
theorem reloaded_optionalFloat (x : Option F) :
    (optionalFloat x).reloaded sortKeys = optionalFloat x := by
  cases x <;> simp [optionalFloat]

/-- An array is reloaded item by item. -/
theorem reloaded_arr (items : List (Json F)) :
    (arr items).reloaded sortKeys = arr (items.map (reloaded sortKeys)) := by
  cases sortKeys with
  | false =>
      have hid : (reloaded false : Json F → Json F) = id := rfl
      rw [hid, List.map_id, id]
  | true =>
      have hthrough : (reloaded true : Json F → Json F) = throughText := rfl
      rw [hthrough, throughText, itemsThroughText_eq]

variable (sortKeys) in
/-- The entries of a reloaded dict. -/
theorem exists_reloaded_obj (hnodup : (fields.map Prod.fst).Nodup) :
    ∃ fields', (obj fields).reloaded sortKeys = obj fields' ∧
      ∀ name, lookup fields' name = (lookup fields name).map (reloaded sortKeys) := by
  cases sortKeys with
  | false =>
      refine ⟨fields, rfl, fun name => ?_⟩
      have hid : (reloaded false : Json F → Json F) = id := rfl
      rw [hid, Option.map_id, id]
  | true =>
      refine ⟨sortFields (fieldsThroughText fields), rfl, fun name => ?_⟩
      have hnodup' : ((fieldsThroughText fields).map Prod.fst).Nodup := by
        rwa [map_fst_fieldsThroughText]
      have hthrough : (reloaded true : Json F → Json F) = throughText := rfl
      rw [← lookup_perm (sortFields_perm _).symm hnodup', lookup_fieldsThroughText, hthrough]

/-- An entry of a dict is found under its name again. -/
theorem subscript_reloaded {i : ℕ} (hnodup : (fields.map Prod.fst).Nodup)
    (h : fields[i]? = some (name, v)) :
    ((obj fields).reloaded sortKeys).subscript name = .ok (v.reloaded sortKeys) := by
  obtain ⟨fields', hobj, hlookup⟩ := exists_reloaded_obj sortKeys hnodup
  rw [hobj, subscript, getItem, hlookup,
    (lookup_eq_some_iff hnodup).mpr (List.mem_of_getElem? h)]
  rfl

/-- A field that is there is found after reloading, as it was reloaded. -/
theorem get_reloaded {i : ℕ} {default : Json F} (hnodup : (fields.map Prod.fst).Nodup)
    (h : fields[i]? = some (name, v)) :
    ((obj fields).reloaded sortKeys).get name default = .ok (v.reloaded sortKeys) := by
  obtain ⟨fields', hobj, hlookup⟩ := exists_reloaded_obj sortKeys hnodup
  rw [hobj, get, hlookup, (lookup_eq_some_iff hnodup).mpr (List.mem_of_getElem? h)]
  rfl

/-- The items of a reloaded list. -/
theorem iterate_reloaded {α : Type} (encode : α → Json F) (xs : List α) :
    ((arr (xs.map encode)).reloaded sortKeys).iterate =
      .ok (xs.map fun x => (encode x).reloaded sortKeys) := by
  rw [reloaded_arr, List.map_map]
  rfl

/-- A loop over reloaded items decodes what was encoded. -/
theorem mapM_reloaded {E α : Type} {encode : α → Json F} {decode : Json F → Except E α}
    {xs : List α} (h : ∀ x ∈ xs, decode ((encode x).reloaded sortKeys) = .ok x) :
    (xs.map fun x => (encode x).reloaded sortKeys).mapM decode = .ok xs := by
  rw [mapM_eq_ok_iff, List.forall₂_map_left_iff, List.forall₂_same]
  exact h

/-- A float that may be missing is read back. -/
theorem readOptionalFloat_optionalFloat [PyFloat F] [FloatText F] (x : Option F) :
    (optionalFloat x).readOptionalFloat = .ok x := by
  cases x <;> rfl

/-- An aware `datetime` is read back. -/
theorem readDatetime_isoformat [JsonText F] {t : { t : Datetime.IsoDatetime // t.InRange }}
    (h : t.val.utcOffset.isSome) :
    readDatetime (str t.val.aware.isoformat : Json F) = .ok t := by
  obtain ⟨offset, hoffset⟩ := Option.isSome_iff_exists.mp h
  have hread : Datetime.fromIsoformat? (str t.val.aware.isoformat : Json F).text = some t.val := by
    rw [text, Datetime.fromIsoformat?_isoformat t.property.aware, Datetime.IsoDatetime.aware,
      hoffset, Option.getD_some, Int.sub_add_cancel, ← hoffset]
  rw [readDatetime]
  split
  next read hsome =>
    exact congrArg Except.ok (Subtype.ext (Option.some.inj (hsome.symm.trans hread)))
  next hnone => cases hnone.symm.trans hread

end Lemmas

end Json

end Odis
