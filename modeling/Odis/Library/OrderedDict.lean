import Mathlib.Data.List.Nodup
import Mathlib.Data.List.Perm.Basic

/-!
# Insertion-ordered dictionaries

A dictionary that remembers the order its keys were inserted in. Keys are looked up by what
identifies them (`ident`), so that two keys may be equal for the dictionary without being the same
value; an update of an existing entry keeps the key it was inserted with and its place.

The entries are described by `get?`: `get?_set_self` and its siblings say what every operation
does to every lookup, and later proofs never look at the entries themselves.
-/

/-- A dictionary from keys `K`, identified by `ident`, to values `V`, in insertion order. -/
@[ext]
structure OrderedDict {K I : Type*} (ident : K → I) (V : Type*) where
  items : List (K × V)
  nodup : (items.map fun entry => ident entry.1).Nodup

namespace OrderedDict

variable {K I V : Type*} {ident : K → I}

/-- The dictionary without entries. -/
def empty : OrderedDict ident V := ⟨[], List.nodup_nil⟩

/-- `len(d)`. -/
def length (d : OrderedDict ident V) : ℕ := d.items.length

/-- `d.values()`. -/
def values (d : OrderedDict ident V) : List V := d.items.map Prod.snd

/-- Two entries whose keys are identified are the same entry. -/
theorem entry_eq (d : OrderedDict ident V) {e e' : K × V} (he : e ∈ d.items) (he' : e' ∈ d.items)
    (hident : ident e.1 = ident e'.1) : e = e' :=
  List.inj_on_of_nodup_map d.nodup he he' hident

variable [DecidableEq I]

/-- The entry of a key. -/
def getItem? (d : OrderedDict ident V) (k : K) : Option (K × V) :=
  d.items.find? fun entry => ident entry.1 = ident k

/-- `d.get(k)`. -/
def get? (d : OrderedDict ident V) (k : K) : Option V :=
  (d.getItem? k).map Prod.snd

/-- The item of a key is the one with the same identity. -/
theorem getItem?_eq_some_iff {d : OrderedDict ident V} {k : K} {e : K × V} :
    d.getItem? k = some e ↔ e ∈ d.items ∧ ident e.1 = ident k := by
  constructor
  · intro h
    exact ⟨List.mem_of_find?_eq_some h, by simpa using List.find?_some h⟩
  · rintro ⟨hmem, hident⟩
    cases hfind : d.getItem? k with
    | none =>
        rw [getItem?, List.find?_eq_none] at hfind
        exact absurd hident (by simpa using hfind e hmem)
    | some e' =>
        have hmem' : e' ∈ d.items := List.mem_of_find?_eq_some hfind
        have hident' : ident e'.1 = ident k := by simpa using List.find?_some hfind
        rw [d.entry_eq hmem' hmem (hident'.trans hident.symm)]

/-- A key has no item if no item has its identity. -/
theorem getItem?_eq_none_iff {d : OrderedDict ident V} {k : K} :
    d.getItem? k = none ↔ ∀ e ∈ d.items, ident e.1 ≠ ident k := by
  simp [getItem?, List.find?_eq_none]

/-- Lookups by identified keys give the same entry. -/
theorem getItem?_congr (d : OrderedDict ident V) {k k' : K} (h : ident k = ident k') :
    d.getItem? k = d.getItem? k' := by
  rw [getItem?, getItem?, h]

/-- Keys with the same identity have the same value. -/
theorem get?_congr (d : OrderedDict ident V) {k k' : K} (h : ident k = ident k') :
    d.get? k = d.get? k' := by
  rw [get?, get?, d.getItem?_congr h]

/-- The value of a key is that of an item with its identity. -/
theorem get?_eq_some_iff {d : OrderedDict ident V} {k : K} {v : V} :
    d.get? k = some v ↔ ∃ k', (k', v) ∈ d.items ∧ ident k' = ident k := by
  rw [get?, Option.map_eq_some_iff]
  constructor
  · rintro ⟨⟨k', v'⟩, hitem, rfl⟩
    obtain ⟨hmem, hident⟩ := getItem?_eq_some_iff.mp hitem
    exact ⟨k', hmem, hident⟩
  · rintro ⟨k', hmem, hident⟩
    exact ⟨(k', v), getItem?_eq_some_iff.mpr ⟨hmem, hident⟩, rfl⟩

/-- A key has no value if no item has its identity. -/
theorem get?_eq_none_iff {d : OrderedDict ident V} {k : K} :
    d.get? k = none ↔ ∀ e ∈ d.items, ident e.1 ≠ ident k := by
  rw [get?, Option.map_eq_none_iff, getItem?_eq_none_iff]

/-- Two dictionaries agree on a key once they have the same entries with it. -/
theorem get?_eq_of_mem_iff {d d' : OrderedDict ident V} {k : K}
    (h : ∀ e : K × V, ident e.1 = ident k → (e ∈ d.items ↔ e ∈ d'.items)) :
    d.get? k = d'.get? k := by
  apply Option.ext
  intro v
  rw [get?_eq_some_iff, get?_eq_some_iff]
  exact exists_congr fun k' => and_congr_left fun hident => h (k', v) hident

@[simp]
theorem get?_empty (k : K) : (empty : OrderedDict ident V).get? k = none := rfl

/-- `d[k] = v`: the value of an existing key is replaced in place, a new key comes last. -/
def set (d : OrderedDict ident V) (k : K) (v : V) : OrderedDict ident V :=
  if hk : ∃ e ∈ d.items, ident e.1 = ident k then
    ⟨d.items.map fun e => if ident e.1 = ident k then (e.1, v) else e, by
      have hkeys : (fun e : K × V => ident e.1) ∘
          (fun e => if ident e.1 = ident k then (e.1, v) else e) = fun e => ident e.1 := by
        funext e
        by_cases h : ident e.1 = ident k <;> simp [h]
      rw [List.map_map, hkeys]
      exact d.nodup⟩
  else
    ⟨d.items ++ [(k, v)], by
      rw [List.map_append, List.nodup_append]
      refine ⟨d.nodup, List.nodup_singleton _, ?_⟩
      intro i hi j hj hij
      obtain ⟨e, he, rfl⟩ := List.mem_map.mp hi
      exact hk ⟨e, he, hij.trans (by simpa using hj)⟩⟩

/-- An entry after `d[k] = v` is the new one, or an entry with another key. -/
theorem mem_set {d : OrderedDict ident V} {k : K} {v : V} {e : K × V}
    (h : e ∈ (d.set k v).items) :
    (ident e.1 = ident k ∧ e.2 = v) ∨ (e ∈ d.items ∧ ident e.1 ≠ ident k) := by
  rw [set] at h
  split_ifs at h with hk
  · obtain ⟨e', he', rfl⟩ := List.mem_map.mp h
    by_cases hident : ident e'.1 = ident k
    · exact Or.inl (by simp [hident])
    · exact Or.inr (by simp [hident, he'])
  · rcases List.mem_append.mp h with hold | hnew
    · exact Or.inr ⟨hold, fun hident => hk ⟨e, hold, hident⟩⟩
    · rw [List.mem_singleton.mp hnew]
      exact Or.inl ⟨rfl, rfl⟩

/-- `del d[k]`, on a dictionary with or without the key. -/
def erase (d : OrderedDict ident V) (k : K) : OrderedDict ident V :=
  ⟨d.items.filter fun e => ident e.1 ≠ ident k, d.nodup.sublist (List.filter_sublist.map _)⟩

/-- Erasing a key leaves the items with another identity. -/
theorem mem_erase {d : OrderedDict ident V} {k : K} {e : K × V} :
    e ∈ (d.erase k).items ↔ e ∈ d.items ∧ ident e.1 ≠ ident k := by
  simp [erase]

/-- The dictionary with every value replaced, under the same keys. -/
def map (f : V → V) (d : OrderedDict ident V) : OrderedDict ident V :=
  ⟨d.items.map fun e => (e.1, f e.2), by
    rw [List.map_map]
    exact d.nodup⟩

/-- The dictionary of other values, computed from the ones under the same keys. -/
def mapValues {W : Type*} (f : V → W) (d : OrderedDict ident V) : OrderedDict ident W :=
  ⟨d.items.map fun e => (e.1, f e.2), by
    rw [List.map_map]
    exact d.nodup⟩

/-- Mapping the values maps the one of a key. -/
theorem get?_mapValues {W : Type*} {f : V → W} {d : OrderedDict ident V} {k : K} :
    (d.mapValues f).get? k = (d.get? k).map f := by
  simp only [get?, getItem?, mapValues, List.find?_map, Option.map_map]
  rfl

/-- Setting a value and mapping commute. -/
theorem mapValues_set {W : Type*} {f : V → W} {d : OrderedDict ident V} {k : K} {v : V} :
    (d.set k v).mapValues f = (d.mapValues f).set k (f v) := by
  -- the key is in both or in neither
  have hexists : (∃ e ∈ (d.mapValues f).items, ident e.1 = ident k) ↔
      ∃ e ∈ d.items, ident e.1 = ident k := by
    simp only [mapValues, List.mem_map]
    constructor
    · rintro ⟨_, ⟨e, he, rfl⟩, hident⟩
      exact ⟨e, he, hident⟩
    · rintro ⟨e, he, hident⟩
      exact ⟨_, ⟨e, he, rfl⟩, hident⟩
  ext1
  by_cases hk : ∃ e ∈ d.items, ident e.1 = ident k
  · rw [set, set, dif_pos hk, dif_pos (hexists.mpr hk)]
    simp only [mapValues, List.map_map]
    refine List.map_congr_left fun e _ => ?_
    by_cases hident : ident e.1 = ident k <;> simp [hident]
  · rw [set, set, dif_neg hk, dif_neg (hexists.not.mpr hk)]
    simp [mapValues]

/-- The entries that satisfy `p`. -/
def filter (p : K × V → Bool) (d : OrderedDict ident V) : OrderedDict ident V :=
  ⟨d.items.filter p, d.nodup.sublist (List.filter_sublist.map _)⟩

/-- `d.move_to_end(k)`. -/
def moveToEnd (d : OrderedDict ident V) (k : K) : OrderedDict ident V :=
  match d.getItem? k with
  | some e => (d.erase k).set e.1 e.2
  | none => d

/-- `d.popitem(last=False)`: the oldest entry, and the others. -/
def popFirst (d : OrderedDict ident V) : Option ((K × V) × OrderedDict ident V) :=
  match d.items with
  | [] => none
  | e :: _ => some (e, d.erase e.1)

section Lookups

variable {d : OrderedDict ident V} {k k' : K} {v : V}

/-- A key has the value it was set to. -/
@[simp]
theorem get?_set_self : (d.set k v).get? k = some v := by
  rw [get?_eq_some_iff, set]
  split_ifs with hk
  · obtain ⟨e, he, hident⟩ := hk
    exact ⟨e.1, List.mem_map.mpr ⟨e, he, if_pos hident⟩, hident⟩
  · exact ⟨k, by simp, rfl⟩

/-- So has every key with the same identity. -/
theorem get?_set_of_eq (h : ident k' = ident k) : (d.set k v).get? k' = some v := by
  rw [get?_congr _ h, get?_set_self]

/-- The other keys keep their values. -/
theorem get?_set_of_ne (h : ident k' ≠ ident k) : (d.set k v).get? k' = d.get? k' := by
  apply get?_eq_of_mem_iff
  intro e he
  have hne : ident e.1 ≠ ident k := he ▸ h
  rw [set]
  -- the key is there and its value replaced, or its entry is new
  split_ifs with hk
  · constructor
    · intro hmem
      obtain ⟨e', he', heq⟩ := List.mem_map.mp hmem
      split_ifs at heq with hident
      · exact absurd (by rw [← heq]; exact hident) hne
      · rwa [← heq]
    · exact fun hmem => List.mem_map.mpr ⟨e, hmem, if_neg hne⟩
  · constructor
    · intro hmem
      rcases List.mem_append.mp hmem with hold | hnew
      · exact hold
      · rw [List.mem_singleton.mp hnew] at hne
        exact absurd rfl hne
    · exact List.mem_append_left _

/-- A key that was erased has no value. -/
theorem get?_erase_self : (d.erase k).get? k = none := by
  rw [get?_eq_none_iff]
  exact fun e he => (mem_erase.mp he).2

/-- Nor has any key with the same identity. -/
theorem get?_erase_of_eq (h : ident k' = ident k) : (d.erase k).get? k' = none := by
  rw [get?_congr _ h, get?_erase_self]

/-- The other keys keep theirs. -/
theorem get?_erase_of_ne (h : ident k' ≠ ident k) : (d.erase k).get? k' = d.get? k' := by
  apply get?_eq_of_mem_iff
  intro e he
  rw [mem_erase, and_iff_left (he ▸ h)]

/-- Changing all values changes the one of a key. -/
@[simp]
theorem get?_map {f : V → V} : (d.map f).get? k = (d.get? k).map f := by
  apply Option.ext
  intro v
  rw [get?_eq_some_iff, Option.map_eq_some_iff]
  constructor
  · rintro ⟨k', hmem, hident⟩
    obtain ⟨e, he, heq⟩ := List.mem_map.mp hmem
    cases heq
    exact ⟨e.2, get?_eq_some_iff.mpr ⟨e.1, he, hident⟩, rfl⟩
  · rintro ⟨v', hget, rfl⟩
    obtain ⟨k', hmem, hident⟩ := get?_eq_some_iff.mp hget
    exact ⟨k', List.mem_map.mpr ⟨(k', v'), hmem, rfl⟩, hident⟩

/-- Moving a key to the end changes no value. -/
@[simp]
theorem get?_moveToEnd : (d.moveToEnd k).get? k' = d.get? k' := by
  rw [moveToEnd]
  cases hitem : d.getItem? k with
  | none => rfl
  | some e =>
      obtain ⟨hmem, hident⟩ := getItem?_eq_some_iff.mp hitem
      by_cases hk : ident k' = ident e.1
      · rw [get?_set_of_eq hk, get?_congr _ hk]
        exact (get?_eq_some_iff.mpr ⟨e.1, hmem, rfl⟩).symm
      · rw [get?_set_of_ne hk, get?_erase_of_ne (by rwa [← hident])]

/-- The oldest entry is an entry, and popping it erases its key. -/
theorem popFirst_eq_some {e : K × V} {rest : OrderedDict ident V}
    (h : d.popFirst = some (e, rest)) : e ∈ d.items ∧ rest = d.erase e.1 := by
  rw [popFirst] at h
  split at h
  · contradiction
  next e' tail hitems =>
    obtain ⟨rfl, rfl⟩ := Prod.mk.inj (Option.some.inj h)
    exact ⟨by rw [hitems]; exact List.mem_cons_self, rfl⟩

end Lookups

/-! ## Entries -/

section Entries

variable {d : OrderedDict ident V} {k : K} {v : V} {e : K × V}

/-- Erasing a key that is not there changes nothing. -/
theorem erase_of_get?_eq_none (h : d.get? k = none) : d.erase k = d := by
  ext1
  rw [erase, List.filter_eq_self]
  intro e he
  simpa using get?_eq_none_iff.mp h e he

/-- A new key comes last. -/
theorem items_set_of_get?_eq_none (h : d.get? k = none) :
    (d.set k v).items = d.items ++ [(k, v)] := by
  rw [set, dif_neg]
  rintro ⟨e, he, hident⟩
  exact get?_eq_none_iff.mp h e he hident

/-- The keys stay where the value of one of them is replaced. -/
theorem keys_set {v' : V} (h : d.get? k = some v') :
    (d.set k v).items.map Prod.fst = d.items.map Prod.fst := by
  obtain ⟨k', hmem, hident⟩ := get?_eq_some_iff.mp h
  have hkeys : Prod.fst ∘ (fun e : K × V => if ident e.1 = ident k then (e.1, v) else e) =
      Prod.fst := by
    funext e
    by_cases hk : ident e.1 = ident k <;> simp [hk]
  rw [set, dif_pos ⟨_, hmem, hident⟩, List.map_map, hkeys]

/-- Erasing does not make the dict longer. -/
theorem length_erase_le : (d.erase k).length ≤ d.length :=
  List.length_filter_le _ _

/-- The entry of a key, and those that erasing the key leaves. -/
theorem perm_erase (h : d.getItem? k = some e) : d.items.Perm (e :: (d.erase k).items) := by
  obtain ⟨hmem, hident⟩ := getItem?_eq_some_iff.mp h
  -- the identities are distinct, so only the entry itself has that of the key
  have hself : d.items.filter (fun e' => ident e'.1 = ident k) = [e] := by
    obtain ⟨before, after, hitems⟩ := List.append_of_mem hmem
    have hnodup := d.nodup
    rw [hitems, List.map_append, List.map_cons, List.nodup_append, List.nodup_cons] at hnodup
    obtain ⟨-, ⟨hafter, -⟩, hbefore⟩ := hnodup
    have hbefore' : before.filter (fun e' => ident e'.1 = ident k) = [] := by
      rw [List.filter_eq_nil_iff]
      intro e' he'
      have hne := hbefore _ (List.mem_map_of_mem he') _ List.mem_cons_self
      rw [hident] at hne
      simpa using hne
    have hafter' : after.filter (fun e' => ident e'.1 = ident k) = [] := by
      rw [List.filter_eq_nil_iff]
      intro e' he'
      have hne : ident e'.1 ≠ ident e.1 := fun heq =>
        hafter (List.mem_map.mpr ⟨e', he', heq⟩)
      rw [hident] at hne
      simpa using hne
    rw [hitems, List.filter_append, List.filter_cons_of_pos (by simpa using hident), hbefore',
      hafter', List.nil_append]
  have hsplit := List.filter_append_perm (fun e' : K × V => decide (ident e'.1 = ident k)) d.items
  rw [hself] at hsplit
  refine hsplit.symm.trans ?_
  have hrest : (d.items.filter fun e' => !decide (ident e'.1 = ident k)) = (d.erase k).items := by
    simp [erase]
  rw [hrest]
  exact List.Perm.refl _

/-- The entries after `d[k] = v`: the new one, under a key that is identified with `k`, and those
of the other keys. -/
theorem perm_set : ∃ k', ident k' = ident k ∧
    (d.set k v).items.Perm ((k', v) :: (d.erase k).items) := by
  cases hitem : d.getItem? k with
  | none =>
      have hget : d.get? k = none := by rw [get?, hitem]; rfl
      refine ⟨k, rfl, ?_⟩
      rw [items_set_of_get?_eq_none hget, erase_of_get?_eq_none hget]
      exact List.perm_append_singleton _ _
  | some e =>
      obtain ⟨hmem, hident⟩ := getItem?_eq_some_iff.mp hitem
      refine ⟨e.1, hident, ?_⟩
      rw [set, dif_pos ⟨e, hmem, hident⟩]
      refine ((perm_erase hitem).map _).trans ?_
      -- no other entry is under the key
      have hothers : (d.erase k).items.map
          (fun e' => if ident e'.1 = ident k then (e'.1, v) else e') = (d.erase k).items := by
        conv_rhs => rw [← List.map_id' (d.erase k).items]
        exact List.map_congr_left fun e' he' => if_neg (mem_erase.mp he').2
      rw [List.map_cons, hothers, if_pos hident]

/-- Setting a key adds one item at most. -/
theorem length_set_le : (d.set k v).length ≤ d.length + 1 := by
  obtain ⟨k', -, hperm⟩ := perm_set (d := d) (k := k) (v := v)
  rw [length, hperm.length_eq, List.length_cons]
  exact Nat.succ_le_succ length_erase_le

/-- Setting a key that is there adds none. -/
theorem length_set (h : (d.get? k).isSome) : (d.set k v).length = d.length := by
  obtain ⟨v', hget⟩ := Option.isSome_iff_exists.mp h
  rw [length, length, ← List.length_map Prod.fst, keys_set hget, List.length_map]

/-- A key that is moved comes last. -/
theorem items_moveToEnd (h : d.getItem? k = some e) :
    (d.moveToEnd k).items = (d.erase k).items ++ [e] := by
  obtain ⟨-, hident⟩ := getItem?_eq_some_iff.mp h
  have hfree : (d.erase k).get? e.1 = none := get?_erase_of_eq hident
  simp only [moveToEnd, h, items_set_of_get?_eq_none hfree]

/-- Moving a key keeps the entries. -/
theorem mem_moveToEnd : e ∈ (d.moveToEnd k).items ↔ e ∈ d.items := by
  cases hitem : d.getItem? k with
  | none => simp only [moveToEnd, hitem]
  | some e' =>
      rw [items_moveToEnd hitem, (perm_erase hitem).mem_iff,
        (List.perm_append_singleton _ _).mem_iff]

/-- The oldest entry comes first. -/
theorem items_popFirst {rest : OrderedDict ident V} (h : d.popFirst = some (e, rest)) :
    d.items = e :: rest.items := by
  rw [popFirst] at h
  split at h
  · contradiction
  next e' tail hitems =>
    obtain ⟨rfl, rfl⟩ := Prod.mk.inj (Option.some.inj h)
    have hnodup := d.nodup
    rw [hitems, List.map_cons, List.nodup_cons] at hnodup
    have hrest : (d.erase e'.1).items = d.items.filter fun e => ident e.1 ≠ ident e'.1 := rfl
    rw [hrest, hitems, List.filter_cons_of_neg (by simp)]
    refine congrArg _ (List.filter_eq_self.mpr fun e'' he'' => ?_).symm
    have hne : ident e''.1 ≠ ident e'.1 := fun heq =>
      hnodup.1 (List.mem_map.mpr ⟨e'', he'', heq⟩)
    simpa using hne

/-- Only an empty dict has no first item. -/
theorem popFirst_eq_none (h : d.popFirst = none) : d.items = [] := by
  rw [popFirst] at h
  split at h
  · assumption
  · contradiction

end Entries

end OrderedDict
