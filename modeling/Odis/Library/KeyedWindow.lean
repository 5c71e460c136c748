import Mathlib.Data.List.DropRight
import Odis.Library.OrderedDict

/-!
# Windows of the latest entries per key

Of a sequence whose entries have keys, the last `n` entries of each key, in the order of the
sequence. Keys that occur at very different rates all keep a window of the same length.

* `ofKey_flatMap`: the entries of one key, among those that items with distinct keys make.
* `filter_recentByKey`: the entries of one key that are kept are the last `n` of that key.
* `recentByKey_recentByKey`: a window of a wider window.
* `recentByKey_eq_filter`: of distinct entries, those that are among the last of their key.
* `head?_recentByKey_alone`: when the first entry that is kept is the only one of its key.
-/

namespace KeyedWindow

variable {α κ : Type*} [DecidableEq κ] (key : α → κ)

/-- The entries with a given key. -/
def ofKey (k : κ) (xs : List α) : List α := xs.filter fun x => key x = k

/-- The entries grouped by key, the groups in the order in which their keys first occur. -/
def grouped (xs : List α) : OrderedDict (id : κ → κ) (List α) :=
  xs.foldl (fun groups x => groups.set (key x) ((groups.get? (key x)).getD [] ++ [x]))
    OrderedDict.empty

/-- The last `n` entries of each key. -/
def recentByKey (n : ℕ) : List α → List α
  | [] => []
  | x :: xs =>
      if (ofKey key (key x) xs).length < n then x :: recentByKey n xs else recentByKey n xs

variable {key} {k : κ} {n : ℕ} {x : α} {xs : List α}

/-- The entries of a key. -/
theorem mem_ofKey : x ∈ ofKey key k xs ↔ x ∈ xs ∧ key x = k := by
  simp [ofKey]

/-- An entry of the key comes first. -/
theorem ofKey_cons_self : ofKey key (key x) (x :: xs) = x :: ofKey key (key x) xs := by
  simp [ofKey]

/-- An entry of another key is left out. -/
theorem ofKey_cons_of_ne (h : key x ≠ k) : ofKey key k (x :: xs) = ofKey key k xs := by
  simp [ofKey, h]

/-- Entries picked key by key are all the entries, once the keys are distinct and cover them. -/
theorem perm_flatMap_ofKey {ks : List κ} (hnodup : ks.Nodup) (hcover : ∀ x ∈ xs, key x ∈ ks) :
    (ks.flatMap fun k => ofKey key k xs).Perm xs := by
  induction ks generalizing xs with
  | nil =>
      have hnil : xs = [] := List.eq_nil_iff_forall_not_mem.mpr fun x hx =>
        absurd (hcover x hx) List.not_mem_nil
      rw [hnil, List.flatMap_nil]
  | cons k ks ih =>
      obtain ⟨hk, hnodup⟩ := List.nodup_cons.mp hnodup
      -- the entries of the first key are set apart, and the others are those of the other keys
      let others := xs.filter fun x => ¬ key x = k
      have hothers : ∀ k' ∈ ks, ofKey key k' xs = ofKey key k' others := by
        intro k' hk'
        rw [ofKey, ofKey, List.filter_filter]
        apply List.filter_congr
        intro x _
        have hne : k' ≠ k := ne_of_mem_of_not_mem hk' hk
        by_cases hx : key x = k' <;> simp [hx, hne]
      have hcovered : ∀ x ∈ others, key x ∈ ks := by
        intro x hx
        obtain ⟨hx, hne⟩ := List.mem_filter.mp hx
        exact (List.mem_cons.mp (hcover x hx)).resolve_left (by simpa using hne)
      rw [List.flatMap_cons, List.flatMap_congr hothers]
      refine ((ih hnodup hcovered).append_left (ofKey key k xs)).trans ?_
      simpa only [ofKey, others, decide_not] using List.filter_append_perm (fun x => key x = k) xs

section FlatMap

variable {β : Type*} {keyOf : β → κ} {entriesOf : β → List α} {items : List β}

/-- A key that no item has, no entry of the items has. -/
theorem ofKey_flatMap_eq_nil (hkey : ∀ b ∈ items, ∀ x ∈ entriesOf b, key x = keyOf b)
    (hk : k ∉ items.map keyOf) : ofKey key k (items.flatMap entriesOf) = [] := by
  rw [ofKey, List.filter_eq_nil_iff]
  intro x hx
  obtain ⟨b, hb, hx⟩ := List.mem_flatMap.mp hx
  rw [hkey b hb x hx, decide_eq_true_eq]
  rintro rfl
  exact hk (List.mem_map_of_mem hb)

/-- Of items whose keys are distinct, each with entries of its own key: the entries of a key are
those of its item. -/
theorem ofKey_flatMap (hnodup : (items.map keyOf).Nodup)
    (hkey : ∀ b ∈ items, ∀ x ∈ entriesOf b, key x = keyOf b) {item : β} (hitem : item ∈ items) :
    ofKey key (keyOf item) (items.flatMap entriesOf) = entriesOf item := by
  obtain ⟨before, after, rfl⟩ := List.append_of_mem hitem
  have hself : ofKey key (keyOf item) (entriesOf item) = entriesOf item := by
    rw [ofKey, List.filter_eq_self]
    exact fun x hx => decide_eq_true (hkey item hitem x hx)
  rw [List.map_append, List.map_cons, List.nodup_append] at hnodup
  obtain ⟨-, hafter, hdisjoint⟩ := hnodup
  -- no other item has the key
  have hbefore : ofKey key (keyOf item) (before.flatMap entriesOf) = [] := by
    refine ofKey_flatMap_eq_nil (fun b hb => hkey b (List.mem_append_left _ hb)) fun hmem => ?_
    exact hdisjoint _ hmem _ List.mem_cons_self rfl
  have hlater : ofKey key (keyOf item) (after.flatMap entriesOf) = [] :=
    ofKey_flatMap_eq_nil
      (fun b hb => hkey b (List.mem_append_right _ (List.mem_cons_of_mem _ hb)))
      (List.nodup_cons.mp hafter).1
  rw [List.flatMap_append, List.flatMap_cons, ofKey, List.filter_append, List.filter_append,
    ← ofKey, ← ofKey, ← ofKey, hbefore, hself, hlater, List.nil_append, List.append_nil]

end FlatMap

/-! ## Groups -/

/-- The group of a key after some more entries. -/
theorem get?_foldl_grouped (groups : OrderedDict (id : κ → κ) (List α)) :
    (xs.foldl (fun groups x => groups.set (key x) ((groups.get? (key x)).getD [] ++ [x]))
      groups).get? k =
      if ofKey key k xs = [] then groups.get? k
      else some ((groups.get? k).getD [] ++ ofKey key k xs) := by
  induction xs generalizing groups with
  | nil => simp [ofKey]
  | cons x xs ih =>
      rw [List.foldl_cons, ih]
      by_cases hk : key x = k
      · subst hk
        rw [ofKey_cons_self, if_neg (List.cons_ne_nil _ _), OrderedDict.get?_set_self]
        split_ifs with hnil
        · rw [hnil]
        · simp
      · rw [ofKey_cons_of_ne hk, OrderedDict.get?_set_of_ne (Ne.symm hk)]

/-- A key has a group once it occurs, and the group holds its entries. -/
theorem get?_grouped :
    (grouped key xs).get? k = if ofKey key k xs = [] then none else some (ofKey key k xs) := by
  rw [grouped, get?_foldl_grouped, OrderedDict.get?_empty]
  rfl

/-- The entries of the groups, by their keys. -/
theorem mem_items_grouped {group : List α} :
    (k, group) ∈ (grouped key xs).items ↔ group = ofKey key k xs ∧ group ≠ [] := by
  have hget : (k, group) ∈ (grouped key xs).items ↔ (grouped key xs).get? k = some group := by
    rw [OrderedDict.get?_eq_some_iff]
    constructor
    · exact fun hmem => ⟨k, hmem, rfl⟩
    · rintro ⟨k', hmem, rfl⟩
      exact hmem
  rw [hget, get?_grouped]
  split_ifs with hnil
  · simp only [false_iff, not_and, not_not]
    exact fun hgroup => hgroup.trans hnil
  · rw [Option.some.injEq]
    constructor
    · rintro rfl
      exact ⟨rfl, hnil⟩
    · exact fun h => h.1.symm

/-- The groups are those of the keys that occur. -/
theorem mem_values_grouped {group : List α} :
    group ∈ (grouped key xs).values ↔ group ≠ [] ∧ ∃ k, group = ofKey key k xs := by
  rw [OrderedDict.values, List.mem_map]
  constructor
  · rintro ⟨⟨k, group⟩, hmem, rfl⟩
    obtain ⟨hgroup, hne⟩ := mem_items_grouped.mp hmem
    exact ⟨hne, k, hgroup⟩
  · rintro ⟨hne, k, hgroup⟩
    exact ⟨(k, group), mem_items_grouped.mpr ⟨hgroup, hne⟩, rfl⟩

/-! ## Windows -/

/-- What is kept is kept in its order. -/
theorem sublist_recentByKey : (recentByKey key n xs).Sublist xs := by
  induction xs with
  | nil => exact List.Sublist.slnil
  | cons x xs ih =>
      rw [recentByKey]
      split_ifs
      · exact ih.cons_cons x
      · exact ih.cons x

/-- One more entry at the front of a window. -/
theorem rtake_cons (x : α) (xs : List α) :
    (x :: xs).rtake n = if xs.length < n then x :: xs.rtake n else xs.rtake n := by
  rw [List.rtake, List.rtake, List.length_cons]
  split_ifs with hlt
  · rw [show xs.length + 1 - n = 0 by omega, show xs.length - n = 0 by omega]
    rfl
  · rw [show xs.length + 1 - n = xs.length - n + 1 by omega, List.drop_succ_cons]

/-- What is kept of one key. -/
theorem filter_recentByKey : ofKey key k (recentByKey key n xs) = (ofKey key k xs).rtake n := by
  induction xs with
  | nil => simp [recentByKey, ofKey]
  | cons x xs ih =>
      rw [recentByKey]
      by_cases hk : key x = k
      · subst hk
        rw [ofKey_cons_self, rtake_cons, ← ih]
        split_ifs
        · exact ofKey_cons_self
        · rfl
      · rw [ofKey_cons_of_ne hk, ← ih]
        split_ifs
        · exact ofKey_cons_of_ne hk
        · rfl

/-- An entry is kept if and only if it is among the last of its key. -/
theorem mem_recentByKey : x ∈ recentByKey key n xs ↔ x ∈ (ofKey key (key x) xs).rtake n := by
  rw [← filter_recentByKey, mem_ofKey, and_iff_left rfl]

section Map

variable {β : Type*} {f : β → α} {ys : List β}

/-- The entries of a key among the images of others. -/
theorem ofKey_map : ofKey key k (ys.map f) = (ofKey (fun y => key (f y)) k ys).map f :=
  List.filter_map

/-- The window of the images of some entries. -/
theorem recentByKey_map :
    recentByKey key n (ys.map f) = (recentByKey (fun y => key (f y)) n ys).map f := by
  induction ys with
  | nil => rfl
  | cons y ys ih =>
      simp only [List.map_cons, recentByKey, ofKey_map, List.length_map, ih]
      split_ifs <;> rfl

end Map

/-- How many entries of one key are kept. -/
theorem length_ofKey_recentByKey :
    (ofKey key k (recentByKey key n xs)).length = min n (ofKey key k xs).length := by
  rw [filter_recentByKey, List.rtake, List.length_drop]
  omega

/-- A window of a wider window is a window of the sequence. -/
theorem recentByKey_recentByKey {wider : ℕ} (hle : n ≤ wider) :
    recentByKey key n (recentByKey key wider xs) = recentByKey key n xs := by
  induction xs with
  | nil => rfl
  | cons x xs ih =>
      have hcount : (ofKey key (key x) (recentByKey key wider xs)).length =
          min wider (ofKey key (key x) xs).length := length_ofKey_recentByKey
      rw [recentByKey, recentByKey]
      split_ifs with hwider hkept hkept
      · rw [recentByKey, if_pos (by omega), ih]
      · rw [recentByKey, if_neg (by omega), ih]
      · omega
      · exact ih

/-- Of a sorted sequence, an entry that is left out comes before the ones of its key that are
kept. -/
theorem rel_of_mem_recentByKey {r : α → α → Prop} (hsorted : xs.Pairwise r) {y : α}
    (hx : x ∈ recentByKey key n xs) (hy : y ∈ xs) (hkey : key y = key x)
    (hout : y ∉ recentByKey key n xs) : r y x := by
  rw [mem_recentByKey] at hx hout
  rw [hkey] at hout
  have hgroup : (ofKey key (key x) xs).Pairwise r := hsorted.filter _
  have hmem : y ∈ ofKey key (key x) xs := mem_ofKey.mpr ⟨hy, hkey⟩
  have hsplit := List.take_append_drop ((ofKey key (key x) xs).length - n) (ofKey key (key x) xs)
  rw [← hsplit] at hgroup hmem
  exact (List.pairwise_append.mp hgroup).2.2 y
    ((List.mem_append.mp hmem).resolve_right hout) x hx

/-- A window keeps something of a sequence that is not empty. -/
theorem recentByKey_ne_nil (hn : 0 < n) (hne : xs ≠ []) : recentByKey key n xs ≠ [] := by
  obtain ⟨x, hx⟩ := List.exists_mem_of_ne_nil xs hne
  have hgroup : 0 < (ofKey key (key x) xs).length :=
    List.length_pos_of_mem (mem_ofKey.mpr ⟨hx, rfl⟩)
  have hkept : (ofKey key (key x) (recentByKey key n xs)).length =
      ((ofKey key (key x) xs).rtake n).length := by
    rw [filter_recentByKey]
  rw [List.rtake, List.length_drop] at hkept
  intro hnil
  rw [hnil, ofKey, List.filter_nil, List.length_nil] at hkept
  omega

/-- Of distinct entries, a filter picks the part that has the entries it lets through. -/
theorem filter_eq_of_sublist {p : α → Bool} {kept : List α} (hsub : kept.Sublist xs)
    (hnodup : xs.Nodup) (hp : ∀ x ∈ xs, p x = true ↔ x ∈ kept) : xs.filter p = kept := by
  induction hsub with
  | slnil => rfl
  | cons x hsub ih =>
      obtain ⟨hx, hnodup⟩ := List.nodup_cons.mp hnodup
      -- the entry does not recur, so it is not in what is kept
      have hdrop : ¬ p x = true := fun h => hx (hsub.subset ((hp x List.mem_cons_self).mp h))
      rw [List.filter_cons_of_neg hdrop]
      exact ih hnodup fun y hy => hp y (List.mem_cons_of_mem x hy)
  | cons_cons x hsub ih =>
      obtain ⟨hx, hnodup⟩ := List.nodup_cons.mp hnodup
      rw [List.filter_cons_of_pos ((hp x List.mem_cons_self).mpr List.mem_cons_self),
        ih hnodup]
      intro y hy
      have hne : y ≠ x := by
        rintro rfl
        exact hx hy
      rw [hp y (List.mem_cons_of_mem x hy), List.mem_cons, or_iff_right hne]

/-- The window of distinct entries, as a filter. -/
theorem recentByKey_eq_filter (hnodup : xs.Nodup) {p : α → Bool}
    (hp : ∀ x ∈ xs, p x = true ↔ x ∈ (ofKey key (key x) xs).rtake n) :
    xs.filter p = recentByKey key n xs :=
  filter_eq_of_sublist sublist_recentByKey hnodup fun x hx =>
    (hp x hx).trans mem_recentByKey.symm

/-- The first entry that is kept is the first one that is followed by fewer than `n` others of its
key. -/
theorem head?_recentByKey :
    (recentByKey key n xs).head? = some x ↔
      ∃ before after, xs = before ++ x :: after ∧ (ofKey key (key x) after).length < n ∧
        ∀ b ∈ before, n ≤ (ofKey key (key b) (x :: after)).length := by
  induction xs with
  | nil => simp [recentByKey]
  | cons y ys ih =>
      rw [recentByKey]
      split_ifs with hkept
      · rw [List.head?_cons, Option.some_inj]
        constructor
        · rintro rfl
          exact ⟨[], ys, rfl, hkept, fun _ hb => absurd hb List.not_mem_nil⟩
        · rintro ⟨before, after, hsplit, _, hbefore⟩
          cases before with
          | nil => exact (List.cons.inj hsplit).1
          | cons b before =>
              -- an entry in front of `x` would have left the window
              obtain ⟨rfl, rfl⟩ := List.cons.inj hsplit
              have hb := hbefore y List.mem_cons_self
              have hle : (ofKey key (key y) (x :: after)).length ≤
                  (ofKey key (key y) (before ++ x :: after)).length :=
                ((List.sublist_append_right before (x :: after)).filter _).length_le
              exact absurd (Nat.lt_of_le_of_lt (hb.trans hle) hkept) (Nat.lt_irrefl n)
      · rw [ih]
        constructor
        · rintro ⟨before, after, rfl, hlast, hbefore⟩
          refine ⟨y :: before, after, rfl, hlast, ?_⟩
          intro b hb
          rcases List.mem_cons.mp hb with rfl | hb
          -- the entry in front has left the window, and so counts for itself or before another of
          -- its key
          · by_cases hagain : ∃ b' ∈ before, key b' = key b
            · obtain ⟨b', hb', heq⟩ := hagain
              rw [← heq]
              exact hbefore b' hb'
            · have hnil : ofKey key (key b) before = [] := by
                rw [ofKey, List.filter_eq_nil_iff]
                exact fun b' hb' => by simpa using fun heq => hagain ⟨b', hb', heq⟩
              have hcount : ofKey key (key b) (before ++ x :: after) =
                  ofKey key (key b) (x :: after) := by
                rw [ofKey, List.filter_append, ← ofKey, hnil, List.nil_append, ← ofKey]
              rw [← hcount]
              exact Nat.not_lt.mp hkept
          · exact hbefore b hb
        · rintro ⟨before, after, hsplit, hlast, hbefore⟩
          cases before with
          | nil =>
              obtain ⟨rfl, rfl⟩ := List.cons.inj hsplit
              exact absurd hlast hkept
          | cons b before =>
              obtain ⟨rfl, rfl⟩ := List.cons.inj hsplit
              exact ⟨before, after, rfl, hlast, fun b hb => hbefore b (List.mem_cons_of_mem y hb)⟩

variable (key n xs) in
/-- Some entry is alone of its key, and every key that occurs before it occurs at least `n` times
after it. -/
def AloneInFront : Prop :=
  ∃ before x after, xs = before ++ x :: after ∧ (∀ y ∈ before ++ after, key y ≠ key x) ∧
    ∀ b ∈ before, n ≤ (ofKey key (key b) after).length

/-- The first entry that is kept is alone of its key exactly if some entry is alone in front. -/
theorem head?_recentByKey_alone (hn : 0 < n) :
    (∃ x, (recentByKey key n xs).head? = some x ∧ (ofKey key (key x) xs).length < 2) ↔
      AloneInFront key n xs := by
  constructor
  · rintro ⟨x, hhead, hcount⟩
    obtain ⟨before, after, rfl, _, hbefore⟩ := head?_recentByKey.mp hhead
    -- with two entries of the key there would be another one besides the first
    have halone : ∀ y ∈ before ++ after, key y ≠ key x := by
      intro y hy heq
      have hmem : y ∈ ofKey key (key x) (before ++ after) := mem_ofKey.mpr ⟨hy, heq⟩
      have hlength := List.length_pos_of_mem hmem
      simp only [ofKey, List.filter_append, List.length_append, List.filter_cons,
        decide_true, if_true, List.length_cons] at hcount hlength
      omega
    refine ⟨before, x, after, rfl, halone, fun b hb => ?_⟩
    have hne := halone b (List.mem_append_left after hb)
    rw [← ofKey_cons_of_ne (Ne.symm hne)]
    exact hbefore b hb
  · rintro ⟨before, x, after, rfl, halone, hbefore⟩
    have hafter : ofKey key (key x) after = [] := by
      rw [ofKey, List.filter_eq_nil_iff]
      exact fun y hy => by simpa using halone y (List.mem_append_right before hy)
    have hfront : ofKey key (key x) before = [] := by
      rw [ofKey, List.filter_eq_nil_iff]
      exact fun y hy => by simpa using halone y (List.mem_append_left after hy)
    refine ⟨x, head?_recentByKey.mpr ⟨before, after, rfl, by rw [hafter]; exact hn, ?_⟩, ?_⟩
    · intro b hb
      rw [ofKey_cons_of_ne (Ne.symm (halone b (List.mem_append_left after hb)))]
      exact hbefore b hb
    · rw [ofKey, List.filter_append, ← ofKey, hfront, ← ofKey, ofKey_cons_self, hafter]
      exact Nat.one_lt_two

end KeyedWindow
