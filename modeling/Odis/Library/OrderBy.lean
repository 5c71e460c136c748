import Mathlib.Data.List.Pairwise
import Mathlib.Data.List.Sort

/-!
# Rows in the order of a key

Rows whose keys are distinct, sorted by them. Such a sequence is known by its rows alone
(`eq_iff_of_increasing`), so that two ways of computing it are compared row by row.

* `filter_le_append_filter_lt`: a bound cuts it in two.
* `prefix_iff`: which sequences are the start of it.
-/

namespace OrderBy

variable {α κ : Type*} [LinearOrder κ] {key : α → κ} {rows rows' : List α}

/-- The rows, sorted by a key. -/
def orderBy (key : α → κ) (rows : List α) : List α := rows.mergeSort fun a b => key a ≤ key b

/-- Ordering neither adds rows nor drops any. -/
@[simp]
theorem mem_orderBy {a : α} : a ∈ orderBy key rows ↔ a ∈ rows := List.mem_mergeSort

/-- The keys never decrease. -/
theorem pairwise_le_orderBy : (orderBy key rows).Pairwise fun a b => key a ≤ key b := by
  have hle : (orderBy key rows).Pairwise fun a b => (decide (key a ≤ key b)) = true := by
    apply List.pairwise_mergeSort
    · intro a b c hab hbc
      exact decide_eq_true ((of_decide_eq_true hab).trans (of_decide_eq_true hbc))
    · intro a b
      simpa using le_total (key a) (key b)
  exact hle.imp of_decide_eq_true

/-- Distinct keys come in increasing order. -/
theorem pairwise_orderBy (hnodup : (rows.map key).Nodup) :
    (orderBy key rows).Pairwise fun a b => key a < key b := by
  have hne : (orderBy key rows).Pairwise fun a b => key a ≠ key b :=
    List.pairwise_map.mp (((List.mergeSort_perm rows _).map key).nodup_iff.mpr hnodup)
  refine (pairwise_le_orderBy.and hne).imp ?_
  rintro a b ⟨hab, hne⟩
  exact lt_of_le_of_ne hab hne

omit [LinearOrder κ] in
/-- Results that keep the keys of distinct rows have distinct keys. -/
theorem nodup_map_filterMap {β : Type*} {keyOf : β → κ} {f : β → Option α} {l : List β}
    (hkey : ∀ b a, f b = some a → key a = keyOf b) (hnodup : (l.map keyOf).Nodup) :
    ((l.filterMap f).map key).Nodup := by
  refine List.Nodup.sublist ?_ hnodup
  induction l with
  | nil => exact List.Sublist.slnil
  | cons b l ih =>
      have hrest := ih (List.nodup_cons.mp hnodup).2
      cases hb : f b with
      | none =>
          rw [List.filterMap_cons_none hb]
          exact hrest.cons _
      | some a =>
          rw [List.filterMap_cons_some hb, List.map_cons, List.map_cons, hkey b a hb]
          exact hrest.cons_cons _

/-- Two sequences with increasing keys are the same once they have the same rows. -/
theorem eq_iff_of_increasing (h : rows.Pairwise fun a b => key a < key b)
    (h' : rows'.Pairwise fun a b => key a < key b) :
    rows = rows' ↔ ∀ a, a ∈ rows ↔ a ∈ rows' := by
  constructor
  · rintro rfl a
    exact Iff.rfl
  · intro hmem
    have : Std.Antisymm fun a b : α => key a < key b :=
      ⟨fun a b hab hba => absurd hba (lt_asymm hab)⟩
    have : Std.Irrefl fun a b : α => key a < key b := ⟨fun a => lt_irrefl (key a)⟩
    exact h.eq_of_mem_iff h' hmem

/-- Rows with distinct keys are sorted alike, in whatever order they come. -/
theorem orderBy_eq_of_mem_iff (hnodup : (rows.map key).Nodup) (hnodup' : (rows'.map key).Nodup)
    (hmem : ∀ a, a ∈ rows ↔ a ∈ rows') : orderBy key rows = orderBy key rows' := by
  rw [eq_iff_of_increasing (pairwise_orderBy hnodup) (pairwise_orderBy hnodup')]
  intro a
  rw [mem_orderBy, mem_orderBy]
  exact hmem a

/-- Rows with increasing keys are those up to a bound, then those beyond it. -/
theorem filter_le_append_filter_lt (h : rows.Pairwise fun a b => key a < key b) (bound : κ) :
    (rows.filter fun a => key a ≤ bound) ++ (rows.filter fun a => bound < key a) = rows := by
  induction rows with
  | nil => rfl
  | cons a rows ih =>
      obtain ⟨hfirst, hrest⟩ := List.pairwise_cons.mp h
      by_cases ha : key a ≤ bound
      · rw [List.filter_cons_of_pos (by simpa using ha), List.cons_append,
          List.filter_cons_of_neg (by simpa using ha), ih hrest]
      -- from the first row beyond the bound on, all are
      · have hbeyond : ∀ b ∈ a :: rows, bound < key b := by
          rintro b hb
          rcases List.mem_cons.mp hb with rfl | hb
          · exact lt_of_not_ge ha
          · exact (lt_of_not_ge ha).trans (hfirst b hb)
        have hnone : (a :: rows).filter (fun b => key b ≤ bound) = [] := by
          rw [List.filter_eq_nil_iff]
          intro b hb
          simpa using hbeyond b hb
        have hall : (a :: rows).filter (fun b => bound < key b) = a :: rows := by
          rw [List.filter_eq_self]
          intro b hb
          simpa using hbeyond b hb
        rw [hnone, hall, List.nil_append]

/-- The last of rows with increasing keys has the greatest key. -/
theorem le_getLast (h : rows.Pairwise fun a b => key a < key b) {a : α} (ha : a ∈ rows) :
    key a ≤ key (rows.getLast (List.ne_nil_of_mem ha)) := by
  have : Std.Refl fun a b : α => key a ≤ key b := ⟨fun a => le_refl (key a)⟩
  exact (h.imp fun hlt => le_of_lt hlt).rel_getLast ha

/-- A front of rows with increasing keys is all of them if it has the last of them. -/
theorem length_le_of_getLast_mem_take (h : rows.Pairwise fun a b => key a < key b) {limit : ℕ}
    (hlast : ∀ hne : rows ≠ [], rows.getLast hne ∈ rows.take limit) : rows.length ≤ limit := by
  by_contra hlimit
  have hrest : rows.drop limit ≠ [] := by
    rw [Ne, List.drop_eq_nil_iff]
    exact hlimit
  have hne : rows ≠ [] := fun heq => hrest (by rw [heq, List.drop_nil])
  have hmem : rows.getLast hne ∈ rows.drop limit := by
    rw [← List.getLast_drop hrest]
    exact List.getLast_mem hrest
  rw [← List.take_append_drop limit rows, List.pairwise_append] at h
  -- what is cut off comes after the front
  exact lt_irrefl _ (h.2.2 _ (hlast hne) _ hmem)

/-- A sequence is the start of an increasing one if it is increasing and has those members of the
other that come up to one of its own. -/
theorem prefix_iff {xs ys : List κ} (hys : ys.Pairwise (· < ·)) :
    xs <+: ys ↔ xs.Pairwise (· < ·) ∧ (∀ x ∈ xs, x ∈ ys) ∧
      ∀ y ∈ ys, (∃ x ∈ xs, y ≤ x) → y ∈ xs := by
  constructor
  · rintro ⟨rest, rfl⟩
    obtain ⟨hxs, -, hlt⟩ := List.pairwise_append.mp hys
    refine ⟨hxs, fun x hx => List.mem_append_left _ hx, ?_⟩
    rintro y hy ⟨x, hx, hle⟩
    rcases List.mem_append.mp hy with hy | hy
    · exact hy
    · exact absurd (hlt x hx y hy) (not_lt_of_ge hle)
  · rintro ⟨hxs, hsub, hupto⟩
    induction xs generalizing ys with
    | nil => exact List.nil_prefix
    | cons x xs ih =>
        cases ys with
        | nil => exact absurd (hsub x List.mem_cons_self) List.not_mem_nil
        | cons y ys =>
            obtain ⟨hx, hxs⟩ := List.pairwise_cons.mp hxs
            obtain ⟨hy, htail⟩ := List.pairwise_cons.mp hys
            -- the first members are the least of the same set
            have hfirst : x = y := by
              rcases List.mem_cons.mp (hsub x List.mem_cons_self) with heq | hmem
              · exact heq
              · have hyx : y < x := hy x hmem
                rcases List.mem_cons.mp
                  (hupto y List.mem_cons_self ⟨x, List.mem_cons_self, hyx.le⟩) with heq | hmem'
                · exact heq.symm
                · exact absurd (hx y hmem') hyx.asymm
            subst hfirst
            refine List.cons_prefix_cons.mpr ⟨rfl, ih htail hxs ?_ ?_⟩
            · intro z hz
              exact (List.mem_cons.mp (hsub z (List.mem_cons_of_mem _ hz))).resolve_left
                (hx z hz).ne'
            · rintro z hz ⟨w, hw, hle⟩
              have hmem := hupto z (List.mem_cons_of_mem _ hz) ⟨w, List.mem_cons_of_mem _ hw, hle⟩
              exact (List.mem_cons.mp hmem).resolve_left (hy z hz).ne'

end OrderBy
