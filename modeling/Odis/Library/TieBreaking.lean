import Mathlib.Algebra.BigOperators.Group.List.Basic
import Mathlib.Algebra.Order.Group.Defs
import Mathlib.Data.List.Forall2
import Mathlib.Data.List.MinMax
import Mathlib.Data.Prod.Lex
import Odis.Library.OrderBy

/-!
# Ties of a sort

Rows that are sorted by a key whose values may repeat: how far the order of the rows of one key can
move the sums over the front of the sequence.

* `filter_eq_orderBy`: the rows of one key stay in the order in which they were.
* `exists_split_of_argmin`: where the first of the least rows stands.
* `sum_take_le`: the sums are least when the rows of one key go up in value.
-/

namespace OrderBy

variable {α κ M : Type*} [LinearOrder κ] {key : α → κ} {rows rows' : List α}

/-- Ordering only permutes the rows. -/
theorem perm_orderBy : (orderBy key rows).Perm rows := List.mergeSort_perm rows _

/-- Rows that are in order keep that order when they are sorted among others. -/
theorem sublist_orderBy (h : rows'.Pairwise fun a b => key a ≤ key b) (hsub : rows'.Sublist rows) :
    rows'.Sublist (orderBy key rows) := by
  refine List.sublist_mergeSort ?_ ?_ (h.imp decide_eq_true) hsub
  · intro a b c hab hbc
    exact decide_eq_true ((of_decide_eq_true hab).trans (of_decide_eq_true hbc))
  · intro a b
    simpa using le_total (key a) (key b)

/-- The rows of one key stay in the order in which they were. -/
theorem filter_eq_orderBy (k : κ) :
    (orderBy key rows).filter (fun a => key a = k) = rows.filter fun a => key a = k := by
  have hsame : (rows.filter fun a => key a = k).Pairwise fun a b => key a ≤ key b := by
    refine List.pairwise_of_forall_mem_list fun a ha b hb => ?_
    have hkey : ∀ {a}, a ∈ rows.filter (fun a => key a = k) → key a = k := fun h =>
      of_decide_eq_true (List.mem_filter.mp h).2
    rw [hkey ha, hkey hb]
  have hsub := (sublist_orderBy hsame List.filter_sublist).filter fun a => key a = k
  simp only [List.filter_filter, Bool.and_self] at hsub
  refine (hsub.eq_of_length ?_).symm
  exact (perm_orderBy.filter _).length_eq.symm

/-- Rows in order that have no greater key than a bound end in those whose key is the bound. -/
theorem eq_filter_lt_append_filter_eq {bound : κ} (h : rows.Pairwise fun a b => key a ≤ key b)
    (hbound : ∀ a ∈ rows, key a ≤ bound) :
    rows = (rows.filter fun a => key a < bound) ++ rows.filter fun a => key a = bound := by
  induction rows with
  | nil => rfl
  | cons a rows ih =>
      obtain ⟨hfirst, hrest⟩ := List.pairwise_cons.mp h
      obtain ⟨ha, hall⟩ := List.forall_mem_cons.mp hbound
      rcases ha.lt_or_eq with hlt | heq
      · rw [List.filter_cons_of_pos (by simpa using hlt),
          List.filter_cons_of_neg (by simpa using hlt.ne), List.cons_append, ← ih hrest hall]
      · -- what comes after the bound is the bound
        have hkeys : ∀ b ∈ a :: rows, key b = bound := by
          refine List.forall_mem_cons.mpr ⟨heq, fun b hb => ?_⟩
          exact le_antisymm (hall b hb) (heq ▸ hfirst b hb)
        rw [List.filter_eq_nil_iff.mpr fun b hb => by simp [hkeys b hb], List.nil_append,
          List.filter_eq_self.mpr fun b hb => by simp [hkeys b hb]]

/-- The rows with the greatest key come last, in the order in which they were. -/
theorem orderBy_eq_append_filter_eq {bound : κ} (hbound : ∀ a ∈ rows, key a ≤ bound) :
    orderBy key rows =
      (orderBy key rows).filter (fun a => key a < bound) ++
        rows.filter fun a => key a = bound := by
  rw [← filter_eq_orderBy]
  exact eq_filter_lt_append_filter_eq pairwise_le_orderBy fun a ha => hbound a (mem_orderBy.mp ha)

/-- Rows that are in order stay as they are. -/
theorem orderBy_eq_self (h : rows.Pairwise fun a b => key a ≤ key b) : orderBy key rows = rows :=
  List.mergeSort_of_pairwise (h.imp decide_eq_true)

/-- Rows whose keys increase are what the rows are when they are sorted. -/
theorem orderBy_eq_of_increasing (hperm : rows'.Perm rows)
    (h : rows'.Pairwise fun a b => key a < key b) : orderBy key rows = rows' := by
  have hnodup' : (rows'.map key).Nodup := List.pairwise_map.mpr (h.imp fun hlt => hlt.ne)
  have hnodup : (rows.map key).Nodup := (hperm.map key).nodup_iff.mp hnodup'
  rw [eq_iff_of_increasing (pairwise_orderBy hnodup) h]
  intro a
  rw [mem_orderBy, hperm.mem_iff]

/-- The rows by a key, those of one key by a value. -/
def orderByBreaking [LinearOrder M] (key : α → κ) (value : α → M) (rows : List α) : List α :=
  orderBy (fun a => toLex (key a, value a)) rows

/-- So does ordering with ties broken. -/
theorem perm_orderByBreaking [LinearOrder M] (value : α → M) :
    (orderByBreaking key value rows).Perm rows := perm_orderBy

/-- Pairs in lexicographic order have keys in order. -/
theorem key_le_of_toLex_le [LinearOrder M] {value : α → M} {a b : α}
    (h : toLex (key a, value a) ≤ toLex (key b, value b)) : key a ≤ key b := by
  rcases Prod.Lex.le_iff.mp h with hlt | ⟨heq, -⟩
  · exact hlt.le
  · exact heq.le

/-- Breaking ties does not change the order of the keys. -/
theorem pairwise_le_orderByBreaking [LinearOrder M] (value : α → M) :
    (orderByBreaking key value rows).Pairwise fun a b => key a ≤ key b := by
  have hlex : (orderByBreaking key value rows).Pairwise fun a b =>
      toLex (key a, value a) ≤ toLex (key b, value b) := pairwise_le_orderBy
  exact hlex.imp key_le_of_toLex_le

/-- No ties are broken among rows whose keys increase. -/
theorem orderByBreaking_eq_of_increasing [LinearOrder M] {value : α → M} (hperm : rows'.Perm rows)
    (h : rows'.Pairwise fun a b => key a < key b) : orderByBreaking key value rows = rows' := by
  apply orderBy_eq_of_increasing hperm
  refine h.imp fun {a b} hlt => ?_
  exact Prod.Lex.lt_iff.mpr (Or.inl hlt)

/-- Rows that correspond to each other, and have the same keys, are sorted alike. -/
theorem forall₂_orderBy {β : Type*} {R : α → β → Prop} {key' : β → κ} {rows' : List β}
    (hkey : ∀ a b, R a b → key' b = key a) (h : List.Forall₂ R rows rows') :
    List.Forall₂ R (orderBy key rows) (orderBy key' rows') := by
  obtain ⟨hlength, hmem⟩ := List.forall₂_iff_zip.mp h
  let pairs := (rows.zip rows').mergeSort fun p q => decide (key p.1 ≤ key q.1)
  have hpairs : ∀ p ∈ rows.zip rows', R p.1 p.2 := fun p hp => hmem hp
  have hleft : pairs.map Prod.fst = orderBy key rows := by
    have hsort : pairs.map Prod.fst = orderBy key ((rows.zip rows').map Prod.fst) :=
      List.map_mergeSort fun p _ q _ => rfl
    rw [hsort, List.map_fst_zip hlength.le]
  have hright : pairs.map Prod.snd = orderBy key' rows' := by
    have hsort : pairs.map Prod.snd = orderBy key' ((rows.zip rows').map Prod.snd) := by
      refine List.map_mergeSort fun p hp q hq => ?_
      rw [hkey _ _ (hpairs p hp), hkey _ _ (hpairs q hq)]
    rw [hsort, List.map_snd_zip hlength.ge]
  rw [← hleft, ← hright, List.forall₂_map_left_iff, List.forall₂_map_right_iff, List.forall₂_same]
  intro p hp
  exact hpairs p (List.mem_mergeSort.mp hp)

/-- The first of the rows with the least value: those before it have a greater one, and those after
it have no less. -/
theorem exists_split_of_argmin {value : α → κ} {least : α}
    (h : rows.argmin value = some least) : ∃ before after, rows = before ++ least :: after ∧
      (∀ a ∈ before, value least < value a) ∧ ∀ a ∈ after, value least ≤ value a := by
  induction rows generalizing least with
  | nil => cases h
  | cons a rows ih =>
      rw [List.argmin_cons] at h
      cases hrest : rows.argmin value with
      | none =>
          rw [hrest] at h
          obtain rfl : a = least := Option.some.inj h
          rw [List.argmin_eq_none.mp hrest]
          refine ⟨[], [], rfl, ?_, ?_⟩ <;> simp
      | some b =>
          rw [hrest] at h
          dsimp only at h
          -- the first row is the least one unless a later row is strictly less
          by_cases hlt : value b < value a
          · rw [if_pos hlt] at h
            obtain rfl : b = least := Option.some.inj h
            obtain ⟨before, after, rfl, hbefore, hafter⟩ := ih hrest
            exact ⟨a :: before, after, rfl, List.forall_mem_cons.mpr ⟨hlt, hbefore⟩, hafter⟩
          · rw [if_neg hlt] at h
            obtain rfl : a = least := Option.some.inj h
            refine ⟨[], rows, rfl, by simp, fun c hc => ?_⟩
            exact (not_lt.mp hlt).trans (List.le_of_mem_argmin hc hrest)

/-! ## Sums over the front -/

section Sums

variable [AddCommGroup M] [LinearOrder M] [IsOrderedAddMonoid M] {value : α → M}

/-- A row that is moved to the front takes the place of one that is no smaller. -/
theorem sum_take_add_le {before after : List α} {a : α}
    (h : ∀ b ∈ before, value a ≤ value b) (k : ℕ) :
    value a + (((before ++ after).take k).map value).sum ≤
      (((before ++ a :: after).take (k + 1)).map value).sum := by
  induction before generalizing k with
  | nil => simp
  | cons b before ih =>
      cases k with
      | zero => simpa using h b List.mem_cons_self
      | succ k =>
          have hrest := ih (fun c hc => h c (List.mem_cons_of_mem b hc)) k
          simp only [List.cons_append, List.take_succ_cons, List.map_cons, List.sum_cons]
          rw [add_left_comm]
          exact add_le_add_right hrest (value b)

/-- Of all the ways to sort the same rows, the one with the rows of one key by increasing value has
the least sum over the front. The least row of all is moved to the front, then the next one. -/
theorem sum_take_le (hperm : rows.Perm rows')
    (hrows : rows.Pairwise fun a b => toLex (key a, value a) ≤ toLex (key b, value b))
    (hrows' : rows'.Pairwise fun a b => key a ≤ key b) (k : ℕ) :
    ((rows.take k).map value).sum ≤ ((rows'.take k).map value).sum := by
  induction rows generalizing rows' k with
  | nil => rw [hperm.nil_eq]
  | cons a rows ih =>
      obtain ⟨hfirst, hrest⟩ := List.pairwise_cons.mp hrows
      obtain ⟨before, after, rfl⟩ := List.append_of_mem (hperm.mem_iff.mp List.mem_cons_self)
      have hothers : rows.Perm (before ++ after) :=
        (List.perm_cons a).mp (hperm.trans List.perm_middle)
      obtain ⟨-, hsuffix, hcross⟩ := List.pairwise_append.mp hrows'
      -- what stands in front of `a` has the key of `a`
      have hvalue : ∀ b ∈ before, value a ≤ value b := by
        intro b hb
        have hkey : key b ≤ key a := hcross b hb a List.mem_cons_self
        have hle := hfirst b (hothers.mem_iff.mpr (List.mem_append_left after hb))
        rcases Prod.Lex.le_iff.mp hle with hlt | ⟨-, hvalue⟩
        · exact absurd hkey (not_le_of_gt hlt)
        · exact hvalue
      cases k with
      | zero => rfl
      | succ k =>
          -- without `a` both lists are sorted still, and the sums are those of one row fewer
          have hsorted : (before ++ after).Pairwise fun a b => key a ≤ key b :=
            hrows'.sublist ((List.sublist_cons_self a after).append_left before)
          calc (((a :: rows).take (k + 1)).map value).sum
              = value a + ((rows.take k).map value).sum := by simp
            _ ≤ value a + (((before ++ after).take k).map value).sum :=
                add_le_add_right (ih hothers hrest hsorted k) (value a)
            _ ≤ (((before ++ a :: after).take (k + 1)).map value).sum :=
                sum_take_add_le hvalue k

/-- The front of a sorted sequence has no smaller sum than that of the rows whose ties go up. -/
theorem sum_take_orderByBreaking_le (hperm : rows'.Perm rows)
    (hrows' : rows'.Pairwise fun a b => key a ≤ key b) (k : ℕ) :
    (((orderByBreaking key value rows).take k).map value).sum ≤
      ((rows'.take k).map value).sum :=
  sum_take_le ((perm_orderByBreaking value).trans hperm.symm) pairwise_le_orderBy hrows' k

end Sums

end OrderBy
