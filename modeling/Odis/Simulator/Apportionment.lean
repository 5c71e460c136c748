import Mathlib.Data.Rat.Floor
import Odis.Library.TieBreaking
import Odis.Simulator.Splits

/-!
# Apportionment

What `_split_counts` (`dataset/splits.py`) makes of proportions whose sum is one up to a tolerance,
in exact arithmetic. The shares are rounded down, the splits with the greatest remainders get one
run more while some are left over, and splits without runs take one from the largest split.

The tolerance allows for a number of runs that are left over, or missing, that grows with the size
of the stratum; the second step only covers as many as there are splits.

* `splitCounts_apportions_iff`: when the counts add up and respect the proportions of zero.
-/

namespace Odis.Simulator

open Arithmetic Exceptions OrderBy

/-! ## Slices of three splits -/

section Chosen

/-- `order[:remainder]` has a split for each run that is left over, up to three. -/
theorem length_slice {order : List Split} (h : order.length = 3) (remainder : ℤ) :
    ((slice order 0 remainder).length : ℤ) = remainder ↔ 0 ≤ remainder ∧ remainder ≤ 3 := by
  have hlength : (slice order 0 remainder).length = min (sliceBound 3 remainder) 3 := by
    rw [slice, sliceBound, if_pos le_rfl]
    simp [h]
  rw [hlength, sliceBound]
  split_ifs <;> omega

/-- A slice from the start takes as many as its end says. -/
theorem slice_eq_take {order : List Split} {remainder : ℤ} (hnonneg : 0 ≤ remainder)
    (hle : remainder ≤ order.length) : slice order 0 remainder = order.take remainder.toNat := by
  rw [slice, sliceBound, sliceBound, if_pos hnonneg, if_pos le_rfl]
  have hmin : min remainder.toNat order.length = remainder.toNat := by omega
  rw [hmin]
  simp

/-- The sum over the three splits. -/
def total (counts : Split → ℤ) : ℤ := counts .train + counts .validation + counts .test

/-- A count that is greater, with none less, makes the total greater. -/
theorem total_lt_total {counts counts' : Split → ℤ} (hle : ∀ split, counts split ≤ counts' split)
    {split : Split} (hlt : counts split < counts' split) : total counts < total counts' := by
  have htrain := hle .train
  have hvalidation := hle .validation
  have htest := hle .test
  rw [total, total]
  cases split <;> omega

/-- Distinct splits that get one more each. -/
theorem total_add_chosen {chosen : List Split} (hnodup : chosen.Nodup) (counts : Split → ℤ) :
    (total fun split => counts split + if split ∈ chosen then 1 else 0) =
      total counts + chosen.length := by
  have hperm : (Split.all.filter fun split => split ∈ chosen).Perm chosen := by
    refine (List.perm_ext_iff_of_nodup (List.Nodup.filter _ (by decide)) hnodup).mpr fun split => ?_
    have hall : split ∈ Split.all := by cases split <;> decide
    simp [hall]
  rw [total, total, ← hperm.length_eq]
  by_cases htrain : Split.train ∈ chosen <;> by_cases hvalidation : Split.validation ∈ chosen <;>
    by_cases htest : Split.test ∈ chosen <;>
    simp [Split.all, htrain, hvalidation, htest] <;> omega

end Chosen

section Fronts

variable {α : Type*} {front : α → Bool} {k : ℕ}

/-- How far a condition holds of a list. -/
theorem forall_mem_take_iff {xs : List α} (hk : k ≤ xs.length) :
    (∀ x ∈ xs.take k, front x = true) ↔ k ≤ (xs.takeWhile front).length := by
  induction xs generalizing k with
  | nil =>
      obtain rfl : k = 0 := Nat.le_zero.mp hk
      simp
  | cons x xs ih =>
      cases k with
      | zero => simp
      | succ k =>
          rw [List.take_succ_cons, List.forall_mem_cons, ih (Nat.le_of_succ_le_succ hk)]
          cases hx : front x with
          | false => simp [hx]
          | true => simp [hx]

end Fronts

/-! ## Repair -/

section Repair

variable {format : NumberFormat} {proportions : SplitProportions (Number format)}
  {counts : Split → ℤ}

/-- No split has more than the largest. -/
theorem le_largestSplit (counts : Split → ℤ) (split : Split) :
    counts split ≤ counts (largestSplit counts) := by
  rw [largestSplit, List.foldl_cons, List.foldl_cons, List.foldl_nil]
  by_cases hfirst : counts .train < counts .validation
  · rw [if_pos hfirst]
    split_ifs with hsecond <;> cases split <;> omega
  · rw [if_neg hfirst]
    split_ifs with hsecond <;> cases split <;> omega

/-- What the repair can do for a split: nothing, or take a run from a split with two at least. -/
theorem repairSplit_cases (proportions : SplitProportions (Number format)) (counts : Split → ℤ)
    (split : Split) :
    (repairSplit proportions counts split = counts ∧
      (literal 0 < proportions.val.of split → counts split = 0 → ∀ other, counts other ≤ 1)) ∨
    ∃ donor, donor ≠ split ∧ 1 < counts donor ∧ literal 0 < proportions.val.of split ∧
      counts split = 0 ∧
      repairSplit proportions counts split =
        Function.update (Function.update counts donor (counts donor - 1)) split 1 := by
  rw [repairSplit]
  dsimp only
  split_ifs with hneeds hdonor
  -- the split with the most runs gives one away
  · refine Or.inr ⟨largestSplit counts, ?_, hdonor, hneeds.1, hneeds.2, ?_⟩
    · intro heq
      rw [heq] at hdonor
      omega
    · have hne : split ≠ largestSplit counts := by
        intro heq
        rw [← heq] at hdonor
        omega
      rw [Function.update_of_ne hne, hneeds.2, zero_add]
  · refine Or.inl ⟨rfl, fun _ _ other => ?_⟩
    -- if that one has no more than one, no split has
    have hle := le_largestSplit counts other
    omega
  · exact Or.inl ⟨rfl, fun hpos hzero => absurd ⟨hpos, hzero⟩ hneeds⟩

/-- A repair moves one run and keeps the total. -/
theorem total_repairSplit (split : Split) :
    total (repairSplit proportions counts split) = total counts := by
  rcases repairSplit_cases proportions counts split with
    ⟨heq, -⟩ | ⟨donor, hne, -, -, hzero, heq⟩
  · rw [heq]
  · rw [heq, total, total]
    cases split <;> cases donor <;> simp_all <;> omega

/-- A split that is to have no runs and has one at most is left alone. -/
theorem repairSplit_of_not_pos {other : Split} (hother : ¬ literal 0 < proportions.val.of other)
    (hle : counts other ≤ 1) (split : Split) :
    repairSplit proportions counts split other = counts other := by
  rcases repairSplit_cases proportions counts split with
    ⟨heq, -⟩ | ⟨donor, -, hdonor, hpos, -, heq⟩
  · rw [heq]
  · have hsplit : other ≠ split := by
      rintro rfl
      exact hother hpos
    have hne : other ≠ donor := by
      rintro rfl
      omega
    rw [heq, Function.update_of_ne hsplit, Function.update_of_ne hne]

/-- What has a run keeps one. -/
theorem one_le_repairSplit {other : Split} (h : 1 ≤ counts other) (split : Split) :
    1 ≤ repairSplit proportions counts split other := by
  rcases repairSplit_cases proportions counts split with
    ⟨heq, -⟩ | ⟨donor, -, hdonor, -, hzero, heq⟩
  · rwa [heq]
  · have hsplit : other ≠ split := by
      rintro rfl
      omega
    rw [heq, Function.update_of_ne hsplit]
    by_cases hne : other = donor
    · rw [hne, Function.update_self]
      omega
    · rwa [Function.update_of_ne hne]

/-- How many splits are to have runs. -/
def nonzeroSplits (proportions : SplitProportions (Number format)) : ℕ :=
  Split.all.countP fun split => literal 0 < proportions.val.of split

/-- The splits with a proportion are counted one by one. -/
theorem nonzeroSplits_eq_total : (nonzeroSplits proportions : ℤ) =
    total fun split => if literal 0 < proportions.val.of split then 1 else 0 := by
  rw [nonzeroSplits, total, Split.all, List.countP_cons, List.countP_cons, List.countP_cons,
    List.countP_nil]
  simp only [decide_eq_true_eq]
  split_ifs <;> rfl

/-- All repairs keep the total. -/
theorem total_foldl_repairSplit (splits : List Split) (counts : Split → ℤ) :
    total (splits.foldl (Simulator.repairSplit proportions) counts) = total counts := by
  induction splits generalizing counts with
  | nil => rfl
  | cons first splits ih => exact (ih _).trans (total_repairSplit first)

/-- They take nothing from a split without a proportion. -/
theorem foldl_repairSplit_of_not_pos {other : Split}
    (hother : ¬ literal 0 < proportions.val.of other) (splits : List Split) {counts : Split → ℤ}
    (hle : counts other ≤ 1) :
    splits.foldl (Simulator.repairSplit proportions) counts other = counts other := by
  induction splits generalizing counts with
  | nil => rfl
  | cons first splits ih =>
      have hfirst := repairSplit_of_not_pos hother hle first
      rw [List.foldl_cons, ih (hfirst.symm ▸ hle), hfirst]

/-- The counts that the repair works on: they are not negative, they are as many as there are runs,
and there is none where none is to be. -/
structure Repairable (proportions : SplitProportions (Number format)) (n : ℕ)
    (counts : Split → ℤ) : Prop where
  nonneg : ∀ split, 0 ≤ counts split
  total_eq : total counts = n
  zero : ∀ split, ¬ literal 0 < proportions.val.of split → counts split = 0

/-- Counts that can be repaired can be repaired further. -/
theorem Repairable.repairSplit {n : ℕ} (h : Repairable proportions n counts) (split : Split) :
    Repairable proportions n (repairSplit proportions counts split) where
  nonneg := repairSplit_nonneg h.nonneg split
  total_eq := (total_repairSplit split).trans h.total_eq
  zero other hother := by
    have hzero := h.zero other hother
    rw [repairSplit_of_not_pos hother (by omega), hzero]

/-- With enough runs there is one to take, so the split has a run afterwards. Otherwise every split
would have one at most, and this one none. -/
theorem Repairable.one_le_repairSplit_self {n : ℕ} (h : Repairable proportions n counts)
    (henough : nonzeroSplits proportions ≤ n) {split : Split}
    (hpos : literal 0 < proportions.val.of split) :
    1 ≤ Simulator.repairSplit proportions counts split split := by
  rcases repairSplit_cases proportions counts split with ⟨heq, hfew⟩ | ⟨donor, -, -, -, -, heq⟩
  · rw [heq]
    by_contra hnone
    have hself : counts split = 0 := by
      have := h.nonneg split
      omega
    have hle : ∀ other, counts other ≤ if literal 0 < proportions.val.of other then 1 else 0 := by
      intro other
      split_ifs with hother
      · exact hfew hpos hself other
      · exact (h.zero other hother).le
    have hlt : counts split < if literal 0 < proportions.val.of split then 1 else 0 := by
      rw [if_pos hpos, hself]
      exact Int.one_pos
    -- then there are fewer runs than splits that ask for one
    have htotal := total_lt_total hle hlt
    rw [h.total_eq, ← nonzeroSplits_eq_total] at htotal
    omega
  · rw [heq, Function.update_self]

/-- After the repair has passed over some splits, those of them that are to have runs do. -/
theorem Repairable.foldl_repairSplit {n : ℕ} (h : Repairable proportions n counts)
    (henough : nonzeroSplits proportions ≤ n) (splits : List Split) :
    Repairable proportions n (splits.foldl (Simulator.repairSplit proportions) counts) ∧
      ∀ split, (split ∈ splits ∨ 1 ≤ counts split) → literal 0 < proportions.val.of split →
        1 ≤ splits.foldl (Simulator.repairSplit proportions) counts split := by
  induction splits generalizing counts with
  | nil =>
      refine ⟨h, fun split hsplit _ => ?_⟩
      exact hsplit.resolve_left List.not_mem_nil
  | cons first splits ih =>
      obtain ⟨hrepairable, hruns⟩ := ih (h.repairSplit first)
      refine ⟨hrepairable, fun split hsplit hpos => hruns split ?_ hpos⟩
      rcases hsplit with hsplit | hsplit
      · rcases List.mem_cons.mp hsplit with rfl | hsplit
        · exact Or.inr (h.one_le_repairSplit_self henough hpos)
        · exact Or.inl hsplit
      · exact Or.inr (one_le_repairSplit hsplit first)

end Repair

/-! ## Exact shares -/

section Exact

variable (n : ℕ) (proportions : SplitProportions PlanNumber)

/-- `raw`: the share of a split. -/
def share (split : Split) : ℚ := (proportions.val.of split).val * n

/-- The share, rounded down. -/
def floorShare (split : Split) : ℤ := ⌊share n proportions split⌋

/-- The splits by their remainders, the greatest first. -/
def order : List Split :=
  orderBy (fun split => OrderDual.toDual (Int.fract (share n proportions split))) Split.all

/-- The counts before the repair. -/
def roundedCounts (split : Split) : ℤ :=
  floorShare n proportions split +
    if split ∈ slice (order n proportions) 0 (n - total (floorShare n proportions)) then 1 else 0

/-- No proportion is negative. -/
theorem proportion_nonneg (split : Split) : 0 ≤ (proportions.val.of split).val := by
  have hnonneg := Number.le_iff.mp (proportions.nonneg split)
  have hzero : (PyFloat.literal 0.0 : PlanNumber).val = 0 := by
    show (0.0 : ℚ) = 0
    norm_num
  rwa [hzero] at hnonneg

/-- Nor is any share. -/
theorem share_nonneg (split : Split) : 0 ≤ share n proportions split :=
  mul_nonneg (proportion_nonneg proportions split) (Nat.cast_nonneg n)

/-- The count of a split is its share, rounded down. -/
theorem truncate_raw (split : Split) :
    truncate (proportions.val.of split * literal (n : ℚ)) = floorShare n proportions split := by
  have hnum : 0 ≤ (share n proportions split).num := Rat.num_nonneg.mpr (share_nonneg _ _ split)
  rw [floorShare, Rat.floor_def', ← Int.tdiv_eq_ediv_of_nonneg hnum]
  rfl

/-- The counts are repaired if there are runs enough for all splits. -/
theorem splitCounts_eq (hn : n ≠ 0) : splitCounts n proportions =
    if nonzeroSplits proportions ≤ n then
      Split.all.foldl (repairSplit proportions) (roundedCounts n proportions)
    else roundedCounts n proportions := by
  have horder : (Split.all.mergeSort fun i j =>
      (proportions.val.of j * literal (n : ℚ) - literal (floorShare n proportions j : ℚ) :
          PlanNumber) ≤
        proportions.val.of i * literal (n : ℚ) - literal (floorShare n proportions i : ℚ)) =
      order n proportions := rfl
  rw [splitCounts, if_neg hn]
  dsimp only
  simp only [truncate_raw]
  rw [horder]
  rfl

/-- The splits that come before every split of proportion zero in the order of the remainders: those
with a remainder, and those without one that come first anyway. -/
def leadingSplits : List Split :=
  (Split.all.filter fun split => 0 < Int.fract (share n proportions split)) ++
    (Split.all.takeWhile fun split => 0 < (proportions.val.of split).val).filter fun split =>
      Int.fract (share n proportions split) = 0

variable {n proportions}

/-- A split of proportion zero has no share. -/
theorem share_eq_zero {split : Split} (h : ¬ 0 < (proportions.val.of split).val) :
    share n proportions split = 0 := by
  have hzero : (proportions.val.of split).val = 0 :=
    le_antisymm (not_lt.mp h) (proportion_nonneg proportions split)
  rw [share, hzero, zero_mul]

/-- The order goes through all splits. -/
theorem perm_order : (order n proportions).Perm Split.all := perm_orderBy

/-- The splits with a fractional share come first. -/
theorem order_eq_append : order n proportions =
    (order n proportions).filter (fun split => 0 < Int.fract (share n proportions split)) ++
      Split.all.filter fun split => Int.fract (share n proportions split) = 0 :=
  orderBy_eq_append_filter_eq (κ := ℚᵒᵈ) fun _ _ =>
    OrderDual.toDual_le_toDual.mpr (Int.fract_nonneg _)

/-- The leading splits are those before the first one without a proportion. -/
theorem takeWhile_order : ((order n proportions).takeWhile fun split =>
      0 < (proportions.val.of split).val).length = (leadingSplits n proportions).length := by
  have hpos : ∀ split ∈ (order n proportions).filter fun split =>
      0 < Int.fract (share n proportions split), 0 < (proportions.val.of split).val := by
    intro split hsplit
    by_contra hnot
    have hfract := of_decide_eq_true (List.mem_filter.mp hsplit).2
    rw [share_eq_zero hnot, Int.fract_zero] at hfract
    exact lt_irrefl 0 hfract
  rw [order_eq_append, List.takeWhile_append_of_pos (by simpa using hpos), leadingSplits,
    List.length_append, List.length_append, (perm_order.filter _).length_eq, List.takeWhile_filter]
  -- a split of proportion zero has no remainder, so it is not left out before it ends the front
  have hends : (fun split => !decide (Int.fract (share n proportions split) = 0) ||
      decide (0 < (proportions.val.of split).val)) =
        fun split => decide (0 < (proportions.val.of split).val) := by
    funext split
    by_cases hsplit : 0 < (proportions.val.of split).val
    · simp [hsplit]
    · simp [hsplit, share_eq_zero hsplit]
  rw [hends]

/-- How many splits can get one run more before one of proportion zero does. -/
theorem forall_mem_take_order_iff {k : ℕ} (hk : k ≤ 3) :
    (∀ split ∈ (order n proportions).take k, 0 < (proportions.val.of split).val) ↔
      k ≤ (leadingSplits n proportions).length := by
  have hlength : (order n proportions).length = 3 :=
    perm_order.length_eq
  rw [← takeWhile_order, ← forall_mem_take_iff (hlength.symm ▸ hk)]
  simp only [decide_eq_true_eq]

/-- What is asked of the counts of a stratum: the runs are distributed, each to a split that has a
proportion of them. -/
structure Apportions (n : ℕ) (proportions : SplitProportions PlanNumber) (counts : Split → ℤ) :
    Prop where
  /-- No count is negative. -/
  nonneg : ∀ split, 0 ≤ counts split
  /-- The counts add up to the runs of the stratum. -/
  total_eq : total counts = n
  /-- A split with proportion zero gets none. -/
  zero : ∀ split, (proportions.val.of split).val = 0 → counts split = 0
  /-- If there are enough of them, every other split gets one. -/
  nonzero : (Split.all.countP fun split => (proportions.val.of split).val ≠ 0) ≤ n →
    ∀ split, (proportions.val.of split).val ≠ 0 → 1 ≤ counts split

/-- The code compares the values. -/
theorem literal_lt_iff {split : Split} :
    literal 0 < proportions.val.of split ↔ 0 < (proportions.val.of split).val := Iff.rfl

/-- A proportion that is not zero is positive. -/
theorem ne_zero_iff {split : Split} :
    (proportions.val.of split).val ≠ 0 ↔ literal 0 < proportions.val.of split := by
  rw [literal_lt_iff]
  exact ⟨fun hne => lt_of_le_of_ne (proportion_nonneg proportions split) hne.symm, LT.lt.ne'⟩

/-- So the code counts the splits with a proportion. -/
theorem countP_ne_zero : (Split.all.countP fun split => (proportions.val.of split).val ≠ 0) =
    nonzeroSplits proportions := by
  simp only [nonzeroSplits, ne_zero_iff]

/-- No split is given two of the runs that are left over. -/
theorem nodup_slice_order (remainder : ℤ) : (slice (order n proportions) 0 remainder).Nodup := by
  have hnodup : (order n proportions).Nodup :=
    perm_order.nodup_iff.mpr (by decide)
  exact hnodup.sublist ((List.drop_sublist _ _).trans (List.take_sublist _ _))

/-- At most three of these runs are given out. -/
theorem length_slice_order_le (remainder : ℤ) :
    (slice (order n proportions) 0 remainder).length ≤ 3 :=
  ((List.drop_sublist _ _).trans (List.take_sublist _ _)).length_le.trans_eq
    perm_order.length_eq

/-- The counts add up to the shares rounded down, and to the runs that are given out. -/
theorem total_roundedCounts : total (roundedCounts n proportions) =
    total (floorShare n proportions) +
      (slice (order n proportions) 0 (n - total (floorShare n proportions))).length :=
  total_add_chosen (nodup_slice_order _) _

/-- The repairs do not change it. -/
theorem total_splitCounts (hn : n ≠ 0) : total (splitCounts n proportions) =
    total (roundedCounts n proportions) := by
  rw [splitCounts_eq n proportions hn]
  split_ifs
  · exact total_foldl_repairSplit _ _
  · rfl

/-- A split of proportion zero has a run if it is chosen for one that is left over. -/
theorem roundedCounts_of_zero {split : Split} (h : (proportions.val.of split).val = 0) :
    roundedCounts n proportions split =
      if split ∈ slice (order n proportions) 0 (n - total (floorShare n proportions)) then 1
      else 0 := by
  have hshare : share n proportions split = 0 := share_eq_zero (not_lt_of_ge h.le)
  rw [roundedCounts, floorShare, hshare, Int.floor_zero, zero_add]

/-- A split without a proportion has the count that it was rounded to. -/
theorem splitCounts_of_zero (hn : n ≠ 0) {split : Split} (h : (proportions.val.of split).val = 0) :
    splitCounts n proportions split = roundedCounts n proportions split := by
  have hnot : ¬ literal 0 < proportions.val.of split := fun hpos => ne_zero_iff.mpr hpos h
  rw [splitCounts_eq n proportions hn]
  split_ifs
  · refine foldl_repairSplit_of_not_pos hnot _ ?_
    rw [roundedCounts_of_zero h]
    split_ifs <;> decide
  · rfl

/-- The runs that are left over after rounding down can be given out as they should. -/
def RemainderFits (n : ℕ) (proportions : SplitProportions PlanNumber) : Prop :=
  total (floorShare n proportions) ≤ n ∧
    n ≤ total (floorShare n proportions) + (leadingSplits n proportions).length

/-- There are three splits. -/
theorem length_leadingSplits_le : (leadingSplits n proportions).length ≤ 3 := by
  rw [← takeWhile_order]
  exact (List.takeWhile_sublist _).length_le.trans_eq perm_order.length_eq

/-- Of the splits with the greatest remainders, as many as there are runs left over, none has
proportion zero. -/
theorem remainderFits_iff : RemainderFits n proportions ↔
    ((slice (order n proportions) 0 (n - total (floorShare n proportions))).length : ℤ) =
        n - total (floorShare n proportions) ∧
      ∀ split ∈ slice (order n proportions) 0 (n - total (floorShare n proportions)),
        0 < (proportions.val.of split).val := by
  have hlength : (order n proportions).length = 3 :=
    perm_order.length_eq
  have hleading : (leadingSplits n proportions).length ≤ 3 := length_leadingSplits_le
  rw [RemainderFits, length_slice hlength]
  generalize hremainder : (n : ℤ) - total (floorShare n proportions) = remainder
  constructor
  · rintro ⟨hle, hfits⟩
    have hnonneg : 0 ≤ remainder := by omega
    have hle3 : remainder ≤ 3 := by omega
    refine ⟨⟨hnonneg, hle3⟩, ?_⟩
    rw [slice_eq_take hnonneg (by omega), forall_mem_take_order_iff (by omega)]
    omega
  · rintro ⟨⟨hnonneg, hle3⟩, hpos⟩
    rw [slice_eq_take hnonneg (by omega), forall_mem_take_order_iff (by omega)] at hpos
    omega

/-- A stratum without runs. -/
theorem apportions_zero : Apportions 0 proportions (splitCounts 0 proportions) where
  nonneg _ := le_rfl
  total_eq := rfl
  zero _ _ := rfl
  nonzero hfew split hne := by
    rw [Nat.le_zero, List.countP_eq_zero] at hfew
    exact absurd (by simpa using hne) (hfew split (by cases split <;> decide))

/-- Without runs there is nothing left over. -/
theorem remainderFits_zero : RemainderFits 0 proportions := by
  have hfloor : ∀ split, floorShare 0 proportions split = 0 := by
    intro split
    rw [floorShare, share, Nat.cast_zero, mul_zero, Int.floor_zero]
  have htotal : total (floorShare 0 proportions) = 0 := by
    rw [total, hfloor, hfloor, hfloor]
    rfl
  rw [RemainderFits, htotal]
  omega

/-- Counts that the repair can work on come out of it as they should. -/
theorem apportions_of_repairable (hn : n ≠ 0)
    (h : Repairable proportions n (roundedCounts n proportions)) :
    Apportions n proportions (splitCounts n proportions) := by
  have hzero : ∀ {split}, (proportions.val.of split).val = 0 →
      ¬ literal 0 < proportions.val.of split := fun hzero hpos => ne_zero_iff.mpr hpos hzero
  rw [splitCounts_eq n proportions hn]
  split_ifs with henough
  · obtain ⟨hfinal, hruns⟩ := h.foldl_repairSplit henough Split.all
    refine ⟨hfinal.nonneg, hfinal.total_eq, fun split hsplit => hfinal.zero split (hzero hsplit),
      fun _ split hne => ?_⟩
    exact hruns split (Or.inl (by cases split <;> decide)) (ne_zero_iff.mp hne)
  · refine ⟨h.nonneg, h.total_eq, fun split hsplit => h.zero split (hzero hsplit), fun hfew => ?_⟩
    rw [countP_ne_zero] at hfew
    exact absurd hfew henough

/-- The counts of a stratum add up and respect the proportions of zero exactly if the runs that are
left over after rounding down are not negative in number and no more than the splits that come
before those of proportion zero. -/
theorem splitCounts_apportions_iff (n : ℕ) (proportions : SplitProportions PlanNumber) :
    Apportions n proportions (splitCounts n proportions) ↔
      total (floorShare n proportions) ≤ n ∧
        n ≤ total (floorShare n proportions) + (leadingSplits n proportions).length := by
  show _ ↔ RemainderFits n proportions
  by_cases hn : n = 0
  · subst hn
    exact iff_of_true apportions_zero remainderFits_zero
  rw [remainderFits_iff]
  constructor
  · intro h
    have htotal := h.total_eq
    rw [total_splitCounts hn, total_roundedCounts] at htotal
    refine ⟨by omega, fun split hsplit => ?_⟩
    by_contra hnot
    have hzero : (proportions.val.of split).val = 0 :=
      le_antisymm (not_lt.mp hnot) (proportion_nonneg proportions split)
    -- a split without a proportion would have been given a run
    have hcount := h.zero split hzero
    rw [splitCounts_of_zero hn hzero, roundedCounts_of_zero hzero, if_pos hsplit] at hcount
    omega
  · rintro ⟨hlength, hpos⟩
    -- conversely, what is left over goes to splits with a proportion, and the repairs to the others
    have hrepairable : Repairable proportions n (roundedCounts n proportions) := by
      refine ⟨fun split => ?_, ?_, fun split hnot => ?_⟩
      · have hfloor : 0 ≤ floorShare n proportions split :=
          Int.floor_nonneg.mpr (share_nonneg n proportions split)
        rw [roundedCounts]
        split_ifs <;> omega
      · rw [total_roundedCounts]
        omega
      · have hzero : (proportions.val.of split).val = 0 :=
          le_antisymm (not_lt.mp hnot) (proportion_nonneg proportions split)
        rw [roundedCounts_of_zero hzero, if_neg fun hmem => hnot (hpos split hmem)]
    exact apportions_of_repairable hn hrepairable

/-- Almost everything is for training. The sum is one up to the tolerance. -/
def almostAllTraining : SplitProportions PlanNumber where
  val := ⟨literal 0.9999995, literal 0, literal 0⟩
  valid := eq_ok_of_toBool (by decide +kernel)

/-- Of ten million runs five are left over, and no more than three are given out. -/
theorem not_apportions_tenMillion : ¬ ∀ (n : ℕ) (proportions : SplitProportions PlanNumber),
    Apportions n proportions (splitCounts n proportions) := by
  intro h
  have htotal := (h 10000000 almostAllTraining).total_eq
  have hfloors : total (floorShare 10000000 almostAllTraining) = 9999995 := by decide +kernel
  rw [total_splitCounts (by decide), total_roundedCounts, hfloors] at htotal
  have hlength : ∀ remainder,
      (slice (order 10000000 almostAllTraining) 0 remainder).length ≤ 3 := length_slice_order_le
  have hfew := hlength (((10000000 : ℕ) : ℤ) - 9999995)
  omega

end Exact

end Odis.Simulator
