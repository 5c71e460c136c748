import Mathlib.Algebra.BigOperators.Field
import Mathlib.Algebra.Order.BigOperators.Group.Finset
import Mathlib.Algebra.Order.Field.Basic
import Mathlib.Tactic.Ring

/-!
# Gaps between means over a partition

Two numbers of every row, compared by their means over the cells of a partition: each cell counts
with the gap between its two means, weighted by its share of the rows.

* `weightedGap_eq`: a cell counts with the size of the sum of its rows' differences.
* `abs_mean_sub_mean_le_sum`: the cells count for no less than the gap between the means over all
  the rows.
* `sum_weightedGap_le_one`: they count for no more than one, where no row's numbers differ by more.
-/

open Finset

namespace MeanGap

variable {ι β K : Type*} [Field K]

/-- The mean of a number over some rows. -/
def mean (rows : Finset ι) (x : ι → K) : K := (∑ i ∈ rows, x i) / rows.card

/-- The difference of two means is the mean of the differences. -/
theorem mean_sub_mean (rows : Finset ι) (x y : ι → K) :
    mean rows x - mean rows y = (∑ i ∈ rows, (x i - y i)) / rows.card := by
  rw [mean, mean, sum_sub_distrib, sub_div]

variable [LinearOrder K]

/-- The gap between the means over a cell, weighted by the share of the cell. -/
def weightedGap (rows cell : Finset ι) (x y : ι → K) : K :=
  (cell.card : K) / rows.card * |mean cell x - mean cell y|

variable [IsStrictOrderedRing K]

/-- The size of the cell cancels. -/
theorem weightedGap_eq (rows cell : Finset ι) (x y : ι → K) :
    weightedGap rows cell x y = |∑ i ∈ cell, (x i - y i)| / rows.card := by
  rw [weightedGap, mean_sub_mean, abs_div, Nat.abs_cast]
  rcases cell.eq_empty_or_nonempty with rfl | hcell
  · simp
  · have hcard : (cell.card : K) ≠ 0 := Nat.cast_ne_zero.mpr hcell.card_ne_zero
    rw [div_mul_div_comm, mul_comm (rows.card : K), mul_div_mul_left _ _ hcard]

/-- A weighted gap is not negative. -/
theorem weightedGap_nonneg (rows cell : Finset ι) (x y : ι → K) :
    0 ≤ weightedGap rows cell x y := by
  rw [weightedGap_eq]
  exact div_nonneg (abs_nonneg _) (Nat.cast_nonneg _)

/-- All the rows as one cell. -/
theorem weightedGap_self (rows : Finset ι) (x y : ι → K) :
    weightedGap rows rows x y = |mean rows x - mean rows y| := by
  rw [weightedGap_eq, mean_sub_mean, abs_div, Nat.abs_cast]

/-- Rows are told apart by their numbers alone. -/
theorem weightedGap_map {κ : Type*} (σ : κ ↪ ι) (rows cell : Finset κ) (x y : ι → K) :
    weightedGap (rows.map σ) (cell.map σ) x y = weightedGap rows cell (x ∘ σ) (y ∘ σ) := by
  rw [weightedGap_eq, weightedGap_eq, sum_map, card_map]
  rfl

/-- What the cells count for together. -/
theorem sum_weightedGap_eq (rows : Finset ι) (bins : Finset β) (cell : β → Finset ι) (x y : ι → K) :
    ∑ b ∈ bins, weightedGap rows (cell b) x y =
      (∑ b ∈ bins, |∑ i ∈ cell b, (x i - y i)|) / rows.card := by
  rw [sum_div]
  exact sum_congr rfl fun b _ => weightedGap_eq rows (cell b) x y

section Partition

variable [DecidableEq ι] {rows : Finset ι} {bins : Finset β} {cell : β → Finset ι} {x y : ι → K}

/-- Merging cells never widens the gap. -/
theorem abs_mean_sub_mean_le_sum (hdisjoint : (bins : Set β).PairwiseDisjoint cell)
    (hcover : bins.biUnion cell = rows) :
    |mean rows x - mean rows y| ≤ ∑ b ∈ bins, weightedGap rows (cell b) x y := by
  have hsum : ∑ i ∈ rows, (x i - y i) = ∑ b ∈ bins, ∑ i ∈ cell b, (x i - y i) := by
    rw [← hcover, sum_biUnion hdisjoint]
  rw [mean_sub_mean, abs_div, Nat.abs_cast, hsum, sum_weightedGap_eq]
  exact div_le_div_of_nonneg_right (abs_sum_le_sum_abs _ _) (Nat.cast_nonneg _)

/-- Numbers that differ by one at most have means that do. -/
theorem sum_weightedGap_le_one (hdisjoint : (bins : Set β).PairwiseDisjoint cell)
    (hcover : bins.biUnion cell = rows) (h : ∀ i ∈ rows, |x i - y i| ≤ 1) :
    ∑ b ∈ bins, weightedGap rows (cell b) x y ≤ 1 := by
  have hrows : ∑ b ∈ bins, |∑ i ∈ cell b, (x i - y i)| ≤ rows.card := by
    calc ∑ b ∈ bins, |∑ i ∈ cell b, (x i - y i)|
        ≤ ∑ b ∈ bins, ∑ i ∈ cell b, |x i - y i| :=
          sum_le_sum fun b _ => abs_sum_le_sum_abs _ _
      _ = ∑ i ∈ rows, |x i - y i| := by rw [← hcover, sum_biUnion hdisjoint]
      _ ≤ ∑ i ∈ rows, (1 : K) := sum_le_sum h
      _ = rows.card := by rw [sum_const, nsmul_eq_mul, mul_one]
  rw [sum_weightedGap_eq]
  exact div_le_one_of_le₀ hrows (Nat.cast_nonneg _)

end Partition

end MeanGap
