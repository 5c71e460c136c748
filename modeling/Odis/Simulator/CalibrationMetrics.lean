import Mathlib.Algebra.Order.Ring.Rat
import Mathlib.Data.Fin.VecNotation
import Mathlib.Data.Fintype.Basic
import Mathlib.Order.Interval.Set.Defs
import Mathlib.Tactic.FinCases
import Mathlib.Tactic.Linarith
import Odis.Library.MeanGap

/-!
# Expected calibration error

`compute_expected_calibration_error` (`dataset/calibration/calibration_metrics.py`) bins the rows of
an evaluation by the probability of the class they are predicted to be of, and adds up the gaps
between the accuracy and the mean confidence of the bins. The arrays are functions on their
indices, and the arithmetic is exact.

* `existsUnique_inBin`: every confidence is in one bin.
* `expectedCalibrationError_properGap`: the error is a proper measure of a gap.
-/

namespace Odis.Simulator

open Finset MeanGap

variable {K Label : Type} [Field K] [LinearOrder K] {n m : ℕ}

/-! ## Bins -/

/-- `np.linspace(0.0, 1.0, n_bins + 1)[i]`. -/
def edges (nBins i : ℕ) : K := i / nBins

/-- The mask of bin `i`: the first bin has its lower edge, the others do not. -/
def inBin (nBins i : ℕ) (confidence : K) : Prop :=
  if 0 < i then edges nBins i < confidence ∧ confidence ≤ edges nBins (i + 1)
  else edges nBins i ≤ confidence ∧ confidence ≤ edges nBins (i + 1)

instance (nBins i : ℕ) : DecidablePred (inBin (K := K) nBins i) := fun confidence => by
  unfold inBin
  infer_instance

/-- A confidence is at most the upper edge of its bin. -/
theorem inBin_le {nBins i : ℕ} {confidence : K} (h : inBin nBins i confidence) :
    confidence ≤ edges nBins (i + 1) := by
  rw [inBin] at h
  split at h <;> exact h.2

/-- And it is above the lower one, but for the first bin. -/
theorem inBin_lt {nBins i : ℕ} {confidence : K} (h : inBin nBins i confidence) (hi : 0 < i) :
    edges nBins i < confidence := by
  rw [inBin, if_pos hi] at h
  exact h.1

omit [LinearOrder K] in
/-- The first edge is at zero. -/
theorem edges_zero (nBins : ℕ) : (edges nBins 0 : K) = 0 := by
  rw [edges, Nat.cast_zero, zero_div]

section Edges

variable [IsStrictOrderedRing K]

/-- The edges increase. -/
theorem edges_mono (nBins : ℕ) : Monotone (edges nBins : ℕ → K) := fun _ _ hij =>
  div_le_div_of_nonneg_right (Nat.cast_le.mpr hij) (Nat.cast_nonneg nBins)

/-- The last edge is at one. -/
theorem edges_last {nBins : ℕ} (h : 0 < nBins) : (edges nBins nBins : K) = 1 :=
  div_self (Nat.cast_ne_zero.mpr h.ne')

/-- No confidence is in two bins: the upper edge of the first is at most the lower of the second. -/
theorem inBin_unique {nBins i j : ℕ} {confidence : K} (hi : inBin nBins i confidence)
    (hj : inBin nBins j confidence) : i = j := by
  have hnotlt : ∀ {a b}, inBin nBins a confidence → inBin nBins b confidence → ¬ a < b := by
    intro a b ha hb hab
    have hedge : (edges nBins (a + 1) : K) ≤ edges nBins b := edges_mono nBins hab
    exact absurd ((inBin_le ha).trans hedge) (not_le_of_gt (inBin_lt hb (a.zero_le.trans_lt hab)))
  have hij := hnotlt hi hj
  have hji := hnotlt hj hi
  omega

/-- Every confidence is in one bin: that of the first upper edge it does not pass. -/
theorem existsUnique_inBin {nBins : ℕ} (hbins : 0 < nBins) {confidence : K}
    (h : confidence ∈ Set.Icc 0 1) : ∃! i, i < nBins ∧ inBin nBins i confidence := by
  have hlast : confidence ≤ edges nBins (nBins - 1 + 1) := by
    rw [Nat.sub_add_cancel hbins, edges_last hbins]
    exact h.2
  have hex : ∃ i, confidence ≤ edges nBins (i + 1) := ⟨nBins - 1, hlast⟩
  have hfirst : confidence ≤ edges nBins (Nat.find hex + 1) := Nat.find_spec hex
  have hbin : inBin nBins (Nat.find hex) confidence := by
    rw [inBin]
    split_ifs with hpos
    · obtain ⟨i, hi⟩ := Nat.exists_eq_succ_of_ne_zero hpos.ne'
      -- the edge before it is passed, as it is not the first one
      have hnot := Nat.find_min hex (hi ▸ i.lt_succ_self)
      rw [hi] at hfirst ⊢
      exact ⟨lt_of_not_ge hnot, hfirst⟩
    · rw [Nat.eq_zero_of_not_pos hpos] at hfirst ⊢
      rw [edges_zero]
      exact ⟨h.1, hfirst⟩
  refine ⟨Nat.find hex, ⟨?_, hbin⟩, fun i hi => inBin_unique hi.2 hbin⟩
  have hle := Nat.find_min' hex hlast
  omega

end Edges

/-! ## The error -/

/-- `row.argmax()`: the first of the greatest. -/
def argmax (row : Fin (m + 1) → K) : Fin (m + 1) :=
  (List.finRange (m + 1)).foldl (fun best j => if row best < row j then j else best) 0

/-- `row.max()`. -/
def rowMax (row : Fin (m + 1) → K) : K := univ.sup' univ_nonempty row

/-- `correct`: which rows have the label of the class they are predicted to be of. -/
def correct [DecidableEq Label] (yTrue : Fin n → Label) (proba : Fin n → Fin (m + 1) → K)
    (classOrder : Fin (m + 1) → Label) (row : Fin n) : K :=
  if classOrder (argmax (proba row)) = yTrue row then 1 else 0

/-- The rows of bin `i`. -/
def binRows (proba : Fin n → Fin (m + 1) → K) (nBins i : ℕ) : Finset (Fin n) :=
  univ.filter fun row => inBin nBins i (rowMax (proba row))

/-- The body of the loop: bins without rows are passed over. -/
def addBin [DecidableEq Label] (yTrue : Fin n → Label) (proba : Fin n → Fin (m + 1) → K)
    (classOrder : Fin (m + 1) → Label) (nBins : ℕ) (ece : K) (i : ℕ) : K :=
  let rows := binRows proba nBins i
  if rows = ∅ then ece
  else
    let binConfidence := mean rows fun row => rowMax (proba row)
    let binAccuracy := mean rows (correct yTrue proba classOrder)
    ece + rows.card / n * |binAccuracy - binConfidence|

/-- `compute_expected_calibration_error`. -/
def computeExpectedCalibrationError [DecidableEq Label] (yTrue : Fin n → Label)
    (proba : Fin n → Fin (m + 1) → K) (classOrder : Fin (m + 1) → Label) (nBins : ℕ) : K :=
  (List.range nBins).foldl (addBin yTrue proba classOrder nBins) 0

/-- The gap between the accuracy and the mean confidence over all the rows. -/
def overallGap [DecidableEq Label] (yTrue : Fin n → Label) (proba : Fin n → Fin (m + 1) → K)
    (classOrder : Fin (m + 1) → Label) : K :=
  |mean univ (correct yTrue proba classOrder) - mean univ fun row => rowMax (proba row)|

section Error

variable [DecidableEq Label] {yTrue : Fin n → Label}
  {proba : Fin n → Fin (m + 1) → K} {classOrder : Fin (m + 1) → Label} {nBins : ℕ}

/-- What a bin counts for. -/
def binGap (yTrue : Fin n → Label) (proba : Fin n → Fin (m + 1) → K)
    (classOrder : Fin (m + 1) → Label) (nBins i : ℕ) : K :=
  weightedGap univ (binRows proba nBins i) (correct yTrue proba classOrder)
    fun row => rowMax (proba row)

/-- An empty bin has no gap. -/
theorem binGap_of_eq_empty {i : ℕ} (h : binRows proba nBins i = ∅) :
    binGap yTrue proba classOrder nBins i = 0 := by
  rw [binGap, weightedGap, h, card_empty, Nat.cast_zero, zero_div, zero_mul]

/-- A bin that is passed over counts for nothing. -/
theorem addBin_eq (ece : K) (i : ℕ) :
    addBin yTrue proba classOrder nBins ece i = ece + binGap yTrue proba classOrder nBins i := by
  rw [addBin]
  dsimp only
  split_ifs with hempty
  · rw [binGap_of_eq_empty hempty, add_zero]
  · rw [binGap, weightedGap, card_univ, Fintype.card_fin]

/-- The loop adds up the gaps of the bins. -/
theorem foldl_addBin (k : ℕ) :
    (List.range k).foldl (addBin yTrue proba classOrder nBins) 0 =
      ∑ i ∈ range k, binGap yTrue proba classOrder nBins i := by
  induction k with
  | zero => rfl
  | succ k ih =>
      rw [List.range_succ, List.foldl_append, ih, sum_range_succ, List.foldl_cons, List.foldl_nil,
        addBin_eq]

/-- The error is the sum of the gaps. -/
theorem computeExpectedCalibrationError_eq_sum :
    computeExpectedCalibrationError yTrue proba classOrder nBins =
      ∑ i ∈ range nBins, binGap yTrue proba classOrder nBins i :=
  foldl_addBin nBins

/-! ### The rows -/

/-- Rows of probabilities: every entry is between zero and one. -/
def AreProbabilities (proba : Fin n → Fin (m + 1) → K) : Prop :=
  ∀ row j, proba row j ∈ Set.Icc 0 1

/-- The confidence of a row is between zero and one. -/
theorem rowMax_mem (h : AreProbabilities proba) (row : Fin n) :
    rowMax (proba row) ∈ Set.Icc 0 1 :=
  ⟨(h row 0).1.trans (le_sup' (proba row) (mem_univ 0)), sup'_le _ _ fun j _ => (h row j).2⟩

/-- The rows of a bin are those with their confidence in it. -/
theorem mem_binRows {i : ℕ} {row : Fin n} :
    row ∈ binRows proba nBins i ↔ inBin nBins i (rowMax (proba row)) := by
  simp [binRows]

variable [IsStrictOrderedRing K]

/-- Whether a row is predicted right and its confidence are both between zero and one. -/
theorem abs_correct_sub_rowMax_le_one (h : AreProbabilities proba) (row : Fin n) :
    |correct yTrue proba classOrder row - rowMax (proba row)| ≤ 1 := by
  obtain ⟨hnonneg, hle⟩ := rowMax_mem h row
  rw [abs_le, correct]
  split_ifs
  · constructor <;> linarith
  · constructor <;> linarith

/-- No row is in two bins. -/
theorem pairwiseDisjoint_binRows :
    (range nBins : Set ℕ).PairwiseDisjoint (binRows proba nBins) := by
  intro i _ j _ hij
  refine disjoint_left.mpr fun row hi hj => hij ?_
  exact inBin_unique (mem_binRows.mp hi) (mem_binRows.mp hj)

/-- Every row is in a bin. -/
theorem biUnion_binRows (h : AreProbabilities proba) (hbins : 0 < nBins) :
    (range nBins).biUnion (binRows proba nBins) = univ := by
  ext row
  obtain ⟨i, ⟨hi, hbin⟩, -⟩ := existsUnique_inBin hbins (rowMax_mem h row)
  simp only [mem_biUnion, mem_range, mem_binRows, mem_univ, iff_true]
  exact ⟨i, hi, hbin⟩

/-! ### A proper measure -/

/-- The error is between zero and one. -/
theorem computeExpectedCalibrationError_mem (h : AreProbabilities proba) (hbins : 0 < nBins) :
    computeExpectedCalibrationError yTrue proba classOrder nBins ∈ Set.Icc 0 1 := by
  rw [computeExpectedCalibrationError_eq_sum]
  refine ⟨sum_nonneg fun i _ => weightedGap_nonneg _ _ _ _, ?_⟩
  exact sum_weightedGap_le_one pairwiseDisjoint_binRows (biUnion_binRows h hbins)
    fun row _ => abs_correct_sub_rowMax_le_one h row

/-- The error is at least the gap of all rows taken together. -/
theorem overallGap_le (h : AreProbabilities proba) (hbins : 0 < nBins) :
    overallGap yTrue proba classOrder ≤
      computeExpectedCalibrationError yTrue proba classOrder nBins := by
  rw [computeExpectedCalibrationError_eq_sum]
  exact abs_mean_sub_mean_le_sum pairwiseDisjoint_binRows (biUnion_binRows h hbins)

/-- A single bin has all the rows. -/
theorem computeExpectedCalibrationError_one (h : AreProbabilities proba) :
    computeExpectedCalibrationError yTrue proba classOrder 1 =
      overallGap yTrue proba classOrder := by
  have hall : binRows proba 1 0 = univ := by
    have hcover := biUnion_binRows h one_pos
    rwa [range_one, singleton_biUnion] at hcover
  rw [computeExpectedCalibrationError_eq_sum, range_one, sum_singleton, binGap, hall,
    weightedGap_self, overallGap]

/-- The order of the rows does not matter. -/
theorem computeExpectedCalibrationError_perm (σ : Equiv.Perm (Fin n)) :
    computeExpectedCalibrationError (yTrue ∘ σ) (proba ∘ σ) classOrder nBins =
      computeExpectedCalibrationError yTrue proba classOrder nBins := by
  rw [computeExpectedCalibrationError_eq_sum, computeExpectedCalibrationError_eq_sum]
  refine sum_congr rfl fun i _ => ?_
  have hrows : (binRows (proba ∘ σ) nBins i).map σ.toEmbedding = binRows proba nBins i := by
    ext row
    rw [mem_map_equiv, mem_binRows, mem_binRows, Function.comp_apply, Equiv.apply_symm_apply]
  have hall : (univ : Finset (Fin n)) = univ.map σ.toEmbedding := (map_univ_equiv σ).symm
  rw [binGap, binGap, ← hrows, hall, weightedGap_map, ← hall]
  rfl

/-- The expected calibration error of a non-empty set of rows: every confidence is in one bin, the
error is between zero and one and does not depend on the order of the rows, and it is no less than
the gap between the accuracy and the mean confidence over all the rows, which it is for one bin. -/
theorem expectedCalibrationError_properGap (yTrue : Fin (n + 1) → Label)
    (proba : Fin (n + 1) → Fin (m + 1) → K) (classOrder : Fin (m + 1) → Label)
    (h : AreProbabilities proba) (hbins : 0 < nBins) :
    (∀ row, ∃! i, i < nBins ∧ inBin nBins i (rowMax (proba row))) ∧
      computeExpectedCalibrationError yTrue proba classOrder nBins ∈ Set.Icc 0 1 ∧
      (∀ σ : Equiv.Perm (Fin (n + 1)),
        computeExpectedCalibrationError (yTrue ∘ σ) (proba ∘ σ) classOrder nBins =
          computeExpectedCalibrationError yTrue proba classOrder nBins) ∧
      |mean univ (correct yTrue proba classOrder) - mean univ fun row => rowMax (proba row)| ≤
        computeExpectedCalibrationError yTrue proba classOrder nBins ∧
      (nBins = 1 → computeExpectedCalibrationError yTrue proba classOrder nBins =
        |mean univ (correct yTrue proba classOrder) -
          mean univ fun row => rowMax (proba row)|) := by
  refine ⟨fun row => existsUnique_inBin hbins (rowMax_mem h row),
    computeExpectedCalibrationError_mem h hbins, computeExpectedCalibrationError_perm,
    overallGap_le h hbins, ?_⟩
  intro hone
  subst hone
  exact computeExpectedCalibrationError_one h

/-- Two rows, one sure of its class and wrong, one undecided and right. -/
theorem expectedCalibrationError_properGap_twoRows :
    (computeExpectedCalibrationError !["healthy", "flow"] ![![(0 : ℚ), 1], ![1 / 2, 1 / 2]]
      !["flow", "healthy"] 10 : ℚ) ∈ Set.Icc 0 1 := by
  refine (expectedCalibrationError_properGap _ _ _ ?_ (by decide)).2.1
  intro row j
  fin_cases row <;> fin_cases j <;> norm_num

end Error

end Odis.Simulator
