import Mathlib.Algebra.BigOperators.Group.List.Lemmas
import Mathlib.Analysis.Real.Sqrt

/-!
# Means, deviations and differences

The mean and the deviation of a list of reals, and the differences of neighbours in a list. What
happens to them when all values are negated or shifted, or are taken in another order.

* `deviation_map_neg`, `deviation_map_add`, `deviation_perm`: the deviation does not change.
* `differences_reverse`: backwards, the differences are negated, and come backwards.
-/

namespace Dispersion

/-! ## Means and deviations -/

/-- The mean. -/
noncomputable def mean (xs : List ℝ) : ℝ := xs.sum / xs.length

/-- The deviation of a population. -/
noncomputable def deviation (xs : List ℝ) : ℝ :=
  √(mean (xs.map fun x => (x - mean xs) * (x - mean xs)))

variable {xs ys : List ℝ}

/-- The mean does not depend on the order of the numbers. -/
theorem mean_perm (h : xs.Perm ys) : mean xs = mean ys := by
  rw [mean, mean, h.sum_eq, h.length_eq]

/-- The mean of the negated numbers is the negated mean. -/
theorem mean_map_neg (xs : List ℝ) : mean (xs.map fun x => -x) = -mean xs := by
  have hsum : (xs.map fun x => -x).sum = -xs.sum := by
    induction xs with
    | nil => simp
    | cons x xs ih =>
        rw [List.map_cons, List.sum_cons, List.sum_cons, ih]
        ring
  rw [mean, mean, hsum, List.length_map, neg_div]

/-- The mean of a constant is this constant. -/
theorem mean_replicate {n : ℕ} (h : n ≠ 0) (c : ℝ) : mean (List.replicate n c) = c := by
  have hlength : (n : ℝ) ≠ 0 := Nat.cast_ne_zero.mpr h
  rw [mean, List.sum_replicate, List.length_replicate, nsmul_eq_mul, mul_div_cancel_left₀ c hlength]

/-- Adding a constant to all numbers adds it to the mean. -/
theorem mean_map_add (hne : xs ≠ []) (c : ℝ) : mean (xs.map fun x => x + c) = mean xs + c := by
  have hsum : (xs.map fun x => x + c).sum = xs.sum + xs.length * c := by
    rw [List.sum_map_add, List.map_id', List.map_const', List.sum_replicate, nsmul_eq_mul]
  have hlength : (xs.length : ℝ) ≠ 0 := by
    rw [Nat.cast_ne_zero, Ne, List.length_eq_zero_iff]
    exact hne
  rw [mean, mean, hsum, List.length_map, add_div, mul_div_cancel_left₀ c hlength]

/-- The mean of squares is not negative. -/
theorem mean_squares_nonneg (xs : List ℝ) (c : ℝ) :
    0 ≤ mean (xs.map fun x => (x - c) * (x - c)) := by
  unfold mean
  apply div_nonneg
  · apply List.sum_nonneg
    intro square hsquare
    obtain ⟨x, -, rfl⟩ := List.mem_map.mp hsquare
    exact mul_self_nonneg (x - c)
  · exact Nat.cast_nonneg _

/-- The deviation does not depend on the order. -/
theorem deviation_perm (h : xs.Perm ys) : deviation xs = deviation ys := by
  rw [deviation, deviation, mean_perm h, mean_perm (h.map _)]

/-- The deviation does not depend on the sign. -/
theorem deviation_map_neg (xs : List ℝ) : deviation (xs.map fun x => -x) = deviation xs := by
  have hsquare : ∀ x : ℝ, (-x - -mean xs) * (-x - -mean xs) = (x - mean xs) * (x - mean xs) := by
    intro x
    ring
  rw [deviation, deviation, mean_map_neg, List.map_map]
  simp only [Function.comp_def, hsquare]

/-- Nor does it depend on a constant added to all numbers. -/
theorem deviation_map_add (xs : List ℝ) (c : ℝ) :
    deviation (xs.map fun x => x + c) = deviation xs := by
  by_cases hne : xs = []
  · rw [hne]
    rfl
  have hsquare : ∀ x : ℝ,
      (x + c - (mean xs + c)) * (x + c - (mean xs + c)) = (x - mean xs) * (x - mean xs) := by
    intro x
    ring
  rw [deviation, deviation, mean_map_add hne, List.map_map]
  simp only [Function.comp_def, hsquare]

/-! ## Differences -/

section Differences

variable {G : Type*} [AddCommGroup G]

/-- Every value less the one before it. -/
def differences (xs : List G) : List G := List.zipWith (fun x next => next - x) xs xs.tail

/-- The first difference is that of the first two numbers. -/
theorem differences_cons_cons (x y : G) (xs : List G) :
    differences (x :: y :: xs) = (y - x) :: differences (y :: xs) := rfl

/-- The differences of the negated numbers are the negated differences. -/
theorem differences_map_neg (xs : List G) :
    differences (xs.map fun x => -x) = (differences xs).map fun d => -d := by
  rw [differences, differences, ← List.map_tail, List.zipWith_map, List.map_zipWith]
  congr 1
  ext x next
  abel

/-- A constant added to all numbers leaves the differences as they are. -/
theorem differences_map_add (xs : List G) (c : G) :
    differences (xs.map fun x => x + c) = differences xs := by
  rw [differences, differences, ← List.map_tail, List.zipWith_map]
  congr 1
  ext x next
  abel

/-- One more number adds one difference. -/
theorem differences_concat (xs : List G) (x y : G) :
    differences (xs ++ [x, y]) = differences (xs ++ [x]) ++ [y - x] := by
  induction xs with
  | nil => rfl
  | cons z xs ih =>
      cases xs with
      | nil => rfl
      | cons w xs =>
          show (w - z) :: differences (w :: xs ++ [x, y]) = _
          rw [ih]
          rfl

/-- Backwards, a rise is a fall. -/
theorem differences_reverse (xs : List G) :
    differences xs.reverse = ((differences xs).map fun d => -d).reverse := by
  induction xs with
  | nil => rfl
  | cons x xs ih =>
      cases xs with
      | nil => rfl
      | cons y xs =>
          calc differences (x :: y :: xs).reverse = differences (xs.reverse ++ [y, x]) := by
                rw [List.reverse_cons, List.reverse_cons, List.append_assoc]
                rfl
            _ = differences (y :: xs).reverse ++ [x - y] := by
                rw [differences_concat, List.reverse_cons]
            _ = ((differences (x :: y :: xs)).map fun d => -d).reverse := by
                rw [ih, differences_cons_cons, List.map_cons, List.reverse_cons, neg_sub]

end Differences

end Dispersion
