import Mathlib.Algebra.BigOperators.Group.List.Basic
import Mathlib.Data.Nat.Size
import Mathlib.Tactic.Positivity
import Mathlib.Tactic.Ring
import Odis.Library.Rounding
import Odis.Python.Float

/-!
# Statistics in a number format

`statistics.fmean` and `statistics.pstdev` over the numbers of a format: sums and variances are
exact, square roots are taken with more digits than the format keeps and an odd last one, and each
result is rounded.

* `floatSqrtOfFrac_le`: how far a root can be above its exact value.
* `meanSquares_le`: a bound of the variance.
* `fmean_replicate`: the mean of equal numbers, for zeros and ones.
* `pstdev_le_one`: the deviation of zeros and ones.
-/

namespace Odis

namespace Statistics

/-- `_integer_sqrt_of_frac_rto`: the integer square root of `n / m`, odd unless it is exact. -/
def integerSqrtOfFracRto (n m : ℕ) : ℕ :=
  let a := (n / m).sqrt
  a ||| if a * a * m ≠ n then 1 else 0

/-- `_sqrt_bit_width`. -/
def sqrtBitWidth : ℤ := 2 * 53 + 3

/-- `_float_sqrt_of_frac`, before its result is rounded. -/
def floatSqrtOfFrac (n m : ℕ) : ℚ :=
  let q : ℤ := ((n.size : ℤ) - m.size - sqrtBitWidth) / 2
  if 0 ≤ q then ((integerSqrtOfFracRto n (m * 4 ^ q.toNat) * 2 ^ q.toNat : ℕ) : ℚ)
  else (integerSqrtOfFracRto (n * 4 ^ (-q).toNat) m : ℚ) / 2 ^ (-q).toNat

/-- `_ss` over the number of the values: their variance, exactly. -/
def meanSquares (values : List ℚ) : ℚ :=
  let count : ℚ := values.length
  (count * (values.map fun x => x * x).sum - values.sum * values.sum) / count / count

end Statistics

open Statistics Number

variable {format : NumberFormat}

/-- The numbers of a format, as a program computes with them. -/
instance : PyFloat (Number format) where
  decidableLE := inferInstance
  decidableLT := inferInstance
  literal := ofRat format
  ofInt n := ofRat format n
  ratio m n := ofRat format ((m : ℚ) / n)
  truediv x y := if y.val = 0 then .error .zeroDivisionError else .ok (x / y)
  square x := .ok (x * x)
  abs x := if x < ofRat format 0 then -x else x
  isfinite _ := true
  sum xs := xs.foldl (· + ·) (ofRat format 0)
  fmean xs :=
    if xs = [] then .error .statisticsError
    else .ok (ofRat format (xs.map Number.val).sum / ofRat format xs.length)
  pstdev xs :=
    if xs = [] then .error .statisticsError
    else
      let mss := meanSquares (xs.map Number.val)
      .ok (ofRat format (floatSqrtOfFrac mss.num.toNat mss.den))

namespace Statistics

/-! ## Square roots -/

/-- Making the last digit odd does not pass a power of two. -/
theorem integerSqrtOfFracRto_lt {n m k : ℕ} (h : (n / m).sqrt < 2 ^ (k + 1)) :
    integerSqrtOfFracRto n m < 2 ^ (k + 1) := by
  rw [integerSqrtOfFracRto]
  apply Nat.or_lt_two_pow h
  split_ifs
  · exact Nat.one_lt_two_pow (Nat.succ_ne_zero k)
  · positivity

/-- The root of at most a quarter is at most one. -/
theorem floatSqrtOfFrac_le_one {n m : ℕ} (hm : 0 < m) (h : 4 * n ≤ m) :
    floatSqrtOfFrac n m ≤ 1 := by
  have hsize : n.size ≤ m.size := Nat.size_le_size (by omega)
  rw [floatSqrtOfFrac]
  -- the digits are shifted to the left
  have hq : ((n.size : ℤ) - m.size - sqrtBitWidth) / 2 < 0 := by
    rw [sqrtBitWidth]
    omega
  generalize ((n.size : ℤ) - m.size - sqrtBitWidth) / 2 = q at hq
  rw [if_neg (by omega)]
  obtain ⟨k, hk⟩ : ∃ k : ℕ, (-q).toNat = k + 1 := ⟨(-q).toNat - 1, by omega⟩
  rw [hk, div_le_one (by positivity)]
  -- the shifted quotient is at most a square, and its root is rounded to odd
  have hquotient : n * 4 ^ (k + 1) / m ≤ 2 ^ k * 2 ^ k := by
    apply Nat.div_le_of_le_mul
    calc n * 4 ^ (k + 1) = 4 * n * (2 ^ k * 2 ^ k) := by
          rw [← Nat.mul_pow, pow_succ]
          ring
      _ ≤ m * (2 ^ k * 2 ^ k) := Nat.mul_le_mul_right _ h
  have hroot : integerSqrtOfFracRto (n * 4 ^ (k + 1)) m < 2 ^ (k + 1) := by
    apply integerSqrtOfFracRto_lt
    calc (n * 4 ^ (k + 1) / m).sqrt ≤ (2 ^ k * 2 ^ k).sqrt := Nat.sqrt_le_sqrt hquotient
      _ = 2 ^ k := Nat.sqrt_eq _
      _ < 2 ^ (k + 1) := Nat.pow_lt_pow_right Nat.one_lt_two (Nat.lt_succ_self k)
  exact_mod_cast hroot.le

/-- Making the last digit odd adds at most one. -/
theorem integerSqrtOfFracRto_le (n m : ℕ) :
    integerSqrtOfFracRto n m ≤ (n / m).sqrt + 1 := by
  have hodd : ∀ a : ℕ, a ||| 1 ≤ a + 1 := fun a => by
    have hhalf : (a ||| 1) / 2 = a / 2 := by rw [Nat.or_div_two, Nat.or_zero]
    omega
  rw [integerSqrtOfFracRto]
  split_ifs
  · exact hodd _
  · rw [Nat.or_zero]
    exact Nat.le_succ _

/-- The root of a quotient exceeds a bound of its exact value by no more than its last digit. -/
theorem floatSqrtOfFrac_le {n m bound k : ℕ} (hm : 0 < m) (h : n ≤ bound * bound * m)
    (hbits : bound * bound < 2 ^ k) :
    floatSqrtOfFrac n m ≤ bound + 2 ^ ((k - 109) / 2) := by
  have hsize : n.size ≤ k + m.size := by
    rw [Nat.size_le, pow_add]
    exact h.trans_lt (Nat.mul_lt_mul'' hbits m.lt_size_self)
  rw [floatSqrtOfFrac]
  split_ifs with hq
  -- the digits are shifted to the right, by no more than the bound has beyond them
  · have hexponent : (((n.size : ℤ) - m.size - sqrtBitWidth) / 2).toNat ≤ (k - 109) / 2 := by
      rw [sqrtBitWidth]
      omega
    generalize (((n.size : ℤ) - m.size - sqrtBitWidth) / 2).toNat = q at hexponent
    have hroot : (n / (m * 4 ^ q)).sqrt * 2 ^ q ≤ bound := by
      apply Nat.mul_self_le_mul_self_iff.mp
      apply Nat.le_of_mul_le_mul_right _ hm
      calc (n / (m * 4 ^ q)).sqrt * 2 ^ q * ((n / (m * 4 ^ q)).sqrt * 2 ^ q) * m
          = (n / (m * 4 ^ q)).sqrt * (n / (m * 4 ^ q)).sqrt * (m * 4 ^ q) := by
            rw [show 4 = 2 * 2 from rfl, Nat.mul_pow]
            ring
        _ ≤ n / (m * 4 ^ q) * (m * 4 ^ q) := Nat.mul_le_mul_right _ (Nat.sqrt_le _)
        _ ≤ n := Nat.div_mul_le_self _ _
        _ ≤ bound * bound * m := h
    have hle : integerSqrtOfFracRto n (m * 4 ^ q) * 2 ^ q ≤ bound + 2 ^ ((k - 109) / 2) := by
      calc integerSqrtOfFracRto n (m * 4 ^ q) * 2 ^ q
          ≤ ((n / (m * 4 ^ q)).sqrt + 1) * 2 ^ q :=
            Nat.mul_le_mul_right _ (integerSqrtOfFracRto_le _ _)
        _ = (n / (m * 4 ^ q)).sqrt * 2 ^ q + 2 ^ q := Nat.succ_mul _ _
        _ ≤ bound + 2 ^ ((k - 109) / 2) :=
            Nat.add_le_add hroot (Nat.pow_le_pow_right Nat.two_pos hexponent)
    exact_mod_cast hle
  · -- the digits are shifted to the left
    generalize (-(((n.size : ℤ) - m.size - sqrtBitWidth) / 2)).toNat = q
    have hroot : (n * 4 ^ q / m).sqrt ≤ bound * 2 ^ q := by
      apply Nat.mul_self_le_mul_self_iff.mp
      calc (n * 4 ^ q / m).sqrt * (n * 4 ^ q / m).sqrt ≤ n * 4 ^ q / m := Nat.sqrt_le _
        _ ≤ bound * bound * m * 4 ^ q / m :=
            Nat.div_le_div_right (Nat.mul_le_mul_right _ h)
        _ = bound * 2 ^ q * (bound * 2 ^ q) := by
            rw [Nat.div_eq_iff_eq_mul_left hm ⟨bound * bound * 4 ^ q, by ring⟩,
              show 4 = 2 * 2 from rfl, Nat.mul_pow]
            ring
    rw [div_le_iff₀ (by positivity)]
    have hle : integerSqrtOfFracRto (n * 4 ^ q) m ≤ (bound + 2 ^ ((k - 109) / 2)) * 2 ^ q := by
      calc integerSqrtOfFracRto (n * 4 ^ q) m ≤ (n * 4 ^ q / m).sqrt + 1 :=
            integerSqrtOfFracRto_le _ _
        _ ≤ bound * 2 ^ q + 2 ^ ((k - 109) / 2) * 2 ^ q :=
            Nat.add_le_add hroot (Nat.mul_pos (by positivity) (by positivity))
        _ = (bound + 2 ^ ((k - 109) / 2)) * 2 ^ q := by ring
    exact_mod_cast hle

/-- A root is not negative. -/
theorem floatSqrtOfFrac_nonneg (n m : ℕ) : 0 ≤ floatSqrtOfFrac n m := by
  rw [floatSqrtOfFrac]
  split_ifs <;> positivity

/-- Numbers up to a bound have a variance up to its square. -/
theorem meanSquares_le {values : List ℚ} {bound : ℚ} (h : ∀ x ∈ values, |x| ≤ bound) :
    meanSquares values ≤ bound * bound := by
  rcases eq_or_ne values [] with rfl | hne
  · simp [meanSquares, mul_self_nonneg]
  have hcount : (0 : ℚ) < values.length := by exact_mod_cast List.length_pos_of_ne_nil hne
  have hsquares : (values.map fun x => x * x).sum ≤ values.length * (bound * bound) := by
    have hle := List.sum_le_card_nsmul (values.map fun x => x * x) (bound * bound)
      (List.forall_mem_map.mpr fun x hx => by
        rw [← abs_mul_abs_self x]
        exact mul_self_le_mul_self (abs_nonneg x) (h x hx))
    rwa [List.length_map, nsmul_eq_mul] at hle
  rw [meanSquares, div_div, div_le_iff₀ (by positivity)]
  -- what is taken off the sum of the squares is not negative
  have hsum := mul_self_nonneg values.sum
  calc values.length * (values.map fun x => x * x).sum - values.sum * values.sum
      ≤ values.length * (values.map fun x => x * x).sum := by linarith
    _ ≤ values.length * (values.length * (bound * bound)) :=
        mul_le_mul_of_nonneg_left hsquares hcount.le
    _ = bound * bound * (values.length * values.length) := by ring

/-! ## Zeros and ones -/

/-- The sum of zeros and ones is between zero and their number, and is the sum of their squares. -/
theorem sum_zeros_ones {values : List ℚ} (h : ∀ x ∈ values, x = 0 ∨ x = 1) :
    (values.map fun x => x * x).sum = values.sum ∧ 0 ≤ values.sum ∧
      values.sum ≤ values.length := by
  induction values with
  | nil => simp
  | cons x values ih =>
      obtain ⟨hsquares, hnonneg, hle⟩ := ih fun y hy => h y (List.mem_cons_of_mem x hy)
      rw [List.map_cons, List.sum_cons, List.sum_cons, hsquares, List.length_cons, Nat.cast_succ]
      rcases h x List.mem_cons_self with rfl | rfl
      · refine ⟨by ring, ?_, ?_⟩ <;> linarith
      · refine ⟨by ring, ?_, ?_⟩ <;> linarith

/-- The variance of zeros and ones is at most a quarter. -/
theorem meanSquares_zeros_ones {values : List ℚ} (h : ∀ x ∈ values, x = 0 ∨ x = 1) :
    0 ≤ meanSquares values ∧ 4 * meanSquares values ≤ 1 := by
  obtain ⟨hsquares, hnonneg, hle⟩ := sum_zeros_ones h
  rw [meanSquares, hsquares]
  rcases Nat.eq_zero_or_pos values.length with hzero | hpos
  · rw [hzero]
    norm_num
  have hcount : (0 : ℚ) < values.length := by exact_mod_cast hpos
  rw [div_div]
  constructor
  · exact div_nonneg (by nlinarith) (by positivity)
  · rw [← mul_div_assoc, div_le_one (by positivity)]
    nlinarith [sq_nonneg ((values.length : ℚ) - 2 * values.sum)]

/-- The deviation of zeros and ones is at most one. -/
theorem pstdev_zeros_ones {xs : List (Number format)} (hne : xs ≠ [])
    (h : ∀ x ∈ xs, x.val = 0 ∨ x.val = 1) :
    ∃ spread : Number format, PyFloat.pstdev xs = .ok spread ∧ 0 ≤ spread.val ∧
      spread.val ≤ 1 := by
  have hvalues : ∀ x ∈ xs.map Number.val, x = 0 ∨ x = 1 := List.forall_mem_map.mpr h
  obtain ⟨hnonneg, hquarter⟩ := meanSquares_zeros_ones hvalues
  have hzero : (ofRat format 0).val = 0 := Number.val_zero
  have hone : (ofRat format 1).val = 1 := Number.val_one
  generalize hmss : meanSquares (xs.map Number.val) = mss at hnonneg hquarter
  refine ⟨ofRat format (floatSqrtOfFrac mss.num.toNat mss.den), ?_, ?_, ?_⟩
  · rw [← hmss]
    exact if_neg hne
  · exact hzero ▸ Number.ofRat_mono (floatSqrtOfFrac_nonneg _ _)
  · rw [← hone]
    apply Number.ofRat_mono
    apply floatSqrtOfFrac_le_one mss.den_pos
    have hnum : ((mss.num.toNat : ℤ) : ℚ) = mss.num := by
      rw [Int.toNat_of_nonneg (Rat.num_nonneg.mpr hnonneg)]
    have hden : (0 : ℚ) < mss.den := by exact_mod_cast mss.den_pos
    -- a variance up to a quarter has a root up to a half
    have hdiv : (mss.num : ℚ) = mss * mss.den := (Rat.mul_den_eq_num mss).symm
    have : 4 * (mss.num.toNat : ℚ) ≤ mss.den := by
      rw [show (mss.num.toNat : ℚ) = mss.num by exact_mod_cast hnum, hdiv]
      nlinarith
    exact_mod_cast this

/-- The mean of equal numbers, zeros or ones. -/
theorem fmean_replicate {n : ℕ} (hn : 0 < n) {x : Number format} (h : x.val = 0 ∨ x.val = 1) :
    PyFloat.fmean (List.replicate n x) = .ok x := by
  have hne : List.replicate n x ≠ [] := by simp [hn.ne']
  have hround : (1 : ℚ) ≤ format.round n := by
    rw [← format.round_one]
    exact format.round_mono (by exact_mod_cast hn)
  refine (if_neg hne).trans (congrArg Except.ok (Number.val_injective ?_))
  rw [Number.val_div, Number.val_ofRat, Number.val_ofRat, List.map_replicate, List.sum_replicate,
    List.length_replicate]
  rcases h with h | h
  · rw [h, nsmul_zero, format.round_zero, zero_div, format.round_zero]
  · rw [h, nsmul_one, div_self (by linarith), format.round_one]

end Statistics

end Odis
