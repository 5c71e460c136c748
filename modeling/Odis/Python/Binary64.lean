import Odis.Python.DoubleFormat
import Odis.Python.Statistics

/-!
# Numbers of type `float`

A `float` is a finite number of the double format, an infinity or `nan`. What is rounded beyond the
greatest finite number becomes infinite; some functions raise `OverflowError` instead. Zero has no
sign here: nothing that is modelled tells the two zeros apart.

`math.fsum` keeps partial sums that together are the exact sum. It raises if one of them overflows,
which depends on the order of the summands, and otherwise rounds their exact sum.

* `less_ofDouble`: comparisons are those of the double format as long as one of the numbers is
  finite.
* `fmean_finite`: the mean of finite numbers is the one of exact sums, if it is computed at all.
* `pstdev_finite`: the deviation of finite numbers does not overflow.
-/

namespace Odis

/-- The finite numbers of type `float`, and what they would be rounded to without an upper bound. -/
abbrev Double : Type := Number .plainDouble

/-- The greatest finite number. -/
def maxDouble : ℚ := (2 ^ 53 - 1) * 2 ^ 971

/-- A number of type `float`. -/
inductive Binary64 where
  | finite (x : Double) (le_max : |x.val| ≤ maxDouble)
  | infinite (negative : Bool)
  | nan
  deriving DecidableEq

namespace Binary64

open Statistics

/-! ## Arithmetic -/

/-- A number without an upper bound, infinite if it is too great. -/
def ofDouble (x : Double) : Binary64 :=
  if h : |x.val| ≤ maxDouble then .finite x h else .infinite (x.val < 0)

/-- A number without an upper bound, where one that is too great is not accepted. -/
def ofDoubleOrOverflow (x : Double) : Except ArithmeticError Binary64 :=
  if h : |x.val| ≤ maxDouble then .ok (.finite x h) else .error .overflowError

/-- The number that an exact result is rounded to. -/
def ofRat (q : ℚ) : Binary64 := ofDouble (.ofRat .plainDouble q)

instance : Neg Binary64 where
  neg
    | .finite x _ => ofDouble (-x)
    | .infinite negative => .infinite !negative
    | .nan => .nan

instance : Add Binary64 where
  add
    | .finite x _, .finite y _ => ofDouble (x + y)
    | .infinite negative, .infinite negative' =>
        if negative = negative' then .infinite negative else .nan
    | .infinite negative, .finite _ _ => .infinite negative
    | .finite _ _, .infinite negative => .infinite negative
    | _, _ => .nan

instance : Sub Binary64 := ⟨fun x y => x + -y⟩

instance : Mul Binary64 where
  mul
    | .finite x _, .finite y _ => ofDouble (x * y)
    | .infinite negative, .infinite negative' => .infinite (negative ^^ negative')
    | .infinite negative, .finite x _ =>
        if x.val = 0 then .nan else .infinite (negative ^^ decide (x.val < 0))
    | .finite x _, .infinite negative =>
        if x.val = 0 then .nan else .infinite (negative ^^ decide (x.val < 0))
    | _, _ => .nan

/-- The quotient by a number that is not zero. -/
instance : Div Binary64 where
  div
    | .finite x _, .finite y _ => ofDouble (x / y)
    | .finite _ _, .infinite _ => ofRat 0
    | .infinite negative, .finite y _ => .infinite (negative ^^ decide (y.val < 0))
    | _, _ => .nan

/-- Comparisons with `nan` are false. -/
def less : Binary64 → Binary64 → Bool
  | .finite x _, .finite y _ => x.val < y.val
  | .finite _ _, .infinite negative => !negative
  | .infinite negative, .finite _ _ => negative
  | .infinite negative, .infinite negative' => negative && !negative'
  | _, _ => false

/-- The same number, which `nan` is not. -/
def equal : Binary64 → Binary64 → Bool
  | .finite x _, .finite y _ => x.val = y.val
  | .infinite negative, .infinite negative' => negative = negative'
  | _, _ => false

instance : LT Binary64 := ⟨fun x y => less x y = true⟩

instance : LE Binary64 := ⟨fun x y => less x y = true ∨ equal x y = true⟩

instance : DecidableLT Binary64 := fun x y => inferInstanceAs (Decidable (less x y = true))

instance : DecidableLE Binary64 := fun x y =>
  inferInstanceAs (Decidable (less x y = true ∨ equal x y = true))

/-- Whether a number is finite. -/
def isFinite : Binary64 → Bool
  | .finite _ _ => true
  | _ => false

/-- A finite number as a rational. -/
def toRat : Binary64 → ℚ
  | .finite x _ => x.val
  | _ => 0

/-! ## Statistics -/

/-- A number is added to the partial sums, from the least one on: each of them keeps what the sum is
rounded by. Nothing is returned on overflow. -/
def addPartial (x : ℚ) : List ℚ → Option (List ℚ)
  | [] => some (if x = 0 then [] else [x])
  | y :: partials =>
      let high := roundDouble (x + y)
      let low := x + y - high
      if maxDouble < |high| then none
      else (addPartial high partials).map fun rest => if low = 0 then rest else low :: rest

/-- The partial sums of `math.fsum`. They start again at a number that is not finite. -/
def fsumPartials : List ℚ → List Binary64 → Except ArithmeticError (List ℚ)
  | partials, [] => .ok partials
  | partials, .finite x _ :: xs =>
      match addPartial x.val partials with
      | none => .error .overflowError
      | some partials => fsumPartials partials xs
  | _, _ :: xs => fsumPartials [] xs

/-- The nearest number that is finite. -/
def nearestFinite (q : ℚ) : Double := .ofRat .plainDouble (max (-maxDouble) (min maxDouble q))

/-- `math.fsum`. -/
def fsum (xs : List Binary64) : Except ArithmeticError Binary64 := do
  let partials ← fsumPartials [] xs
  if .infinite false ∈ xs ∧ .infinite true ∈ xs then .error .valueError
  else if .nan ∈ xs then .ok .nan
  else if .infinite false ∈ xs then .ok (.infinite false)
  else if .infinite true ∈ xs then .ok (.infinite true)
  else .ok (ofDouble (nearestFinite partials.sum))

/-- The population deviation of rationals, rounded. -/
def deviation (values : List ℚ) : Double :=
  let mss := meanSquares values
  .ofRat .plainDouble (floatSqrtOfFrac mss.num.toNat mss.den)

instance : PyFloat Binary64 where
  beq := equal
  decidableLE := inferInstance
  decidableLT := inferInstance
  literal := ofRat
  ofInt n := ofRat n
  ratio m n := ofRat ((m : ℚ) / n)
  truediv x y := if equal y (ofRat 0) then .error .zeroDivisionError else .ok (x / y)
  square
    | .finite x _ => ofDoubleOrOverflow (x * x)
    | .infinite _ => .ok (.infinite false)
    | .nan => .ok .nan
  abs
    | .finite x h => if x.val < 0 then ofDouble (-x) else .finite x h
    | .infinite _ => .infinite false
    | .nan => .nan
  isfinite := isFinite
  sum xs := xs.foldl (· + ·) (ofRat 0)
  fmean xs := do
    let total ← fsum xs
    if xs = [] then .error .statisticsError
    else
      let count ← ofDoubleOrOverflow (.ofRat .plainDouble xs.length)
      return total / count
  pstdev xs :=
    if xs = [] then .error .statisticsError
    else if xs.all isFinite then ofDoubleOrOverflow (deviation (xs.map toRat))
    -- the sum of the squares is no fraction, and has no numerator
    else .error .attributeError

/-! ## Finite numbers -/

variable {x y c : Double} {q : ℚ}

/-- The greatest double is positive. -/
theorem maxDouble_pos : 0 < maxDouble := by
  rw [maxDouble]
  norm_num

/-- The greatest finite number is not rounded. -/
theorem roundDouble_maxDouble : roundDouble maxDouble = maxDouble := by decide +kernel

/-- What is no greater than the greatest finite number is not rounded beyond it. -/
theorem abs_ofRat_le (h : |q| ≤ maxDouble) :
    |(Number.ofRat .plainDouble q).val| ≤ maxDouble := by
  obtain ⟨hlower, hupper⟩ := abs_le.mp h
  have hmin := roundDouble_mono hlower
  have hmax := roundDouble_mono hupper
  rw [roundDouble_neg, roundDouble_maxDouble] at hmin
  rw [roundDouble_maxDouble] at hmax
  exact abs_le.mpr ⟨hmin, hmax⟩

/-- Up to the greatest double a number is finite. -/
theorem ofDouble_of_le (h : |x.val| ≤ maxDouble) : ofDouble x = .finite x h := dif_pos h

/-- Beyond it a number is infinite. -/
theorem ofDouble_of_lt (h : maxDouble < |x.val|) : ofDouble x = .infinite (x.val < 0) :=
  dif_neg (not_le_of_gt h)

/-- Negation is exact. -/
theorem val_neg (x : Double) : (-x).val = -x.val := by
  rw [show (-x).val = roundDouble (-x.val) from rfl, roundDouble_neg, neg_inj]
  exact x.round_val

/-- A finite number is of the double format. -/
theorem exists_eq_ofDouble {x : Binary64} (h : x.isFinite = true) :
    ∃ y : Double, |y.val| ≤ maxDouble ∧ x = ofDouble y ∧ x.toRat = y.val := by
  match x, h with
  | .finite y hle, _ => exact ⟨y, hle, (ofDouble_of_le hle).symm, rfl⟩

/-! ## Comparisons -/

/-- A number is less than another one, of which one is finite, if it is without an upper bound. -/
theorem less_ofDouble (h : |x.val| ≤ maxDouble ∨ |y.val| ≤ maxDouble) :
    less (ofDouble x) (ofDouble y) = decide (x.val < y.val) := by
  have hpos := maxDouble_pos
  by_cases hx : |x.val| ≤ maxDouble
  · rw [ofDouble_of_le hx]
    by_cases hy : |y.val| ≤ maxDouble
    · rw [ofDouble_of_le hy]
      rfl
    -- an infinity compares by its sign
    rw [ofDouble_of_lt (not_le.mp hy)]
    show (!decide (y.val < 0)) = decide (x.val < y.val)
    rw [← decide_not, decide_eq_decide, not_lt]
    obtain ⟨hlower, hupper⟩ := abs_le.mp hx
    rcases lt_abs.mp (not_le.mp hy) with hgreat | hsmall
    · exact iff_of_true (by linarith) (by linarith)
    · exact iff_of_false (by linarith) (by linarith)
  · have hy := h.resolve_left hx
    rw [ofDouble_of_lt (not_le.mp hx), ofDouble_of_le hy]
    show decide (x.val < 0) = decide (x.val < y.val)
    rw [decide_eq_decide]
    obtain ⟨hlower, hupper⟩ := abs_le.mp hy
    rcases lt_abs.mp (not_le.mp hx) with hgreat | hsmall
    · exact iff_of_false (by linarith) (by linarith)
    · exact iff_of_true (by linarith) (by linarith)

/-- A finite number is equal to another one if it is without an upper bound. -/
theorem equal_ofDouble (hy : |y.val| ≤ maxDouble) :
    equal (ofDouble x) (ofDouble y) = decide (x.val = y.val) := by
  rw [ofDouble_of_le hy]
  by_cases hx : |x.val| ≤ maxDouble
  · rw [ofDouble_of_le hx]
    rfl
  · rw [ofDouble_of_lt (not_le.mp hx)]
    refine (decide_eq_false fun heq => ?_).symm
    rw [heq] at hx
    exact hx hy

/-- The order is that of the numbers, unless both have overflowed. -/
theorem ofDouble_lt_iff (h : |x.val| ≤ maxDouble ∨ |y.val| ≤ maxDouble) :
    ofDouble x < ofDouble y ↔ x < y := by
  rw [show ofDouble x < ofDouble y ↔ less (ofDouble x) (ofDouble y) = true from Iff.rfl,
    less_ofDouble h, decide_eq_true_iff, Number.lt_iff]

/-- So it is up to a number that has not overflowed. -/
theorem ofDouble_le_iff (hy : |y.val| ≤ maxDouble) : ofDouble x ≤ ofDouble y ↔ x ≤ y := by
  rw [show ofDouble x ≤ ofDouble y ↔ less (ofDouble x) (ofDouble y) = true ∨
    equal (ofDouble x) (ofDouble y) = true from Iff.rfl, less_ofDouble (Or.inr hy),
    equal_ofDouble hy, decide_eq_true_iff, decide_eq_true_iff, Number.le_iff, le_iff_lt_or_eq]

/-! ## Operations -/

/-- A difference of two finite numbers is rounded, and overflows if it must. -/
theorem ofDouble_sub (hx : |x.val| ≤ maxDouble) (hy : |y.val| ≤ maxDouble) :
    ofDouble x - ofDouble y = ofDouble (x - y) := by
  have hneg : |(-y).val| ≤ maxDouble := by rwa [val_neg, abs_neg]
  have hsub : x + -y = x - y := by
    apply Number.val_injective
    rw [Number.val_add, Number.val_sub, val_neg, sub_eq_add_neg]
  rw [ofDouble_of_le hx, ofDouble_of_le hy]
  show Binary64.finite x hx + ofDouble (-y) = _
  rw [ofDouble_of_le hneg, ← hsub]
  rfl

/-- The absolute value is exact. -/
theorem val_abs (x : Double) : (PyFloat.abs x).val = |x.val| := by
  have hiff : x < Number.ofRat .plainDouble 0 ↔ x.val < 0 := by
    rw [Number.lt_iff, Number.val_zero]
  by_cases hneg : x.val < 0
  · rw [show PyFloat.abs x = -x from if_pos (hiff.mpr hneg), val_neg, abs_of_neg hneg]
  · rw [show PyFloat.abs x = x from if_neg fun h => hneg (hiff.mp h),
      abs_of_nonneg (not_lt.mp hneg)]

/-- An overflow has the absolute value of an overflow. -/
theorem abs_ofDouble (x : Double) : PyFloat.abs (ofDouble x) = ofDouble (PyFloat.abs x) := by
  by_cases hx : |x.val| ≤ maxDouble
  · rw [ofDouble_of_le hx]
    by_cases hneg : x.val < 0
    · have habs : PyFloat.abs x = -x := by
        apply Number.val_injective
        rw [val_abs, val_neg, abs_of_neg hneg]
      rw [habs]
      exact if_pos hneg
    · have habs : PyFloat.abs x = x := by
        apply Number.val_injective
        rw [val_abs, abs_of_nonneg (not_lt.mp hneg)]
      rw [habs, ofDouble_of_le hx]
      exact if_neg hneg
  -- both overflow, to the positive infinity
  · have hgreat : maxDouble < |(PyFloat.abs x).val| := by
      rw [val_abs, abs_abs]
      exact not_le.mp hx
    have hnonneg : ¬ (PyFloat.abs x).val < 0 := by
      rw [val_abs]
      exact not_lt_of_ge (abs_nonneg _)
    rw [ofDouble_of_lt (not_le.mp hx), ofDouble_of_lt hgreat, decide_eq_false hnonneg]
    rfl

/-- A quotient that overflows is one of numbers of which the first is greater, so it is not less
than anything up to one. -/
theorem truediv_ofDouble (hx : 0 ≤ x.val) (hpos : 0 < y.val) (hy : |y.val| ≤ maxDouble)
    (hc : |c.val| ≤ 1) : ∃ ratio, PyFloat.truediv (ofDouble x) (ofDouble y) = .ok ratio ∧
      (ratio < ofDouble c ↔ x / y < c) := by
  have hone : (1 : ℚ) ≤ maxDouble := by decide +kernel
  have hzero : equal (ofDouble y) (ofRat 0) = false := by
    rw [ofRat, equal_ofDouble (abs_ofRat_le (by simpa using maxDouble_pos.le)), Number.val_zero]
    exact decide_eq_false hpos.ne'
  have hdiv : PyFloat.truediv (ofDouble x) (ofDouble y) = .ok (ofDouble x / ofDouble y) := by
    show (if equal (ofDouble y) (ofRat 0) = true then _ else _) = _
    rw [hzero]
    rfl
  refine ⟨_, hdiv, ?_⟩
  -- a finite numerator gives a quotient that is rounded, finite or not
  by_cases hfinite : |x.val| ≤ maxDouble
  · rw [show ofDouble x / ofDouble y = ofDouble (x / y) by
      rw [ofDouble_of_le hfinite, ofDouble_of_le hy]
      rfl]
    exact ofDouble_lt_iff (Or.inr (hc.trans hone))
  · rw [ofDouble_of_lt (not_le.mp hfinite), ofDouble_of_le hy, ofDouble_of_le (hc.trans hone),
      decide_eq_false (not_lt_of_ge hx)]
    -- an infinite one is greater than any finite denominator
    have hgreat : y.val ≤ x.val := by
      rw [abs_of_nonneg hx] at hfinite
      exact (le_abs_self _).trans (hy.trans (not_le.mp hfinite).le)
    have hratio : 1 ≤ (x / y).val := by
      have hround := (NumberFormat.plainDouble).round_mono ((one_le_div hpos).mpr hgreat)
      rwa [NumberFormat.round_one] at hround
    refine iff_of_false ?_
      (not_lt_of_ge (Number.le_iff.mpr ((le_abs_self _).trans (hc.trans hratio))))
    show ¬ (false ^^ decide (y.val < 0)) = true
    rw [decide_eq_false (not_lt_of_gt hpos)]
    exact Bool.false_ne_true

/-! ## Sums and deviations -/

/-- The partial sums keep the exact sum. -/
theorem sum_addPartial {x : ℚ} {partials partials' : List ℚ}
    (h : addPartial x partials = some partials') : partials'.sum = x + partials.sum := by
  induction partials generalizing x partials' with
  | nil =>
      rw [← Option.some.inj h]
      split_ifs with hzero
      · rw [hzero, zero_add]
      · simp
  | cons y partials ih =>
      rw [addPartial] at h
      split_ifs at h with hover hexact
      · obtain ⟨rest, hrest, rfl⟩ := Option.map_eq_some_iff.mp h
        rw [ih hrest, List.sum_cons]
        linarith
      · obtain ⟨rest, hrest, rfl⟩ := Option.map_eq_some_iff.mp h
        rw [List.sum_cons, List.sum_cons, ih hrest]
        ring

/-- The partial sums add up to the exact sum, whatever has been summed so far. -/
theorem sum_fsumPartials {xs : List Binary64} {partials partials' : List ℚ}
    (hfinite : ∀ x ∈ xs, x.isFinite = true) (h : fsumPartials partials xs = .ok partials') :
    partials'.sum = partials.sum + (xs.map toRat).sum := by
  induction xs generalizing partials with
  | nil =>
      cases h
      simp
  | cons x xs ih =>
      obtain ⟨hx, hxs⟩ := List.forall_mem_cons.mp hfinite
      match x, hx with
      | .finite x hle, _ =>
          rw [fsumPartials] at h
          split at h
          · cases h
          · rename_i partials₁ hadd
            rw [ih hxs h, sum_addPartial hadd, List.map_cons, List.sum_cons, toRat]
            ring

/-- The partial sums of finite numbers can only overflow. -/
theorem fsumPartials_eq_error {xs : List Binary64} {partials : List ℚ} {error : ArithmeticError}
    (h : fsumPartials partials xs = .error error) : error = .overflowError := by
  induction xs generalizing partials with
  | nil => cases h
  | cons x xs ih =>
      match x with
      | .finite x hle =>
          rw [fsumPartials] at h
          split at h
          · exact (Except.error.inj h).symm
          · exact ih h
      | .infinite negative => exact ih h
      | .nan => exact ih h

/-- The nearest finite double is finite. -/
theorem abs_nearestFinite_le (q : ℚ) : |(nearestFinite q).val| ≤ maxDouble := by
  apply abs_ofRat_le
  rw [abs_le]
  exact ⟨le_max_left _ _, max_le (by linarith [maxDouble_pos]) (min_le_left _ _)⟩

/-- The sum of finite numbers is the nearest one to their exact sum, unless a partial sum
overflows. -/
theorem fsum_finite {xs : List Binary64} (hfinite : ∀ x ∈ xs, x.isFinite = true) :
    fsum xs = .ok (ofDouble (nearestFinite (xs.map toRat).sum)) ∨
      fsum xs = .error .overflowError := by
  have hmem : ∀ x : Binary64, x.isFinite = false → x ∉ xs := fun x hx hmem => by
    rw [hfinite x hmem] at hx
    cases hx
  rw [fsum]
  cases hpartials : fsumPartials [] xs with
  | error error =>
      rw [fsumPartials_eq_error hpartials]
      exact Or.inr rfl
  | ok partials =>
      have hsum := sum_fsumPartials hfinite hpartials
      rw [List.sum_nil, zero_add] at hsum
      rw [← hsum]
      left
      refine (if_neg fun h => hmem _ rfl h.1).trans ?_
      rw [if_neg (hmem _ rfl), if_neg (hmem _ rfl), if_neg (hmem _ rfl)]

/-- The mean of finite numbers, from the nearest number to their exact sum. -/
def meanOf (values : List ℚ) : Double :=
  nearestFinite values.sum / .ofRat .plainDouble values.length

/-- The mean of finite doubles does not overflow. -/
theorem abs_meanOf_le {values : List ℚ} (hne : values ≠ []) :
    |(meanOf values).val| ≤ maxDouble := by
  have hcount : 1 ≤ roundDouble values.length := by
    rw [← (NumberFormat.plainDouble).round_one]
    apply roundDouble_mono
    exact_mod_cast List.length_pos_of_ne_nil hne
  apply abs_ofRat_le
  rw [Number.val_ofRat, abs_div]
  exact (div_le_self (abs_nonneg _) (hcount.trans (le_abs_self _))).trans (abs_nearestFinite_le _)

/-- The mean of finite numbers is that of their exact sum, unless a partial sum overflows. -/
theorem fmean_finite {xs : List Binary64} (hne : xs ≠ [])
    (hfinite : ∀ x ∈ xs, x.isFinite = true) :
    PyFloat.fmean xs = .ok (ofDouble (meanOf (xs.map toRat))) ∨
      PyFloat.fmean xs = .error .overflowError := by
  -- there are values, so the check for none is passed
  have hdef : PyFloat.fmean xs = (fsum xs).bind fun total =>
      (ofDoubleOrOverflow (.ofRat .plainDouble xs.length)).bind fun count =>
        .ok (total / count) := by
    show (fsum xs).bind _ = _
    simp only [if_neg hne]
    rfl
  rw [hdef]
  rcases fsum_finite hfinite with hsum | hsum
  · rw [hsum, ofDoubleOrOverflow]
    split_ifs with hcount
    · left
      rw [Except.bind, ofDouble_of_le (abs_nearestFinite_le _), meanOf, List.length_map]
      rfl
    · exact Or.inr rfl
  · rw [hsum]
    exact Or.inr rfl

/-- The deviation of numbers up to the greatest finite one is no greater. -/
theorem abs_deviation_le {values : List ℚ} (h : ∀ x ∈ values, |x| ≤ maxDouble) :
    |(deviation values).val| ≤ maxDouble := by
  let bound : ℕ := (2 ^ 53 - 1) * 2 ^ 971
  have hbound : (bound : ℚ) = maxDouble := by decide +kernel
  have hmss := meanSquares_le h
  generalize hvariance : meanSquares values = mss at hmss
  -- the mean of the squares is no greater than the square of the greatest number
  have hnum : mss.num.toNat ≤ bound * bound * mss.den := by
    rw [Int.toNat_le]
    have hle : mss * mss.den ≤ maxDouble * maxDouble * mss.den :=
      mul_le_mul_of_nonneg_right hmss (Nat.cast_nonneg _)
    rw [Rat.mul_den_eq_num, ← hbound] at hle
    exact_mod_cast hle
  -- so its root is not either, and rounds to a finite number
  have hroot := floatSqrtOfFrac_le mss.den_pos hnum (k := 2048) (by decide +kernel)
  have hnonneg := floatSqrtOfFrac_nonneg mss.num.toNat mss.den
  have hround : roundDouble (maxDouble + 2 ^ 969) ≤ maxDouble := by decide +kernel
  rw [deviation, hvariance, abs_le]
  constructor
  · have hzero := roundDouble_mono hnonneg
    rw [roundDouble_zero] at hzero
    exact (neg_nonpos.mpr maxDouble_pos.le).trans hzero
  · rw [hbound] at hroot
    exact (roundDouble_mono hroot).trans hround

/-- The deviation of finite numbers does not overflow. -/
theorem pstdev_finite {xs : List Binary64} (hne : xs ≠ [])
    (hfinite : ∀ x ∈ xs, x.isFinite = true) :
    PyFloat.pstdev xs = .ok (ofDouble (deviation (xs.map toRat))) ∧
      |(deviation (xs.map toRat)).val| ≤ maxDouble := by
  have hle : |(deviation (xs.map toRat)).val| ≤ maxDouble := by
    apply abs_deviation_le
    refine List.forall_mem_map.mpr fun x hx => ?_
    obtain ⟨y, hy, -, heq⟩ := exists_eq_ofDouble (hfinite x hx)
    rwa [heq]
  refine ⟨?_, hle⟩
  show (if xs = [] then _ else _) = _
  rw [if_neg hne, if_pos (List.all_eq_true.mpr hfinite), ofDouble_of_le hle]
  exact dif_pos hle

end Binary64

end Odis
