import Mathlib.Algebra.Order.Round
import Odis.Library.Dispersion
import Odis.Python.Float

/-!
# Exact arithmetic

The reals as numbers of a program: no operation is rounded, square roots included. They are a type
of their own, so that the reals keep their own order.
-/

namespace Odis

/-- Numbers with the functions `math.sqrt` and `round`. -/
class PyMath (F : Type) extends PyFloat F where
  /-- `math.sqrt(x)`. -/
  sqrt : F → Except ArithmeticError F
  /-- `round(x)`. -/
  round : F → Except ArithmeticError ℤ

open Dispersion

/-- The reals, as a program computes with them. -/
def ExactReal : Type := ℝ

namespace ExactReal

noncomputable section

open Classical in
instance : PyFloat ExactReal where
  le := fun x y : ℝ => x ≤ y
  lt := fun x y : ℝ => x < y
  beq := fun x y : ℝ => decide (x = y)
  add := fun x y : ℝ => x + y
  sub := fun x y : ℝ => x - y
  mul := fun x y : ℝ => x * y
  neg := fun x : ℝ => -x
  decidableLE := fun x y : ℝ => inferInstanceAs (Decidable (x ≤ y))
  decidableLT := fun x y : ℝ => inferInstanceAs (Decidable (x < y))
  literal q := (q : ℝ)
  ofInt n := (n : ℝ)
  ratio m n := (m / n : ℝ)
  truediv := fun x y : ℝ => if y = 0 then .error .zeroDivisionError else .ok (x / y : ℝ)
  square := fun x : ℝ => .ok (x * x : ℝ)
  abs := fun x : ℝ => (|x| : ℝ)
  isfinite _ := true
  sum := fun xs : List ℝ => xs.sum
  fmean := fun xs : List ℝ => if xs = [] then .error .statisticsError else .ok (mean xs)
  pstdev := fun xs : List ℝ => if xs = [] then .error .statisticsError else .ok (deviation xs)

/-- The nearest integer. Half-way between two, it is the even one. -/
def nearestEven (x : ℝ) : ℤ :=
  if Int.fract x = 1 - Int.fract x ∧ Even ⌊x⌋ then ⌊x⌋ else round x

instance : PyMath ExactReal where
  sqrt := fun x : ℝ => if x < 0 then .error .valueError else .ok (√x : ℝ)
  round := fun x : ℝ => .ok (nearestEven x)

end

/-! ## What the operations return -/

variable {xs : List ExactReal} {x y : ℝ}

/-- A literal is its rational. -/
theorem literal_eq (q : ℚ) : (PyFloat.literal q : ExactReal) = (q : ℝ) := rfl

/-- The mean is exact. -/
theorem fmean_eq (h : xs ≠ []) : PyFloat.fmean xs = .ok (mean xs : ℝ) := if_neg h

/-- So is the deviation. -/
theorem pstdev_eq (h : xs ≠ []) : PyFloat.pstdev xs = .ok (deviation xs : ℝ) := if_neg h

/-- So is a quotient, of which the denominator is not zero. -/
theorem truediv_eq (h : y ≠ 0) :
    PyFloat.truediv (F := ExactReal) x y = .ok (x / y : ℝ) := if_neg h

/-- So is the root of what is not negative. -/
theorem sqrt_eq (h : 0 ≤ x) : PyMath.sqrt (F := ExactReal) x = .ok (√x : ℝ) :=
  if_neg (not_lt.mpr h)

end ExactReal

end Odis
