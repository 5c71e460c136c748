import Mathlib.Algebra.Field.Rat
import Mathlib.Data.List.Basic
import Mathlib.Data.Int.Notation

/-!
# Floating-point numbers

What the programs use of `float`: comparisons, the arithmetic operators with the exceptions they
raise, and the functions of `statistics`. The operations are those of a class, so a program
written over it is a program over every such number type; no law is assumed of them, and in
particular rounding, overflow to infinity and `nan` are allowed.

The rationals are an instance whose arithmetic is exact (`pstdev` to six decimals). A run that
only compares numbers and adds small integers is the same over them and over `float`.
-/

namespace Odis

/-- The exceptions of arithmetic on numbers. -/
inductive ArithmeticError where
  | zeroDivisionError
  | overflowError
  | statisticsError
  | valueError
  | attributeError
  deriving DecidableEq, Repr

/-- The numbers a program computes with. -/
class PyFloat (F : Type) extends LE F, LT F, BEq F, Add F, Sub F, Mul F, Neg F where
  decidableLE : DecidableLE F
  decidableLT : DecidableLT F
  /-- The number nearest to a literal of the source. -/
  literal : Rat → F
  /-- An `int` met in an operation with a `float`. -/
  ofInt : ℤ → F
  /-- The quotient of two `int`s, the second not zero. -/
  ratio : ℤ → ℤ → F
  /-- `x / y`. -/
  truediv : F → F → Except ArithmeticError F
  /-- `x ** 2`. -/
  square : F → Except ArithmeticError F
  /-- `abs(x)`. -/
  abs : F → F
  /-- `math.isfinite(x)`. -/
  isfinite : F → Bool
  /-- `sum(xs)`. -/
  sum : List F → F
  /-- `statistics.fmean(xs)`. -/
  fmean : List F → Except ArithmeticError F
  /-- `statistics.pstdev(xs)`. -/
  pstdev : List F → Except ArithmeticError F

attribute [reducible, instance] PyFloat.decidableLE PyFloat.decidableLT

namespace PyFloat

variable {F : Type} [PyFloat F]

/-- `min(x, *xs)`: the first of the smallest. -/
def minimum (x : F) (xs : List F) : F := xs.foldl (fun best y => if y < best then y else best) x

/-- `max(x, *xs)`: the first of the largest. -/
def maximum (x : F) (xs : List F) : F := xs.foldl (fun best y => if best < y then y else best) x

/-- `m / n` on `int`s. -/
def intTruediv (m n : ℤ) : Except ArithmeticError F :=
  if n = 0 then .error .zeroDivisionError else .ok (ratio m n)

/-- The mean of rationals. -/
def ratMean (xs : List Rat) : Rat := xs.sum / (xs.length : ℤ)

/-- A square root to six decimals. -/
def ratSqrt (x : Rat) : Rat :=
  (((x.num.toNat * x.den * 10 ^ 12).sqrt : ℤ) : Rat) / ((x.den * 10 ^ 6 : ℕ) : ℤ)

instance : PyFloat Rat where
  decidableLE := inferInstance
  decidableLT := inferInstance
  literal := id
  ofInt n := n
  ratio m n := (m : Rat) / n
  truediv x y := if y = 0 then .error .zeroDivisionError else .ok (x / y)
  square x := .ok (x * x)
  abs x := if x < 0 then -x else x
  isfinite _ := true
  sum xs := xs.sum
  fmean xs := if xs = [] then .error .statisticsError else .ok (ratMean xs)
  pstdev xs :=
    if xs = [] then .error .statisticsError
    else .ok (ratSqrt (ratMean (xs.map fun x => (x - ratMean xs) * (x - ratMean xs))))

/-- The rationals, those beyond the range of a `float` taken as infinite. -/
def RangedRat : Type := Rat

instance : PyFloat RangedRat :=
  { (inferInstance : PyFloat Rat) with
    isfinite := fun x : Rat => -(2 ^ 1024) < x ∧ x < 2 ^ 1024 }

end PyFloat

end Odis
