import Mathlib.Algebra.Order.Floor.Semiring
import Mathlib.Data.Rat.Floor
import Odis.Python.Datetime

/-!
# Binary floating-point numbers

The numbers of type `float` are rationals with 53 significant bits, none finer than `2 ^ (-1074)`.
An operation returns the nearest one to the exact result, the even one of two (`roundDouble`). The
greatest number of the type plays no part here.

* `Datetime.timestampMs`: the milliseconds of `int(t.timestamp() * 1000)`, two roundings and a
  truncation away from the exact quotient.
-/

namespace Odis

/-- The nearest integer, the even one of two. -/
def roundHalfEven (x : ℚ) : ℤ :=
  let rest := x - ⌊x⌋
  if rest < 1 / 2 then ⌊x⌋
  else if 1 / 2 < rest then ⌊x⌋ + 1
  else if ⌊x⌋ % 2 = 0 then ⌊x⌋ else ⌊x⌋ + 1

/-- `2 ^ e`. -/
def powerOfTwo (e : ℤ) : ℚ := if 0 ≤ e then 2 ^ e.toNat else 1 / 2 ^ (-e).toNat

/-- The exponent `e` of a positive number, between `2 ^ e` and `2 ^ (e + 1)`. -/
def binaryExponent (x : ℚ) : ℤ :=
  let e : ℤ := (x.num.natAbs.log2 : ℤ) - x.den.log2
  if powerOfTwo e ≤ x then e else e - 1

/-- The exponent of the last of the 53 significant bits of a number. The least exponent is `-1074`,
so smaller numbers have fewer bits. -/
def unitExponent (x : ℚ) : ℤ := max (binaryExponent |x| - 52) (-1074)

/-- The nearest number with 53 significant bits. -/
def roundDouble (x : ℚ) : ℚ :=
  if x = 0 then 0
  else
    let unit := powerOfTwo (unitExponent x)
    roundHalfEven (x / unit) * unit

namespace Datetime

/-- `timestamp()`: the seconds since the epoch, as a `float`. -/
def timestampSeconds (t : Datetime) : ℚ := roundDouble (t.instant / 1000000)

/-- `int(t.timestamp() * 1000)`. -/
def timestampMs (t : Datetime) : ℤ :=
  let product := roundDouble (t.timestampSeconds * 1000)
  product.num.tdiv product.den

-- 725 milliseconds after a full second may be read as 724
example : timestampMs (.utc 1091541942725000) = timestampMs (.utc 1091541942724000) := by
  decide +kernel

end Datetime

end Odis
