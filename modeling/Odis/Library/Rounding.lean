import Mathlib.Algebra.Order.Field.Rat
import Mathlib.Tactic.Linarith
import Mathlib.Tactic.NormNum

/-!
# Arithmetic with rounding

A number format rounds the exact result of an operation to one of its numbers, in a way that keeps
the order. Its numbers are those that are not rounded any further. Exact arithmetic is the format
that rounds nothing.

* `Number.le_ofRat`, `Number.ofRat_le`: bounds that are numbers of the format survive rounding.
-/

/-- A format of numbers: what the exact result of an operation is rounded to. Zero and one are
exact, and numbers up to one are rounded by at most `2 ^ (-53)`. -/
structure NumberFormat where
  round : ℚ → ℚ
  round_mono : Monotone round
  round_round : ∀ x, round (round x) = round x
  round_zero : round 0 = 0
  round_one : round 1 = 1
  round_near : ∀ x, |x| ≤ 1 → |round x - x| ≤ 1 / 2 ^ 53
  /-- The elementary functions and the constant, before they are rounded. -/
  exp : ℚ → ℚ
  sin : ℚ → ℚ
  pi : ℚ

/-- The format that rounds nothing. -/
def NumberFormat.exact (exp sin : ℚ → ℚ) (pi : ℚ) : NumberFormat where
  round := id
  round_mono := monotone_id
  round_round _ := rfl
  round_zero := rfl
  round_one := rfl
  round_near x _ := by
    rw [id, sub_self, abs_zero]
    norm_num
  exp
  sin
  pi

/-- A number of a format. -/
structure Number (format : NumberFormat) where
  val : ℚ
  round_val : format.round val = val

namespace Number

variable {format : NumberFormat} {x y z : Number format} {q : ℚ}

/-- A number is determined by its value. -/
theorem val_injective : Function.Injective (val : Number format → ℚ) := by
  rintro ⟨x, hx⟩ ⟨y, hy⟩ rfl
  rfl

/-- The number that an exact result is rounded to. -/
def ofRat (format : NumberFormat) (q : ℚ) : Number format :=
  ⟨format.round q, format.round_round q⟩

instance : LinearOrder (Number format) := LinearOrder.lift' val val_injective

instance : Add (Number format) := ⟨fun x y => ofRat format (x.val + y.val)⟩

instance : Sub (Number format) := ⟨fun x y => ofRat format (x.val - y.val)⟩

instance : Mul (Number format) := ⟨fun x y => ofRat format (x.val * y.val)⟩

instance : Div (Number format) := ⟨fun x y => ofRat format (x.val / y.val)⟩

instance : Neg (Number format) := ⟨fun x => ofRat format (-x.val)⟩

/-- Numbers are ordered by their values. -/
theorem le_iff : x ≤ y ↔ x.val ≤ y.val := Iff.rfl

theorem lt_iff : x < y ↔ x.val < y.val := Iff.rfl

/-- A rational becomes the number that it is rounded to. -/
@[simp]
theorem val_ofRat : (ofRat format q).val = format.round q := rfl

/-- A sum is rounded once. -/
theorem val_add : (x + y).val = format.round (x.val + y.val) := rfl

theorem val_sub : (x - y).val = format.round (x.val - y.val) := rfl

theorem val_div : (x / y).val = format.round (x.val / y.val) := rfl

/-! ## Bounds -/

/-- A number below an exact result is below the rounded one. -/
theorem le_ofRat (h : x.val ≤ q) : x ≤ ofRat format q := by
  rw [le_iff, val_ofRat, ← x.round_val]
  exact format.round_mono h

/-- A number above an exact result is above the rounded one. -/
theorem ofRat_le (h : q ≤ x.val) : ofRat format q ≤ x := by
  rw [le_iff, val_ofRat, ← x.round_val]
  exact format.round_mono h

/-- Rounding keeps the order. -/
theorem ofRat_mono {p : ℚ} (h : p ≤ q) : ofRat format p ≤ ofRat format q := format.round_mono h

theorem val_zero : (ofRat format 0).val = 0 := format.round_zero

theorem val_one : (ofRat format 1).val = 1 := format.round_one

/-- Adding a positive number does not decrease. -/
theorem le_add (h : 0 ≤ y.val) : x ≤ x + y := le_ofRat (le_add_of_nonneg_right h)

/-- Sums with a fixed number keep the order. -/
theorem add_mono_left (h : x ≤ y) (z : Number format) : x + z ≤ y + z := by
  rw [le_iff] at h
  exact ofRat_mono (by linarith)

/-- Differences from a fixed number keep it too. -/
theorem sub_mono_left (h : x ≤ y) (z : Number format) : x - z ≤ y - z :=
  ofRat_mono (sub_le_sub_right (a := x.val) h z.val)

/-- Negation reverses the order. -/
theorem neg_anti (h : x ≤ y) : -y ≤ -x := ofRat_mono (neg_le_neg (a := x.val) h)

/-- Quotients by a positive number keep it. -/
theorem div_mono_left (h : x ≤ y) (hz : 0 < z.val) : x / z ≤ y / z :=
  ofRat_mono (div_le_div_of_nonneg_right h hz.le)

end Number
