import Mathlib.Algebra.Order.Field.Power
import Mathlib.Data.Rat.Lemmas
import Mathlib.Tactic.Positivity
import Odis.Library.Rounding
import Odis.Python.Rationals

/-!
# The format of binary floating-point numbers

Rounding to 53 significant bits is rounding of integers, in units of the last bit. It keeps the
order, leaves alone what has no more bits, and is the same on both sides of zero, so the numbers of
type `float` are a number format. Its numbers have no upper bound here.

* `zpow_binaryExponent_le`, `lt_zpow_binaryExponent`: the exponent of a number.
* `roundDouble_mono`, `roundDouble_zpow_mul`: rounding keeps the order, and what is representable.
* `NumberFormat.double`: the format.
* `roundDouble_div_lt_one`: the quotient of two representable numbers is rounded to one only if it
  is no less.
-/

namespace Odis

/-! ## Exponents -/

section Exponent

variable {x y : ℚ} {e : ℤ}

/-- The powers of two that the rounding computes with. -/
theorem powerOfTwo_eq_zpow (e : ℤ) : powerOfTwo e = 2 ^ e := by
  rw [powerOfTwo]
  split_ifs with h
  · rw [← zpow_natCast, Int.toNat_of_nonneg h]
  · rw [one_div, ← zpow_natCast, Int.toNat_of_nonneg (by omega), ← zpow_neg, neg_neg]

theorem zpow_two_pos (e : ℤ) : (0 : ℚ) < 2 ^ e := zpow_pos two_pos e

/-- Powers of two go up with their exponents. -/
theorem zpow_two_le {d e : ℤ} (h : d ≤ e) : (2 : ℚ) ^ d ≤ 2 ^ e := zpow_le_zpow_right₀ one_le_two h

/-- Powers of two are ordered by their exponents. -/
theorem lt_of_zpow_two_lt {d e : ℤ} (h : (2 : ℚ) ^ d < 2 ^ e) : d < e :=
  (zpow_lt_zpow_iff_right₀ one_lt_two).mp h

/-- A power of two is a multiple of every smaller one. -/
theorem zpow_two_eq_mul {d e : ℤ} (h : d ≤ e) :
    (2 : ℚ) ^ e = ((2 ^ (e - d).toNat : ℤ) : ℚ) * 2 ^ d := by
  rw [Int.cast_pow, Int.cast_ofNat, ← zpow_natCast, Int.toNat_of_nonneg (by omega),
    ← zpow_add₀ two_ne_zero]
  congr 1
  omega

/-- The quotient of the two leading powers of two misses the number by less than a factor of two. -/
theorem binaryExponent_bounds (h : 0 < x) :
    (2 : ℚ) ^ ((x.num.natAbs.log2 : ℤ) - x.den.log2 - 1) < x ∧
      x < 2 ^ ((x.num.natAbs.log2 : ℤ) - x.den.log2 + 1) := by
  have hnum : x.num.natAbs ≠ 0 := Int.natAbs_ne_zero.mpr (Rat.num_pos.mpr h).ne'
  have hden : (0 : ℚ) < x.den := by exact_mod_cast x.den_pos
  have hvalue : (x.num.natAbs : ℚ) = x * x.den := by
    rw [Rat.mul_den_eq_num, Nat.cast_natAbs, abs_of_pos (Rat.num_pos.mpr h)]
  have hnumle : ((2 ^ x.num.natAbs.log2 : ℕ) : ℚ) ≤ x * x.den := by
    rw [← hvalue]
    exact_mod_cast Nat.log2_self_le hnum
  have hnumlt : x * x.den < ((2 ^ (x.num.natAbs.log2 + 1) : ℕ) : ℚ) := by
    rw [← hvalue]
    exact_mod_cast Nat.lt_log2_self
  have hdenle : ((2 ^ x.den.log2 : ℕ) : ℚ) ≤ x.den := by
    exact_mod_cast Nat.log2_self_le x.den_nz
  have hdenlt : (x.den : ℚ) < ((2 ^ (x.den.log2 + 1) : ℕ) : ℚ) := by
    exact_mod_cast Nat.lt_log2_self
  -- numerator and denominator are each known up to a factor of two
  push_cast at hnumle hnumlt hdenle hdenlt
  constructor
  · rw [sub_sub, zpow_sub₀ two_ne_zero, div_lt_iff₀ (zpow_two_pos _), zpow_natCast]
    calc (2 : ℚ) ^ x.num.natAbs.log2 ≤ x * x.den := hnumle
      _ < x * 2 ^ ((x.den.log2 : ℤ) + 1) := by
        rw [← Nat.cast_succ, zpow_natCast]
        exact mul_lt_mul_of_pos_left hdenlt h
  · rw [sub_add_eq_add_sub, zpow_sub₀ two_ne_zero, lt_div_iff₀ (zpow_two_pos _), zpow_natCast,
      ← Nat.cast_succ, zpow_natCast]
    calc x * 2 ^ x.den.log2 ≤ x * x.den := mul_le_mul_of_nonneg_left hdenle h.le
      _ < 2 ^ (x.num.natAbs.log2 + 1) := hnumlt

/-- The leading power of two is not greater than the number. -/
theorem zpow_binaryExponent_le (h : 0 < x) : (2 : ℚ) ^ binaryExponent x ≤ x := by
  rw [binaryExponent]
  simp only [powerOfTwo_eq_zpow]
  split_ifs with hle
  · exact hle
  · exact (binaryExponent_bounds h).1.le

/-- The next one is greater. -/
theorem lt_zpow_binaryExponent (h : 0 < x) : x < 2 ^ (binaryExponent x + 1) := by
  rw [binaryExponent]
  simp only [powerOfTwo_eq_zpow]
  split_ifs with hle
  · exact (binaryExponent_bounds h).2
  · rw [sub_add_cancel]
    exact not_le.mp hle

/-- Below a power of two the exponent is less. -/
theorem binaryExponent_lt (h : 0 < x) (hlt : x < 2 ^ e) : binaryExponent x < e :=
  lt_of_zpow_two_lt ((zpow_binaryExponent_le h).trans_lt hlt)

/-- From a power of two on the exponent is no less. -/
theorem le_binaryExponent (h : 0 < x) (hle : (2 : ℚ) ^ e ≤ x) : e ≤ binaryExponent x :=
  Int.lt_add_one_iff.mp (lt_of_zpow_two_lt (hle.trans_lt (lt_zpow_binaryExponent h)))

/-- The unit of the last place does not depend on the sign. -/
theorem unitExponent_neg (x : ℚ) : unitExponent (-x) = unitExponent x := by
  rw [unitExponent, unitExponent, abs_neg]

/-- It is 52 places below the leading bit, but not below that of the least double. -/
theorem unitExponent_of_pos (h : 0 < x) : unitExponent x = max (binaryExponent x - 52) (-1074) := by
  rw [unitExponent, abs_of_pos h]

/-- A number has at most 53 bits before its last one. -/
theorem lt_pow_mul_unit (h : 0 < x) : x < 2 ^ 53 * 2 ^ unitExponent x := by
  calc x < 2 ^ (binaryExponent x + 1) := lt_zpow_binaryExponent h
    _ ≤ 2 ^ (53 + unitExponent x) := zpow_two_le (by rw [unitExponent_of_pos h]; omega)
    _ = 2 ^ 53 * 2 ^ unitExponent x := by
      rw [zpow_add₀ two_ne_zero]
      rfl

end Exponent

/-! ## Rounding -/

section Rounding

variable {x y : ℚ} {n e : ℤ}

/-- A number is rounded to a multiple of its unit. -/
theorem roundDouble_eq (x : ℚ) :
    roundDouble x = roundHalfEven (x / 2 ^ unitExponent x) * 2 ^ unitExponent x := by
  rw [roundDouble]
  simp only [powerOfTwo_eq_zpow]
  split_ifs with h
  · rw [h, zero_div, show (0 : ℚ) = ((0 : ℤ) : ℚ) from rfl, roundHalfEven_intCast, Int.cast_zero,
      zero_mul]
  · rfl

/-- Rounding does not pass a multiple of the unit. -/
theorem roundDouble_le_of_multiple (h : x ≤ n * 2 ^ unitExponent x) :
    roundDouble x ≤ n * 2 ^ unitExponent x := by
  rw [roundDouble_eq]
  apply mul_le_mul_of_nonneg_right _ (zpow_two_pos _).le
  rw [Int.cast_le, ← roundHalfEven_intCast n]
  exact roundHalfEven_mono ((div_le_iff₀ (zpow_two_pos _)).mpr h)

/-- Rounding does not go below a multiple of the unit that the number has reached. -/
theorem le_roundDouble_of_multiple (h : n * 2 ^ unitExponent x ≤ x) :
    n * 2 ^ unitExponent x ≤ roundDouble x := by
  rw [roundDouble_eq]
  apply mul_le_mul_of_nonneg_right _ (zpow_two_pos _).le
  rw [Int.cast_le, ← roundHalfEven_intCast n]
  exact roundHalfEven_mono ((le_div_iff₀ (zpow_two_pos _)).mpr h)

/-- A multiple of the unit is not changed. -/
theorem roundDouble_of_multiple (h : x = n * 2 ^ unitExponent x) : roundDouble x = x := by
  have hle := roundDouble_le_of_multiple h.le
  have hge := le_roundDouble_of_multiple h.ge
  rw [← h] at hle hge
  exact le_antisymm hle hge

/-- Rounding half to even is symmetric. -/
theorem roundHalfEven_neg (x : ℚ) : roundHalfEven (-x) = -roundHalfEven x := by
  apply le_antisymm
  · rw [roundHalfEven_le_iff, Int.cast_neg, even_neg, show -x - -(roundHalfEven x : ℚ) =
      roundHalfEven x - x by ring]
    exact le_roundHalfEven_iff.mp le_rfl
  · rw [le_roundHalfEven_iff, Int.cast_neg, even_neg, show -(roundHalfEven x : ℚ) - -x =
      x - roundHalfEven x by ring]
    exact roundHalfEven_le_iff.mp le_rfl

/-- Rounding is the same on both sides of zero. -/
theorem roundDouble_neg (x : ℚ) : roundDouble (-x) = -roundDouble x := by
  rw [roundDouble_eq, roundDouble_eq, unitExponent_neg, neg_div, roundHalfEven_neg, Int.cast_neg,
    neg_mul]

theorem roundDouble_zero : roundDouble 0 = 0 := if_pos rfl

/-- What is not negative is not rounded to something negative. -/
theorem roundDouble_nonneg (h : 0 ≤ x) : 0 ≤ roundDouble x := by
  have hzero : ((0 : ℤ) : ℚ) * 2 ^ unitExponent x ≤ x := by simpa using h
  simpa using le_roundDouble_of_multiple hzero

/-- Rounding keeps the order of positive numbers. -/
theorem roundDouble_mono_of_pos (hx : 0 < x) (h : x ≤ y) : roundDouble x ≤ roundDouble y := by
  have hy : 0 < y := hx.trans_le h
  have hexponent : binaryExponent x ≤ binaryExponent y :=
    le_binaryExponent hy ((zpow_binaryExponent_le hx).trans h)
  have hux := unitExponent_of_pos hx
  have huy := unitExponent_of_pos hy
  rcases (show unitExponent x ≤ unitExponent y by omega).eq_or_lt with heq | hlt
  · rw [roundDouble_eq, roundDouble_eq, heq]
    apply mul_le_mul_of_nonneg_right _ (zpow_two_pos _).le
    rw [Int.cast_le]
    exact roundHalfEven_mono (div_le_div_of_nonneg_right h (zpow_two_pos _).le)
  · -- a power of two lies between the numbers, and it is a multiple of both units
    have hbelow : x ≤ 2 ^ binaryExponent y :=
      (lt_zpow_binaryExponent hx).le.trans (zpow_two_le (by omega))
    calc roundDouble x ≤ 2 ^ binaryExponent y := by
          rw [zpow_two_eq_mul (show unitExponent x ≤ binaryExponent y by omega)] at hbelow ⊢
          exact roundDouble_le_of_multiple hbelow
      _ ≤ roundDouble y := by
          have habove := zpow_binaryExponent_le hy
          rw [zpow_two_eq_mul (show unitExponent y ≤ binaryExponent y by omega)] at habove ⊢
          exact le_roundDouble_of_multiple habove

/-- Rounding keeps the order. -/
theorem roundDouble_mono : Monotone roundDouble := by
  intro x y h
  rcases lt_or_ge 0 x with hx | hx
  · exact roundDouble_mono_of_pos hx h
  have hnonpos : ∀ z : ℚ, z ≤ 0 → roundDouble z ≤ 0 := fun z hz => by
    have hneg := roundDouble_nonneg (neg_nonneg.mpr hz)
    rwa [roundDouble_neg, neg_nonneg] at hneg
  rcases lt_or_ge y 0 with hy | hy
  · have hneg := roundDouble_mono_of_pos (neg_pos.mpr hy) (neg_le_neg h)
    rwa [roundDouble_neg, roundDouble_neg, neg_le_neg_iff] at hneg
  · exact (hnonpos x hx).trans (roundDouble_nonneg hy)

/-- A number with up to 53 bits, of a unit that is not too small, is not rounded. -/
theorem roundDouble_mul_zpow_of_pos (hn : 0 < n) (hbits : n ≤ 2 ^ 53) (he : -1074 ≤ e) :
    roundDouble (n * 2 ^ e) = n * 2 ^ e := by
  have hpos : (0 : ℚ) < n * 2 ^ e := mul_pos (by exact_mod_cast hn) (zpow_two_pos e)
  have hunit := unitExponent_of_pos hpos
  by_cases hfull : n = 2 ^ 53
  · -- a power of two has a single bit
    have hpower : (n : ℚ) * 2 ^ e = 2 ^ (53 + e) := by
      rw [hfull, zpow_add₀ two_ne_zero]
      norm_cast
    rw [hpower] at hunit hpos ⊢
    have hexponent : binaryExponent (2 ^ (53 + e)) < 53 + e + 1 :=
      binaryExponent_lt hpos ((zpow_lt_zpow_iff_right₀ one_lt_two).mpr (by omega))
    exact roundDouble_of_multiple (zpow_two_eq_mul (by omega))
  · have hlt : (n : ℚ) * 2 ^ e < 2 ^ (53 + e) := by
      rw [zpow_add₀ two_ne_zero]
      apply mul_lt_mul_of_pos_right _ (zpow_two_pos e)
      exact_mod_cast lt_of_le_of_ne hbits hfull
    have hexponent := binaryExponent_lt hpos hlt
    have hle : unitExponent (n * 2 ^ e) ≤ e := by omega
    apply roundDouble_of_multiple (n := n * 2 ^ (e - unitExponent (n * 2 ^ e)).toNat)
    rw [Int.cast_mul, mul_assoc, ← zpow_two_eq_mul hle]

/-- An integer of at most 53 bits times a power of two is not changed. -/
theorem roundDouble_mul_zpow (hbits : |n| ≤ 2 ^ 53) (he : -1074 ≤ e) :
    roundDouble (n * 2 ^ e) = n * 2 ^ e := by
  rcases lt_trichotomy n 0 with hn | rfl | hn
  · have hneg := roundDouble_mul_zpow_of_pos (neg_pos.mpr hn) (abs_of_neg hn ▸ hbits) he
    rwa [Int.cast_neg, neg_mul, roundDouble_neg, neg_inj] at hneg
  · rw [Int.cast_zero, zero_mul, roundDouble_zero]
  · exact roundDouble_mul_zpow_of_pos hn (abs_of_pos hn ▸ hbits) he

/-- Integers of up to 53 bits are not rounded. -/
theorem roundDouble_intCast (hbits : |n| ≤ 2 ^ 53) : roundDouble n = n := by
  have hround := roundDouble_mul_zpow hbits (show (-1074 : ℤ) ≤ 0 by norm_num)
  rwa [zpow_zero, mul_one] at hround

/-- What a number is rounded to has up to 53 bits. -/
theorem exists_roundDouble (x : ℚ) :
    ∃ n : ℤ, |n| ≤ 2 ^ 53 ∧ roundDouble x = n * 2 ^ unitExponent x := by
  -- a positive number is less than 2 ^ 53 of its units; a negative one is rounded like its opposite
  have hpos : ∀ x : ℚ, 0 < x → |roundHalfEven (x / 2 ^ unitExponent x)| ≤ 2 ^ 53 := by
    intro x hx
    have hle : x / 2 ^ unitExponent x ≤ ((2 ^ 53 : ℤ) : ℚ) := by
      rw [div_le_iff₀ (zpow_two_pos _)]
      exact_mod_cast (lt_pow_mul_unit hx).le
    have hnonneg : ((0 : ℤ) : ℚ) ≤ x / 2 ^ unitExponent x := by
      rw [Int.cast_zero]
      exact div_nonneg hx.le (zpow_two_pos _).le
    have hupper := roundHalfEven_mono hle
    have hlower := roundHalfEven_mono hnonneg
    rw [roundHalfEven_intCast] at hupper hlower
    rwa [abs_of_nonneg hlower]
  refine ⟨roundHalfEven (x / 2 ^ unitExponent x), ?_, roundDouble_eq x⟩
  rcases lt_trichotomy x 0 with hx | rfl | hx
  · have hneg := hpos (-x) (neg_pos.mpr hx)
    rwa [unitExponent_neg, neg_div, roundHalfEven_neg, abs_neg] at hneg
  · rw [zero_div, show (0 : ℚ) = ((0 : ℤ) : ℚ) from rfl, roundHalfEven_intCast]
    norm_num
  · exact hpos x hx

/-- No unit is below that of the least double. -/
theorem neg_le_unitExponent (x : ℚ) : -1074 ≤ unitExponent x := le_max_right _ _

/-- What has been rounded is not rounded any further. -/
theorem roundDouble_roundDouble (x : ℚ) : roundDouble (roundDouble x) = roundDouble x := by
  obtain ⟨n, hbits, heq⟩ := exists_roundDouble x
  rw [heq]
  exact roundDouble_mul_zpow hbits (neg_le_unitExponent x)

/-- Rounding goes no further than half a unit. -/
theorem abs_roundDouble_sub_le (x : ℚ) : |roundDouble x - x| ≤ 2 ^ unitExponent x / 2 := by
  have hunit := zpow_two_pos (unitExponent x)
  have hhalf : |(roundHalfEven (x / 2 ^ unitExponent x) : ℚ) - x / 2 ^ unitExponent x| ≤ 1 / 2 := by
    rw [abs_le]
    constructor
    · rcases roundHalfEven_le_iff.mp (le_refl (roundHalfEven (x / 2 ^ unitExponent x))) with
        hlt | ⟨heq, -⟩ <;> linarith
    · rcases le_roundHalfEven_iff.mp (le_refl (roundHalfEven (x / 2 ^ unitExponent x))) with
        hlt | ⟨heq, -⟩ <;> linarith
  calc |roundDouble x - x|
      = |(roundHalfEven (x / 2 ^ unitExponent x) : ℚ) - x / 2 ^ unitExponent x| *
          2 ^ unitExponent x := by
        rw [← abs_of_pos hunit, ← abs_mul, abs_of_pos hunit, sub_mul, div_mul_cancel₀ _ hunit.ne',
          roundDouble_eq]
    _ ≤ 1 / 2 * 2 ^ unitExponent x := mul_le_mul_of_nonneg_right hhalf hunit.le
    _ = 2 ^ unitExponent x / 2 := by ring

/-- Numbers up to one are rounded by no more than half of the last bit of one. -/
theorem roundDouble_near (x : ℚ) (h : |x| ≤ 1) : |roundDouble x - x| ≤ 1 / 2 ^ 53 := by
  rcases eq_or_ne x 0 with rfl | hne
  · rw [roundDouble_zero, sub_zero, abs_zero]
    positivity
  have hexponent : binaryExponent |x| < 1 :=
    binaryExponent_lt (abs_pos.mpr hne) (h.trans_lt (by norm_num))
  calc |roundDouble x - x| ≤ 2 ^ unitExponent x / 2 := abs_roundDouble_sub_le x
    _ ≤ 2 ^ (-52 : ℤ) / 2 := by
      apply div_le_div_of_nonneg_right _ zero_le_two
      exact zpow_two_le (by rw [unitExponent]; omega)
    _ = 1 / 2 ^ 53 := by norm_num

end Rounding

/-! ## Quotients -/

/-- The bits of a positive number that is not rounded. -/
theorem exists_mul_zpow_of_round_eq {x : ℚ} (hpos : 0 < x) (h : roundDouble x = x) :
    ∃ n : ℤ, 0 < n ∧ n < 2 ^ 53 ∧ x = n * 2 ^ unitExponent x := by
  obtain ⟨n, -, heq⟩ := exists_roundDouble x
  rw [h] at heq
  have hlt := lt_pow_mul_unit hpos
  rw [heq] at hpos
  nth_rewrite 1 [heq] at hlt
  refine ⟨n, ?_, ?_, heq⟩
  · exact_mod_cast (mul_pos_iff_of_pos_right (zpow_two_pos _)).mp hpos
  · exact_mod_cast lt_of_mul_lt_mul_right hlt (zpow_two_pos _).le

/-- The greatest number below another one is less by at least one part in `2 ^ 53`. -/
theorem mul_le_of_lt_of_round_eq {x y : ℚ} (hx : roundDouble x = x) (hy : roundDouble y = y)
    (hpos : 0 < x) (hlt : x < y) : x * 2 ^ 53 ≤ y * (2 ^ 53 - 1) := by
  obtain ⟨m, hm, hmbits, hxeq⟩ := exists_mul_zpow_of_round_eq hpos hx
  obtain ⟨n, hn, hnbits, hyeq⟩ := exists_mul_zpow_of_round_eq (hpos.trans hlt) hy
  have hexponent : binaryExponent x ≤ binaryExponent y :=
    le_binaryExponent (hpos.trans hlt) ((zpow_binaryExponent_le hpos).trans hlt.le)
  have hux := unitExponent_of_pos hpos
  have huy := unitExponent_of_pos (hpos.trans hlt)
  rcases (show unitExponent x ≤ unitExponent y by omega).eq_or_lt with heq | hless
  · -- multiples of the same unit
    rw [heq] at hxeq
    have hunit := zpow_two_pos (unitExponent y)
    generalize (2 : ℚ) ^ unitExponent y = unit at hxeq hyeq hunit
    -- the lesser multiple is less by one unit at least
    have hmn : m < n := by
      rw [hxeq, hyeq, mul_lt_mul_iff_of_pos_right hunit] at hlt
      exact_mod_cast hlt
    have hbits : (m : ℚ) * 2 ^ 53 ≤ n * (2 ^ 53 - 1) := by
      have hint : m * 2 ^ 53 ≤ n * (2 ^ 53 - 1) := by omega
      exact_mod_cast hint
    calc x * 2 ^ 53 = m * 2 ^ 53 * unit := by
          rw [hxeq]
          ring
      _ ≤ n * (2 ^ 53 - 1) * unit := mul_le_mul_of_nonneg_right hbits hunit.le
      _ = y * (2 ^ 53 - 1) := by
          rw [hyeq]
          ring
  · -- the greater number begins at a power of two, which has 53 bits of the lesser one's unit
    have hpower : 2 ^ 53 * (2 : ℚ) ^ unitExponent x ≤ y := by
      calc 2 ^ 53 * (2 : ℚ) ^ unitExponent x = 2 ^ (53 + unitExponent x) := by
            rw [zpow_add₀ two_ne_zero]
            rfl
        _ ≤ 2 ^ binaryExponent y := zpow_two_le (by omega)
        _ ≤ y := zpow_binaryExponent_le (hpos.trans hlt)
    have hbits : (m : ℚ) ≤ 2 ^ 53 - 1 := by exact_mod_cast Int.le_sub_one_of_lt hmbits
    calc x * 2 ^ 53 = m * (2 ^ 53 * 2 ^ unitExponent x) := by
          nth_rewrite 1 [hxeq]
          ring
      _ ≤ (2 ^ 53 - 1) * (2 ^ 53 * 2 ^ unitExponent x) :=
          mul_le_mul_of_nonneg_right hbits (by positivity)
      _ ≤ (2 ^ 53 - 1) * y := mul_le_mul_of_nonneg_left hpower (by norm_num)
      _ = y * (2 ^ 53 - 1) := mul_comm _ _

/-- A quotient of numbers that is less than one is rounded to less than one. -/
theorem roundDouble_div_lt_one {x y : ℚ} (hx : roundDouble x = x) (hy : roundDouble y = y)
    (hnonneg : 0 ≤ x) (hlt : x < y) : roundDouble (x / y) < 1 := by
  rcases hnonneg.eq_or_lt with rfl | hpos
  · rw [zero_div, roundDouble_zero]
    exact zero_lt_one
  have hless : ((2 ^ 53 - 1 : ℤ) : ℚ) * 2 ^ (-53 : ℤ) < 1 := by norm_num
  refine lt_of_le_of_lt ?_ hless
  have hround : roundDouble (((2 ^ 53 - 1 : ℤ) : ℚ) * 2 ^ (-53 : ℤ)) =
      ((2 ^ 53 - 1 : ℤ) : ℚ) * 2 ^ (-53 : ℤ) := roundDouble_mul_zpow (by norm_num) (by norm_num)
  rw [← hround]
  apply roundDouble_mono
  rw [div_le_iff₀ (hpos.trans hlt)]
  have hgap := mul_le_of_lt_of_round_eq hx hy hpos hlt
  push_cast
  rw [zpow_neg, ← div_eq_mul_inv, div_mul_eq_mul_div, le_div_iff₀ (zpow_two_pos _)]
  norm_num at hgap ⊢
  linarith

end Odis

/-! ## The format -/

open Odis in
/-- The format of the numbers of type `float`, without an upper bound. -/
def NumberFormat.double (exp sin : ℚ → ℚ) (pi : ℚ) : NumberFormat where
  round := roundDouble
  round_mono := roundDouble_mono
  round_round := roundDouble_roundDouble
  round_zero := roundDouble_zero
  round_one := by simpa using roundDouble_intCast (n := 1) (by norm_num)
  round_near := roundDouble_near
  exp
  sin
  pi

/-- The format for programs that use no elementary functions. -/
abbrev NumberFormat.plainDouble : NumberFormat := .double id id 3
