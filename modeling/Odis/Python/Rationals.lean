import Mathlib.Algebra.Order.Field.Rat
import Mathlib.Order.Bounds.Basic
import Mathlib.Tactic.Linarith
import Odis.Python.Double
import Odis.Python.Float

/-!
# Operations on exact numbers

What `min`, `max` and rounding to an integer do on rationals.

* `isLeast_minimum`, `isGreatest_maximum`: the extremes of some values.
* `le_roundHalfEven_iff`, `roundHalfEven_le_iff`: which integers a number is rounded beyond.
-/

namespace Odis

/-! ## Extremes -/

section Extremes

variable {α : Type*}

/-- The value kept by a scan that goes on to every better one: none of the values is better. -/
theorem best_of_scan (better : α → α → Prop) [DecidableRel better]
    (hasymm : ∀ a b, better a b → ¬ better b a)
    (htrans : ∀ a b c, ¬ better a b → ¬ better b c → ¬ better a c) (x : α) (xs : List α) :
    xs.foldl (fun best y => if better y best then y else best) x ∈ x :: xs ∧
      ∀ v ∈ x :: xs, ¬ better v (xs.foldl (fun best y => if better y best then y else best) x) := by
  induction xs generalizing x with
  | nil => simpa using fun h => hasymm x x h h
  | cons y xs ih =>
      obtain ⟨hmem, hbest⟩ := ih (if better y x then y else x)
      rw [List.foldl_cons]
      generalize xs.foldl (fun best y => if better y best then y else best)
        (if better y x then y else x) = best at hmem hbest ⊢
      obtain ⟨hkept, hrest⟩ := List.forall_mem_cons.mp hbest
      by_cases hxy : better y x
      · rw [if_pos hxy] at hmem hkept
        refine ⟨List.mem_cons_of_mem x hmem, List.forall_mem_cons.mpr ⟨?_, ?_⟩⟩
        -- the first value is not better than the second, which is not better than the kept one
        · exact htrans x y best (hasymm y x hxy) hkept
        · exact List.forall_mem_cons.mpr ⟨hkept, hrest⟩
      · rw [if_neg hxy] at hmem hkept
        refine ⟨?_, List.forall_mem_cons.mpr ⟨hkept, ?_⟩⟩
        · rcases List.mem_cons.mp hmem with rfl | hmem
          · exact List.mem_cons_self
          · exact List.mem_cons_of_mem _ (List.mem_cons_of_mem _ hmem)
        · exact List.forall_mem_cons.mpr ⟨htrans y x best hxy hkept, hrest⟩

end Extremes

/-- The least of some values is one of them, and below all. -/
theorem isLeast_minimum (x : ℚ) (xs : List ℚ) :
    IsLeast {v | v ∈ x :: xs} (PyFloat.minimum x xs) := by
  obtain ⟨hmem, hbest⟩ := best_of_scan (fun a b : ℚ => a < b)
    (fun a b h => not_lt_of_gt h) (fun a b c hab hbc => not_lt_of_ge
      ((not_lt.mp hbc).trans (not_lt.mp hab))) x xs
  exact ⟨hmem, fun v hv => not_lt.mp (hbest v hv)⟩

/-- The greatest of some values is one of them, and above all. -/
theorem isGreatest_maximum (x : ℚ) (xs : List ℚ) :
    IsGreatest {v | v ∈ x :: xs} (PyFloat.maximum x xs) := by
  obtain ⟨hmem, hbest⟩ := best_of_scan (fun a b : ℚ => b < a)
    (fun a b h => not_lt_of_gt h) (fun a b c hab hbc => not_lt_of_ge
      ((not_lt.mp hab).trans (not_lt.mp hbc))) x xs
  exact ⟨hmem, fun v hv => not_lt.mp (hbest v hv)⟩

/-! ## Rounding -/

/-- A number is rounded down or up, to the nearer integer, or to the even one. -/
theorem roundHalfEven_cases (x : ℚ) :
    (x - ⌊x⌋ < 1 / 2 ∧ roundHalfEven x = ⌊x⌋) ∨
      (1 / 2 < x - ⌊x⌋ ∧ roundHalfEven x = ⌊x⌋ + 1) ∨
      (x - ⌊x⌋ = 1 / 2 ∧ Even ⌊x⌋ ∧ roundHalfEven x = ⌊x⌋) ∨
      (x - ⌊x⌋ = 1 / 2 ∧ ¬ Even ⌊x⌋ ∧ roundHalfEven x = ⌊x⌋ + 1) := by
  rw [roundHalfEven, Int.even_iff]
  split_ifs with hless hmore heven
  · exact Or.inl ⟨hless, rfl⟩
  · exact Or.inr (Or.inl ⟨hmore, rfl⟩)
  · have hhalf : x - ⌊x⌋ = 1 / 2 := le_antisymm (not_lt.mp hmore) (not_lt.mp hless)
    exact Or.inr (Or.inr (Or.inl ⟨hhalf, heven, rfl⟩))
  · have hhalf : x - ⌊x⌋ = 1 / 2 := le_antisymm (not_lt.mp hmore) (not_lt.mp hless)
    exact Or.inr (Or.inr (Or.inr ⟨hhalf, heven, rfl⟩))

/-- Rounding does not go below the floor. -/
theorem floor_le_roundHalfEven (x : ℚ) : ⌊x⌋ ≤ roundHalfEven x := by
  rcases roundHalfEven_cases x with ⟨-, heq⟩ | ⟨-, heq⟩ | ⟨-, -, heq⟩ | ⟨-, -, heq⟩ <;> omega

/-- Nor above the next integer. -/
theorem roundHalfEven_le_floor_add_one (x : ℚ) : roundHalfEven x ≤ ⌊x⌋ + 1 := by
  rcases roundHalfEven_cases x with ⟨-, heq⟩ | ⟨-, heq⟩ | ⟨-, -, heq⟩ | ⟨-, -, heq⟩ <;> omega

/-- A number is rounded to an integer or beyond if it is less than a half below it, or a half below
it and the integer is even. -/
theorem le_roundHalfEven_iff {x : ℚ} {k : ℤ} :
    k ≤ roundHalfEven x ↔ k - x < 1 / 2 ∨ k - x = 1 / 2 ∧ Even k := by
  have hfloor := Int.floor_le x
  have hlt := Int.lt_floor_add_one x
  rcases lt_trichotomy k (⌊x⌋ + 1) with hk | hk | hk
  -- integers up to the floor are always reached
  · have hle : (k : ℚ) ≤ ⌊x⌋ := by exact_mod_cast Int.lt_add_one_iff.mp hk
    refine iff_of_true ((Int.lt_add_one_iff.mp hk).trans (floor_le_roundHalfEven x)) (Or.inl ?_)
    linarith
  · -- the integer above the number
    subst hk
    push_cast
    rcases roundHalfEven_cases x with
      ⟨hrest, heq⟩ | ⟨hrest, heq⟩ | ⟨hrest, heven, heq⟩ | ⟨hrest, hodd, heq⟩
    · refine iff_of_false (by omega) ?_
      rintro (hclose | ⟨hhalf, -⟩) <;> linarith
    · exact iff_of_true heq.ge (Or.inl (by linarith))
    · refine iff_of_false (by omega) ?_
      rintro (hclose | ⟨-, hnext⟩)
      · linarith
      · exact Int.even_add_one.mp hnext heven
    · exact iff_of_true heq.ge (Or.inr ⟨by linarith, Int.even_add_one.mpr hodd⟩)
  -- and those beyond the next integer never
  · have hge : (⌊x⌋ : ℚ) + 1 + 1 ≤ k := by exact_mod_cast hk
    have hround := roundHalfEven_le_floor_add_one x
    refine iff_of_false (by omega) ?_
    rintro (hclose | ⟨hhalf, -⟩) <;> linarith

/-- A number is rounded to an integer or below if it is less than a half above it, or a half above
it and the integer is even. -/
theorem roundHalfEven_le_iff {x : ℚ} {k : ℤ} :
    roundHalfEven x ≤ k ↔ x - k < 1 / 2 ∨ x - k = 1 / 2 ∧ Even k := by
  rw [← Int.lt_add_one_iff, ← not_le, le_roundHalfEven_iff, not_or, not_and, Int.even_add_one,
    not_not]
  push_cast
  constructor
  · rintro ⟨hfar, heven⟩
    rcases (not_lt.mp hfar).lt_or_eq with hlt | heq
    · exact Or.inl (by linarith)
    · exact Or.inr ⟨by linarith, heven heq.symm⟩
  · rintro (hclose | ⟨hhalf, heven⟩)
    · exact ⟨by linarith, fun heq => by linarith⟩
    · exact ⟨by linarith, fun _ => heven⟩

/-- Integers are not rounded. -/
theorem roundHalfEven_intCast (k : ℤ) : roundHalfEven (k : ℚ) = k :=
  le_antisymm (roundHalfEven_le_iff.mpr (Or.inl (by norm_num)))
    (le_roundHalfEven_iff.mpr (Or.inl (by norm_num)))

/-- Rounding keeps the order. -/
theorem roundHalfEven_mono {x y : ℚ} (hxy : x ≤ y) : roundHalfEven x ≤ roundHalfEven y := by
  rw [le_roundHalfEven_iff]
  rcases le_roundHalfEven_iff.mp (le_refl (roundHalfEven x)) with hclose | ⟨hhalf, heven⟩
  · exact Or.inl (by linarith)
  · rcases hxy.lt_or_eq with hlt | rfl
    · exact Or.inl (by linarith)
    · exact Or.inr ⟨hhalf, heven⟩

end Odis
