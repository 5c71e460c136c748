import Odis.Python.ExactReal
import Odis.Reasoning.Directions

/-!
# Symmetry of the trend detector

`TrendDetector` names the direction of a series by the means of its halves. In exact arithmetic it
prefers no direction: it exchanges increasing and decreasing when the values are negated, or taken
backwards in time.

* `splitHalfDirection_exact`: the detector raises nothing and judges the values by the shift between
  the halves and their spread.
* `directionOfValues_neg`, `directionOfValues_reverse`, `directionOfValues_add`: its symmetries.
-/

namespace Odis.Reasoning

open Inference Dispersion ExactReal

/-! ## The detector -/

/-- The other direction. -/
def TrendDirection.opposite : TrendDirection → TrendDirection
  | increasing => decreasing
  | stable => stable
  | decreasing => increasing

/-- The shift from the mean of the first half to that of the second. -/
noncomputable def shiftOf (values : List ℝ) : ℝ :=
  mean (values.drop (values.length - values.length / 2)) - mean (values.take (values.length / 2))

/-- The direction of a shift, relative to the spread of the series. -/
noncomputable def directionFrom (shift spread : ℝ) : TrendDirection :=
  if |shift| ≤ (1 / 1000000000 : ℚ) then .stable
  else if (1 / 1000000000 : ℚ) < spread ∧ |shift| / spread < (8 / 10 : ℚ) then .stable
  else if 0 < shift then .increasing
  else .decreasing

/-- The direction of a series, from its values. -/
noncomputable def directionOfValues (values : List ℝ) : TrendDirection :=
  if values.length < minSamplesForDirectionalTrend then .stable
  else directionFrom (shiftOf values) (deviation values)

/-- The direction of an exact shift is its sign. -/
theorem directionOf_exact (shift : ℝ) :
    directionOf (F := ExactReal) shift = if 0 < shift then .increasing else .decreasing := by
  have hzero : ((0 : ℚ) : ℝ) = 0 := Rat.cast_zero
  by_cases h : 0 < shift
  · rw [if_pos h]
    exact if_pos (show ((0 : ℚ) : ℝ) < shift from hzero ▸ h)
  · rw [if_neg h]
    exact if_neg (show ¬ ((0 : ℚ) : ℝ) < shift from hzero ▸ h)

/-- In exact arithmetic the detector raises nothing, and judges a series by its values. -/
theorem splitHalfDirection_exact {ordered : List (Observation ExactReal)} {values : List ExactReal}
    (h : ordered.map Observation.value = values) :
    splitHalfDirection ordered = .ok (directionOfValues values) := by
  unfold splitHalfDirection directionOfValues
  dsimp only
  rw [h]
  by_cases hshort : values.length < minSamplesForDirectionalTrend
  · exact (if_pos hshort).trans (congrArg Except.ok (if_pos hshort).symm)
  have hlength : 8 ≤ values.length := not_lt.mp hshort
  have hfirst : values.take (values.length / 2) ≠ [] := by
    apply List.ne_nil_of_length_pos
    rw [List.length_take]
    omega
  have hsecond : values.drop (values.length - values.length / 2) ≠ [] := by
    apply List.ne_nil_of_length_pos
    rw [List.length_drop]
    omega
  have hvalues : values ≠ [] := List.ne_nil_of_length_pos (by omega)
  refine Eq.trans ?_ (congrArg Except.ok (if_neg hshort).symm)
  rw [if_neg hshort, fmean_eq hfirst, fmean_eq hsecond, pstdev_eq hvalues]
  -- the shift and the spread are what the rest depends on
  show (if (|shiftOf values| : ℝ) ≤ ((1 / 1000000000 : ℚ) : ℝ) then Except.ok TrendDirection.stable
    else if (deviation values : ℝ) ≤ ((1 / 1000000000 : ℚ) : ℝ) then
      Except.ok (directionOf (F := ExactReal) (shiftOf values))
    else PyFloat.truediv (F := ExactReal) (|shiftOf values| : ℝ) (deviation values) >>= fun ratio =>
      if ratio < trendRatioThreshold ExactReal then Except.ok .stable
      else Except.ok (directionOf (F := ExactReal) (shiftOf values))) = _
  rw [directionOf_exact, directionFrom]
  generalize shiftOf values = shift
  generalize deviation values = spread
  by_cases hstable : |shift| ≤ ((1 / 1000000000 : ℚ) : ℝ)
  · rw [if_pos hstable, if_pos hstable]
  rw [if_neg hstable, if_neg hstable]
  by_cases hflat : spread ≤ ((1 / 1000000000 : ℚ) : ℝ)
  · have hno : ¬ (((1 / 1000000000 : ℚ) : ℝ) < spread ∧
        |shift| / spread < ((8 / 10 : ℚ) : ℝ)) := fun h => not_lt.mpr hflat h.1
    rw [if_pos hflat, if_neg hno]
  have hspread : ((1 / 1000000000 : ℚ) : ℝ) < spread := not_le.mp hflat
  have hne : spread ≠ 0 := by
    intro hzero
    rw [hzero] at hspread
    norm_num at hspread
  rw [if_neg hflat, truediv_eq hne]
  show (if |shift| / spread < ((8 / 10 : ℚ) : ℝ) then _ else _) = _
  -- otherwise the ratio decides
  by_cases hratio : |shift| / spread < ((8 / 10 : ℚ) : ℝ)
  · rw [if_pos hratio, if_pos ⟨hspread, hratio⟩]
  · have hno : ¬ (((1 / 1000000000 : ℚ) : ℝ) < spread ∧
        |shift| / spread < ((8 / 10 : ℚ) : ℝ)) := fun h => hratio h.2
    rw [if_neg hratio, if_neg hno]

/-! ## Symmetries of a direction -/

/-- A shift the other way has the opposite direction. -/
theorem directionFrom_neg (shift spread : ℝ) :
    directionFrom (-shift) spread = (directionFrom shift spread).opposite := by
  unfold directionFrom
  rw [abs_neg]
  by_cases hstable : |shift| ≤ ((1 / 1000000000 : ℚ) : ℝ)
  · rw [if_pos hstable, if_pos hstable]
    rfl
  rw [if_neg hstable, if_neg hstable]
  by_cases hratio : ((1 / 1000000000 : ℚ) : ℝ) < spread ∧ |shift| / spread < ((8 / 10 : ℚ) : ℝ)
  · rw [if_pos hratio, if_pos hratio]
    rfl
  rw [if_neg hratio, if_neg hratio]
  -- a shift that is not stable has a sign
  have hne : shift ≠ 0 := by
    intro hzero
    rw [hzero, abs_zero] at hstable
    norm_num at hstable
  rcases lt_or_gt_of_ne hne with hneg | hpos
  · rw [if_pos (neg_pos.mpr hneg), if_neg (not_lt.mpr hneg.le)]
    rfl
  · rw [if_neg (not_lt.mpr (neg_nonpos.mpr hpos.le)), if_pos hpos]
    rfl

/-- Negated values are shifted the other way. -/
theorem shiftOf_neg (values : List ℝ) :
    shiftOf (values.map fun x => -x) = -shiftOf values := by
  unfold shiftOf
  rw [List.length_map, ← List.map_drop, ← List.map_take, mean_map_neg, mean_map_neg]
  ring

/-- The halves of a series change places, the middle value of an odd one does not count. -/
theorem shiftOf_reverse (values : List ℝ) : shiftOf values.reverse = -shiftOf values := by
  unfold shiftOf
  rw [List.length_reverse, List.drop_reverse, List.take_reverse,
    mean_perm (List.reverse_perm _), mean_perm (List.reverse_perm _),
    Nat.sub_sub_self (Nat.div_le_self _ _)]
  ring

/-- A constant added to all values does not shift them. -/
theorem shiftOf_add {values : List ℝ} (h : 8 ≤ values.length) (c : ℝ) :
    shiftOf (values.map fun x => x + c) = shiftOf values := by
  have hfirst : values.take (values.length / 2) ≠ [] := by
    apply List.ne_nil_of_length_pos
    rw [List.length_take]
    omega
  have hsecond : values.drop (values.length - values.length / 2) ≠ [] := by
    apply List.ne_nil_of_length_pos
    rw [List.length_drop]
    omega
  unfold shiftOf
  rw [List.length_map, ← List.map_drop, ← List.map_take, mean_map_add hfirst,
    mean_map_add hsecond]
  ring

/-- Both halves of a constant series have its mean. -/
theorem shiftOf_replicate {n : ℕ} (h : 8 ≤ n) (c : ℝ) : shiftOf (List.replicate n c) = 0 := by
  unfold shiftOf
  rw [List.length_replicate, List.drop_replicate, List.take_replicate, mean_replicate (by omega),
    mean_replicate (by omega), sub_self]

/-- Negated values have the opposite direction. -/
theorem directionOfValues_neg (values : List ℝ) :
    directionOfValues (values.map fun x => -x) = (directionOfValues values).opposite := by
  unfold directionOfValues
  rw [List.length_map, shiftOf_neg, deviation_map_neg, directionFrom_neg]
  split_ifs
  · rfl
  · rfl

/-- So have values that are read backwards. -/
theorem directionOfValues_reverse (values : List ℝ) :
    directionOfValues values.reverse = (directionOfValues values).opposite := by
  unfold directionOfValues
  rw [List.length_reverse, shiftOf_reverse, deviation_perm (List.reverse_perm values),
    directionFrom_neg]
  split_ifs
  · rfl
  · rfl

/-- A constant added to all values leaves the direction as it is. -/
theorem directionOfValues_add (values : List ℝ) (c : ℝ) :
    directionOfValues (values.map fun x => x + c) = directionOfValues values := by
  unfold directionOfValues
  rw [List.length_map, deviation_map_add]
  by_cases hshort : values.length < minSamplesForDirectionalTrend
  · rw [if_pos hshort, if_pos hshort]
  · rw [if_neg hshort, if_neg hshort, shiftOf_add (not_lt.mp hshort)]

/-- Equal values are stable. -/
theorem directionOfValues_replicate (n : ℕ) (c : ℝ) :
    directionOfValues (List.replicate n c) = .stable := by
  unfold directionOfValues
  rw [List.length_replicate]
  by_cases hshort : n < minSamplesForDirectionalTrend
  · rw [if_pos hshort]
  · rw [if_neg hshort, shiftOf_replicate (not_lt.mp hshort), directionFrom, abs_zero, if_pos]
    norm_num

end Odis.Reasoning
