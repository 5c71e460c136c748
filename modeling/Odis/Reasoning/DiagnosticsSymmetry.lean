import Odis.Library.Exceptions
import Odis.Reasoning.TrendDiagnostics
import Odis.Reasoning.TrendSymmetry

/-!
# Symmetry of the trend diagnostics

`analyze_trend_diagnostics` names the direction of a series by its steps, and overrides it when the
steps are not consistent. In exact arithmetic it exchanges rising and falling when the values are
negated or taken backwards in time, as `TrendDetector` does, and its scores stay as they are.

* `signalsFrom_mirror`: the signals of steps that are negated, and come in another order.
* `trend_symmetric`: both classifiers answer alike to negation, reversal and shifts, and call a
  constant series stable.
-/

namespace Odis.TimeSeries

open Inference Dispersion ExactReal

/-- The other direction. -/
def TrendDirection.opposite : TrendDirection → TrendDirection
  | rising => falling
  | falling => rising
  | stable => stable

/-- The diagnostics of a series that goes the other way: the scores are the same. -/
noncomputable def TrendDiagnostics.mirrored (diagnostics : TrendDiagnostics ExactReal) :
    TrendDiagnostics ExactReal :=
  { diagnostics with
    direction := diagnostics.direction.opposite
    rateOfChange := -diagnostics.rateOfChange }

/-! ## Steps -/

/-- Over exact numbers the hypothesis is that of the net change, up to a tolerance. -/
theorem directionHypothesis_exact (netChange : ℝ) :
    directionHypothesis (F := ExactReal) netChange =
      if |netChange| ≤ ((1 / 1000000000 : ℚ) : ℝ) then .stable
      else if 0 < netChange then .rising else .falling := by
  rw [← Rat.cast_zero]
  rfl

/-- A net change the other way gives the opposite hypothesis. -/
theorem directionHypothesis_neg (netChange : ℝ) :
    directionHypothesis (F := ExactReal) (-netChange : ℝ) =
      (directionHypothesis (F := ExactReal) netChange).opposite := by
  rw [directionHypothesis_exact, directionHypothesis_exact, abs_neg]
  by_cases hstable : |netChange| ≤ ((1 / 1000000000 : ℚ) : ℝ)
  · rw [if_pos hstable, if_pos hstable]
    rfl
  rw [if_neg hstable, if_neg hstable]
  have hne : netChange ≠ 0 := by
    intro hzero
    rw [hzero, abs_zero] at hstable
    norm_num at hstable
  rcases lt_or_gt_of_ne hne with hneg | hpos
  · rw [if_pos (neg_pos.mpr hneg), if_neg (not_lt.mpr hneg.le)]
    rfl
  · rw [if_neg (not_lt.mpr (neg_nonpos.mpr hpos.le)), if_pos hpos]
    rfl

/-- No net change is stable. -/
theorem directionHypothesis_zero : directionHypothesis (F := ExactReal) (0 : ℝ) = .stable := by
  rw [directionHypothesis_exact, abs_zero, if_pos]
  norm_num

/-- A step is aligned if it goes the way of the direction. -/
theorem isAligned_exact (direction : TrendDirection) (delta : ℝ) :
    isAligned (F := ExactReal) direction delta =
      decide ((direction = .rising ∧ 0 < delta) ∨ (direction = .falling ∧ delta < 0)) := by
  unfold isAligned
  rw [literal_eq, Rat.cast_zero]
  rfl

/-- A negated step is aligned with the opposite direction. -/
theorem isAligned_neg (direction : TrendDirection) (delta : ExactReal) :
    isAligned direction.opposite (-delta) = isAligned direction delta := by
  have hexact : ∀ delta : ℝ, isAligned (F := ExactReal) direction.opposite (-delta : ℝ) =
      isAligned (F := ExactReal) direction delta := by
    intro delta
    rw [isAligned_exact, isAligned_exact]
    cases direction <;> simp [TrendDirection.opposite]
  exact hexact delta

/-- The absolute value does not depend on the sign. -/
theorem abs_neg_exact (delta : ExactReal) : PyFloat.abs (-delta) = PyFloat.abs delta :=
  abs_neg (α := ℝ) delta

/-! ## Monotonicity and volatility -/

section Signals

variable {deltas deltas' : List ExactReal}

/-- The consistency does not depend on the order of the steps. -/
theorem monotonicity_perm (h : deltas.Perm deltas') (direction : TrendDirection) :
    monotonicity deltas direction = monotonicity deltas' direction := by
  have hnil : deltas = [] ↔ deltas' = [] := by
    rw [← List.length_eq_zero_iff, h.length_eq, List.length_eq_zero_iff]
  unfold monotonicity
  dsimp only
  rw [h.countP_eq, (h.filter _).length_eq, (h.filter _).countP_eq]
  simp only [hnil]

/-- A step is passed over with its negation, and aligned with it in the other direction. -/
theorem monotonicity_neg (deltas : List ExactReal) (direction : TrendDirection) :
    monotonicity (deltas.map fun d => -d) direction.opposite = monotonicity deltas direction := by
  have hstable : direction.opposite = .stable ↔ direction = .stable := by
    cases direction <;> simp [TrendDirection.opposite]
  unfold monotonicity
  dsimp only
  rw [List.countP_map, List.filter_map, List.length_map, List.countP_map]
  simp only [Function.comp_def, abs_neg_exact, isAligned_neg, hstable, List.map_eq_nil_iff]

/-- What the volatility is in terms of the deviation of the steps. -/
theorem volatilityNorm_exact (h : deltas ≠ []) (avgDelta : ℝ) :
    volatilityNorm deltas avgDelta = .ok (PyFloat.maximum (PyFloat.literal 0.0)
      [PyFloat.minimum (PyFloat.literal 1.0)
        [(deviation deltas / (|avgDelta| + ((1 / 1000000 : ℚ) : ℝ)) : ℝ)]]) := by
  have hlength : ((deltas.length : ℤ) : ℝ) ≠ 0 := by
    rw [Int.cast_natCast, Nat.cast_ne_zero, Ne, List.length_eq_zero_iff]
    exact h
  have hdenom : |avgDelta| + ((1 / 1000000 : ℚ) : ℝ) ≠ 0 := by
    have hpos : (0 : ℝ) < ((1 / 1000000 : ℚ) : ℝ) := by norm_num
    positivity
  -- the mean of the steps, and that of their squared distances from it
  obtain ⟨center, hcenter⟩ : ∃ center : ExactReal, center = (mean deltas : ℝ) := ⟨_, rfl⟩
  obtain ⟨squares, hsquares⟩ : ∃ squares : List ExactReal,
      squares = deltas.map fun d => (d - center) * (d - center) := ⟨_, rfl⟩
  obtain ⟨variance, hvariance⟩ : ∃ variance : ExactReal, variance = (mean squares : ℝ) := ⟨_, rfl⟩
  have hmean : PyFloat.truediv (PyFloat.sum deltas) (PyFloat.ofInt deltas.length) = .ok center := by
    rw [hcenter]
    exact truediv_eq hlength
  have hmap : (deltas.mapM fun d => PyFloat.square (d - center)) = .ok squares := by
    rw [hsquares]
    exact Exceptions.mapM_eq_ok_map fun _ _ => rfl
  have hquotient : PyFloat.truediv (PyFloat.sum squares) (PyFloat.ofInt deltas.length) =
      .ok variance := by
    have hsame : deltas.length = squares.length := by rw [hsquares, List.length_map]
    rw [hvariance, hsame]
    exact truediv_eq (hsame ▸ hlength)
  -- the variance is a mean of squares, so it has a root
  have hroot : PyMath.sqrt variance = .ok (deviation deltas : ℝ) := by
    rw [hvariance, hsquares, hcenter]
    exact sqrt_eq (mean_squares_nonneg deltas (mean deltas))
  unfold volatilityNorm
  rw [if_neg h]
  dsimp only
  rw [hmean, Exceptions.ok_bind, hmap, Exceptions.ok_bind, hquotient, Exceptions.ok_bind, hroot]
  show PyFloat.truediv (F := ExactReal) (deviation deltas : ℝ)
    (|avgDelta| + ((1 / 1000000 : ℚ) : ℝ) : ℝ) >>= _ = _
  rw [truediv_eq hdenom]
  rfl

/-- The volatility takes no notice of the direction of the steps, nor of their order. -/
theorem volatilityNorm_mirror (h : deltas'.Perm (deltas.map fun d => -d)) (avgDelta : ExactReal) :
    volatilityNorm deltas' (-avgDelta) = volatilityNorm deltas avgDelta := by
  by_cases hnil : deltas = []
  · obtain rfl : deltas' = [] := by
      rw [hnil] at h
      exact h.eq_nil
    rw [hnil]
    rfl
  have hnil' : deltas' ≠ [] := by
    intro heq
    rw [heq] at h
    exact hnil (List.map_eq_nil_iff.mp h.nil_eq.symm)
  -- the deviation depends neither on the order nor on the sign
  have hspread : deviation deltas' = deviation deltas :=
    (deviation_perm h).trans (deviation_map_neg deltas)
  have hexact : ∀ avg : ℝ, volatilityNorm deltas' (-avg : ℝ) = volatilityNorm deltas avg := by
    intro avg
    rw [volatilityNorm_exact hnil', volatilityNorm_exact hnil, hspread, abs_neg]
  exact hexact avgDelta

/-- The signals of steps that are negated, and come in another order. -/
theorem signalsFrom_mirror (h : deltas'.Perm (deltas.map fun d => -d))
    (netChange avgDelta : ExactReal) :
    signalsFrom deltas' (-netChange) (-avgDelta) =
      (signalsFrom deltas netChange avgDelta).map TrendDiagnostics.mirrored := by
  have hdirection : directionHypothesis (-netChange) = (directionHypothesis netChange).opposite :=
    directionHypothesis_neg netChange
  have hconsistency : ∀ direction : TrendDirection,
      monotonicity deltas' direction.opposite = monotonicity deltas direction := by
    intro direction
    rw [monotonicity_perm h, monotonicity_neg]
  have hstable : monotonicity deltas' .stable = monotonicity deltas .stable := hconsistency .stable
  have hopposite : (directionHypothesis netChange).opposite ≠ .stable ↔
      directionHypothesis netChange ≠ .stable := by
    cases directionHypothesis netChange <;> simp [TrendDirection.opposite]
  unfold signalsFrom
  rw [hdirection]
  dsimp only
  rw [hconsistency, volatilityNorm_mirror h, hstable]
  simp only [hopposite]
  -- both ways raise the same, or end with the same scores
  cases monotonicity deltas (directionHypothesis netChange) with
  | error error => rfl
  | ok consistency =>
      cases volatilityNorm deltas avgDelta with
      | error error => rfl
      | ok volatility =>
          simp only [Exceptions.ok_bind]
          cases PyMath.round (PyFloat.ofInt 100 * volatility) with
          | error error => rfl
          | ok volatilityScore =>
              simp only [Exceptions.ok_bind]
              cases PyMath.round (PyFloat.ofInt 100 * (PyFloat.literal 0.65 * consistency +
                  PyFloat.literal 0.35 * (PyFloat.literal 1.0 - volatility))) with
              | error error => rfl
              | ok rounded =>
                  simp only [Exceptions.ok_bind]
                  split_ifs
                  · cases monotonicity deltas .stable <;> rfl
                  · rfl

/-- A share of steps is taken of some steps only. -/
theorem exists_monotonicity {F : Type} [PyMath F] (deltas : List F) (direction : TrendDirection) :
    ∃ share, monotonicity deltas direction = .ok share := by
  unfold monotonicity
  dsimp only
  split_ifs with hnil hstable hflat hconsidered
  · exact ⟨_, rfl⟩
  · exact ⟨_, rfl⟩
  · exact ⟨_, rfl⟩
  · exact ⟨_, rfl⟩
  · refine ⟨_, if_neg ?_⟩
    exact_mod_cast hconsidered

/-- The volatility can be computed for all steps. -/
theorem exists_volatilityNorm (deltas : List ExactReal) (avgDelta : ExactReal) :
    ∃ volatility, volatilityNorm deltas avgDelta = .ok volatility := by
  by_cases hnil : deltas = []
  · exact ⟨_, if_pos hnil⟩
  · exact ⟨_, volatilityNorm_exact hnil avgDelta⟩

/-- In exact arithmetic nothing is raised, and the direction is the hypothesis unless it is
overridden. -/
theorem exists_signalsFrom (deltas : List ExactReal) (netChange avgDelta : ExactReal) :
    ∃ diagnostics, signalsFrom deltas netChange avgDelta = .ok diagnostics ∧
      (diagnostics.direction = .stable ∨
        diagnostics.direction = directionHypothesis netChange) := by
  obtain ⟨consistency, hconsistency⟩ :=
    exists_monotonicity deltas (directionHypothesis netChange)
  obtain ⟨overridden, hoverridden⟩ := exists_monotonicity deltas .stable
  obtain ⟨volatility, hvolatility⟩ := exists_volatilityNorm deltas avgDelta
  have hround : ∀ x : ExactReal, PyMath.round x = .ok (nearestEven x) := fun _ => rfl
  unfold signalsFrom
  dsimp only
  rw [hconsistency, hvolatility, hoverridden]
  simp only [Exceptions.ok_bind, hround]
  split_ifs
  · exact ⟨_, rfl, Or.inl rfl⟩
  · exact ⟨_, rfl, Or.inr rfl⟩

end Signals

/-! ## Windows -/

section Window

variable {values : List ExactReal}

/-- The average step of a window. -/
noncomputable def averageStep (count : ℕ) (netChange : ℝ) : ℝ :=
  netChange / ((max 1 ((count : ℤ) - 1) : ℤ) : ℝ)

/-- The average step of a negated change is negated. -/
theorem averageStep_neg (count : ℕ) (netChange : ℝ) :
    averageStep count (-netChange) = -averageStep count netChange := neg_div _ _

/-- The signals of a window that is not empty, in terms of its first and its last value. -/
theorem signalsOf_exact {first last : ExactReal} (hfirst : values.head? = some first)
    (hlast : values.getLast? = some last) : signalsOf values =
      (signalsFrom (stepsOf values) (last - first)
        (averageStep values.length (last - first : ExactReal))).mapError .arithmetic := by
  have hcount : ((max 1 ((values.length : ℤ) - 1) : ℤ) : ℝ) ≠ 0 := by
    have hpos : (1 : ℤ) ≤ max 1 ((values.length : ℤ) - 1) := le_max_left _ _
    exact_mod_cast (by omega : max 1 ((values.length : ℤ) - 1) ≠ 0)
  obtain ⟨average, haverage⟩ : ∃ average : ExactReal,
      average = averageStep values.length (last - first : ExactReal) := ⟨_, rfl⟩
  have hquotient : PyFloat.truediv (last - first)
      (PyFloat.ofInt (max 1 ((values.length : ℤ) - 1))) = .ok average := by
    rw [haverage]
    exact truediv_eq hcount
  unfold signalsOf
  rw [hfirst, hlast, ← haverage]
  dsimp only
  rw [hquotient]
  rfl

/-- The values of a window as they are read forwards or backwards, with the other sign. -/
theorem signalsOf_mirror {values' : List ExactReal} {first last first' last' : ExactReal}
    (hfirst : values.head? = some first) (hlast : values.getLast? = some last)
    (hfirst' : values'.head? = some first') (hlast' : values'.getLast? = some last')
    (hlength : values'.length = values.length)
    (hsteps : (stepsOf values').Perm ((stepsOf values).map fun d => -d))
    (hnet : last' - first' = -(last - first)) :
    signalsOf values' = (signalsOf values).map TrendDiagnostics.mirrored := by
  have haverage : averageStep values'.length (last' - first' : ExactReal) =
      -averageStep values.length (last - first : ExactReal) := by
    rw [hnet, hlength]
    exact averageStep_neg _ _
  rw [signalsOf_exact hfirst' hlast', signalsOf_exact hfirst hlast, haverage, hnet]
  have hmirror := signalsFrom_mirror hsteps (last - first)
    (averageStep values.length (last - first : ExactReal))
  refine (congrArg (Except.mapError AnalysisError.arithmetic) hmirror).trans ?_
  cases signalsFrom (stepsOf values) (last - first)
    (averageStep values.length (last - first : ExactReal)) <;> rfl

/-- Negated values have the mirrored signals. -/
theorem signalsOf_neg (values : List ExactReal) :
    signalsOf (values.map fun x => -x) = (signalsOf values).map TrendDiagnostics.mirrored := by
  by_cases hnil : values = []
  · rw [hnil]
    rfl
  have hfirst : values.head? = some (values.head hnil) := List.head?_eq_some_head hnil
  have hlast : values.getLast? = some (values.getLast hnil) :=
    List.getLast?_eq_getLast_of_ne_nil hnil
  have hfirst' : (values.map fun x => -x).head? = some (-values.head hnil) := by
    rw [List.head?_map, hfirst]
    rfl
  have hlast' : (values.map fun x => -x).getLast? = some (-values.getLast hnil) := by
    rw [List.getLast?_map, hlast]
    rfl
  apply signalsOf_mirror hfirst hlast hfirst' hlast' (List.length_map _)
  · exact List.Perm.of_eq (differences_map_neg (G := ℝ) values)
  · exact neg_sub_neg (α := ℝ) _ _ |>.trans (neg_sub (α := ℝ) _ _).symm

/-- Backwards, the first value is the last one, and every step goes the other way. -/
theorem signalsOf_reverse (values : List ExactReal) :
    signalsOf values.reverse = (signalsOf values).map TrendDiagnostics.mirrored := by
  by_cases hnil : values = []
  · rw [hnil]
    rfl
  have hfirst : values.head? = some (values.head hnil) := List.head?_eq_some_head hnil
  have hlast : values.getLast? = some (values.getLast hnil) :=
    List.getLast?_eq_getLast_of_ne_nil hnil
  have hfirst' : values.reverse.head? = some (values.getLast hnil) := by
    rw [List.head?_reverse, hlast]
  have hlast' : values.reverse.getLast? = some (values.head hnil) := by
    rw [List.getLast?_reverse, hfirst]
  apply signalsOf_mirror hfirst hlast hfirst' hlast' List.length_reverse
  · have hsteps := differences_reverse (G := ℝ) values
    exact (List.Perm.of_eq hsteps).trans (List.reverse_perm _)
  · exact (neg_sub (α := ℝ) _ _).symm

/-- A constant added to all values leaves the signals as they are. -/
theorem signalsOf_add (values : List ExactReal) (c : ExactReal) :
    signalsOf (values.map fun x => x + c) = signalsOf values := by
  by_cases hnil : values = []
  · rw [hnil]
    rfl
  have hfirst : values.head? = some (values.head hnil) := List.head?_eq_some_head hnil
  have hlast : values.getLast? = some (values.getLast hnil) :=
    List.getLast?_eq_getLast_of_ne_nil hnil
  have hfirst' : (values.map fun x => x + c).head? = some (values.head hnil + c) := by
    rw [List.head?_map, hfirst]
    rfl
  have hlast' : (values.map fun x => x + c).getLast? = some (values.getLast hnil + c) := by
    rw [List.getLast?_map, hlast]
    rfl
  have hnet : values.getLast hnil + c - (values.head hnil + c) =
      values.getLast hnil - values.head hnil := add_sub_add_right_eq_sub (G := ℝ) _ _ c
  -- the constant cancels in every step, and in the net change
  have hsteps : stepsOf (values.map fun x => x + c) = stepsOf values :=
    differences_map_add (G := ℝ) values c
  rw [signalsOf_exact hfirst' hlast', signalsOf_exact hfirst hlast, hsteps, hnet, List.length_map]

/-- A constant series has no net change. -/
theorem exists_signalsOf_constant {values : List ExactReal} {c : ExactReal} (hnil : values ≠ [])
    (hconstant : ∀ x ∈ values, x = c) :
    ∃ diagnostics, signalsOf values = .ok diagnostics ∧ diagnostics.direction = .stable := by
  have hfirst : values.head? = some c := by
    rw [List.head?_eq_some_head hnil, hconstant _ (List.head_mem hnil)]
  have hlast : values.getLast? = some c := by
    rw [List.getLast?_eq_getLast_of_ne_nil hnil, hconstant _ (List.getLast_mem hnil)]
  have hnet : directionHypothesis (c - c) = .stable := by
    have hzero : c - c = (0 : ℝ) := sub_self (G := ℝ) c
    rw [hzero]
    exact directionHypothesis_zero
  rw [signalsOf_exact hfirst hlast]
  obtain ⟨diagnostics, hsignals, hdirection⟩ := exists_signalsFrom (stepsOf values) (c - c)
    (averageStep values.length (c - c : ExactReal))
  rw [hnet, or_self] at hdirection
  exact ⟨diagnostics, congrArg (Except.mapError AnalysisError.arithmetic) hsignals, hdirection⟩

end Window

/-! ## Series -/

section Series

variable {F : Type}

/-- An observation with another value. -/
def withValue (o : Observation F) (value : F) : Observation F := { o with value }

/-- The observations, each value changed. -/
def mapValues (f : F → F) (observations : List (Observation F)) : List (Observation F) :=
  observations.map fun o => withValue o (f o.value)

/-- The values backwards in time, at the same instants. -/
def reversedInTime (observations : List (Observation F)) : List (Observation F) :=
  let ordered := Reasoning.sortedByTimestamp observations
  List.zipWith withValue ordered (ordered.map Observation.value).reverse

/-- The instants of a series increase. -/
def Increasing (ordered : List (Observation F)) : Prop :=
  ordered.Pairwise fun a b => a.timestamp.instant < b.timestamp.instant

variable {observations ordered : List (Observation F)}

/-- Whether observations are in order depends on their times only. -/
theorem Increasing.of_instants {ordered' : List (Observation F)} (h : Increasing ordered)
    (heq : ordered'.map (fun o => o.timestamp.instant) =
      ordered.map fun o => o.timestamp.instant) : Increasing ordered' := by
  have hinstants := List.pairwise_map.mpr h
  rw [← heq] at hinstants
  exact List.pairwise_map.mp hinstants

/-- Both classifiers read a series with distinct timestamps in the same order. -/
theorem Increasing.sorted (h : Increasing ordered) (hperm : ordered.Perm observations) :
    Reasoning.sortedByTimestamp observations = ordered ∧
      sortedByTimestampAndId observations = ordered :=
  ⟨OrderBy.orderBy_eq_of_increasing hperm h, OrderBy.orderByBreaking_eq_of_increasing hperm h⟩

/-- Sorted observations at distinct times are in increasing order. -/
theorem increasing_sortedByTimestamp
    (h : (observations.map fun o => o.timestamp.instant).Nodup) :
    Increasing (Reasoning.sortedByTimestamp observations) := OrderBy.pairwise_orderBy h

/-- Changing the values keeps the order of the times. -/
theorem increasing_mapValues (h : Increasing ordered) (f : F → F) :
    Increasing (mapValues f ordered) := by
  apply h.of_instants
  rw [mapValues, List.map_map]
  rfl

/-- The values are changed one by one. -/
theorem values_mapValues (f : F → F) (observations : List (Observation F)) :
    (mapValues f observations).map Observation.value =
      (observations.map Observation.value).map f := by
  rw [mapValues, List.map_map, List.map_map]
  rfl

/-- Observations that are given other values keep their times. -/
theorem zipWith_withValue (values : List F) (h : values.length = ordered.length) :
    (List.zipWith withValue ordered values).map (fun o => o.timestamp.instant) =
        ordered.map (fun o => o.timestamp.instant) ∧
      (List.zipWith withValue ordered values).map Observation.value = values := by
  induction ordered generalizing values with
  | nil =>
      obtain rfl := List.eq_nil_of_length_eq_zero h
      exact ⟨rfl, rfl⟩
  | cons o ordered ih =>
      cases values with
      | nil => exact absurd h.symm (Nat.succ_ne_zero _)
      | cons value values =>
          obtain ⟨hinstants, hvalues⟩ := ih values (Nat.succ.inj h)
          rw [List.zipWith_cons_cons, List.map_cons, List.map_cons, List.map_cons, hinstants,
            hvalues]
          exact ⟨rfl, rfl⟩

end Series

/-! ## The classifiers on a series -/

section Classifiers

open Reasoning

variable {observations ordered : List (Observation ExactReal)} {values : List ExactReal}
  {assetId measurementType : String}

/-- What is reported of the values in a window. -/
noncomputable def judgeWindow (windowed : List ExactReal) :
    Except AnalysisError (Option (TrendDiagnostics ExactReal)) :=
  if windowed.length < TimeSeries.minSamplesForDirectionalTrend then .ok none
  else (signalsOf windowed).map some

/-- The diagnostics of a series are those of its most recent values. -/
theorem analyzeTrendDiagnostics_exact (h : Increasing ordered) (hperm : ordered.Perm observations)
    (hvalues : ordered.map Observation.value = values) (observationWindow : ℤ) :
    analyzeTrendDiagnostics observations observationWindow =
      if observationWindow ≤ 0 then .error .observationWindowNotPositive
      else judgeWindow (values.drop (values.length - observationWindow.toNat)) := by
  have hlength : values.length = ordered.length := by rw [← hvalues, List.length_map]
  have hwindow : (recentWindow ordered observationWindow.toNat).map Observation.value =
      values.drop (values.length - observationWindow.toNat) := by
    rw [recentWindow, List.map_drop, hvalues, hlength]
  have hcount : (recentWindow ordered observationWindow.toNat).length =
      (values.drop (values.length - observationWindow.toNat)).length := by
    rw [← hwindow, List.length_map]
  unfold analyzeTrendDiagnostics judgeWindow computeSignals
  dsimp only
  rw [(h.sorted hperm).2, hcount, hwindow]

/-- The detector judges a series by all its values. -/
theorem detect_exact (hseries : IsSeries assetId measurementType observations)
    (h : Increasing ordered) (hperm : ordered.Perm observations)
    (hvalues : ordered.map Observation.value = values) : detect observations =
      if values.length < 2 then .error .tooFewObservations
      else .ok ⟨directionOfValues values, assetId, measurementType⟩ := by
  have hlength : values.length = observations.length := by
    rw [← hvalues, List.length_map, hperm.length_eq]
  rw [hlength]
  by_cases hshort : observations.length < 2
  · rw [if_pos hshort]
    match observations, hshort with
    | [], _ => rfl
    | [o], _ => rfl
  · rw [if_neg hshort, detect_series hseries (not_lt.mp hshort), (h.sorted hperm).1,
      splitHalfDirection_exact hvalues]
    rfl

/-- A window of negated values is judged the other way round. -/
theorem judgeWindow_neg (windowed : List ExactReal) :
    judgeWindow (windowed.map fun x => -x) =
      (judgeWindow windowed).map (Option.map TrendDiagnostics.mirrored) := by
  unfold judgeWindow
  rw [List.length_map, signalsOf_neg]
  split_ifs
  · rfl
  · cases signalsOf windowed <;> rfl

/-- So is a window that is read backwards. -/
theorem judgeWindow_reverse (windowed : List ExactReal) :
    judgeWindow windowed.reverse =
      (judgeWindow windowed).map (Option.map TrendDiagnostics.mirrored) := by
  unfold judgeWindow
  rw [List.length_reverse, signalsOf_reverse]
  split_ifs
  · rfl
  · cases signalsOf windowed <;> rfl

/-- A constant added to all values changes nothing. -/
theorem judgeWindow_add (windowed : List ExactReal) (c : ExactReal) :
    judgeWindow (windowed.map fun x => x + c) = judgeWindow windowed := by
  unfold judgeWindow
  rw [List.length_map, signalsOf_add]

/-- A window of one value is stable, if it is judged at all. -/
theorem exists_judgeWindow_constant {windowed : List ExactReal} {c : ExactReal}
    (hconstant : ∀ x ∈ windowed, x = c) :
    ∃ report, judgeWindow windowed = .ok report ∧
      ∀ diagnostics ∈ report, diagnostics.direction = .stable := by
  unfold judgeWindow
  by_cases hshort : windowed.length < TimeSeries.minSamplesForDirectionalTrend
  · rw [if_pos hshort]
    exact ⟨none, rfl, fun _ h => absurd h.symm (Option.some_ne_none _)⟩
  · have hnil : windowed ≠ [] := by
      intro heq
      rw [heq] at hshort
      exact hshort (by decide)
    obtain ⟨diagnostics, hsignals, hdirection⟩ := exists_signalsOf_constant hnil hconstant
    rw [if_neg hshort, hsignals]
    refine ⟨some diagnostics, rfl, ?_⟩
    intro other hother
    rw [← Option.some.inj hother]
    exact hdirection

/-- The detected trend of a series that goes the other way. -/
def oppositeTrend (trend : DetectedTrend) : DetectedTrend :=
  { trend with direction := trend.direction.opposite }

/-- Other values are values of the same measurement. -/
theorem isSeries_withValue {changed : List (Observation ExactReal)}
    (h : IsSeries assetId measurementType observations)
    (hsource : ∀ o ∈ changed, ∃ source ∈ observations, ∃ value, o = withValue source value) :
    IsSeries assetId measurementType changed where
  assetId := by
    intro o ho
    obtain ⟨source, hmem, value, rfl⟩ := hsource o ho
    exact h.assetId source hmem
  measurementType := by
    intro o ho
    obtain ⟨source, hmem, value, rfl⟩ := hsource o ho
    exact h.measurementType source hmem

/-- A series with other values is a series. -/
theorem isSeries_mapValues (h : IsSeries assetId measurementType observations)
    (f : ExactReal → ExactReal) :
    IsSeries assetId measurementType (mapValues f observations) := by
  apply isSeries_withValue h
  intro o ho
  obtain ⟨source, hmem, rfl⟩ := List.mem_map.mp ho
  exact ⟨source, hmem, f source.value, rfl⟩

/-- So is a series that is reversed in time. -/
theorem isSeries_reversedInTime (h : IsSeries assetId measurementType observations) :
    IsSeries assetId measurementType (reversedInTime observations) := by
  apply isSeries_withValue h
  intro o ho
  rw [reversedInTime, ← List.map_uncurry_zip_eq_zipWith] at ho
  obtain ⟨pair, hpair, rfl⟩ := List.mem_map.mp ho
  exact ⟨pair.1, List.mem_mergeSort.mp (List.of_mem_zip hpair).1, pair.2, rfl⟩

/-- The values of a series with distinct timestamps, in the order of time. -/
theorem exists_ordered (h : (observations.map fun o => o.timestamp.instant).Nodup) :
    ∃ ordered values, ordered = sortedByTimestamp observations ∧ Increasing ordered ∧
      ordered.Perm observations ∧ ordered.map Observation.value = values :=
  ⟨_, _, rfl, increasing_sortedByTimestamp h, List.mergeSort_perm _ _, rfl⟩

/-- The direction of a series with other values is that of these values. -/
theorem detect_mapValues (hseries : IsSeries assetId measurementType observations)
    (h : Increasing ordered) (hperm : ordered.Perm observations)
    (hvalues : ordered.map Observation.value = values) (f : ExactReal → ExactReal)
    {mapped : List ExactReal} (hmapped : mapped = values.map f) :
    detect (mapValues f observations) =
      if values.length < 2 then .error .tooFewObservations
      else .ok ⟨directionOfValues mapped, assetId, measurementType⟩ := by
  have hmap : (mapValues f ordered).map Observation.value = mapped := by
    rw [values_mapValues, hvalues, hmapped]
  have hlength : mapped.length = values.length := by rw [hmapped, List.length_map]
  rw [detect_exact (isSeries_mapValues hseries f) (increasing_mapValues h f) (hperm.map _) hmap,
    hlength]

/-- So are its diagnostics, over the last values. -/
theorem analyzeTrendDiagnostics_mapValues (h : Increasing ordered)
    (hperm : ordered.Perm observations) (hvalues : ordered.map Observation.value = values)
    (f : ExactReal → ExactReal) (window : ℤ) :
    analyzeTrendDiagnostics (mapValues f observations) window =
      if window ≤ 0 then .error .observationWindowNotPositive
      else judgeWindow ((values.drop (values.length - window.toNat)).map f) := by
  have hmap : (mapValues f ordered).map Observation.value = values.map f := by
    rw [values_mapValues, hvalues]
  have hpermuted : (mapValues f ordered).Perm (mapValues f observations) := hperm.map _
  rw [analyzeTrendDiagnostics_exact (increasing_mapValues h f) hpermuted hmap,
    List.length_map, List.map_drop]

section Distinct

variable (hseries : IsSeries assetId measurementType observations)
  (hdistinct : (observations.map fun o => o.timestamp.instant).Nodup)

include hdistinct

include hseries in
/-- Negated values have the opposite trend. -/
theorem detect_neg : detect (mapValues (fun x => -x) observations) =
    (detect observations).map oppositeTrend := by
  obtain ⟨ordered, values, -, hincreasing, hperm, hvalues⟩ := exists_ordered hdistinct
  obtain ⟨mapped, hmapped⟩ : ∃ mapped, mapped = values.map fun x => -x := ⟨_, rfl⟩
  have hdirection : directionOfValues mapped = (directionOfValues values).opposite := by
    rw [hmapped]
    exact directionOfValues_neg values
  rw [detect_mapValues hseries hincreasing hperm hvalues _ hmapped, hdirection,
    detect_exact hseries hincreasing hperm hvalues]
  split_ifs <;> rfl

/-- They have the mirrored diagnostics. -/
theorem analyzeTrendDiagnostics_neg (window : ℤ) :
    analyzeTrendDiagnostics (mapValues (fun x => -x) observations) window =
      (analyzeTrendDiagnostics observations window).map
        (Option.map TrendDiagnostics.mirrored) := by
  obtain ⟨ordered, values, -, hincreasing, hperm, hvalues⟩ := exists_ordered hdistinct
  rw [analyzeTrendDiagnostics_mapValues hincreasing hperm hvalues, judgeWindow_neg,
    analyzeTrendDiagnostics_exact hincreasing hperm hvalues]
  split_ifs <;> rfl

include hseries in
/-- A constant added to all values leaves the trend as it is. -/
theorem detect_add (c : ExactReal) :
    detect (mapValues (fun x => x + c) observations) = detect observations := by
  obtain ⟨ordered, values, -, hincreasing, hperm, hvalues⟩ := exists_ordered hdistinct
  obtain ⟨mapped, hmapped⟩ : ∃ mapped, mapped = values.map fun x => x + c := ⟨_, rfl⟩
  have hdirection : directionOfValues mapped = directionOfValues values := by
    rw [hmapped]
    exact directionOfValues_add values c
  rw [detect_mapValues hseries hincreasing hperm hvalues _ hmapped, hdirection,
    detect_exact hseries hincreasing hperm hvalues]

/-- And so it leaves the diagnostics. -/
theorem analyzeTrendDiagnostics_add (c : ExactReal) (window : ℤ) :
    analyzeTrendDiagnostics (mapValues (fun x => x + c) observations) window =
      analyzeTrendDiagnostics observations window := by
  obtain ⟨ordered, values, -, hincreasing, hperm, hvalues⟩ := exists_ordered hdistinct
  rw [analyzeTrendDiagnostics_mapValues hincreasing hperm hvalues, judgeWindow_add,
    analyzeTrendDiagnostics_exact hincreasing hperm hvalues]

/-- Backwards in time, a series has the same instants and the reversed values. -/
theorem exists_reversed : ∃ ordered ordered' : List (Observation ExactReal),
    ∃ values, Increasing ordered ∧ ordered.Perm observations ∧
      ordered.map Observation.value = values ∧ Increasing ordered' ∧
      ordered'.Perm (reversedInTime observations) ∧
      ordered'.map Observation.value = values.reverse := by
  obtain ⟨ordered, values, hordered, hincreasing, hperm, hvalues⟩ := exists_ordered hdistinct
  have hlength : values.reverse.length = ordered.length := by
    rw [List.length_reverse, ← hvalues, List.length_map]
  obtain ⟨hinstants, hreversed⟩ := zipWith_withValue values.reverse hlength
  refine ⟨ordered, _, values, hincreasing, hperm, hvalues, hincreasing.of_instants hinstants, ?_,
    hreversed⟩
  rw [reversedInTime, ← hordered, hvalues]

include hseries in
/-- A series that is reversed in time has the opposite trend, in whatever order it comes. -/
theorem detect_reversed {reversed : List (Observation ExactReal)}
    (h : reversed.Perm (reversedInTime observations)) :
    detect reversed = (detect observations).map oppositeTrend := by
  obtain ⟨ordered, ordered', values, hincreasing, hperm, hvalues, hincreasing', hperm',
    hvalues'⟩ := exists_reversed hdistinct
  have hdirection : directionOfValues values.reverse = (directionOfValues values).opposite :=
    directionOfValues_reverse values
  rw [detect_exact ((isSeries_reversedInTime hseries).perm h) hincreasing' (hperm'.trans h.symm)
    hvalues', detect_exact hseries hincreasing hperm hvalues, hdirection, List.length_reverse]
  split_ifs <;> rfl

/-- The window covers all values, so it has the same ones, backwards. -/
theorem analyzeTrendDiagnostics_reversed {reversed : List (Observation ExactReal)}
    (h : reversed.Perm (reversedInTime observations)) {window : ℤ}
    (hwindow : observations.length ≤ window) : analyzeTrendDiagnostics reversed window =
      (analyzeTrendDiagnostics observations window).map
        (Option.map TrendDiagnostics.mirrored) := by
  obtain ⟨ordered, ordered', values, hincreasing, hperm, hvalues, hincreasing', hperm',
    hvalues'⟩ := exists_reversed hdistinct
  have hcovered : values.length - window.toNat = 0 := by
    rw [← hvalues, List.length_map, hperm.length_eq]
    omega
  rw [analyzeTrendDiagnostics_exact hincreasing' (hperm'.trans h.symm) hvalues',
    analyzeTrendDiagnostics_exact hincreasing hperm hvalues, List.length_reverse, hcovered,
    List.drop_zero, List.drop_zero, judgeWindow_reverse]
  split_ifs <;> rfl

include hseries in
/-- A series of one value is stable. -/
theorem detect_constant {c : ExactReal} (hconstant : ∀ o ∈ observations, o.value = c)
    (hlong : 2 ≤ observations.length) :
    detect observations = .ok ⟨.stable, assetId, measurementType⟩ := by
  obtain ⟨ordered, values, -, hincreasing, hperm, hvalues⟩ := exists_ordered hdistinct
  have hlength : values.length = observations.length := by
    rw [← hvalues, List.length_map, hperm.length_eq]
  have hreplicate : values = List.replicate values.length c := by
    apply List.eq_replicate_of_mem
    intro x hx
    rw [← hvalues] at hx
    obtain ⟨o, ho, rfl⟩ := List.mem_map.mp hx
    exact hconstant o (hperm.mem_iff.mp ho)
  have hdirection : directionOfValues values = .stable := by
    rw [hreplicate]
    exact directionOfValues_replicate values.length c
  rw [detect_exact hseries hincreasing hperm hvalues, if_neg (by omega), hdirection]

/-- So are its diagnostics, if there are any. -/
theorem analyzeTrendDiagnostics_constant {c : ExactReal}
    (hconstant : ∀ o ∈ observations, o.value = c) {window : ℤ} (hwindow : 0 < window) :
    ∃ report, analyzeTrendDiagnostics observations window = .ok report ∧
      ∀ diagnostics ∈ report, diagnostics.direction = .stable := by
  obtain ⟨ordered, values, -, hincreasing, hperm, hvalues⟩ := exists_ordered hdistinct
  rw [analyzeTrendDiagnostics_exact hincreasing hperm hvalues, if_neg (not_le.mpr hwindow)]
  apply exists_judgeWindow_constant (c := c)
  intro x hx
  have hmem := List.mem_of_mem_drop hx
  rw [← hvalues] at hmem
  obtain ⟨o, ho, rfl⟩ := List.mem_map.mp hmem
  exact hconstant o (hperm.mem_iff.mp ho)

end Distinct

/-- In exact arithmetic the two classifiers answer alike to the symmetries of a series with distinct
timestamps. Negated values, and values that are taken backwards in time within a window that covers
them all, exchange rising and falling, and leave the scores as they are. A constant that is added to
all values changes nothing, and a constant series is stable. -/
theorem trend_symmetric (hseries : IsSeries assetId measurementType observations)
    (hdistinct : (observations.map fun o => o.timestamp.instant).Nodup) :
    (detect (mapValues (fun x => -x) observations) = (detect observations).map oppositeTrend ∧
      ∀ window, analyzeTrendDiagnostics (mapValues (fun x => -x) observations) window =
        (analyzeTrendDiagnostics observations window).map
          (Option.map TrendDiagnostics.mirrored)) ∧
    (∀ reversed, reversed.Perm (reversedInTime observations) →
      detect reversed = (detect observations).map oppositeTrend ∧
      ∀ window : ℤ, observations.length ≤ window → analyzeTrendDiagnostics reversed window =
        (analyzeTrendDiagnostics observations window).map
          (Option.map TrendDiagnostics.mirrored)) ∧
    (∀ c, detect (mapValues (fun x => x + c) observations) = detect observations ∧
      ∀ window, analyzeTrendDiagnostics (mapValues (fun x => x + c) observations) window =
        analyzeTrendDiagnostics observations window) ∧
    ∀ c, (∀ o ∈ observations, o.value = c) →
      (2 ≤ observations.length →
        detect observations = .ok ⟨.stable, assetId, measurementType⟩) ∧
      ∀ window, 0 < window → ∃ report,
        analyzeTrendDiagnostics observations window = .ok report ∧
          ∀ diagnostics ∈ report, diagnostics.direction = .stable := by
  refine ⟨⟨?_, ?_⟩, ?_, ?_, ?_⟩
  · exact detect_neg hseries hdistinct
  · exact analyzeTrendDiagnostics_neg hdistinct
  · intro reversed hreversed
    exact ⟨detect_reversed hseries hdistinct hreversed,
      fun window => analyzeTrendDiagnostics_reversed hdistinct hreversed⟩
  · intro c
    exact ⟨detect_add hseries hdistinct c, analyzeTrendDiagnostics_add hdistinct c⟩
  · intro c hconstant
    exact ⟨detect_constant hseries hdistinct hconstant,
      fun window => analyzeTrendDiagnostics_constant hdistinct hconstant⟩

/-- The symmetries of eight readings that rise. -/
theorem trend_symmetric_rising :
    let observations := seriesOf (F := ExactReal) "stack_voltage"
      ([1, 2, 3, 4, 5, 6, 7, 8] : List ℝ)
    detect (mapValues (fun x => -x) observations) = (detect observations).map oppositeTrend ∧
      detect (reversedInTime observations) = (detect observations).map oppositeTrend := by
  intro observations
  have hdistinct : (observations.map fun o => o.timestamp.instant).Nodup := by
    show ([0, 1000000, 2000000, 3000000, 4000000, 5000000, 6000000, 7000000] : List ℤ).Nodup
    decide
  obtain ⟨hneg, hreversed, -, -⟩ := trend_symmetric (isHistory_seriesOf _ _).isSeries hdistinct
  exact ⟨hneg.1, (hreversed _ (List.Perm.refl _)).1⟩

end Classifiers

end Odis.TimeSeries
