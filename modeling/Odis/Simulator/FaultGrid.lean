import Odis.Python.Rationals
import Odis.Simulator.RunPlan

/-!
# Fault grids

The starts that `FaultTimingRange.grid_values` (`dataset/fault_variation.py`) offers for a fault,
over exact rationals. Each point is rounded to six decimals, so a range whose ends or whose step are
finer than that may lose its minimum, repeat a point or pass its maximum.

* `gridValues_eq`: the points of the grid.
* `gridSound_iff`: the ranges whose grid is as it should be.
* `add_le_duration_of_canDraw`: a ramp that passes the check of the specification ends within the
run.
-/

namespace Odis.Simulator

open Exceptions PyFloat

/-! ## The grid -/

section Grid

/-- `step_count`. -/
def stepCount (range : FaultTimingRangeFields ℚ) : ℤ :=
  ⌊(range.maximumSeconds - range.minimumSeconds) / range.stepSeconds⌋

/-- A point of the grid before it is rounded, in millionths of a second. -/
def rawMicros (range : FaultTimingRangeFields ℚ) (index : ℤ) : ℚ :=
  (range.minimumSeconds + index * range.stepSeconds) * 1000000

/-- A point of the grid. -/
def gridPoint (range : FaultTimingRangeFields ℚ) (index : ℤ) : ℚ :=
  (roundHalfEven (rawMicros range index) : ℚ) / 1000000

/-- The points of the grid. -/
def points (range : FaultTimingRangeFields ℚ) : List ℚ :=
  (List.range (stepCount range + 1).toNat).map fun index : ℕ => gridPoint range index

variable (range : FaultTimingRange ℚ)

/-- What the constructor checks. -/
theorem accepted_range : 0 ≤ range.val.minimumSeconds ∧ 0 < range.val.stepSeconds ∧
    range.val.minimumSeconds ≤ range.val.maximumSeconds := by
  have hzero : (PyFloat.literal 0.0 : ℚ) = 0 := by
    show (0.0 : ℚ) = 0
    norm_num
  have hvalid := range.valid
  rw [FaultTimingRangeFields.validate, hzero] at hvalid
  split_ifs at hvalid with hminimum hstep hmaximum
  exact ⟨not_lt.mp hminimum, not_le.mp hstep, not_lt.mp hmaximum⟩

/-- There are no fewer than zero steps. -/
theorem stepCount_nonneg : 0 ≤ stepCount range.val := by
  obtain ⟨-, hstep, hle⟩ := accepted_range range
  exact Int.floor_nonneg.mpr (div_nonneg (sub_nonneg.mpr hle) hstep.le)

/-- The values of the grid are its points. -/
theorem gridValues_eq : range.val.gridValues = .ok (points range.val) := by
  obtain ⟨-, hstep, hle⟩ := accepted_range range
  have hdivision : PyFloat.truediv (range.val.maximumSeconds - range.val.minimumSeconds)
      range.val.stepSeconds =
        .ok ((range.val.maximumSeconds - range.val.minimumSeconds) / range.val.stepSeconds) :=
    if_neg hstep.ne'
  have hcount : FloatRounding.truncate
      ((range.val.maximumSeconds - range.val.minimumSeconds) / range.val.stepSeconds) =
        .ok (stepCount range.val) := by
    have hnum := Rat.num_nonneg.mpr (div_nonneg (sub_nonneg.mpr hle) hstep.le)
    rw [stepCount, Rat.floor_def', ← Int.tdiv_eq_ediv_of_nonneg hnum]
    rfl
  unfold FaultTimingRangeFields.gridValues
  dsimp only
  rw [hdivision, ok_bind, hcount, ok_bind]
  -- the program casts the whole range of indices first
  have hcast : (do let index ← List.range (stepCount range.val + 1).toNat; pure (index : ℤ)) =
      (List.range (stepCount range.val + 1).toNat).map fun index : ℕ => (index : ℤ) :=
    List.flatMap_pure_eq_map _ _
  rw [hcast, List.map_map]
  rfl

/-- The grid begins at the minimum. -/
theorem rawMicros_zero : rawMicros range.val 0 = range.val.minimumSeconds * 1000000 := by
  rw [rawMicros]
  push_cast
  ring

/-- It goes on in equal steps. -/
theorem rawMicros_eq (index : ℤ) : rawMicros range.val index =
    range.val.minimumSeconds * 1000000 + index * (range.val.stepSeconds * 1000000) := by
  rw [rawMicros]
  ring

/-- They go up. -/
theorem rawMicros_mono {index index' : ℤ} (hle : index ≤ index') :
    rawMicros range.val index ≤ rawMicros range.val index' := by
  obtain ⟨-, hstep, -⟩ := accepted_range range
  have hcast : (index : ℚ) ≤ index' := by exact_mod_cast hle
  rw [rawMicros_eq, rawMicros_eq]
  gcongr

/-- The grid does not go beyond the maximum before its points are rounded. -/
theorem rawMicros_stepCount_le :
    rawMicros range.val (stepCount range.val) ≤ range.val.maximumSeconds * 1000000 := by
  obtain ⟨-, hstep, -⟩ := accepted_range range
  have hfloor := Int.floor_le
    ((range.val.maximumSeconds - range.val.minimumSeconds) / range.val.stepSeconds)
  rw [le_div_iff₀ hstep] at hfloor
  unfold rawMicros stepCount
  linarith

/-- A step that divides the range leads to the maximum. -/
theorem rawMicros_stepCount_of_dvd
    (hdvd : ∃ k : ℤ, range.val.maximumSeconds - range.val.minimumSeconds =
      k * range.val.stepSeconds) :
    rawMicros range.val (stepCount range.val) = range.val.maximumSeconds * 1000000 := by
  obtain ⟨-, hstep, -⟩ := accepted_range range
  obtain ⟨k, hk⟩ := hdvd
  have hcount : stepCount range.val = k := by
    rw [stepCount, hk, mul_div_cancel_right₀ _ hstep.ne', Int.floor_intCast]
  rw [rawMicros, hcount]
  linarith

/-- The points are those of the steps. -/
theorem mem_points_iff {value : ℚ} : value ∈ points range.val ↔
    ∃ index : ℤ, 0 ≤ index ∧ index ≤ stepCount range.val ∧ gridPoint range.val index = value := by
  rw [points, List.mem_map]
  constructor
  · rintro ⟨index, hmem, heq⟩
    have hlt := List.mem_range.mp hmem
    exact ⟨index, by omega, by omega, heq⟩
  · rintro ⟨index, hnonneg, hle, heq⟩
    refine ⟨index.toNat, List.mem_range.mpr (by omega), ?_⟩
    rw [Int.toNat_of_nonneg hnonneg, heq]

/-- Points are in order as their rounded microseconds are. -/
theorem gridPoint_lt_iff {index index' : ℤ} :
    gridPoint range.val index < gridPoint range.val index' ↔
      roundHalfEven (rawMicros range.val index) < roundHalfEven (rawMicros range.val index') := by
  rw [gridPoint, gridPoint, div_lt_div_iff_of_pos_right (by norm_num), Int.cast_lt]

/-- The grid increases if every point is below the next. -/
theorem pairwise_points_iff : (points range.val).Pairwise (· < ·) ↔
    ∀ index : ℤ, 0 ≤ index → index < stepCount range.val →
      roundHalfEven (rawMicros range.val index) <
        roundHalfEven (rawMicros range.val (index + 1)) := by
  rw [points, ← List.isChain_iff_pairwise, List.isChain_map, List.isChain_range]
  constructor
  · intro hchain index hnonneg hlt
    have hnext := hchain index.toNat (by omega)
    rw [gridPoint_lt_iff] at hnext
    push_cast at hnext
    rwa [Int.toNat_of_nonneg hnonneg] at hnext
  · intro hnext index hlt
    rw [gridPoint_lt_iff]
    push_cast
    exact hnext index (by omega) (by omega)

end Grid

/-! ## Draws -/

section Draws

/-- A start that `resolve_fault_start` can draw from the grid of a range. -/
def CanDraw (range : FaultTimingRange ℚ) (start : ℚ) : Prop :=
  ∃ (random : RandomSource ℚ) (fixed : Option ℚ) (state state' : random.State),
    (resolveFaultStart random fixed (some range)).run state = .ok (some start, state')

/-- What is chosen is one of the items. -/
theorem mem_of_choice {random : RandomSource ℚ} {items : List ℚ} {state state' : random.State}
    {item : ℚ} (hchoice : (choice random items).run state = .ok (item, state')) :
    item ∈ items := by
  cases items with
  | nil => cases hchoice
  | cons first items =>
      have hitem : (first :: items).get (random.choiceIndex items.length state).1 = item :=
        congrArg Prod.fst (Except.ok.inj hchoice)
      rw [← hitem]
      exact List.get_mem _ _

/-- What can be drawn is a point. -/
theorem mem_points_of_canDraw {range : FaultTimingRange ℚ} {start : ℚ}
    (hdraw : CanDraw range start) : start ∈ points range.val := by
  obtain ⟨random, fixed, state, state', hrun⟩ := hdraw
  unfold resolveFaultStart at hrun
  dsimp only at hrun
  rw [gridValues_eq] at hrun
  obtain ⟨⟨value, stateChosen⟩, hchoice, hrest⟩ := bind_eq_ok.mp hrun
  have hstart : some value = some start := congrArg Prod.fst (Except.ok.inj hrest)
  rw [← Option.some.inj hstart]
  exact mem_of_choice hchoice

/-- A ramp of an accepted specification ends within the run, whatever start is drawn. -/
theorem add_le_duration_of_canDraw {spec : DatasetSpec ℚ} {plan : ScenarioRunSpec ℚ}
    (hplan : plan ∈ spec.val.scenarioPlans) {range : FaultTimingRange ℚ}
    (hrange : plan.val.faultStartRange = some range) {faultDuration : ℚ}
    (hduration : plan.val.faultDurationSimSeconds = some faultDuration) {start : ℚ}
    (hdraw : CanDraw range start) : start + faultDuration ≤ spec.val.durationSimSeconds := by
  have hstart := mem_points_of_canDraw hdraw
  have hvalid := spec.validatePlan_of_mem hplan
  unfold DatasetSpecFields.validatePlan at hvalid
  rw [hrange, hduration] at hvalid
  dsimp only at hvalid
  split_ifs at hvalid
  obtain ⟨values, hvalues, hchecked⟩ := bind_eq_ok.mp hvalid
  rw [mapError_eq_ok, gridValues_eq] at hvalues
  obtain rfl := Except.ok.inj hvalues
  cases hpoints : points range.val with
  | nil =>
      rw [hpoints] at hstart
      exact absurd hstart List.not_mem_nil
  | cons value values =>
      rw [hpoints] at hchecked hstart
      dsimp only at hchecked
      split_ifs at hchecked with hbeyond
      -- the check is made of the greatest start
      have hgreatest := (isGreatest_maximum value values).2 hstart
      exact (add_le_add_left hgreatest _).trans (not_lt.mp hbeyond)

end Draws

/-! ## Sound grids -/

section Sound

/-- The grid of a range is as it should be: every fault start that a run can draw lies in the range,
and leaves room for the ramp. -/
structure GridSound (range : FaultTimingRange ℚ) (values : List ℚ) : Prop where
  /-- The grid has a point. -/
  nonempty : values ≠ []
  /-- Its points increase, so none is there twice. -/
  increasing : values.Pairwise (· < ·)
  /-- The minimum of the range is one of them. -/
  minimum : range.val.minimumSeconds ∈ values
  /-- None is outside of the range. -/
  inRange : ∀ value ∈ values,
    range.val.minimumSeconds ≤ value ∧ value ≤ range.val.maximumSeconds
  /-- The maximum is one of them if the steps reach it. -/
  maximum : (∃ k : ℤ, range.val.maximumSeconds - range.val.minimumSeconds =
      k * range.val.stepSeconds) → range.val.maximumSeconds ∈ values
  /-- What is drawn is in the range. -/
  drawn : ∀ start, CanDraw range start →
    range.val.minimumSeconds ≤ start ∧ start ≤ range.val.maximumSeconds
  /-- A fault that starts there has completed its ramp before the end of the run. -/
  ramp : ∀ (spec : DatasetSpec ℚ), ∀ plan ∈ spec.val.scenarioPlans,
    plan.val.faultStartRange = some range →
      ∀ faultDuration, plan.val.faultDurationSimSeconds = some faultDuration →
        ∀ start, CanDraw range start → start + faultDuration ≤ spec.val.durationSimSeconds

/-- How far the last point of a grid is behind steps of a millionth, in millionths. -/
def lag (range : FaultTimingRangeFields ℚ) : ℚ :=
  stepCount range * (1 - range.stepSeconds * 1000000)

/-- How far the last point is beyond the last six-decimal number up to the maximum, in
millionths. -/
def excess (range : FaultTimingRangeFields ℚ) : ℚ :=
  rawMicros range (stepCount range) - ⌊range.maximumSeconds * 1000000⌋

/-- Six decimals are enough for a range: its minimum has no more, its steps are not so much finer
that points fall together, the last point is not rounded beyond the maximum, and a maximum that the
steps reach has no more either. -/
structure FitsSixDecimals (range : FaultTimingRangeFields ℚ) : Prop where
  minimum : ∃ m : ℤ, range.minimumSeconds * 1000000 = m
  step : lag range < 1 / 2 ∨
    lag range = 1 / 2 ∧ Even (⌊range.minimumSeconds * 1000000⌋ + stepCount range)
  last : excess range < 1 / 2 ∨
    excess range = 1 / 2 ∧ Even ⌊range.maximumSeconds * 1000000⌋
  maximum : (∃ k : ℤ, range.maximumSeconds - range.minimumSeconds = k * range.stepSeconds) →
    ∃ m : ℤ, range.maximumSeconds * 1000000 = m

variable {range : FaultTimingRange ℚ}

/-- Only numbers of six decimals are points. -/
theorem exists_micros_of_mem_points {value : ℚ} (hmem : value ∈ points range.val) :
    ∃ m : ℤ, value * 1000000 = m := by
  obtain ⟨index, -, -, rfl⟩ := (mem_points_iff range).mp hmem
  exact ⟨roundHalfEven (rawMicros range.val index), div_mul_cancel₀ _ (by norm_num)⟩

/-- A raw point of six decimals is not rounded. -/
theorem gridPoint_eq {index m : ℤ} (hraw : rawMicros range.val index = m) :
    gridPoint range.val index = rawMicros range.val index / 1000000 := by
  rw [gridPoint, hraw, roundHalfEven_intCast]

/-- The last point is up to the maximum exactly if it is not rounded beyond it. -/
theorem last_iff : gridPoint range.val (stepCount range.val) ≤ range.val.maximumSeconds ↔
    excess range.val < 1 / 2 ∨
      excess range.val = 1 / 2 ∧ Even ⌊range.val.maximumSeconds * 1000000⌋ := by
  rw [gridPoint, div_le_iff₀ (by norm_num), ← Int.le_floor]
  exact roundHalfEven_le_iff

/-- The last point of a grid from a minimum of six decimals is as many millionths beyond it as there
are steps exactly if it does not fall behind. -/
theorem step_iff {m : ℤ} (hminimum : range.val.minimumSeconds * 1000000 = m) :
    m + stepCount range.val ≤ roundHalfEven (rawMicros range.val (stepCount range.val)) ↔
      lag range.val < 1 / 2 ∨ lag range.val = 1 / 2 ∧
        Even (⌊range.val.minimumSeconds * 1000000⌋ + stepCount range.val) := by
  have hlag : ((m + stepCount range.val : ℤ) : ℚ) - rawMicros range.val (stepCount range.val) =
      lag range.val := by
    rw [rawMicros_eq, hminimum, lag]
    push_cast
    ring
  rw [hminimum, Int.floor_intCast, le_roundHalfEven_iff, hlag]

/-- Points that increase are a millionth apart at least. -/
theorem add_stepCount_le_of_increasing
    (hnext : ∀ index : ℤ, 0 ≤ index → index < stepCount range.val →
      roundHalfEven (rawMicros range.val index) <
        roundHalfEven (rawMicros range.val (index + 1))) :
    roundHalfEven (rawMicros range.val 0) + stepCount range.val ≤
      roundHalfEven (rawMicros range.val (stepCount range.val)) := by
  have hfrom (index : ℕ) : (index : ℤ) ≤ stepCount range.val →
      roundHalfEven (rawMicros range.val 0) + index ≤
        roundHalfEven (rawMicros range.val index) := by
    induction index with
    | zero => simp
    | succ index ih =>
        intro hle
        push_cast at hle ⊢
        have hindex := ih (by omega)
        have hlt := hnext index (by omega) (by omega)
        omega
  have hcount := stepCount_nonneg range
  have hlast := hfrom (stepCount range.val).toNat
  rw [Int.toNat_of_nonneg hcount] at hlast
  exact hlast le_rfl

/-- A step of a millionth or more leads from a point to a later one. -/
theorem roundHalfEven_lt_of_step {m : ℤ} (hminimum : range.val.minimumSeconds * 1000000 = m)
    (hstep : 1 ≤ range.val.stepSeconds * 1000000) (index : ℤ) :
    roundHalfEven (rawMicros range.val index) <
      roundHalfEven (rawMicros range.val (index + 1)) := by
  have hraw : rawMicros range.val (index + 1) =
      rawMicros range.val index + range.val.stepSeconds * 1000000 := by
    rw [rawMicros_eq, rawMicros_eq]
    push_cast
    ring
  rw [← Int.add_one_le_iff, le_roundHalfEven_iff, hraw]
  push_cast
  left
  rcases hstep.lt_or_eq with hmore | hone
  · rcases le_roundHalfEven_iff.mp (le_refl (roundHalfEven (rawMicros range.val index))) with
      hclose | ⟨hhalf, -⟩ <;> linarith
  · -- every point has six decimals already
    have hinteger : rawMicros range.val index = ((m + index : ℤ) : ℚ) := by
      rw [rawMicros_eq, hminimum, ← hone]
      push_cast
      ring
    rw [hinteger, roundHalfEven_intCast]
    linarith

/-- Finer steps lead to consecutive points as long as the last does not fall behind. -/
theorem roundHalfEven_eq_of_fine {m : ℤ} (hminimum : range.val.minimumSeconds * 1000000 = m)
    (hfine : range.val.stepSeconds * 1000000 < 1)
    (hlag : lag range.val < 1 / 2 ∨ lag range.val = 1 / 2 ∧
      Even (⌊range.val.minimumSeconds * 1000000⌋ + stepCount range.val))
    {index : ℤ} (hnonneg : 0 ≤ index) (hle : index ≤ stepCount range.val) :
    roundHalfEven (rawMicros range.val index) = m + index := by
  have hindex : (0 : ℚ) ≤ index := by exact_mod_cast hnonneg
  have hbehind : ((m + index : ℤ) : ℚ) - rawMicros range.val index =
      index * (1 - range.val.stepSeconds * 1000000) := by
    rw [rawMicros_eq, hminimum]
    push_cast
    ring
  refine le_antisymm (roundHalfEven_le_iff.mpr (Or.inl ?_)) ?_
  · have hpositive : 0 ≤ (index : ℚ) * (1 - range.val.stepSeconds * 1000000) :=
      mul_nonneg hindex (by linarith)
    linarith
  · rcases hle.lt_or_eq with hlt | rfl
    · -- earlier points are less behind than the last
      have hcast : (index : ℚ) < stepCount range.val := by exact_mod_cast hlt
      have hless : (index : ℚ) * (1 - range.val.stepSeconds * 1000000) < lag range.val :=
        mul_lt_mul_of_pos_right hcast (by linarith)
      have hhalf : lag range.val ≤ 1 / 2 := by
        rcases hlag with hlt | ⟨heq, -⟩ <;> linarith
      exact le_roundHalfEven_iff.mpr (Or.inl (by linarith))
    · exact (step_iff hminimum).mpr hlag

/-- A range that six decimals are enough for has a grid that increases. -/
theorem FitsSixDecimals.increasing (hfits : FitsSixDecimals range.val) :
    (points range.val).Pairwise (· < ·) := by
  obtain ⟨m, hminimum⟩ := hfits.minimum
  refine (pairwise_points_iff range).mpr fun index hnonneg hlt => ?_
  rcases le_or_gt 1 (range.val.stepSeconds * 1000000) with hstep | hfine
  · exact roundHalfEven_lt_of_step hminimum hstep index
  · rw [roundHalfEven_eq_of_fine hminimum hfine hfits.step hnonneg hlt.le,
      roundHalfEven_eq_of_fine hminimum hfine hfits.step (by omega) hlt]
    omega

/-- If six decimals are enough, the first point is the minimum. -/
theorem FitsSixDecimals.gridPoint_zero (hfits : FitsSixDecimals range.val) :
    gridPoint range.val 0 = range.val.minimumSeconds := by
  obtain ⟨m, hminimum⟩ := hfits.minimum
  rw [gridPoint_eq ((rawMicros_zero range).trans hminimum), rawMicros_zero]
  exact mul_div_cancel_right₀ _ (by norm_num)

/-- The points go up. -/
theorem gridPoint_mono {index index' : ℤ} (hle : index ≤ index') :
    gridPoint range.val index ≤ gridPoint range.val index' := by
  have hround := roundHalfEven_mono (rawMicros_mono range hle)
  have hcast : (roundHalfEven (rawMicros range.val index) : ℚ) ≤
      roundHalfEven (rawMicros range.val index') := by exact_mod_cast hround
  exact div_le_div_of_nonneg_right hcast (by norm_num)

/-- And no point is outside the range. -/
theorem FitsSixDecimals.inRange (hfits : FitsSixDecimals range.val) {value : ℚ}
    (hmem : value ∈ points range.val) :
    range.val.minimumSeconds ≤ value ∧ value ≤ range.val.maximumSeconds := by
  obtain ⟨index, hnonneg, hle, rfl⟩ := (mem_points_iff range).mp hmem
  constructor
  · rw [← hfits.gridPoint_zero]
    exact gridPoint_mono hnonneg
  · exact (gridPoint_mono hle).trans (last_iff.mpr hfits.last)

/-- So the grid is sound. -/
theorem FitsSixDecimals.gridSound (hfits : FitsSixDecimals range.val) :
    GridSound range (points range.val) where
  nonempty := by
    have hcount := stepCount_nonneg range
    exact List.ne_nil_of_mem ((mem_points_iff range).mpr ⟨0, le_rfl, hcount, rfl⟩)
  increasing := hfits.increasing
  minimum := (mem_points_iff range).mpr ⟨0, le_rfl, stepCount_nonneg range, hfits.gridPoint_zero⟩
  inRange _ := hfits.inRange
  maximum := by
    intro hdvd
    obtain ⟨m, hmaximum⟩ := hfits.maximum hdvd
    have hreached := rawMicros_stepCount_of_dvd range hdvd
    refine (mem_points_iff range).mpr ⟨stepCount range.val, stepCount_nonneg range, le_rfl, ?_⟩
    rw [gridPoint_eq (hreached.trans hmaximum), hreached]
    exact mul_div_cancel_right₀ _ (by norm_num)
  drawn _ hdraw := hfits.inRange (mem_points_of_canDraw hdraw)
  ramp _ _ hplan hrange _ hduration _ hdraw :=
    add_le_duration_of_canDraw hplan hrange hduration hdraw

/-- Conversely, a range whose grid is sound does with six decimals. -/
theorem GridSound.fitsSixDecimals (hsound : GridSound range (points range.val)) :
    FitsSixDecimals range.val := by
  obtain ⟨m, hminimum⟩ := exists_micros_of_mem_points hsound.minimum
  refine ⟨⟨m, hminimum⟩, ?_, ?_, ?_⟩
  · have hlast := add_stepCount_le_of_increasing ((pairwise_points_iff range).mp hsound.increasing)
    rw [rawMicros_zero, hminimum, roundHalfEven_intCast] at hlast
    exact (step_iff hminimum).mp hlast
  · have hmem : gridPoint range.val (stepCount range.val) ∈ points range.val :=
      (mem_points_iff range).mpr ⟨_, stepCount_nonneg range, le_rfl, rfl⟩
    exact last_iff.mp (hsound.inRange _ hmem).2
  · intro hdvd
    exact exists_micros_of_mem_points (hsound.maximum hdvd)

/-- The grid of a range is as it should be exactly if six decimals are enough for the range. -/
theorem gridSound_iff (range : FaultTimingRange ℚ) :
    (∃ values, range.val.gridValues = .ok values ∧ GridSound range values) ↔
      FitsSixDecimals range.val := by
  constructor
  · rintro ⟨values, hvalues, hsound⟩
    rw [gridValues_eq] at hvalues
    obtain rfl := Except.ok.inj hvalues
    exact hsound.fitsSixDecimals
  · intro hfits
    exact ⟨points range.val, gridValues_eq range, hfits.gridSound⟩

/-- A range of less than a millionth, away from zero: its one point is rounded to zero. -/
def fineRange : FaultTimingRange ℚ where
  val := { minimumSeconds := 4 / 10000000, maximumSeconds := 4 / 10000000, stepSeconds := 1 }
  valid := eq_ok_of_toBool (by decide +kernel)

/-- Its grid does not have the minimum, so not every accepted range has a sound grid. -/
theorem not_gridSound_fineRange : ¬ ∀ range : FaultTimingRange ℚ,
    ∃ values, range.val.gridValues = .ok values ∧ GridSound range values := by
  intro hall
  obtain ⟨values, hvalues, hsound⟩ := hall fineRange
  have hgrid : fineRange.val.gridValues = .ok [0] := by decide +kernel
  rw [hgrid] at hvalues
  obtain rfl := Except.ok.inj hvalues
  have hminimum : fineRange.val.minimumSeconds ∈ [0] := hsound.minimum
  revert hminimum
  decide +kernel

/-- Six decimals are enough for whole millionths. -/
theorem fitsSixDecimals_of_micros {least greatest step : ℤ}
    (hleast : range.val.minimumSeconds * 1000000 = least)
    (hgreatest : range.val.maximumSeconds * 1000000 = greatest)
    (hstep : range.val.stepSeconds * 1000000 = step) : FitsSixDecimals range.val := by
  obtain ⟨-, hpositive, -⟩ := accepted_range range
  have hone : (1 : ℚ) ≤ step := by
    have hscaled : (0 : ℚ) < step := by linarith
    exact_mod_cast hscaled
  refine ⟨⟨least, hleast⟩, Or.inl ?_, Or.inl ?_, fun _ => ⟨greatest, hgreatest⟩⟩
  · have hcount : (0 : ℚ) ≤ stepCount range.val := by exact_mod_cast stepCount_nonneg range
    rw [lag, hstep]
    nlinarith
  · have hlast := rawMicros_stepCount_le range
    rw [excess, hgreatest, Int.floor_intCast]
    linarith

end Sound

end Odis.Simulator
