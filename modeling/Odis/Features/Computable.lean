import Odis.Features.Row

/-!
# Rows that can be computed

`compute_feature_row` raises on finite measurements, too: a difference of two large values is
infinite, a square of one overflows. `exists_computeRow_iff` says for which values a row is
computed.
-/

namespace Odis.Features

open Exceptions

variable {F : Type} [PyFloat F]

/-- What is computed of a measurement's current and previous value is finite. -/
def ComputableRaw (currentValue previousValue : F) : Prop :=
  ∃ raw, computeRawFeatures currentValue previousValue = .ok raw ∧
    PyFloat.isfinite raw.value = true ∧ PyFloat.isfinite raw.diff = true ∧
    PyFloat.isfinite raw.rateOfChangePerSecond = true

/-- The series has the samples of a window, and the statistics of the window are finite. -/
def ComputableWindow (series : Series F) (index seconds : ℕ) : Prop :=
  ∃ window stats, trailingWindow series index (windowSamples seconds) = .ok window ∧
    computeWindowStats window = .ok stats ∧
    ∀ stat ∈ windowStats, PyFloat.isfinite (stats.get stat) = true

/-- The arithmetic of a row raises nothing, and the features of the measurements and the residuals
are finite. The ratios need not be: one that is not finite is rejected. -/
structure ComputableRow (currentValues previousValues : FeatureMeasurement → F)
    (series : FeatureMeasurement → Series F) (index : ℕ) : Prop where
  raw : ∀ m, ComputableRaw (currentValues m) (previousValues m)
  windows : ∀ m, ∀ seconds ∈ windowSeconds, ComputableWindow (series m) index seconds
  crossSignal : ∃ ratios, computeCrossSignalFeatures currentValues = .ok ratios
  residuals : ∃ residuals, computeResiduals (currentValues .current) currentValues =
    .ok residuals ∧ ∀ residual ∈ residuals, PyFloat.isfinite residual.2 = true

section Features

/-- The check returns exactly if the value is finite. -/
theorem checkFinite_eq_ok_iff {column : FeatureColumn} {value : F} {u : Unit} :
    checkFinite column value = .ok u ↔ PyFloat.isfinite value = true := by
  rw [checkFinite]
  split_ifs with h
  · exact iff_of_true rfl h
  · exact iff_of_false (fun h => nomatch h) h

/-- The statistics of a window are returned exactly if it is complete and they are finite. -/
theorem exists_windowFeatures_iff {series : Series F} {index seconds : ℕ}
    {m : FeatureMeasurement} :
    (∃ features, windowFeatures (trailingWindow series index (windowSamples seconds)) m seconds =
      .ok features) ↔ ComputableWindow series index seconds := by
  -- the loop over the statistics fails at the first one that is not finite
  have hstats : ∀ stats : WindowStats F,
      (∃ features, (windowStats.mapM fun stat => do
        checkFinite (.window m seconds stat) (stats.get stat)
        return (FeatureColumn.window m seconds stat, stats.get stat)) = .ok features) ↔
      ∀ stat ∈ windowStats, PyFloat.isfinite (stats.get stat) = true := by
    intro stats
    rw [exists_mapM_eq_ok_iff]
    refine forall₂_congr fun stat _ => ?_
    simp only [bind_eq_ok, checkFinite_eq_ok_iff]
    exact ⟨fun ⟨_, _, hfinite, _⟩ => hfinite, fun hfinite => ⟨_, (), hfinite, rfl⟩⟩
  constructor
  · rintro ⟨features, h⟩
    obtain ⟨window, hwindow, h⟩ := bind_eq_ok.mp h
    obtain ⟨stats, hcompute, h⟩ := bind_eq_ok.mp h
    exact ⟨window, stats, mapError_eq_ok.mp hwindow, mapError_eq_ok.mp hcompute,
      (hstats stats).mp ⟨features, h⟩⟩
  · rintro ⟨window, stats, hwindow, hcompute, hfinite⟩
    obtain ⟨features, hfeatures⟩ := (hstats stats).mpr hfinite
    exact ⟨features, bind_eq_ok.mpr ⟨window, mapError_eq_ok.mpr hwindow,
      bind_eq_ok.mpr ⟨stats, mapError_eq_ok.mpr hcompute, hfeatures⟩⟩⟩

/-- The features of a measurement are returned exactly if its raw values and its windows allow it.
-/
theorem exists_measurementFeatures_iff {currentValue previousValue : F} {series : Series F}
    {index : ℕ} {m : FeatureMeasurement} :
    (∃ features, measurementFeatures currentValue previousValue series index m = .ok features) ↔
      ComputableRaw currentValue previousValue ∧
        ∀ seconds ∈ windowSeconds, ComputableWindow series index seconds := by
  simp only [← exists_windowFeatures_iff (m := m)]
  rw [← exists_mapM_eq_ok_iff]
  constructor
  · rintro ⟨features, h⟩
    obtain ⟨raw, hraw, h⟩ := bind_eq_ok.mp h
    obtain ⟨_, hvalue, h⟩ := bind_eq_ok.mp h
    obtain ⟨_, hdiff, h⟩ := bind_eq_ok.mp h
    obtain ⟨_, hrate, h⟩ := bind_eq_ok.mp h
    obtain ⟨windows, hwindows, -⟩ := bind_eq_ok.mp h
    exact ⟨⟨raw, mapError_eq_ok.mp hraw, checkFinite_eq_ok_iff.mp hvalue,
      checkFinite_eq_ok_iff.mp hdiff, checkFinite_eq_ok_iff.mp hrate⟩, windows, hwindows⟩
  -- the checks are passed in the order in which they are made
  · rintro ⟨⟨raw, hraw, hvalue, hdiff, hrate⟩, windows, hwindows⟩
    refine exists_bind_eq_ok.mpr ⟨raw, mapError_eq_ok.mpr hraw, ?_⟩
    refine exists_bind_eq_ok.mpr ⟨(), checkFinite_eq_ok_iff.mpr hvalue, ?_⟩
    refine exists_bind_eq_ok.mpr ⟨(), checkFinite_eq_ok_iff.mpr hdiff, ?_⟩
    refine exists_bind_eq_ok.mpr ⟨(), checkFinite_eq_ok_iff.mpr hrate, ?_⟩
    exact exists_bind_eq_ok.mpr ⟨windows, hwindows, _, rfl⟩

/-- The values of the ratios are finite already. -/
theorem isfinite_of_safeDivide {numerator denominator minAbsDenominator value : F}
    {name : FeatureMeasurement} {result : SafeDivisionResult F}
    (h : safeDivide numerator denominator minAbsDenominator name = .ok result)
    (hvalue : result.value = .ok value) : PyFloat.isfinite value = true := by
  rw [safeDivide] at h
  split_ifs at h
  · cases h
    exact nomatch hvalue
  · obtain ⟨quotient, -, h⟩ := bind_eq_ok.mp h
    split_ifs at h with hfinite
    · cases h
      cases hvalue
      exact hfinite
    · cases h
      exact nomatch hvalue

/-- A ratio with a value is finite: `_safe_division` has checked it. -/
theorem isfinite_of_computeCrossSignalFeatures {values : FeatureMeasurement → F}
    {ratios : List (CrossSignalFeature × SafeDivisionResult F)}
    (h : computeCrossSignalFeatures values = .ok ratios) :
    ∀ ratio ∈ ratios, ∀ value, ratio.2.value = .ok value → PyFloat.isfinite value = true := by
  obtain ⟨voltagePerCurrent, hvoltage, h⟩ := bind_eq_ok.mp h
  obtain ⟨powerPerFuelFlow, hpower, h⟩ := bind_eq_ok.mp h
  cases h
  simp only [List.forall_mem_cons]
  exact ⟨fun value => isfinite_of_safeDivide hvoltage, fun value => isfinite_of_safeDivide hpower,
    fun ratio hratio => absurd hratio List.not_mem_nil⟩

/-- The loop over the ratios raises nothing on finite values. -/
theorem exists_recordCrossSignal {ratios : List (CrossSignalFeature × SafeDivisionResult F)}
    (h : ∀ ratio ∈ ratios, ∀ value, ratio.2.value = .ok value → PyFloat.isfinite value = true)
    (row : FeatureRowResult F) : ∃ recorded, recordCrossSignal row ratios = .ok recorded := by
  induction ratios generalizing row with
  | nil => exact ⟨row, rfl⟩
  | cons ratio rest ih =>
      obtain ⟨feature, result⟩ := ratio
      obtain ⟨hfirst, hrest⟩ := List.forall_mem_cons.mp h
      rw [recordCrossSignal]
      cases hvalue : result.value with
      | ok value =>
          obtain ⟨recorded, hrecorded⟩ :=
            ih hrest { row with values := row.values ++ [(.crossSignal feature, value)] }
          exact ⟨recorded, bind_eq_ok.mpr
            ⟨(), checkFinite_eq_ok_iff.mpr (hfirst value hvalue), hrecorded⟩⟩
      | error reason => exact ih hrest _

/-- The rows that are computed. -/
theorem exists_computeRow_iff {currentValues previousValues : FeatureMeasurement → F}
    {series : FeatureMeasurement → Series F} {index : ℕ} :
    (∃ row, computeRow currentValues previousValues series index = .ok row) ↔
      ComputableRow currentValues previousValues series index := by
  -- the loop over the measurements, and the check of the residuals
  have hmeasurements : (∃ features, (defaultMeasurements.mapM fun m =>
        measurementFeatures (currentValues m) (previousValues m) (series m) index m) =
          .ok features) ↔
      ∀ m, ComputableRaw (currentValues m) (previousValues m) ∧
        ∀ seconds ∈ windowSeconds, ComputableWindow (series m) index seconds := by
    rw [exists_mapM_eq_ok_iff]
    simp only [mem_defaultMeasurements, true_implies, exists_measurementFeatures_iff]
  have hresiduals : ∀ residuals : List (FeatureColumn × F),
      (residuals.forM fun entry => checkFinite entry.1 entry.2) = .ok ⟨⟩ ↔
        ∀ residual ∈ residuals, PyFloat.isfinite residual.2 = true := by
    intro residuals
    simp only [forM_eq_ok_iff, checkFinite_eq_ok_iff]
  -- the parts of the row are computed one after the other, each raises on its own
  constructor
  · rintro ⟨row, h⟩
    obtain ⟨features, hfeatures, h⟩ := bind_eq_ok.mp h
    obtain ⟨ratios, hratios, h⟩ := bind_eq_ok.mp h
    obtain ⟨recorded, -, h⟩ := bind_eq_ok.mp h
    obtain ⟨residuals, hcompute, h⟩ := bind_eq_ok.mp h
    obtain ⟨⟨⟩, hfinite, -⟩ := bind_eq_ok.mp h
    have hall := hmeasurements.mp ⟨features, hfeatures⟩
    exact ⟨fun m => (hall m).1, fun m => (hall m).2, ⟨ratios, mapError_eq_ok.mp hratios⟩,
      residuals, mapError_eq_ok.mp hcompute, (hresiduals residuals).mp hfinite⟩
  · rintro ⟨hraw, hwindows, ⟨ratios, hratios⟩, residuals, hcompute, hfinite⟩
    obtain ⟨features, hfeatures⟩ := hmeasurements.mpr fun m => ⟨hraw m, hwindows m⟩
    obtain ⟨recorded, hrecorded⟩ :=
      exists_recordCrossSignal (isfinite_of_computeCrossSignalFeatures hratios)
        ⟨features.flatten, .fresh⟩
    refine exists_bind_eq_ok.mpr ⟨features, hfeatures, ?_⟩
    refine exists_bind_eq_ok.mpr ⟨ratios, mapError_eq_ok.mpr hratios, ?_⟩
    refine exists_bind_eq_ok.mpr ⟨recorded, hrecorded, ?_⟩
    refine exists_bind_eq_ok.mpr ⟨residuals, mapError_eq_ok.mpr hcompute, ?_⟩
    exact exists_bind_eq_ok.mpr ⟨⟨⟩, (hresiduals residuals).mpr hfinite, _, rfl⟩

end Features

end Odis.Features
