import Odis.Features.Windows
import Odis.Features.Safety
import Odis.Library.Exceptions

/-!
# One feature row

`compute_feature_row` (`features/row.py`, with `raw_features.py` and `residuals.py`): every feature
of one row, from the current and previous values of the measurements and the series the windows
are cut from. The batch builder and the runtime session both call it.

A row depends on the series only through its windows (`computeFeatureRow_congr`), and on its
row key only in the exception it raises.
-/

namespace Odis.Features

variable {F : Type}

/-- What identifies a row in the message of an exception: the run, the asset, the elapsed time. -/
structure RowKey (F : Type) where
  runId : String
  assetId : String
  elapsed : F

/-- Why a row cannot be computed. -/
inductive FeatureFault (F : Type) where
  | nonFiniteFeature (column : FeatureColumn) (value : F)
  | incompleteWindow (error : IncompleteWindow)
  | arithmetic (error : ArithmeticError)

/-- The exception a fault is raised as. `NonFiniteFeatureError` names its row. -/
inductive FeatureError (F : Type) where
  | nonFiniteFeatureError (column : FeatureColumn) (value : F) (key : RowKey F)
  | incompleteWindow (error : IncompleteWindow)
  | arithmetic (error : ArithmeticError)

/-- The exception a fault is raised as in the row `key`. -/
def FeatureFault.raisedAt (key : RowKey F) : FeatureFault F → FeatureError F
  | .nonFiniteFeature column value => .nonFiniteFeatureError column value key
  | .incompleteWindow error => .incompleteWindow error
  | .arithmetic error => .arithmetic error

/-- `FeatureRowResult`. -/
structure FeatureRowResult (F : Type) where
  /-- The computed features, by column. -/
  values : List (FeatureColumn × F)
  validity : FeatureRowValidity F

/-- `result.values[column]`. -/
def FeatureRowResult.get? (result : FeatureRowResult F) (column : FeatureColumn) : Option F :=
  (result.values.find? fun entry => entry.1 = column).map Prod.snd

variable [PyFloat F]

/-- `RawSampleFeatures`. -/
structure RawSampleFeatures (F : Type) where
  value : F
  diff : F
  rateOfChangePerSecond : F

/-- `compute_raw_features`. -/
def computeRawFeatures (currentValue previousValue : F) :
    Except ArithmeticError (RawSampleFeatures F) := do
  let diff := currentValue - previousValue
  let rateOfChangePerSecond ← PyFloat.truediv diff (dtSeconds F)
  return { value := currentValue, diff, rateOfChangePerSecond }

/-! The reference curves of `residuals.py`, over the current. -/

/-- `current / _RATED_MAX_CURRENT_REF`. -/
def loadFraction (current : F) : Except ArithmeticError F :=
  PyFloat.truediv current (PyFloat.literal 200.0)

/-- `_expected_healthy_voltage`. -/
def expectedHealthyVoltage (current : F) : Except ArithmeticError F := do
  return PyFloat.literal 0.78 - (← loadFraction current) * PyFloat.literal 0.06

/-- `_expected_healthy_fuel_flow`. -/
def expectedHealthyFuelFlow (current : F) : Except ArithmeticError F := do
  return PyFloat.literal 1.5 + (← loadFraction current) * PyFloat.literal 1.0

/-- `_expected_healthy_stack_temperature`. -/
def expectedHealthyStackTemperature (current : F) : Except ArithmeticError F := do
  return PyFloat.literal 55.0 + (← loadFraction current) * PyFloat.literal 20.0 -
    PyFloat.literal 0.5

/-- `_expected_healthy_coolant_flow`. -/
def expectedHealthyCoolantFlow (current : F) : Except ArithmeticError F := do
  return PyFloat.literal 8.0 + (← loadFraction current) * PyFloat.literal 18.0

/-- `ResidualSpec`: the measurement observed, and its reference curve. -/
structure ResidualSpec (F : Type) where
  observedMeasurement : FeatureMeasurement
  referenceFn : F → Except ArithmeticError F

/-- `RESIDUAL_SPECS`. -/
def residualSpecs : List (ResidualSpec F) :=
  [⟨.voltage, expectedHealthyVoltage⟩, ⟨.fuelFlow, expectedHealthyFuelFlow⟩,
    ⟨.stackTemperature, expectedHealthyStackTemperature⟩,
    ⟨.coolantFlow, expectedHealthyCoolantFlow⟩]

/-- `compute_residuals`. -/
def computeResiduals (current : F) (observed : FeatureMeasurement → F) :
    Except ArithmeticError (List (FeatureColumn × F)) :=
  residualSpecs.mapM fun spec => do
    let reference ← spec.referenceFn current
    return (.healthyResidual spec.observedMeasurement,
      observed spec.observedMeasurement - reference)

/-- `_check_finite`. -/
def checkFinite (column : FeatureColumn) (value : F) : Except (FeatureFault F) Unit :=
  if PyFloat.isfinite value then .ok () else .error (.nonFiniteFeature column value)

/-- The statistics of one window of a measurement, each checked. -/
def windowFeatures (window : Except IncompleteWindow (Series F)) (m : FeatureMeasurement)
    (seconds : ℕ) : Except (FeatureFault F) (List (FeatureColumn × F)) := do
  let window ← window.mapError .incompleteWindow
  let stats ← (computeWindowStats window).mapError .arithmetic
  windowStats.mapM fun stat => do
    checkFinite (.window m seconds stat) (stats.get stat)
    return (.window m seconds stat, stats.get stat)

/-- The features of one measurement: raw, then window by window. -/
def measurementFeatures (currentValue previousValue : F) (series : Series F) (index : ℕ)
    (m : FeatureMeasurement) : Except (FeatureFault F) (List (FeatureColumn × F)) := do
  let raw ← (computeRawFeatures currentValue previousValue).mapError .arithmetic
  checkFinite (.value m) raw.value
  checkFinite (.diff m) raw.diff
  checkFinite (.rateOfChange m) raw.rateOfChangePerSecond
  let windows ← windowSeconds.mapM fun seconds =>
    windowFeatures (trailingWindow series index (windowSamples seconds)) m seconds
  return [(.value m, raw.value), (.diff m, raw.diff),
    (.rateOfChange m, raw.rateOfChangePerSecond)] ++ windows.flatten

/-- The loop over the cross-signal features: a value is checked and kept, a rejection recorded. -/
def recordCrossSignal (row : FeatureRowResult F) :
    List (CrossSignalFeature × SafeDivisionResult F) → Except (FeatureFault F) (FeatureRowResult F)
  | [] => .ok row
  | (feature, result) :: rest =>
      match result.value with
      | .ok value => do
          checkFinite (.crossSignal feature) value
          recordCrossSignal { row with values := row.values ++ [(.crossSignal feature, value)] }
            rest
      | .error _ =>
          recordCrossSignal
            { row with validity := row.validity.recordDivision (.crossSignal feature) result } rest

/-- The body of `compute_feature_row`. -/
def computeRow (currentValues previousValues : FeatureMeasurement → F)
    (seriesByMeasurement : FeatureMeasurement → Series F) (index : ℕ) :
    Except (FeatureFault F) (FeatureRowResult F) := do
  let features ← defaultMeasurements.mapM fun m =>
    measurementFeatures (currentValues m) (previousValues m) (seriesByMeasurement m) index m
  let crossSignal ← (computeCrossSignalFeatures currentValues).mapError .arithmetic
  let row ← recordCrossSignal ⟨features.flatten, .fresh⟩ crossSignal
  let residuals ←
    (computeResiduals (currentValues .current) currentValues).mapError .arithmetic
  residuals.forM fun entry => checkFinite entry.1 entry.2
  return { row with values := row.values ++ residuals }

/-- The values of the measurements at one position of their series. A position outside one of
them is an `IndexError`. -/
def valuesAt (series : FeatureMeasurement → Series F) (index : ℕ) :
    Option (FeatureMeasurement → F) :=
  if h : ∀ m ∈ defaultMeasurements, index < (series m).length then
    some fun m => ((series m).get ⟨index, h m (mem_defaultMeasurements m)⟩).2
  else none

/-- `compute_feature_row`. -/
def computeFeatureRow (currentValues previousValues : FeatureMeasurement → F)
    (seriesByMeasurement : FeatureMeasurement → Series F) (index : ℕ) (rowKey : RowKey F) :
    Except (FeatureError F) (FeatureRowResult F) :=
  (computeRow currentValues previousValues seriesByMeasurement index).mapError (·.raisedAt rowKey)

/-- A row reads the series through its windows only. -/
theorem computeRow_congr {currentValues previousValues : FeatureMeasurement → F}
    {series series' : FeatureMeasurement → Series F} {index index' : ℕ}
    (h : ∀ m, ∀ seconds ∈ windowSeconds,
      trailingWindow (series m) index (windowSamples seconds) =
        trailingWindow (series' m) index' (windowSamples seconds)) :
    computeRow currentValues previousValues series index =
      computeRow currentValues previousValues series' index' := by
  have hmeasurement : ∀ m, measurementFeatures (currentValues m) (previousValues m) (series m)
      index m = measurementFeatures (currentValues m) (previousValues m) (series' m) index' m := by
    intro m
    have hwindows : (windowSeconds.mapM fun seconds =>
          windowFeatures (trailingWindow (series m) index (windowSamples seconds)) m seconds) =
        windowSeconds.mapM fun seconds =>
          windowFeatures (trailingWindow (series' m) index' (windowSamples seconds)) m seconds :=
      Exceptions.mapM_congr fun seconds hseconds => by rw [h m seconds hseconds]
    rw [measurementFeatures, measurementFeatures, hwindows]
  rw [computeRow, computeRow, Exceptions.mapM_congr fun m _ => hmeasurement m]

/-! ## The columns of a row -/

section Columns

open Exceptions

/-- The columns of a window are those of its statistics. -/
theorem columns_windowFeatures {window : Except IncompleteWindow (Series F)}
    {m : FeatureMeasurement} {seconds : ℕ} {features : List (FeatureColumn × F)}
    (h : windowFeatures window m seconds = .ok features) :
    features.map Prod.fst = windowStats.map (.window m seconds) := by
  obtain ⟨series, _, h⟩ := bind_eq_ok.mp h
  obtain ⟨stats, _, h⟩ := bind_eq_ok.mp h
  refine map_eq_of_mapM (fun stat feature hfeature => ?_) h
  obtain ⟨_, _, hfeature⟩ := bind_eq_ok.mp hfeature
  cases hfeature
  rfl

/-- The columns of a measurement, raw and of its windows. -/
theorem columns_measurementFeatures {currentValue previousValue : F} {series : Series F}
    {index : ℕ} {m : FeatureMeasurement} {features : List (FeatureColumn × F)}
    (h : measurementFeatures currentValue previousValue series index m = .ok features) :
    features.map Prod.fst = measurementColumns m := by
  obtain ⟨raw, _, h⟩ := bind_eq_ok.mp h
  obtain ⟨_, _, h⟩ := bind_eq_ok.mp h
  obtain ⟨_, _, h⟩ := bind_eq_ok.mp h
  obtain ⟨_, _, h⟩ := bind_eq_ok.mp h
  obtain ⟨windows, hwindows, h⟩ := bind_eq_ok.mp h
  have hcolumns : windows.map (fun features => features.map Prod.fst) =
      windowSeconds.map fun seconds => windowStats.map (.window m seconds) :=
    map_eq_of_mapM (fun seconds features => columns_windowFeatures) hwindows
  cases h
  rw [List.map_append, List.map_flatten, hcolumns, measurementColumns, List.flatMap]
  rfl

/-- The loop over the cross-signal features keeps every value while nothing is rejected. -/
theorem columns_recordCrossSignal {row row' : FeatureRowResult F}
    {crossSignal : List (CrossSignalFeature × SafeDivisionResult F)}
    (h : recordCrossSignal row crossSignal = .ok row') (hvalid : row'.validity.status = .valid) :
    row.validity.status = .valid ∧ row'.values.map Prod.fst =
      row.values.map Prod.fst ++ crossSignal.map fun entry => .crossSignal entry.1 := by
  induction crossSignal generalizing row with
  | nil =>
      cases h
      exact ⟨hvalid, by simp⟩
  | cons entry rest ih =>
      obtain ⟨feature, result⟩ := entry
      rw [recordCrossSignal] at h
      cases hresult : result.value with
      | ok value =>
          rw [hresult] at h
          obtain ⟨_, _, h⟩ := bind_eq_ok.mp h
          obtain ⟨hstatus, hcolumns⟩ := ih h
          exact ⟨hstatus, by simp [hcolumns]⟩
      -- a rejected feature marks the row as invalid for good
      | error reason =>
          rw [hresult] at h
          have hstatus := (ih h).1
          simp [FeatureRowValidity.recordDivision, FeatureRowValidity.status, hresult] at hstatus

/-- A valid row has every feature column, in order. -/
theorem columns_computeRow {currentValues previousValues : FeatureMeasurement → F}
    {seriesByMeasurement : FeatureMeasurement → Series F} {index : ℕ} {row : FeatureRowResult F}
    (h : computeRow currentValues previousValues seriesByMeasurement index = .ok row)
    (hvalid : row.validity.status = .valid) :
    row.values.map Prod.fst = featureColumnOrder := by
  obtain ⟨features, hfeatures, h⟩ := bind_eq_ok.mp h
  obtain ⟨crossSignal, hcross, h⟩ := bind_eq_ok.mp h
  obtain ⟨recorded, hrecorded, h⟩ := bind_eq_ok.mp h
  obtain ⟨residuals, hresiduals, h⟩ := bind_eq_ok.mp h
  obtain ⟨_, _, h⟩ := bind_eq_ok.mp h
  cases h
  -- the columns of the three parts that a row is put together of
  have hmeasurements : features.map (fun features => features.map Prod.fst) =
      defaultMeasurements.map measurementColumns :=
    map_eq_of_mapM (fun m features => columns_measurementFeatures) hfeatures
  have hratios : crossSignal.map (fun entry => FeatureColumn.crossSignal entry.1) =
      [.crossSignal .voltagePerCurrent, .crossSignal .powerPerFuelFlow] := by
    obtain ⟨_, _, hcross⟩ := bind_eq_ok.mp (mapError_eq_ok.mp hcross)
    obtain ⟨_, _, hcross⟩ := bind_eq_ok.mp hcross
    cases hcross
    rfl
  have hresidual : residuals.map Prod.fst =
      residualSpecs.map fun spec : ResidualSpec F =>
        FeatureColumn.healthyResidual spec.observedMeasurement := by
    refine map_eq_of_mapM (fun spec feature hfeature => ?_) (mapError_eq_ok.mp hresiduals)
    obtain ⟨_, _, hfeature⟩ := bind_eq_ok.mp hfeature
    cases hfeature
    rfl
  have hcolumns := (columns_recordCrossSignal hrecorded hvalid).2
  rw [List.map_append, hcolumns, hratios, hresidual, List.map_flatten, hmeasurements]
  rfl

omit [PyFloat F] in
/-- In a valid row every feature column can be read. -/
theorem FeatureRowResult.exists_get? {row : FeatureRowResult F}
    (hcolumns : row.values.map Prod.fst = featureColumnOrder) {column : FeatureColumn}
    (hcolumn : column ∈ featureColumnOrder) : ∃ value, row.get? column = some value := by
  rw [← hcolumns] at hcolumn
  obtain ⟨entry, hentry, rfl⟩ := List.mem_map.mp hcolumn
  rw [FeatureRowResult.get?]
  cases hfind : row.values.find? (fun e => decide (e.1 = entry.1)) with
  | none =>
      have hnot := List.find?_eq_none.mp hfind entry hentry
      simp at hnot
  | some found => exact ⟨found.2, rfl⟩

end Columns

end Odis.Features
