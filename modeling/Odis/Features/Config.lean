import Odis.Python.Float

/-!
# Feature columns

The fixed policy of the feature pipeline (`features/config.py`, `features/schema.py`): the seven
measurements a feature is computed from, the trailing windows, and the feature columns, in the
order of the model matrix.
-/

namespace Odis.Features

/-- The measurements features are computed from, `DEFAULT_MEASUREMENTS`. -/
inductive FeatureMeasurement where
  | stackTemperature
  | stackPressure
  | current
  | voltage
  | fuelFlow
  | powerOutput
  | coolantFlow
  deriving DecidableEq, Repr

/-- The name of a measurement. -/
def FeatureMeasurement.name : FeatureMeasurement → String
  | stackTemperature => "stack_temperature"
  | stackPressure => "stack_pressure"
  | current => "current"
  | voltage => "voltage"
  | fuelFlow => "fuel_flow"
  | powerOutput => "power_output"
  | coolantFlow => "coolant_flow"

/-- `DEFAULT_MEASUREMENTS`, in the order of the feature columns. -/
def defaultMeasurements : List FeatureMeasurement :=
  [.stackTemperature, .stackPressure, .current, .voltage, .fuelFlow, .powerOutput, .coolantFlow]

/-- Every measurement is among the configured ones. -/
@[simp]
theorem mem_defaultMeasurements (m : FeatureMeasurement) : m ∈ defaultMeasurements := by
  cases m <;> decide

/-- `FEATURE_SCHEMA_VERSION`. -/
def featureSchemaVersion : String := "1.0"

/-- `DT_SECONDS`, the cadence of the samples. -/
def dtSeconds (F : Type) [PyFloat F] : F := PyFloat.literal 10.0

/-- `WINDOW_SECONDS`, the lengths of the trailing windows. -/
def windowSeconds : List ℕ := [30, 60, 120]

/-- `int(window_seconds / DT_SECONDS)`: the samples of a window, one every 10 seconds. -/
def windowSamples (seconds : ℕ) : ℕ := seconds / 10

/-- `LONGEST_WINDOW_SAMPLES`. -/
def longestWindowSamples : ℕ := 12

/-- No window is longer than the longest. -/
theorem windowSamples_le {seconds : ℕ} (h : seconds ∈ windowSeconds) :
    windowSamples seconds ≤ longestWindowSamples := by
  revert seconds
  decide

/-- `WINDOW_STATS`, the statistics of a window. -/
inductive WindowStat where
  | mean
  | std
  | min
  | max
  | slope
  | delta
  deriving DecidableEq, Repr

/-- The name of a statistic. -/
def WindowStat.name : WindowStat → String
  | mean => "mean"
  | std => "std"
  | min => "min"
  | max => "max"
  | slope => "slope"
  | delta => "delta"

/-- `CROSS_SIGNAL_FEATURES`. -/
inductive CrossSignalFeature where
  | voltagePerCurrent
  | powerPerFuelFlow
  deriving DecidableEq, Repr

/-- The name of a cross-signal feature. -/
def CrossSignalFeature.name : CrossSignalFeature → String
  | voltagePerCurrent => "voltage_per_current"
  | powerPerFuelFlow => "power_per_fuel_flow"

/-- A column of the feature matrix. -/
inductive FeatureColumn where
  | value (m : FeatureMeasurement)
  | diff (m : FeatureMeasurement)
  | rateOfChange (m : FeatureMeasurement)
  | window (m : FeatureMeasurement) (seconds : ℕ) (stat : WindowStat)
  | crossSignal (feature : CrossSignalFeature)
  | healthyResidual (m : FeatureMeasurement)
  deriving DecidableEq, Repr

/-- The name of a column. -/
def FeatureColumn.name : FeatureColumn → String
  | value m => m.name
  | diff m => m.name ++ "__diff_10s"
  | rateOfChange m => m.name ++ "__roc_per_s"
  | window m seconds stat => m.name ++ "__" ++ stat.name ++ "_" ++ toString seconds ++ "s"
  | crossSignal feature => feature.name
  | healthyResidual m => m.name ++ "__healthy_residual"

/-- `WINDOW_STATS`, in the order of the feature columns. -/
def windowStats : List WindowStat := [.mean, .std, .min, .max, .slope, .delta]

/-- The columns of one measurement. -/
def measurementColumns (m : FeatureMeasurement) : List FeatureColumn :=
  [.value m, .diff m, .rateOfChange m] ++
    windowSeconds.flatMap fun seconds => windowStats.map (.window m seconds)

/-- `feature_column_order()`. -/
def featureColumnOrder : List FeatureColumn :=
  defaultMeasurements.flatMap measurementColumns ++
    [.crossSignal .voltagePerCurrent, .crossSignal .powerPerFuelFlow] ++
    [.healthyResidual .voltage, .healthyResidual .fuelFlow, .healthyResidual .stackTemperature,
      .healthyResidual .coolantFlow]

end Odis.Features
