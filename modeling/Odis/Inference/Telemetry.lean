import Odis.Features.Config
import Odis.Python.Datetime

/-!
# Telemetry samples

The telemetry of one asset at one instant (`inference/telemetry.py`). A `TelemetrySample` can only
be built from observations that pass `from_observations`: it carries its seven required
values and, when given, the efficiency, each of them finite. Its units are the canonical ones, so
they are not stored.
-/

namespace Odis.Inference

open Features

/-- The canonical measurements, `SUPPORTED_MEASUREMENTS`: the required ones and the efficiency. -/
inductive Measurement where
  | required (m : FeatureMeasurement)
  | efficiency
  deriving DecidableEq, Repr

namespace Measurement

/-- The name of a measurement. -/
def name : Measurement → String
  | required m => m.name
  | efficiency => "efficiency"

/-- `CANONICAL_UNITS`. -/
def canonicalUnit : Measurement → String
  | required .stackTemperature => "celsius"
  | required .stackPressure => "kPa"
  | required .current => "A"
  | required .voltage => "V"
  | required .fuelFlow => "SLPM"
  | required .powerOutput => "kW"
  | required .coolantFlow => "L/min"
  | efficiency => "percent"

/-- `_MEASUREMENT_ORDER`: the required measurements, then the efficiency. -/
def order : List Measurement := defaultMeasurements.map required ++ [efficiency]

/-- The supported measurement with a given name. -/
def ofName? (s : String) : Option Measurement := order.find? fun m => m.name = s

/-- A measurement is found by its name. -/
@[simp]
theorem ofName?_name (m : Measurement) : ofName? m.name = some m := by
  cases m with
  | required m => cases m <;> decide
  | efficiency => decide

/-- No canonical unit is empty. -/
theorem canonicalUnit_ne_empty (m : Measurement) : m.canonicalUnit ≠ "" := by
  cases m with
  | required m => cases m <;> decide
  | efficiency => decide

end Measurement

/-- A `float` for which `math.isfinite` holds. -/
abbrev FiniteValue (F : Type) [PyFloat F] : Type := { x : F // PyFloat.isfinite x = true }

variable {F : Type}

/-- An observation. The fields that must not be empty are so by construction. -/
structure Observation (F : Type) where
  id : String
  assetId : String
  timestamp : Datetime
  measurementType : String
  value : F
  unit : String
  id_ne : id ≠ ""
  assetId_ne : assetId ≠ ""
  unit_ne : unit ≠ ""

/-- `ValueError` of `Observation.__post_init__`, for the first field that is empty. -/
inductive EmptyField where
  | id
  | assetId
  | unit
  deriving DecidableEq, Repr

/-- The message of the exception. -/
def EmptyField.message : EmptyField → String
  | id => "id must not be empty"
  | assetId => "asset_id must not be empty"
  | unit => "unit must not be empty"

/-- The constructor of an observation, with its checks. -/
def Observation.create (id assetId : String) (timestamp : Datetime) (measurementType : String)
    (value : F) (unit : String) : Except EmptyField (Observation F) :=
  if hid : id = "" then .error .id
  else if hasset : assetId = "" then .error .assetId
  else if hunit : unit = "" then .error .unit
  else .ok ⟨id, assetId, timestamp, measurementType, value, unit, hid, hasset, hunit⟩

theorem stack1_ne_empty : ("stack-1" : String) ≠ "" := by decide

theorem unit_ne_empty : ("unit" : String) ≠ "" := by decide

variable [PyFloat F]

/-- One asset's complete telemetry at one timestamp. -/
structure TelemetrySample (F : Type) [PyFloat F] where
  assetId : String
  timestamp : Datetime
  values : FeatureMeasurement → FiniteValue F
  efficiency : Option (FiniteValue F)
  assetId_ne : assetId ≠ ""

/-- The exceptions of `from_observations`. -/
inductive SampleError (F : Type) where
  | noObservations
  | inconsistentAssets
  | inconsistentTimestamps
  | unsupportedMeasurement (name : String)
  | duplicateMeasurement (m : Measurement)
  | unitMismatch (m : Measurement) (actual : String)
  | nonFiniteValue (m : Measurement) (value : F)
  | missingMeasurement (missing : List FeatureMeasurement)

/-- The values collected so far, by measurement. -/
abbrev CollectedValues (F : Type) [PyFloat F] : Type := Measurement → Option (FiniteValue F)

/-- One round of the loop of `from_observations`. -/
def collect (values : CollectedValues F) (observation : Observation F) :
    Except (SampleError F) (CollectedValues F) :=
  match Measurement.ofName? observation.measurementType with
  | none => .error (.unsupportedMeasurement observation.measurementType)
  | some m =>
      if (values m).isSome then .error (.duplicateMeasurement m)
      else if observation.unit ≠ m.canonicalUnit then .error (.unitMismatch m observation.unit)
      else if hfinite : PyFloat.isfinite observation.value = true then
        .ok fun m' => if m' = m then some ⟨observation.value, hfinite⟩ else values m'
      else .error (.nonFiniteValue m observation.value)

/-- `REQUIRED_MEASUREMENTS` that have no value. -/
def missingMeasurements (values : CollectedValues F) : List FeatureMeasurement :=
  defaultMeasurements.filter fun m => (values (.required m)).isNone

/-- With nothing missing, every required measurement has a value. -/
theorem isSome_of_missingMeasurements_eq_nil {values : CollectedValues F}
    (h : missingMeasurements values = []) (m : FeatureMeasurement) :
    (values (.required m)).isSome = true := by
  have hm := List.filter_eq_nil_iff.mp h m (mem_defaultMeasurements m)
  exact Option.isSome_iff_ne_none.mpr (by simpa using hm)

/-- `TelemetrySample.from_observations`. -/
def TelemetrySample.fromObservations (observations : List (Observation F)) :
    Except (SampleError F) (TelemetrySample F) :=
  match observations with
  | [] => .error .noObservations
  | first :: _ =>
      if observations.any fun o => o.assetId ≠ first.assetId then .error .inconsistentAssets
      else if observations.any fun o => o.timestamp.instant ≠ first.timestamp.instant then
        .error .inconsistentTimestamps
      else do
        let values ← observations.foldlM collect fun _ => none
        if hmissing : missingMeasurements values = [] then
          return {
            assetId := first.assetId
            timestamp := first.timestamp
            values := fun m =>
              (values (.required m)).get (isSome_of_missingMeasurements_eq_nil hmissing m)
            efficiency := values .efficiency
            assetId_ne := first.assetId_ne }
        else .error (.missingMeasurement (missingMeasurements values))

end Odis.Inference
