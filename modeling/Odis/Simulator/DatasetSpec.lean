import Mathlib.Data.List.Dedup
import Odis.Python.Decoding
import Odis.Simulator.RunConfig

/-!
# Dataset specifications

`DatasetSpec` and the types that it nests (`dataset/dataset_spec.py`, `dataset/fault_variation.py`,
`dataset/operating_conditions.py`): what their constructors check, and the JSON form that is written
and read by hand. A value of such a type is one that its constructor accepts (`Accepted`), so
reading one back makes every check again.
-/

namespace Odis

/-- The conversions of a `float` that a fault grid needs. -/
class FloatRounding (F : Type) where
  /-- `int(x)`. -/
  truncate : F → Except ArithmeticError ℤ
  /-- `round(x, 6)`. -/
  roundSix : F → F

namespace Simulator

open Exceptions Json PyFloat

variable {F : Type}

/-! ## Errors -/

/-- The splits. -/
inductive Split where
  | train
  | validation
  | test
  deriving DecidableEq, Repr

namespace Split

/-- `_SPLIT_NAMES`. -/
def name : Split → String
  | train => "train"
  | validation => "validation"
  | test => "test"

/-- The splits, in their order. -/
def all : List Split := [train, validation, test]

end Split

/-- What the constructors raise: `ValueError`, or what the arithmetic of a fault grid raises. -/
inductive SpecError (F : Type) where
  | negativeMinimum
  | gridStepNotPositive
  | maximumBelowMinimum
  | minimumNotPositive
  | maximumAboveOne
  | minimumAboveMaximum
  | unsupportedMeasurement (name : String)
  | negativeDeviation
  | clipNotPositive
  | emptyRegimeName
  | runCountNotPositive
  | bothFaultStarts
  | bothSeverities
  | missingFaultStart (scenario : DatasetScenario)
  | missingSeverity (scenario : DatasetScenario)
  | unexpectedFaultWindow (scenario : DatasetScenario)
  | unexpectedSeverityRange (scenario : DatasetScenario)
  | unexpectedSeverity (scenario : DatasetScenario)
  | proportionOutOfRange (split : Split)
  | proportionsSum (total : F)
  | emptyDatasetId
  | emptySimulatorVersion
  | noScenarioPlans
  | noTargetAssets
  | durationNotPositive
  | stepNotPositive
  | naiveStartTime
  | emptyOutputDirectory
  | bothNoisePolicies
  | singleRegime
  | repeatedRegime
  | repeatedScenario (duplicates : List String)
  | unsupportedScenario (scenario : DatasetScenario)
  | gridBeyondRun (scenario : DatasetScenario) (maxStart faultDuration duration : F)
  | seedCount (seeds : ℕ) (runs : ℤ)
  | arithmetic (error : ArithmeticError)

/-- A number in a message. -/
def floatText [JsonText F] (x : F) : String := (Json.float x).text

/-- A list of strings in a message. -/
def namesText (names : List String) : String :=
  "[" ++ ", ".intercalate (names.map fun name => "'" ++ name ++ "'") ++ "]"

/-- The message of the exception. -/
def SpecError.message [JsonText F] : SpecError F → String
  | negativeMinimum => "minimum_seconds must be non-negative"
  | gridStepNotPositive => "step_seconds must be positive"
  | maximumBelowMinimum => "maximum_seconds must be >= minimum_seconds"
  | minimumNotPositive => "minimum must be greater than 0.0"
  | maximumAboveOne => "maximum must be at most 1.0"
  | minimumAboveMaximum => "minimum must not exceed maximum"
  | unsupportedMeasurement name => "unsupported measurement for sensor noise: " ++
      JsonText.repr (.str name : Json F) ++ " (supported: " ++
      namesText ["current", "fuel_flow", "stack_pressure", "stack_temperature", "voltage"] ++ ")"
  | negativeDeviation => "standard_deviation must be non-negative"
  | clipNotPositive => "clip_std_multiple must be positive when set"
  | emptyRegimeName => "name must not be empty"
  | runCountNotPositive => "run_count must be positive"
  | bothFaultStarts => "cannot set both fault_start_sim_seconds and fault_start_range — one " ++
      "scenario plan must define a single fixed-or-ranged fault-timing policy"
  | bothSeverities => "cannot set both fault_severity and fault_severity_range — one scenario " ++
      "plan must define a single fixed-or-ranged severity policy"
  | missingFaultStart scenario =>
      scenario.value ++ " requires fault_start_sim_seconds or fault_start_range"
  | missingSeverity scenario =>
      scenario.value ++ " requires fault_severity or fault_severity_range"
  | unexpectedFaultWindow scenario => scenario.value ++ " does not support a fault window"
  | unexpectedSeverityRange scenario => scenario.value ++ " does not support fault_severity_range"
  | unexpectedSeverity scenario => scenario.value ++ " must use fault_severity=0.0"
  | proportionOutOfRange split => split.name ++ " proportion must be within [0.0, 1.0]"
  | proportionsSum total => "split proportions must sum to 1.0 (got " ++ floatText total ++ ")"
  | emptyDatasetId => "dataset_id must not be empty"
  | emptySimulatorVersion => "simulator_version must not be empty"
  | noScenarioPlans => "scenario_plans must not be empty"
  | noTargetAssets => "target_asset_ids must not be empty"
  | durationNotPositive => "duration_sim_seconds must be positive"
  | stepNotPositive => "dt_seconds must be positive"
  | naiveStartTime => "run_start_time must be timezone-aware"
  | emptyOutputDirectory => "output_directory must not be empty"
  | bothNoisePolicies =>
      "cannot set both sensor_noise and sensor_noise_regimes — a dataset spec " ++
      "must define a single fixed-or-regime-sampled sensor-noise policy"
  | singleRegime => "sensor_noise_regimes must include at least 2 regimes — a single regime is " ++
      "equivalent to sensor_noise and should use that field instead"
  | repeatedRegime => "sensor_noise_regimes must not repeat a name"
  | repeatedScenario duplicates => "scenario_plans must not repeat a scenario_name — one " ++
      "scenario plan should define the complete fixed-or-ranged fault policy for that class " ++
      "(duplicated: " ++ namesText duplicates ++ ")"
  | unsupportedScenario scenario =>
      "unsupported scenario for dataset generation: " ++ scenario.value
  | gridBeyondRun scenario maxStart faultDuration duration => scenario.value ++
      ": fault_start_range's maximum grid value (" ++ floatText maxStart ++ ") plus " ++
      "fault_duration_sim_seconds (" ++ floatText faultDuration ++ ") exceeds " ++
      "duration_sim_seconds (" ++ floatText duration ++ ")"
  | seedCount seeds runs => "seeds must have exactly one entry per planned run: " ++
      Nat.repr seeds ++ " seeds for " ++ intText runs ++ " planned runs"
  | arithmetic .zeroDivisionError => "float division by zero"
  | arithmetic .overflowError => "cannot convert float infinity to integer"
  | arithmetic .statisticsError => ""
  | arithmetic .valueError => "cannot convert float NaN to integer"
  | arithmetic .attributeError => ""

/-- How a reader ends without a value: an operation on the decoded JSON raises, a constructor does,
or the value that it makes is none of the declared type (an asset id that is no string is kept). -/
inductive SpecFailure (F : Type) where
  | raised (exception : PyException)
  | invalid (error : SpecError F)
  | undeclared

/-- A part of a reader that works on decoded JSON. -/
abbrev reading {α : Type} (program : Except PyException α) : Except (SpecFailure F) α :=
  program.mapError .raised

/-- Reading what is there returns it. -/
theorem reading_ok {α : Type} (a : α) :
    (reading (.ok a) : Except (SpecFailure F) α) = .ok a := rfl

/-- A call of a constructor in a reader. -/
abbrev constructing {α : Type} (check : α → Except (SpecError F) Unit) (fields : α) :
    Except (SpecFailure F) (Accepted check) :=
  (accept check fields).mapError .invalid

/-- A value that was accepted is accepted again. -/
theorem constructing_val {α : Type} {check : α → Except (SpecError F) Unit} (x : Accepted check) :
    constructing check x.val = .ok x := by
  rw [constructing, accept_val]
  rfl

section Types

variable [PyFloat F]

/-! ## Fault timing -/

/-- The fields of a `FaultTimingRange`. -/
structure FaultTimingRangeFields (F : Type) where
  minimumSeconds : F
  maximumSeconds : F
  stepSeconds : F

namespace FaultTimingRangeFields

/-- `FaultTimingRange.__post_init__`. -/
def validate (range : FaultTimingRangeFields F) : Except (SpecError F) Unit :=
  if range.minimumSeconds < literal 0.0 then .error .negativeMinimum
  else if range.stepSeconds ≤ literal 0.0 then .error .gridStepNotPositive
  else if range.maximumSeconds < range.minimumSeconds then .error .maximumBelowMinimum
  else .ok ()

/-- `grid_values`. -/
def gridValues [FloatRounding F] (range : FaultTimingRangeFields F) :
    Except ArithmeticError (List F) := do
  let span := range.maximumSeconds - range.minimumSeconds
  let stepCount ← FloatRounding.truncate (← truediv span range.stepSeconds)
  return (List.range (stepCount + 1).toNat).map fun index =>
    FloatRounding.roundSix (range.minimumSeconds + ofInt index * range.stepSeconds)

end FaultTimingRangeFields

/-- `FaultTimingRange`. -/
abbrev FaultTimingRange (F : Type) [PyFloat F] : Type :=
  Accepted (@FaultTimingRangeFields.validate F _)

namespace FaultTimingRange

variable (range : FaultTimingRange F)

/-- The entries of the JSON form. -/
def jsonFields : List (String × Json F) :=
  [("minimum_seconds", .float range.val.minimumSeconds),
    ("maximum_seconds", .float range.val.maximumSeconds),
    ("step_seconds", .float range.val.stepSeconds)]

/-- `FaultTimingRange.to_json_dict`. -/
def toJsonDict : Json F := .obj range.jsonFields

/-- `FaultTimingRange.from_json_dict`. -/
def fromJsonDict [FloatText F] (data : Json F) : Except (SpecFailure F) (FaultTimingRange F) := do
  let minimumSeconds ← reading (data.subscript "minimum_seconds" >>= readFloat)
  let maximumSeconds ← reading (data.subscript "maximum_seconds" >>= readFloat)
  let stepSeconds ← reading (data.subscript "step_seconds" >>= readFloat)
  constructing _ ⟨minimumSeconds, maximumSeconds, stepSeconds⟩

/-- A range of fault times is read back, with or without sorted keys. -/
theorem fromJsonDict_reloaded [FloatText F] (sortKeys : Bool) :
    fromJsonDict (range.toJsonDict.reloaded sortKeys) = .ok range := by
  have hnodup : (range.jsonFields.map Prod.fst).Nodup := by simp [jsonFields]
  rw [fromJsonDict, toJsonDict,
    subscript_reloaded hnodup (rfl : range.jsonFields[0]? = some (_, _)),
    subscript_reloaded hnodup (rfl : range.jsonFields[1]? = some (_, _)),
    subscript_reloaded hnodup (rfl : range.jsonFields[2]? = some (_, _)),
    reloaded_float, reloaded_float, reloaded_float]
  exact constructing_val range

end FaultTimingRange

/-! ## Fault severity -/

/-- The fields of a `FaultSeverityRange`. -/
structure FaultSeverityRangeFields (F : Type) where
  minimum : F
  maximum : F

/-- `FaultSeverityRange.__post_init__`. -/
def FaultSeverityRangeFields.validate (range : FaultSeverityRangeFields F) :
    Except (SpecError F) Unit :=
  if ¬ literal 0.0 < range.minimum then .error .minimumNotPositive
  else if literal 1.0 < range.maximum then .error .maximumAboveOne
  else if range.maximum < range.minimum then .error .minimumAboveMaximum
  else .ok ()

/-- `FaultSeverityRange`. -/
abbrev FaultSeverityRange (F : Type) [PyFloat F] : Type :=
  Accepted (@FaultSeverityRangeFields.validate F _)

namespace FaultSeverityRange

variable (range : FaultSeverityRange F)

/-- The entries of the JSON form. -/
def jsonFields : List (String × Json F) :=
  [("minimum", .float range.val.minimum), ("maximum", .float range.val.maximum)]

/-- `FaultSeverityRange.to_json_dict`. -/
def toJsonDict : Json F := .obj range.jsonFields

/-- `FaultSeverityRange.from_json_dict`. -/
def fromJsonDict [FloatText F] (data : Json F) :
    Except (SpecFailure F) (FaultSeverityRange F) := do
  let minimum ← reading (data.subscript "minimum" >>= readFloat)
  let maximum ← reading (data.subscript "maximum" >>= readFloat)
  constructing _ ⟨minimum, maximum⟩

/-- So is a range of severities. -/
theorem fromJsonDict_reloaded [FloatText F] (sortKeys : Bool) :
    fromJsonDict (range.toJsonDict.reloaded sortKeys) = .ok range := by
  have hnodup : (range.jsonFields.map Prod.fst).Nodup := by simp [jsonFields]
  rw [fromJsonDict, toJsonDict,
    subscript_reloaded hnodup (rfl : range.jsonFields[0]? = some (_, _)),
    subscript_reloaded hnodup (rfl : range.jsonFields[1]? = some (_, _)),
    reloaded_float, reloaded_float]
  exact constructing_val range

end FaultSeverityRange

/-! ## Sensor noise -/

/-- The fields of a `SensorNoiseConfig`. -/
structure SensorNoiseConfigFields (F : Type) where
  measurementName : String
  standardDeviation : F
  clipStdMultiple : Option F

/-- `_SUPPORTED_NOISE_MEASUREMENTS`. -/
def supportedNoiseMeasurements : List String :=
  ["stack_temperature", "stack_pressure", "current", "voltage", "fuel_flow"]

/-- `SensorNoiseConfig.__post_init__`. -/
def SensorNoiseConfigFields.validate (config : SensorNoiseConfigFields F) :
    Except (SpecError F) Unit :=
  if config.measurementName ∉ supportedNoiseMeasurements then
    .error (.unsupportedMeasurement config.measurementName)
  else if config.standardDeviation < literal 0.0 then .error .negativeDeviation
  else if ∃ clip ∈ config.clipStdMultiple, clip ≤ literal 0.0 then .error .clipNotPositive
  else .ok ()

/-- `SensorNoiseConfig`. -/
abbrev SensorNoiseConfig (F : Type) [PyFloat F] : Type :=
  Accepted (@SensorNoiseConfigFields.validate F _)

namespace SensorNoiseConfig

variable (config : SensorNoiseConfig F)

/-- The entries of the JSON form. -/
def jsonFields : List (String × Json F) :=
  [("measurement_name", .str config.val.measurementName),
    ("standard_deviation", .float config.val.standardDeviation),
    ("clip_std_multiple", optionalFloat config.val.clipStdMultiple)]

/-- `SensorNoiseConfig.to_json_dict`. -/
def toJsonDict : Json F := .obj config.jsonFields

/-- `SensorNoiseConfig.from_json_dict`. -/
def fromJsonDict [JsonText F] [FloatText F] (data : Json F) :
    Except (SpecFailure F) (SensorNoiseConfig F) := do
  let clip ← reading (data.get "clip_std_multiple" .null)
  let measurementName ← reading (data.subscript "measurement_name")
  let standardDeviation ← reading (data.subscript "standard_deviation" >>= readFloat)
  let clipStdMultiple ← reading clip.readOptionalFloat
  constructing _ ⟨measurementName.text, standardDeviation, clipStdMultiple⟩

/-- So is the noise of a sensor. -/
theorem fromJsonDict_reloaded [JsonText F] [FloatText F] (sortKeys : Bool) :
    fromJsonDict (config.toJsonDict.reloaded sortKeys) = .ok config := by
  have hnodup : (config.jsonFields.map Prod.fst).Nodup := by simp [jsonFields]
  rw [fromJsonDict, toJsonDict,
    get_reloaded hnodup (rfl : config.jsonFields[2]? = some (_, _)),
    subscript_reloaded hnodup (rfl : config.jsonFields[0]? = some (_, _)),
    subscript_reloaded hnodup (rfl : config.jsonFields[1]? = some (_, _)),
    reloaded_optionalFloat, reloaded_str, reloaded_float]
  simp only [reading_ok, ok_bind, readFloat, readOptionalFloat_optionalFloat]
  exact constructing_val config

end SensorNoiseConfig

/-- The fields of a `NoiseRegime`. -/
structure NoiseRegimeFields (F : Type) [PyFloat F] where
  name : String
  sensorNoise : List (SensorNoiseConfig F)

/-- `NoiseRegime.__post_init__`. -/
def NoiseRegimeFields.validate (regime : NoiseRegimeFields F) : Except (SpecError F) Unit :=
  if regime.name = "" then .error .emptyRegimeName else .ok ()

/-- `NoiseRegime`. -/
abbrev NoiseRegime (F : Type) [PyFloat F] : Type := Accepted (@NoiseRegimeFields.validate F _)

namespace NoiseRegime

variable (regime : NoiseRegime F)

/-- The entries of the JSON form. -/
def jsonFields : List (String × Json F) :=
  [("name", .str regime.val.name),
    ("sensor_noise", .arr (regime.val.sensorNoise.map SensorNoiseConfig.toJsonDict))]

/-- `NoiseRegime.to_json_dict`. -/
def toJsonDict : Json F := .obj regime.jsonFields

/-- `NoiseRegime.from_json_dict`. -/
def fromJsonDict [JsonText F] [FloatText F] (data : Json F) :
    Except (SpecFailure F) (NoiseRegime F) := do
  let name ← reading (data.subscript "name")
  let entries ← reading (data.subscript "sensor_noise")
  let sensorNoise ← reading entries.iterate >>= List.mapM SensorNoiseConfig.fromJsonDict
  constructing _ ⟨name.text, sensorNoise⟩

/-- So is a regime of noise. -/
theorem fromJsonDict_reloaded [JsonText F] [FloatText F] (sortKeys : Bool) :
    fromJsonDict (regime.toJsonDict.reloaded sortKeys) = .ok regime := by
  have hnodup : (regime.jsonFields.map Prod.fst).Nodup := by simp [jsonFields]
  rw [fromJsonDict, toJsonDict,
    subscript_reloaded hnodup (rfl : regime.jsonFields[0]? = some (_, _)),
    subscript_reloaded hnodup (rfl : regime.jsonFields[1]? = some (_, _)), reloaded_str]
  simp only [reading_ok, ok_bind, iterate_reloaded,
    mapM_reloaded fun config _ => SensorNoiseConfig.fromJsonDict_reloaded config sortKeys]
  exact constructing_val regime

end NoiseRegime

/-! ## Scenario plans -/

/-- An optional part of a JSON form. -/
def optionalJson {α : Type} (toJsonDict : α → Json F) : Option α → Json F
  | some x => toJsonDict x
  | none => .null

/-- `None if v is None else from_json_dict(v)`. -/
def readOptional {α : Type} (fromJsonDict : Json F → Except (SpecFailure F) α) :
    Json F → Except (SpecFailure F) (Option α)
  | .null => .ok none
  | v => (fromJsonDict v).map some

/-- `DatasetScenario(v)`. -/
def DatasetScenario.read (v : Json F) : Except PyException DatasetScenario :=
  match [DatasetScenario.normalOperation, .coolingDegradation, .hydrogenSupplyIssue,
      .sensorAnomaly].find? fun scenario => v.isStr scenario.value with
  | some scenario => .ok scenario
  | none => .error .valueError

omit [PyFloat F] in
/-- A scenario is read by its name. -/
theorem DatasetScenario.read_value (scenario : DatasetScenario) :
    DatasetScenario.read (.str scenario.value : Json F) = .ok scenario := by
  cases scenario <;> rfl

omit [PyFloat F] in
/-- A value that may be missing is read back, if it never looks like a missing one. -/
theorem readOptional_reloaded {α : Type} {toJsonDict : α → Json F}
    {fromJsonDict : Json F → Except (SpecFailure F) α} {sortKeys : Bool}
    (hread : ∀ x, fromJsonDict ((toJsonDict x).reloaded sortKeys) = .ok x)
    (hne : ∀ x, (toJsonDict x).reloaded sortKeys ≠ .null) (x : Option α) :
    readOptional fromJsonDict ((optionalJson toJsonDict x).reloaded sortKeys) = .ok x := by
  cases x with
  | none => rw [optionalJson, reloaded_null, readOptional]
  | some x =>
      rw [optionalJson, readOptional, hread]
      · rfl
      · exact hne x

omit [PyFloat F] in
/-- An object is not null. -/
theorem reloaded_obj_ne_null {fields : List (String × Json F)} {sortKeys : Bool} :
    (Json.obj fields).reloaded sortKeys ≠ .null := by
  cases sortKeys <;> exact fun h => by cases h

/-- `_SUPPORTED_FAULT_SCENARIOS`. -/
def supportedFaultScenarios : List DatasetScenario :=
  [.coolingDegradation, .hydrogenSupplyIssue, .sensorAnomaly]

/-- The fields of a `ScenarioRunSpec`. -/
structure ScenarioRunSpecFields (F : Type) [PyFloat F] where
  scenarioName : DatasetScenario
  runCount : ℤ
  faultStartSimSeconds : Option F
  faultStartRange : Option (FaultTimingRange F)
  faultDurationSimSeconds : Option F
  faultSeverity : Option F
  faultSeverityRange : Option (FaultSeverityRange F)

namespace ScenarioRunSpecFields

variable (plan : ScenarioRunSpecFields F)

/-- The checks of a fault scenario. -/
def validateFault : Except (SpecError F) Unit :=
  if ¬ plan.faultStartSimSeconds.isSome ∧ ¬ plan.faultStartRange.isSome then
    .error (.missingFaultStart plan.scenarioName)
  else if ¬ plan.faultSeverity.isSome ∧ ¬ plan.faultSeverityRange.isSome then
    .error (.missingSeverity plan.scenarioName)
  else .ok ()

/-- The checks of a healthy scenario. -/
def validateHealthy : Except (SpecError F) Unit :=
  if plan.faultStartSimSeconds.isSome ∨ plan.faultStartRange.isSome then
    .error (.unexpectedFaultWindow plan.scenarioName)
  else if plan.faultSeverityRange.isSome then
    .error (.unexpectedSeverityRange plan.scenarioName)
  else if plan.faultSeverity.any fun severity => !(severity == literal 0.0) then
    .error (.unexpectedSeverity plan.scenarioName)
  else if plan.faultDurationSimSeconds.isSome then
    .error (.unexpectedFaultWindow plan.scenarioName)
  else .ok ()

/-- `ScenarioRunSpec.__post_init__`. -/
def validate : Except (SpecError F) Unit :=
  if plan.runCount ≤ 0 then .error .runCountNotPositive
  else if plan.faultStartSimSeconds.isSome ∧ plan.faultStartRange.isSome then
    .error .bothFaultStarts
  else if plan.faultSeverity.isSome ∧ plan.faultSeverityRange.isSome then .error .bothSeverities
  else if plan.scenarioName ∈ supportedFaultScenarios then plan.validateFault
  else plan.validateHealthy

end ScenarioRunSpecFields

/-- `ScenarioRunSpec`. -/
abbrev ScenarioRunSpec (F : Type) [PyFloat F] : Type :=
  Accepted (@ScenarioRunSpecFields.validate F _)

namespace ScenarioRunSpec

variable (plan : ScenarioRunSpec F)

/-- The entries of the JSON form. -/
def jsonFields : List (String × Json F) :=
  [("scenario_name", .str plan.val.scenarioName.value),
    ("run_count", .int plan.val.runCount),
    ("fault_start_sim_seconds", optionalFloat plan.val.faultStartSimSeconds),
    ("fault_start_range", optionalJson FaultTimingRange.toJsonDict plan.val.faultStartRange),
    ("fault_duration_sim_seconds", optionalFloat plan.val.faultDurationSimSeconds),
    ("fault_severity", optionalFloat plan.val.faultSeverity),
    ("fault_severity_range",
      optionalJson FaultSeverityRange.toJsonDict plan.val.faultSeverityRange)]

/-- `ScenarioRunSpec.to_json_dict`. -/
def toJsonDict : Json F := .obj plan.jsonFields

/-- `ScenarioRunSpec.from_json_dict`. -/
def fromJsonDict [JsonText F] [FloatText F] (data : Json F) :
    Except (SpecFailure F) (ScenarioRunSpec F) := do
  let faultStartRange ← reading (data.get "fault_start_range" .null)
  let faultSeverityRange ← reading (data.get "fault_severity_range" .null)
  let scenarioName ← reading (data.subscript "scenario_name" >>= DatasetScenario.read)
  let runCount ← reading (data.subscript "run_count" >>= JsonText.toInt)
  let faultStartSimSeconds ←
    reading (data.get "fault_start_sim_seconds" .null >>= readOptionalFloat)
  let faultStartRange ← readOptional FaultTimingRange.fromJsonDict faultStartRange
  let faultDurationSimSeconds ←
    reading (data.get "fault_duration_sim_seconds" .null >>= readOptionalFloat)
  let faultSeverity ← reading (data.get "fault_severity" .null >>= readOptionalFloat)
  let faultSeverityRange ← readOptional FaultSeverityRange.fromJsonDict faultSeverityRange
  constructing _ ⟨scenarioName, runCount, faultStartSimSeconds, faultStartRange,
    faultDurationSimSeconds, faultSeverity, faultSeverityRange⟩

/-- So is the plan of a scenario. -/
theorem fromJsonDict_reloaded [JsonText F] [FloatText F] (sortKeys : Bool) :
    fromJsonDict (plan.toJsonDict.reloaded sortKeys) = .ok plan := by
  have hnodup : (plan.jsonFields.map Prod.fst).Nodup := by simp [jsonFields]
  rw [fromJsonDict, toJsonDict,
    get_reloaded hnodup (rfl : plan.jsonFields[3]? = some (_, _)),
    get_reloaded hnodup (rfl : plan.jsonFields[6]? = some (_, _)),
    subscript_reloaded hnodup (rfl : plan.jsonFields[0]? = some (_, _)),
    subscript_reloaded hnodup (rfl : plan.jsonFields[1]? = some (_, _)),
    get_reloaded hnodup (rfl : plan.jsonFields[2]? = some (_, _)),
    get_reloaded hnodup (rfl : plan.jsonFields[4]? = some (_, _)),
    get_reloaded hnodup (rfl : plan.jsonFields[5]? = some (_, _))]
  -- the ranges are read back as ranges, if they are there
  have hstart := readOptional_reloaded
    (fun range => FaultTimingRange.fromJsonDict_reloaded range sortKeys)
    (fun _ => reloaded_obj_ne_null) plan.val.faultStartRange
  have hseverity := readOptional_reloaded
    (fun range => FaultSeverityRange.fromJsonDict_reloaded range sortKeys)
    (fun _ => reloaded_obj_ne_null) plan.val.faultSeverityRange
  simp only [reading_ok, ok_bind, reloaded_str, reloaded_int, reloaded_optionalFloat,
    DatasetScenario.read_value, JsonText.toInt_int, readOptionalFloat_optionalFloat, hstart,
    hseverity]
  exact constructing_val plan

end ScenarioRunSpec

/-! ## Split proportions -/

/-- The fields of `SplitProportions`. -/
structure SplitProportionsFields (F : Type) where
  train : F
  validation : F
  test : F

namespace SplitProportionsFields

variable (proportions : SplitProportionsFields F)

/-- The proportion of a split. -/
def of (proportions : SplitProportionsFields F) : Split → F
  | .train => proportions.train
  | .validation => proportions.validation
  | .test => proportions.test

/-- `SplitProportions.__post_init__`. -/
def validate (proportions : SplitProportionsFields F) : Except (SpecError F) Unit :=
  match Split.all.find? fun split =>
      ¬ (literal 0.0 ≤ proportions.of split ∧ proportions.of split ≤ literal 1.0) with
  | some split => .error (.proportionOutOfRange split)
  | none =>
      let total := proportions.train + proportions.validation + proportions.test
      if literal (1 / 1000000) < PyFloat.abs (total - literal 1.0) then
        .error (.proportionsSum total)
      else .ok ()

end SplitProportionsFields

/-- `SplitProportions`. -/
abbrev SplitProportions (F : Type) [PyFloat F] : Type :=
  Accepted (@SplitProportionsFields.validate F _)

namespace SplitProportions

variable (proportions : SplitProportions F)

/-- No proportion is negative. -/
theorem nonneg (split : Split) : literal 0.0 ≤ proportions.val.of split := by
  have hvalid := proportions.valid
  rw [SplitProportionsFields.validate] at hvalid
  split at hvalid
  · cases hvalid
  next hnone =>
    have hrange := List.find?_eq_none.mp hnone split (by cases split <;> decide)
    simp only [decide_eq_true_eq, not_not] at hrange
    exact hrange.1

/-- The entries of the JSON form. -/
def jsonFields : List (String × Json F) :=
  [("train", .float proportions.val.train), ("validation", .float proportions.val.validation),
    ("test", .float proportions.val.test)]

/-- `SplitProportions.to_json_dict`. -/
def toJsonDict : Json F := .obj proportions.jsonFields

/-- `SplitProportions.from_json_dict`. -/
def fromJsonDict [FloatText F] (data : Json F) : Except (SpecFailure F) (SplitProportions F) := do
  let train ← reading (data.subscript "train" >>= readFloat)
  let validation ← reading (data.subscript "validation" >>= readFloat)
  let test ← reading (data.subscript "test" >>= readFloat)
  constructing _ ⟨train, validation, test⟩

/-- So are the proportions of the splits. -/
theorem fromJsonDict_reloaded [FloatText F] (sortKeys : Bool) :
    fromJsonDict (proportions.toJsonDict.reloaded sortKeys) = .ok proportions := by
  have hnodup : (proportions.jsonFields.map Prod.fst).Nodup := by simp [jsonFields]
  rw [fromJsonDict, toJsonDict,
    subscript_reloaded hnodup (rfl : proportions.jsonFields[0]? = some (_, _)),
    subscript_reloaded hnodup (rfl : proportions.jsonFields[1]? = some (_, _)),
    subscript_reloaded hnodup (rfl : proportions.jsonFields[2]? = some (_, _)),
    reloaded_float, reloaded_float, reloaded_float]
  exact constructing_val proportions

end SplitProportions

/-! ## Operating conditions -/

/-- `OperatingConditionRanges`, whose constructor checks nothing. -/
@[ext]
structure OperatingConditionRanges (F : Type) where
  loadBaselinePercent : F × F
  loadAmplitudePercent : F × F
  loadPeriodSeconds : F × F
  loadPhaseRadians : F × F
  initialLoadOffsetPercent : F × F
  initialStackTemperatureOffsetCelsius : F × F

/-- `list(pair)`. -/
def pairJson (pair : F × F) : Json F := .arr ([pair.1, pair.2].map .float)

/-- `_pair`. -/
def readPair [FloatText F] (data : Json F) (name : String) : Except PyException (F × F) := do
  let (low, high) ← data.subscript name >>= unpackPair
  return (← low.readFloat, ← high.readFloat)

namespace OperatingConditionRanges

variable (ranges : OperatingConditionRanges F)

/-- The entries of the JSON form. -/
def jsonFields : List (String × Json F) :=
  [("load_baseline_percent", pairJson ranges.loadBaselinePercent),
    ("load_amplitude_percent", pairJson ranges.loadAmplitudePercent),
    ("load_period_seconds", pairJson ranges.loadPeriodSeconds),
    ("load_phase_radians", pairJson ranges.loadPhaseRadians),
    ("initial_load_offset_percent", pairJson ranges.initialLoadOffsetPercent),
    ("initial_stack_temperature_offset_celsius",
      pairJson ranges.initialStackTemperatureOffsetCelsius)]

/-- `_ranges_to_json_dict`. -/
def toJsonDict : Json F := .obj ranges.jsonFields

/-- `_ranges_from_json_dict`. -/
def fromJsonDict [FloatText F] (data : Json F) :
    Except PyException (OperatingConditionRanges F) := do
  return {
    loadBaselinePercent := ← readPair data "load_baseline_percent"
    loadAmplitudePercent := ← readPair data "load_amplitude_percent"
    loadPeriodSeconds := ← readPair data "load_period_seconds"
    loadPhaseRadians := ← readPair data "load_phase_radians"
    initialLoadOffsetPercent := ← readPair data "initial_load_offset_percent"
    initialStackTemperatureOffsetCelsius :=
      ← readPair data "initial_stack_temperature_offset_celsius" }

/-- So are the ranges of the operating conditions. -/
theorem fromJsonDict_reloaded [FloatText F] (sortKeys : Bool) :
    fromJsonDict (ranges.toJsonDict.reloaded sortKeys) = .ok ranges := by
  have hnodup : (ranges.jsonFields.map Prod.fst).Nodup := by simp [jsonFields]
  have hpair {i : ℕ} {name : String} {pair : F × F}
      (h : ranges.jsonFields[i]? = some (name, pairJson pair)) :
      readPair (ranges.toJsonDict.reloaded sortKeys) name = .ok pair := by
    rw [readPair, toJsonDict, subscript_reloaded hnodup h, ok_bind, pairJson, unpackPair,
      iterate_reloaded]
    simp only [ok_bind, List.map_cons, List.map_nil, reloaded_float]
    rfl
  rw [fromJsonDict, hpair (i := 0) rfl, hpair (i := 1) rfl, hpair (i := 2) rfl, hpair (i := 3) rfl,
    hpair (i := 4) rfl, hpair (i := 5) rfl]
  rfl

end OperatingConditionRanges

/-! ## Datasets -/

/-- `SCHEMA_VERSION`. -/
def schemaVersion : String := "1.0"

/-- The fields of a `DatasetSpec`. -/
structure DatasetSpecFields (F : Type) [PyFloat F] where
  datasetId : String
  schemaVersion : String
  simulatorVersion : String
  scenarioPlans : List (ScenarioRunSpec F)
  seeds : List ℤ
  targetAssetIds : List String
  durationSimSeconds : F
  dtSeconds : F
  runStartTime : { t : Datetime.IsoDatetime // t.InRange }
  operatingConditionRanges : OperatingConditionRanges F
  sensorNoise : List (SensorNoiseConfig F)
  sensorNoiseRegimes : List (NoiseRegime F)
  splitProportions : SplitProportions F
  outputDirectory : String

namespace DatasetSpecFields

variable (spec : DatasetSpecFields F)

/-- `total_run_count`. -/
def totalRunCount : ℤ := (spec.scenarioPlans.map fun plan => plan.val.runCount).sum

/-- The checks of the noise policy. -/
def validateNoise : Except (SpecError F) Unit :=
  if spec.sensorNoise ≠ [] ∧ spec.sensorNoiseRegimes ≠ [] then .error .bothNoisePolicies
  else if spec.sensorNoiseRegimes ≠ [] then
    if spec.sensorNoiseRegimes.length < 2 then .error .singleRegime
    else if ¬ (spec.sensorNoiseRegimes.map fun regime => regime.val.name).Nodup then
      .error .repeatedRegime
    else .ok ()
  else .ok ()

/-- The check that no scenario is repeated. -/
def validateScenarios : Except (SpecError F) Unit :=
  let scenarioNames := spec.scenarioPlans.map fun plan => plan.val.scenarioName
  if scenarioNames.Nodup then .ok ()
  else
    let duplicates := scenarioNames.dedup.filter fun name => 1 < scenarioNames.count name
    .error (.repeatedScenario ((duplicates.map DatasetScenario.value).mergeSort (· ≤ ·)))

/-- The checks of one plan. -/
def validatePlan [FloatRounding F] (plan : ScenarioRunSpec F) : Except (SpecError F) Unit :=
  let scenario := plan.val.scenarioName
  if scenario ≠ .normalOperation ∧ scenario ∉ supportedFaultScenarios then
    .error (.unsupportedScenario scenario)
  else
    match plan.val.faultStartRange, plan.val.faultDurationSimSeconds with
    | some range, some faultDuration => do
        match ← range.val.gridValues.mapError .arithmetic with
        | [] => throw (.arithmetic .valueError)
        | value :: values =>
            let maxStart := maximum value values
            if spec.durationSimSeconds < maxStart + faultDuration then
              throw (.gridBeyondRun scenario maxStart faultDuration spec.durationSimSeconds)
    | _, _ => .ok ()

/-- The check that every run has a seed. -/
def validateSeeds : Except (SpecError F) Unit :=
  if (spec.seeds.length : ℤ) = spec.totalRunCount then .ok ()
  else .error (.seedCount spec.seeds.length spec.totalRunCount)

/-- `DatasetSpec.__post_init__`. -/
def validate [FloatRounding F] : Except (SpecError F) Unit :=
  if spec.datasetId = "" then .error .emptyDatasetId
  else if spec.simulatorVersion = "" then .error .emptySimulatorVersion
  else if spec.scenarioPlans = [] then .error .noScenarioPlans
  else if spec.targetAssetIds = [] then .error .noTargetAssets
  else if spec.durationSimSeconds ≤ ofInt 0 then .error .durationNotPositive
  else if spec.dtSeconds ≤ ofInt 0 then .error .stepNotPositive
  else if ¬ spec.runStartTime.val.utcOffset.isSome then .error .naiveStartTime
  else if spec.outputDirectory = "" then .error .emptyOutputDirectory
  else do
    spec.validateNoise
    spec.validateScenarios
    spec.scenarioPlans.forM spec.validatePlan
    spec.validateSeeds

end DatasetSpecFields

/-- `DatasetSpec`. -/
abbrev DatasetSpec (F : Type) [PyFloat F] [FloatRounding F] : Type :=
  Accepted fun fields : DatasetSpecFields F => fields.validate

/-- An asset id, which the reader takes as it is. -/
def readAssetId : Json F → Except (SpecFailure F) String
  | .str assetId => .ok assetId
  | _ => .error .undeclared

namespace DatasetSpec

variable [FloatRounding F] (spec : DatasetSpec F)

/-- The start of the runs is aware. -/
theorem aware_runStartTime : spec.val.runStartTime.val.utcOffset.isSome := by
  have hvalid := spec.valid
  rw [DatasetSpecFields.validate] at hvalid
  split_ifs at hvalid with _ _ _ _ _ _ haware
  exact haware

/-- No scenario has two plans. -/
theorem nodup_scenarios :
    (spec.val.scenarioPlans.map fun plan => plan.val.scenarioName).Nodup := by
  have hvalid := spec.valid
  rw [DatasetSpecFields.validate] at hvalid
  split_ifs at hvalid
  obtain ⟨_, -, hrest⟩ := bind_eq_ok.mp hvalid
  obtain ⟨_, hscenarios, -⟩ := bind_eq_ok.mp hrest
  by_contra hnodup
  rw [DatasetSpecFields.validateScenarios, if_neg hnodup] at hscenarios
  cases hscenarios

/-- Every plan passes its checks. -/
theorem validatePlan_of_mem {plan : ScenarioRunSpec F} (hplan : plan ∈ spec.val.scenarioPlans) :
    spec.val.validatePlan plan = .ok () := by
  have hvalid := spec.valid
  rw [DatasetSpecFields.validate] at hvalid
  split_ifs at hvalid
  obtain ⟨_, -, hrest⟩ := bind_eq_ok.mp hvalid
  obtain ⟨_, -, hrest⟩ := bind_eq_ok.mp hrest
  obtain ⟨_, hplans, -⟩ := bind_eq_ok.mp hrest
  exact forM_eq_ok_iff.mp hplans plan hplan

/-- The entries of the JSON form. -/
def jsonFields : List (String × Json F) :=
  [("dataset_id", .str spec.val.datasetId),
    ("schema_version", .str spec.val.schemaVersion),
    ("simulator_version", .str spec.val.simulatorVersion),
    ("scenario_plans", .arr (spec.val.scenarioPlans.map ScenarioRunSpec.toJsonDict)),
    ("seeds", .arr (spec.val.seeds.map .int)),
    ("target_asset_ids", .arr (spec.val.targetAssetIds.map .str)),
    ("duration_sim_seconds", .float spec.val.durationSimSeconds),
    ("dt_seconds", .float spec.val.dtSeconds),
    ("run_start_time", .str spec.val.runStartTime.val.aware.isoformat),
    ("operating_condition_ranges", spec.val.operatingConditionRanges.toJsonDict),
    ("sensor_noise", .arr (spec.val.sensorNoise.map SensorNoiseConfig.toJsonDict)),
    ("sensor_noise_regimes", .arr (spec.val.sensorNoiseRegimes.map NoiseRegime.toJsonDict)),
    ("split_proportions", spec.val.splitProportions.toJsonDict),
    ("output_directory", .str spec.val.outputDirectory)]

/-- `DatasetSpec.to_json_dict`. -/
def toJsonDict : Json F := .obj spec.jsonFields

/-- `DatasetSpec.from_json_dict`. -/
def fromJsonDict [JsonText F] [FloatText F] (data : Json F) :
    Except (SpecFailure F) (DatasetSpec F) := do
  let entries ← reading (data.subscript "scenario_plans" >>= iterate)
  let scenarioPlans ← entries.mapM ScenarioRunSpec.fromJsonDict
  let entries ← reading (data.get "sensor_noise" (.arr []) >>= iterate)
  let sensorNoise ← entries.mapM SensorNoiseConfig.fromJsonDict
  let entries ← reading (data.get "sensor_noise_regimes" (.arr []) >>= iterate)
  let sensorNoiseRegimes ← entries.mapM NoiseRegime.fromJsonDict
  let datasetId ← reading (data.subscript "dataset_id")
  let schemaVersion ← reading (data.get "schema_version" (.str schemaVersion))
  let simulatorVersion ← reading (data.subscript "simulator_version")
  let seeds ← reading (data.subscript "seeds" >>= iterate >>= List.mapM JsonText.toInt)
  let targetAssetIds ← reading (data.subscript "target_asset_ids" >>= iterate)
  let targetAssetIds ← targetAssetIds.mapM readAssetId
  let durationSimSeconds ← reading (data.subscript "duration_sim_seconds" >>= readFloat)
  let dtSeconds ← reading (data.subscript "dt_seconds" >>= readFloat)
  let runStartTime ← reading (data.subscript "run_start_time" >>= readDatetime)
  let operatingConditionRanges ← reading
    (data.subscript "operating_condition_ranges" >>= OperatingConditionRanges.fromJsonDict)
  let proportions ← reading (data.subscript "split_proportions")
  let splitProportions ← SplitProportions.fromJsonDict proportions
  let outputDirectory ← reading (data.subscript "output_directory")
  constructing _
    { datasetId := datasetId.text
      schemaVersion := schemaVersion.text
      simulatorVersion := simulatorVersion.text
      outputDirectory := outputDirectory.text
      scenarioPlans, sensorNoise, sensorNoiseRegimes, seeds, targetAssetIds, durationSimSeconds,
      dtSeconds, runStartTime, operatingConditionRanges, splitProportions }

/-- What is written is read back. -/
theorem fromJsonDict_reloaded [JsonText F] [FloatText F] (sortKeys : Bool) :
    fromJsonDict (spec.toJsonDict.reloaded sortKeys) = .ok spec := by
  have hnodup : (spec.jsonFields.map Prod.fst).Nodup := by simp [jsonFields]
  rw [fromJsonDict, toJsonDict,
    subscript_reloaded hnodup (rfl : spec.jsonFields[3]? = some (_, _)),
    get_reloaded hnodup (rfl : spec.jsonFields[10]? = some (_, _)),
    get_reloaded hnodup (rfl : spec.jsonFields[11]? = some (_, _)),
    subscript_reloaded hnodup (rfl : spec.jsonFields[0]? = some (_, _)),
    get_reloaded hnodup (rfl : spec.jsonFields[1]? = some (_, _)),
    subscript_reloaded hnodup (rfl : spec.jsonFields[2]? = some (_, _)),
    subscript_reloaded hnodup (rfl : spec.jsonFields[4]? = some (_, _)),
    subscript_reloaded hnodup (rfl : spec.jsonFields[5]? = some (_, _)),
    subscript_reloaded hnodup (rfl : spec.jsonFields[6]? = some (_, _)),
    subscript_reloaded hnodup (rfl : spec.jsonFields[7]? = some (_, _)),
    subscript_reloaded hnodup (rfl : spec.jsonFields[8]? = some (_, _)),
    subscript_reloaded hnodup (rfl : spec.jsonFields[9]? = some (_, _)),
    subscript_reloaded hnodup (rfl : spec.jsonFields[12]? = some (_, _)),
    subscript_reloaded hnodup (rfl : spec.jsonFields[13]? = some (_, _))]
  -- the lists of scalars are read item by item
  have hseeds : (spec.val.seeds.map fun seed => (Json.int seed : Json F)).mapM JsonText.toInt =
      .ok spec.val.seeds := by
    rw [mapM_eq_ok_iff, List.forall₂_map_left_iff, List.forall₂_same]
    exact fun seed _ => JsonText.toInt_int seed
  have hassets : (spec.val.targetAssetIds.map fun assetId => (Json.str assetId : Json F)).mapM
      readAssetId = .ok spec.val.targetAssetIds := by
    rw [mapM_eq_ok_iff, List.forall₂_map_left_iff, List.forall₂_same]
    exact fun _ _ => rfl
  simp only [reading_ok, ok_bind, iterate_reloaded, reloaded_str, reloaded_int, reloaded_float,
    readFloat, hseeds, hassets,
    mapM_reloaded fun plan _ => ScenarioRunSpec.fromJsonDict_reloaded plan sortKeys,
    mapM_reloaded fun config _ => SensorNoiseConfig.fromJsonDict_reloaded config sortKeys,
    mapM_reloaded fun regime _ => NoiseRegime.fromJsonDict_reloaded regime sortKeys,
    readDatetime_isoformat spec.aware_runStartTime,
    OperatingConditionRanges.fromJsonDict_reloaded, SplitProportions.fromJsonDict_reloaded]
  exact constructing_val spec

end DatasetSpec

end Types

/-! ## A specification -/

section Example

/-- The rationals round exactly. -/
instance : FloatRounding ℚ where
  truncate x := .ok (x.num.tdiv x.den)
  roundSix x := roundHalfEven (x * 1000000) / 1000000

/-- Cooling degradations that start between two and four minutes into a run. -/
def coolingPlan : ScenarioRunSpec ℚ where
  val :=
    { scenarioName := .coolingDegradation
      runCount := 2
      faultStartSimSeconds := none
      faultStartRange := some ⟨⟨120, 240, 60⟩, eq_ok_of_toBool (by decide +kernel)⟩
      faultDurationSimSeconds := some 300
      faultSeverity := none
      faultSeverityRange := some ⟨⟨1 / 4, 1⟩, eq_ok_of_toBool (by decide +kernel)⟩ }
  valid := eq_ok_of_toBool (by decide +kernel)

/-- Two regimes, the second one with a noisy thermometer. -/
def noiseRegimes : List (NoiseRegime ℚ) :=
  [⟨⟨"nominal", []⟩, eq_ok_of_toBool (by decide +kernel)⟩,
    ⟨⟨"noisy", [⟨⟨"stack_temperature", 1 / 2, some 3⟩, eq_ok_of_toBool (by decide +kernel)⟩]⟩,
      eq_ok_of_toBool (by decide +kernel)⟩]

/-- A dataset of these plans. -/
def coolingDataset : DatasetSpecFields ℚ where
  datasetId := "cooling"
  schemaVersion := schemaVersion
  simulatorVersion := "1"
  scenarioPlans := [coolingPlan]
  seeds := [7, 8]
  targetAssetIds := ["FC-001", "FC-002"]
  durationSimSeconds := 600
  dtSeconds := 1
  runStartTime :=
    ⟨⟨0, some 0⟩, by decide, by decide, fun _ h => by rw [← Option.some.inj h]; decide⟩
  operatingConditionRanges := ⟨(50, 70), (5, 18), (180, 420), (0, 6), (-5, 5), (-3, 3)⟩
  sensorNoise := []
  sensorNoiseRegimes := noiseRegimes
  splitProportions := ⟨⟨1 / 2, 1 / 4, 1 / 4⟩, eq_ok_of_toBool (by decide +kernel)⟩
  outputDirectory := "out"

example : coolingDataset.validate.toBool = true := by decide +kernel

end Example

end Simulator

end Odis
