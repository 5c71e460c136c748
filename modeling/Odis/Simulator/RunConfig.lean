import Odis.Python.Datetime
import Odis.Simulator.Plant

/-!
# Simulation runs and their ground truth

`RunConfig` (`dataset/run_config.py`), the endpoints of a fault's ramp
(`dataset/scenario_mapping.py`), its effect on the fleet (`dataset/fault_effect.py`) and the labels
(`dataset/ground_truth.py`). A `RunConfig` is one that its constructor accepts.
-/

namespace Odis.Simulator

open Arithmetic

variable {N : Type}

/-! ## Configurations -/

/-- `DatasetScenario`. -/
inductive DatasetScenario where
  | normalOperation
  | coolingDegradation
  | hydrogenSupplyIssue
  | sensorAnomaly
  deriving DecidableEq, Repr

/-- The value of a scenario. -/
def DatasetScenario.value : DatasetScenario → String
  | normalOperation => "normal_operation"
  | coolingDegradation => "cooling_degradation"
  | hydrogenSupplyIssue => "hydrogen_supply_issue"
  | sensorAnomaly => "sensor_anomaly"

/-- `OperatingConditions`, without the noise of the sensors. -/
structure OperatingConditions (N : Type) where
  loadBaselinePercent : N
  loadAmplitudePercent : N
  loadPeriodSeconds : N
  loadPhaseRadians : N
  loadOffsetPercent : N
  stackTemperatureOffsetCelsius : N

/-- The fields of a `RunConfig`. -/
structure RunConfigFields (N : Type) where
  simulationRunId : String
  scenarioName : DatasetScenario
  targetAssetId : String
  durationSimSeconds : N
  dtSeconds : N
  runStartTime : Datetime
  faultStartSimSeconds : Option N
  faultDurationSimSeconds : Option N
  faultSeverity : N
  operatingConditions : OperatingConditions N

/-- `ValueError` of `RunConfig.__post_init__`. -/
inductive RunConfigError where
  | emptyRunId
  | emptyTargetAssetId
  | durationNotPositive
  | stepNotPositive
  | severityOutOfRange
  | unexpectedFaultWindow (scenario : DatasetScenario)
  | unexpectedSeverity (scenario : DatasetScenario)
  | zeroSeverity (scenario : DatasetScenario)
  | missingFaultStart
  | missingFaultDuration
  | negativeFaultStart
  | faultDurationNotPositive
  | rampBeyondRun
  deriving DecidableEq, Repr

/-- The message of the exception. -/
def RunConfigError.message : RunConfigError → String
  | emptyRunId => "simulation_run_id must not be empty"
  | emptyTargetAssetId => "target_asset_id must not be empty"
  | durationNotPositive => "duration_sim_seconds must be positive"
  | stepNotPositive => "dt_seconds must be positive"
  | severityOutOfRange => "fault_severity must be within [0.0, 1.0]"
  | unexpectedFaultWindow scenario => scenario.value ++ " does not support a fault window"
  | unexpectedSeverity scenario => scenario.value ++ " must use fault_severity=0.0"
  | zeroSeverity scenario => scenario.value ++
      " requires fault_severity > 0.0; a zero-severity fault run would be healthy-equivalent " ++
      "while still carrying a positive fault label"
  | missingFaultStart => "fault_start_sim_seconds is required for a fault run"
  | missingFaultDuration => "fault_duration_sim_seconds is required for a fault run"
  | negativeFaultStart => "fault_start_sim_seconds must be non-negative"
  | faultDurationNotPositive => "fault_duration_sim_seconds must be positive"
  | rampBeyondRun =>
      "fault ramp extends beyond duration_sim_seconds; the ramp must complete within " ++
      "the run (no clipping policy is implemented) — the fault itself remains active from " ++
      "fault_start_sim_seconds through the end of the run"

variable [Arithmetic N]

namespace RunConfigFields

/-- `_validate_no_fault_window`. -/
def validateNoFaultWindow (config : RunConfigFields N) : Except RunConfigError Unit :=
  if config.faultStartSimSeconds.isSome ∨ config.faultDurationSimSeconds.isSome then
    .error (.unexpectedFaultWindow config.scenarioName)
  else if config.faultSeverity ≠ literal 0.0 then .error (.unexpectedSeverity config.scenarioName)
  else .ok ()

/-- `_validate_fault_window`. -/
def validateFaultWindow (config : RunConfigFields N) : Except RunConfigError Unit :=
  if config.faultSeverity ≤ literal 0.0 then .error (.zeroSeverity config.scenarioName)
  else
    match config.faultStartSimSeconds, config.faultDurationSimSeconds with
    | none, _ => .error .missingFaultStart
    | some _, none => .error .missingFaultDuration
    | some faultStart, some faultDuration =>
        if faultStart < literal 0 then .error .negativeFaultStart
        else if faultDuration ≤ literal 0 then .error .faultDurationNotPositive
        else if config.durationSimSeconds < faultStart + faultDuration then .error .rampBeyondRun
        else .ok ()

/-- `__post_init__`. -/
def validate (config : RunConfigFields N) : Except RunConfigError Unit :=
  if config.simulationRunId = "" then .error .emptyRunId
  else if config.targetAssetId = "" then .error .emptyTargetAssetId
  else if config.durationSimSeconds ≤ literal 0 then .error .durationNotPositive
  else if config.dtSeconds ≤ literal 0 then .error .stepNotPositive
  else if ¬ (literal 0.0 ≤ config.faultSeverity ∧ config.faultSeverity ≤ literal 1.0) then
    .error .severityOutOfRange
  else if config.scenarioName = .normalOperation then config.validateNoFaultWindow
  else config.validateFaultWindow

end RunConfigFields

/-- `RunConfig`: the fields of a run that have passed the checks of the constructor. -/
structure RunConfig (N : Type) [Arithmetic N] extends RunConfigFields N where
  valid : toRunConfigFields.validate = .ok ()

namespace RunConfig

variable (config : RunConfig N)

/-- Every run has an id. -/
theorem runId_ne_empty : config.simulationRunId ≠ "" := by
  intro h
  have hvalid := config.valid
  rw [RunConfigFields.validate, if_pos h] at hvalid
  cases hvalid

/-- What the constructor checks of every run. -/
theorem common : literal 0 < config.dtSeconds ∧ literal 0.0 ≤ config.faultSeverity ∧
    config.faultSeverity ≤ literal 1.0 := by
  have hvalid := config.valid
  rw [RunConfigFields.validate] at hvalid
  split_ifs at hvalid with _ _ _ hdt hseverity
  · exact ⟨lt_of_not_ge hdt, hseverity⟩
  · exact ⟨lt_of_not_ge hdt, hseverity⟩

/-- The step of the run. -/
def step : TimeStep N := ⟨config.dtSeconds, config.common.1⟩

/-- A run has a fault window exactly if its scenario is a fault. -/
theorem window : (config.scenarioName = .normalOperation ∧ config.faultStartSimSeconds = none ∧
      config.faultDurationSimSeconds = none) ∨
    (config.scenarioName ≠ .normalOperation ∧ ∃ faultStart faultDuration,
      config.faultStartSimSeconds = some faultStart ∧
        config.faultDurationSimSeconds = some faultDuration ∧ literal 0 < faultDuration) := by
  have hvalid := config.valid
  rw [RunConfigFields.validate] at hvalid
  split_ifs at hvalid with _ _ _ _ _ hnormal
  · rw [RunConfigFields.validateNoFaultWindow] at hvalid
    split_ifs at hvalid with hwindow
    rw [not_or, Option.not_isSome_iff_eq_none, Option.not_isSome_iff_eq_none] at hwindow
    exact .inl ⟨hnormal, hwindow⟩
  · rw [RunConfigFields.validateFaultWindow] at hvalid
    split_ifs at hvalid
    split at hvalid
    · cases hvalid
    · cases hvalid
    next faultStart faultDuration hstart hduration =>
      split_ifs at hvalid with _ hpositive
      exact .inr ⟨hnormal, _, _, hstart, hduration, lt_of_not_ge hpositive⟩

end RunConfig

/-! ## The effect of a fault -/

/-- `ValueError` of `fault_ramp_endpoints`. -/
structure UnsupportedScenario where
  scenario : DatasetScenario
  deriving DecidableEq, Repr

/-- The end of the ramp from a start towards the value at full severity. -/
def rampEnd (severity start maxEnd : N) : N := start - severity * (start - maxEnd)

/-- `fault_ramp_endpoints`. -/
def faultRampEndpoints (config : RunConfig N) : Except UnsupportedScenario (N × N) :=
  match config.scenarioName with
  | .coolingDegradation =>
      .ok (literal 0.85, rampEnd config.faultSeverity (literal 0.85) (literal 0.55))
  | .hydrogenSupplyIssue =>
      .ok (literal 1.0, rampEnd config.faultSeverity (literal 1.0) (literal 0.6))
  | .sensorAnomaly => .ok (literal 0.0, config.faultSeverity * literal 12.0)
  | .normalOperation => .error ⟨.normalOperation⟩

/-- The value of a ramp. -/
def rampValue (endpoints : N × N) (progress : N) : N :=
  endpoints.1 + (endpoints.2 - endpoints.1) * progress

/-- `apply_fault_effect`, on the asset that the run targets. -/
def applyFaultEffect (fleet : PlantAlphaFleet N) (config : RunConfig N) (target : PlantAsset)
    (progress : N) : Except UnsupportedScenario (PlantAlphaFleet N) := do
  let value := rampValue (← faultRampEndpoints config) progress
  let machine := fleet.machines target
  match config.scenarioName with
  | .coolingDegradation =>
      return { fleet with
        machines := Function.update fleet.machines target (machine.setCoolingEfficiency value) }
  | .hydrogenSupplyIssue =>
      return { fleet with
        machines := Function.update fleet.machines target (machine.setFuelSupplyFactor value) }
  | .sensorAnomaly =>
      let context := fleet.telemetryContexts target
      return { fleet with
        telemetryContexts := Function.update fleet.telemetryContexts target
          { context with sensorBias := context.sensorBias.set "stack_temperature" value } }
  | scenario => .error ⟨scenario⟩

/-! ## Ground truth -/

/-- `FaultType`. -/
inductive FaultType where
  | none
  | coolingDegradation
  | hydrogenSupplyIssue
  deriving DecidableEq, Repr

/-- `SensorCorruptionType`. -/
inductive SensorCorruptionType where
  | none
  | bias
  deriving DecidableEq, Repr

/-- `GroundTruthRecord`, with what its constructor checks. -/
structure GroundTruthRecord (N : Type) [Arithmetic N] where
  simulationRunId : String
  timestamp : Datetime
  elapsedSimSeconds : N
  assetId : String
  faultType : FaultType
  faultActive : Bool
  faultSeverity : N
  secondsSinceFaultStart : Option N
  sensorCorruptionType : SensorCorruptionType
  runId_ne : simulationRunId ≠ ""
  assetId_ne : assetId ≠ ""
  active_iff : faultActive = secondsSinceFaultStart.isSome
  severity_of_inactive : faultActive = false → faultSeverity = literal 0.0

/-- `_FAULT_TYPE_BY_SCENARIO`. -/
def faultTypeOf : DatasetScenario → FaultType
  | .coolingDegradation => .coolingDegradation
  | .hydrogenSupplyIssue => .hydrogenSupplyIssue
  | _ => .none

/-- `_SENSOR_CORRUPTION_BY_SCENARIO`. -/
def sensorCorruptionOf : DatasetScenario → SensorCorruptionType
  | .sensorAnomaly => .bias
  | _ => .none

/-- The seconds since the fault start and the progress of the ramp that `compute_ground_truth` reads
off an elapsed time, if it finds the fault active. -/
def activeRamp? (config : RunConfig N) (asset : PlantAsset) (elapsed : N) : Option (N × N) :=
  match config.faultStartSimSeconds, config.faultDurationSimSeconds with
  | some faultStart, some faultDuration =>
      if asset.id = config.targetAssetId ∧ faultStart ≤ elapsed then
        some (elapsed - faultStart, min (literal 1.0) ((elapsed - faultStart) / faultDuration))
      else none
  | _, _ => none

/-- The severity that is reported. -/
def reportedSeverity (config : RunConfig N) : Option (N × N) → N
  | some (_, progress) => config.faultSeverity * progress
  | none => literal 0.0

/-- `compute_ground_truth`. -/
def computeGroundTruth (config : RunConfig N) (asset : PlantAsset) (timestamp : Datetime)
    (elapsed : N) : GroundTruthRecord N where
  simulationRunId := config.simulationRunId
  timestamp
  elapsedSimSeconds := elapsed
  assetId := asset.id
  faultType :=
    if asset.id ≠ config.targetAssetId then .none else faultTypeOf config.scenarioName
  faultActive := (activeRamp? config asset elapsed).isSome
  faultSeverity := reportedSeverity config (activeRamp? config asset elapsed)
  secondsSinceFaultStart := (activeRamp? config asset elapsed).map Prod.fst
  sensorCorruptionType :=
    if asset.id ≠ config.targetAssetId then .none else sensorCorruptionOf config.scenarioName
  runId_ne := config.runId_ne_empty
  assetId_ne := asset.id_ne_empty
  active_iff := Option.isSome_map.symm
  severity_of_inactive h := by
    rw [Option.isSome_eq_false_iff, Option.isNone_iff_eq_none] at h
    rw [h, reportedSeverity]

end Odis.Simulator
