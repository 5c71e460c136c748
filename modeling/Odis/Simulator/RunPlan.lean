import Odis.Library.Separator
import Odis.Python.Statistics
import Odis.Simulator.DatasetSpec

/-!
# Run plans

`plan_runs` (`dataset/run_plan.py`) turns a specification into its runs: every run has an id, a seed
and a target asset by its place in the plan, and `resolve_run_config` (`dataset/run_template.py`)
draws what the specification leaves open from generators that are seeded with it.

* `planRuns_reloaded`: a specification that is written and read back is the same, and so are its
  runs.
* `nodup_planRuns`: no two runs of a plan have the same id.
-/

namespace Odis.Simulator

open Exceptions PyFloat

variable {F : Type}

/-! ## Random numbers -/

/-- `random.Random`: how a generator is seeded, and what it draws. -/
structure RandomSource (F : Type) where
  State : Type
  /-- `random.Random(seed)`. -/
  seeded : String → State
  /-- `rng.random()`. -/
  random : State → F × State
  /-- The index that `rng.choice` takes of so many items and one more. -/
  choiceIndex : (n : ℕ) → State → Fin (n + 1) × State

/-- What planning raises: `ValueError` of a constructor, what the arithmetic of a fault grid raises,
or `IndexError`. -/
inductive PlanError (F : Type) where
  | loadOffset
  | stackTemperatureOffset
  | negativeAmplitude
  | periodNotPositive
  | loadMargin (floor ceiling : F)
  | runConfig (error : RunConfigError)
  | arithmetic (error : ArithmeticError)
  | emptyChoice
  | missingSeed

/-- The message of the exception. -/
def PlanError.message [JsonText F] : PlanError F → String
  | loadOffset => "load_offset_percent must be within ±10.0"
  | stackTemperatureOffset => "stack_temperature_offset_celsius must be within ±10.0"
  | negativeAmplitude => "load_amplitude_percent must be non-negative"
  | periodNotPositive => "load_period_seconds must be positive"
  | loadMargin floor ceiling => "load_baseline_percent +/- load_amplitude_percent must stay " ++
      "within [5.0, 95.0] (got [" ++ floatText floor ++ ", " ++ floatText ceiling ++ "])"
  | runConfig error => error.message
  | arithmetic .zeroDivisionError => "float division by zero"
  | arithmetic .overflowError => "cannot convert float infinity to integer"
  | arithmetic .statisticsError => ""
  | arithmetic .valueError => "cannot convert float NaN to integer"
  | arithmetic .attributeError => ""
  | emptyChoice => "Cannot choose from an empty sequence"
  | missingSeed => "tuple index out of range"

/-- A program that draws from a generator. -/
abbrev Draw (random : RandomSource F) (α : Type) : Type :=
  StateT random.State (Except (PlanError F)) α

/-- A program with a generator of its own. -/
def withGenerator {α : Type} (random : RandomSource F) (seed : ℤ) (stream : String)
    (program : Draw random α) : Except (PlanError F) α :=
  program.run' (random.seeded (intText seed ++ ":" ++ stream))

section Planning

variable [PyFloat F] (random : RandomSource F)

/-- `rng.uniform(low, high)`. -/
def uniform (range : F × F) : Draw random F := do
  let x ← modifyGet random.random
  return range.1 + (range.2 - range.1) * x

/-- `rng.choice(items)`. -/
def choice {α : Type} : List α → Draw random α
  | [] => throw .emptyChoice
  | item :: items => do
      let i ← modifyGet (random.choiceIndex items.length)
      return (item :: items).get i

/-! ## Operating conditions -/

/-- `InitialStateVariation.__post_init__`. -/
def OperatingConditions.checkOffsets (conditions : OperatingConditions F) :
    Except (PlanError F) Unit :=
  if literal 10.0 < PyFloat.abs conditions.loadOffsetPercent then .error .loadOffset
  else if literal 10.0 < PyFloat.abs conditions.stackTemperatureOffsetCelsius then
    .error .stackTemperatureOffset
  else .ok ()

/-- `OperatingConditions.__post_init__`. -/
def OperatingConditions.checkLoad (conditions : OperatingConditions F) :
    Except (PlanError F) Unit :=
  if conditions.loadAmplitudePercent < literal 0.0 then .error .negativeAmplitude
  else if conditions.loadPeriodSeconds ≤ literal 0.0 then .error .periodNotPositive
  else
    let floor := conditions.loadBaselinePercent - conditions.loadAmplitudePercent
    let ceiling := conditions.loadBaselinePercent + conditions.loadAmplitudePercent
    if floor < literal 5.0 ∨ literal 95.0 < ceiling then .error (.loadMargin floor ceiling)
    else .ok ()

/-- `resolve_operating_conditions`. -/
def resolveOperatingConditions (ranges : OperatingConditionRanges F) :
    Draw random (OperatingConditions F) := do
  let loadBaselinePercent ← uniform random ranges.loadBaselinePercent
  let loadAmplitudePercent ← uniform random ranges.loadAmplitudePercent
  let loadPeriodSeconds ← uniform random ranges.loadPeriodSeconds
  let loadPhaseRadians ← uniform random ranges.loadPhaseRadians
  let loadOffsetPercent ← uniform random ranges.initialLoadOffsetPercent
  let stackTemperatureOffsetCelsius ←
    uniform random ranges.initialStackTemperatureOffsetCelsius
  let conditions : OperatingConditions F :=
    { loadBaselinePercent, loadAmplitudePercent, loadPeriodSeconds, loadPhaseRadians,
      loadOffsetPercent, stackTemperatureOffsetCelsius }
  conditions.checkOffsets
  conditions.checkLoad
  return conditions

/-- `resolve_sensor_noise`. -/
def resolveSensorNoise (fixed : List (SensorNoiseConfig F)) (regimes : List (NoiseRegime F)) :
    Draw random (List (SensorNoiseConfig F)) :=
  if regimes = [] then pure fixed
  else do
    let regime ← choice random regimes
    return regime.val.sensorNoise

/-! ## Faults -/

/-- `resolve_fault_start`. -/
def resolveFaultStart [FloatRounding F] (fixed : Option F) :
    Option (FaultTimingRange F) → Draw random (Option F)
  | some range => do
      let values ← (range.val.gridValues.mapError .arithmetic : Except (PlanError F) (List F))
      return some (← choice random values)
  | none => return fixed

/-- `resolve_fault_severity`. -/
def resolveFaultSeverity (fixed : Option F) : Option (FaultSeverityRange F) → Draw random F
  | some range => uniform random (range.val.minimum, range.val.maximum)
  | none => return fixed.getD (literal 0.0)

/-! ## Runs -/

namespace RunConfigFields

/-- `_validate_no_fault_window`. -/
def checkNoFaultWindow (config : RunConfigFields F) : Except RunConfigError Unit :=
  if config.faultStartSimSeconds.isSome ∨ config.faultDurationSimSeconds.isSome then
    .error (.unexpectedFaultWindow config.scenarioName)
  else if !(config.faultSeverity == literal 0.0) then
    .error (.unexpectedSeverity config.scenarioName)
  else .ok ()

/-- `_validate_fault_window`. -/
def checkFaultWindow (config : RunConfigFields F) : Except RunConfigError Unit :=
  if config.faultSeverity ≤ literal 0.0 then .error (.zeroSeverity config.scenarioName)
  else
    match config.faultStartSimSeconds, config.faultDurationSimSeconds with
    | none, _ => .error .missingFaultStart
    | some _, none => .error .missingFaultDuration
    | some faultStart, some faultDuration =>
        if faultStart < ofInt 0 then .error .negativeFaultStart
        else if faultDuration ≤ ofInt 0 then .error .faultDurationNotPositive
        else if config.durationSimSeconds < faultStart + faultDuration then .error .rampBeyondRun
        else .ok ()

/-- `__post_init__`, on every `float`. -/
def check (config : RunConfigFields F) : Except RunConfigError Unit :=
  if config.simulationRunId = "" then .error .emptyRunId
  else if config.targetAssetId = "" then .error .emptyTargetAssetId
  else if config.durationSimSeconds ≤ ofInt 0 then .error .durationNotPositive
  else if config.dtSeconds ≤ ofInt 0 then .error .stepNotPositive
  else if ¬ (literal 0.0 ≤ config.faultSeverity ∧ config.faultSeverity ≤ literal 1.0) then
    .error .severityOutOfRange
  else if config.scenarioName = .normalOperation then config.checkNoFaultWindow
  else config.checkFaultWindow

end RunConfigFields

/-- On the numbers of a format, the constructor accepts the configurations of `RunConfig`. -/
theorem RunConfigFields.check_eq_validate {format : NumberFormat}
    (config : RunConfigFields (Number format)) : config.check = config.validate := by
  have hwindow : config.checkNoFaultWindow = config.validateNoFaultWindow := by
    have hne : (!(config.faultSeverity == literal 0.0)) = true ↔
        config.faultSeverity ≠ Arithmetic.literal 0.0 := by
      rw [Bool.not_eq_true']
      exact decide_eq_false_iff_not
    rw [checkNoFaultWindow, validateNoFaultWindow, if_congr hne rfl rfl]
  rw [check, validate, hwindow]
  rfl

/-- `RunConfig`, with its seed and the noise of its sensors. -/
structure SeededRunConfig (F : Type) [PyFloat F] extends RunConfigFields F where
  seed : ℤ
  sensorNoise : List (SensorNoiseConfig F)
  valid : toRunConfigFields.check = .ok ()

/-- `PlannedRun`: a run that is yet to be simulated, with its id, its label and its configuration.
-/
structure PlannedRun (F : Type) [PyFloat F] where
  simulationRunId : String
  datasetId : String
  classLabel : String
  runConfig : SeededRunConfig F

/-- `RunTemplate`. -/
structure RunTemplate (F : Type) [PyFloat F] where
  simulationRunId : String
  seed : ℤ
  scenarioName : DatasetScenario
  targetAssetId : String
  durationSimSeconds : F
  dtSeconds : F
  runStartTime : Datetime
  faultStartSimSeconds : Option F
  faultStartRange : Option (FaultTimingRange F)
  faultDurationSimSeconds : Option F
  faultSeverity : Option F
  faultSeverityRange : Option (FaultSeverityRange F)
  operatingConditionRanges : OperatingConditionRanges F
  sensorNoise : List (SensorNoiseConfig F)
  sensorNoiseRegimes : List (NoiseRegime F)

/-- The call of the constructor of `RunConfig`. -/
def SeededRunConfig.create (config : RunConfigFields F) (seed : ℤ)
    (sensorNoise : List (SensorNoiseConfig F)) : Except (PlanError F) (SeededRunConfig F) :=
  match h : config.check with
  | .ok () => .ok ⟨config, seed, sensorNoise, h⟩
  | .error error => .error (.runConfig error)

/-- `resolve_run_config`. -/
def resolveRunConfig [FloatRounding F] (template : RunTemplate F) :
    Except (PlanError F) (SeededRunConfig F) := do
  let sensorNoise ← withGenerator random template.seed "sensor_noise_regime"
    (resolveSensorNoise random template.sensorNoise template.sensorNoiseRegimes)
  let operatingConditions ← withGenerator random template.seed "operating_conditions"
    (resolveOperatingConditions random template.operatingConditionRanges)
  let (faultStartSimSeconds, faultSeverity) ←
    withGenerator random template.seed "fault_variation" do
      let faultStart ←
        resolveFaultStart random template.faultStartSimSeconds template.faultStartRange
      let severity ← resolveFaultSeverity random template.faultSeverity template.faultSeverityRange
      return (faultStart, severity)
  SeededRunConfig.create
    { simulationRunId := template.simulationRunId
      scenarioName := template.scenarioName
      targetAssetId := template.targetAssetId
      durationSimSeconds := template.durationSimSeconds
      dtSeconds := template.dtSeconds
      runStartTime := template.runStartTime
      faultDurationSimSeconds := template.faultDurationSimSeconds
      faultStartSimSeconds, faultSeverity, operatingConditions }
    template.seed sensorNoise

/-- `_run_id`. -/
def runId (datasetId : String) (scenario : DatasetScenario) (localIndex : ℕ) : String :=
  datasetId ++ "-" ++ scenario.value ++ "-" ++ Datetime.zeroPadded 4 localIndex

variable [FloatRounding F]

/-- A round of the loops of `plan_runs`. -/
def planRun (spec : DatasetSpec F) (plan : ScenarioRunSpec F) (seedCursor localIndex : ℕ) :
    Except (PlanError F) (PlannedRun F) := do
  let some seed := spec.val.seeds[seedCursor]? | throw .missingSeed
  let some targetAssetId :=
    spec.val.targetAssetIds[localIndex % spec.val.targetAssetIds.length]? | throw .missingSeed
  let simulationRunId := runId spec.val.datasetId plan.val.scenarioName localIndex
  let runConfig ← resolveRunConfig random
    { scenarioName := plan.val.scenarioName
      durationSimSeconds := spec.val.durationSimSeconds
      dtSeconds := spec.val.dtSeconds
      runStartTime := spec.val.runStartTime.val.aware
      faultStartSimSeconds := plan.val.faultStartSimSeconds
      faultStartRange := plan.val.faultStartRange
      faultDurationSimSeconds := plan.val.faultDurationSimSeconds
      faultSeverity := plan.val.faultSeverity
      faultSeverityRange := plan.val.faultSeverityRange
      operatingConditionRanges := spec.val.operatingConditionRanges
      sensorNoise := spec.val.sensorNoise
      sensorNoiseRegimes := spec.val.sensorNoiseRegimes
      simulationRunId, seed, targetAssetId }
  return {
    datasetId := spec.val.datasetId
    classLabel := plan.val.scenarioName.value
    simulationRunId, runConfig }

/-- The loop of `plan_runs` over the plans, which takes the seeds one after the other. -/
def planScenarios (spec : DatasetSpec F) :
    ℕ → List (ScenarioRunSpec F) → Except (PlanError F) (List (PlannedRun F))
  | _, [] => return []
  | seedCursor, plan :: plans => do
      let runCount := plan.val.runCount.toNat
      let runs ← (List.range runCount).mapM fun localIndex =>
        planRun random spec plan (seedCursor + localIndex) localIndex
      return runs ++ (← planScenarios spec (seedCursor + runCount) plans)

/-- `plan_runs`. -/
def planRuns (spec : DatasetSpec F) : Except (PlanError F) (List (PlannedRun F)) :=
  planScenarios random spec 0 spec.val.scenarioPlans

/-- A specification that is written as JSON and read back is the same one, and so are its runs. -/
theorem planRuns_reloaded [JsonText F] [FloatText F] (spec : DatasetSpec F) (sortKeys : Bool) :
    ∃ spec', DatasetSpec.fromJsonDict (spec.toJsonDict.reloaded sortKeys) = .ok spec' ∧
      spec' = spec ∧ ∀ random : RandomSource F, planRuns random spec' = planRuns random spec :=
  ⟨spec, spec.fromJsonDict_reloaded sortKeys, rfl, fun _ => rfl⟩

/-! ## Ids -/

section Ids

/-- Padding keeps different numbers apart. -/
theorem zeroPadded_injective {width m n : ℕ}
    (h : Datetime.zeroPadded width m = Datetime.zeroPadded width n) : m = n := by
  have hvalue : ∀ k : ℕ, Nat.ofDigitChars 10 (Datetime.zeroPadded width k).toList 0 = k := by
    intro k
    rw [Datetime.zeroPadded, String.toList_append, String.toList_ofList,
      Nat.toString_eq_ofList_toDigits, String.toList_ofList, Nat.ofDigitChars_append,
      Nat.ofDigitChars_replicate_zero, Nat.mul_zero, Nat.ofDigitChars_ten_toDigits]
  rw [← hvalue m, h, hvalue n]

/-- The id of a run tells its scenario and its index. -/
theorem runId_injective {datasetId : String} {scenario scenario' : DatasetScenario}
    {localIndex localIndex' : ℕ}
    (h : runId datasetId scenario localIndex = runId datasetId scenario' localIndex') :
    scenario = scenario' ∧ localIndex = localIndex' := by
  have hdash : ∀ n : ℕ, '-' ∉ (Datetime.zeroPadded 4 n).toList := fun n hmem =>
    absurd (Json.isDigit_of_mem_zeroPadded hmem) (by decide)
  have hlist := congrArg String.toList h
  simp only [runId, String.toList_append, List.append_assoc] at hlist
  have htail := List.append_cancel_left hlist
  have hjoin : scenario.value.toList ++ '-' :: (Datetime.zeroPadded 4 localIndex).toList =
      scenario'.value.toList ++ '-' :: (Datetime.zeroPadded 4 localIndex').toList :=
    List.append_cancel_left htail
  obtain ⟨hvalue, hindex⟩ :=
    (Separator.join_eq_join_iff_of_notMem (hdash _) (hdash _)).mp hjoin
  refine ⟨?_, zeroPadded_injective (String.toList_inj.mp hindex)⟩
  have hscenario := String.toList_inj.mp hvalue
  cases scenario <;> cases scenario' <;> first | rfl | exact absurd hscenario (by decide)

variable {random} {spec : DatasetSpec F} {plan : ScenarioRunSpec F} {seedCursor localIndex : ℕ}

/-- A planned run has the id of its place in the plan. -/
theorem id_planRun {run : PlannedRun F}
    (h : planRun random spec plan seedCursor localIndex = .ok run) :
    run.simulationRunId = runId spec.val.datasetId plan.val.scenarioName localIndex := by
  rw [planRun] at h
  split at h
  · split at h
    · obtain ⟨runConfig, -, hrun⟩ := bind_eq_ok.mp h
      rw [← Except.ok.inj hrun]
    · cases h
  · cases h

/-- The ids of the runs of some plans. -/
theorem ids_planScenarios {plans : List (ScenarioRunSpec F)} {runs : List (PlannedRun F)}
    (h : planScenarios random spec seedCursor plans = .ok runs) :
    runs.map PlannedRun.simulationRunId = plans.flatMap fun plan =>
      (List.range plan.val.runCount.toNat).map
        (runId spec.val.datasetId plan.val.scenarioName) := by
  induction plans generalizing seedCursor runs with
  | nil =>
      rw [← Except.ok.inj h]
      rfl
  | cons plan plans ih =>
      obtain ⟨first, hfirst, hrest⟩ := bind_eq_ok.mp h
      obtain ⟨others, hothers, hruns⟩ := bind_eq_ok.mp hrest
      rw [← Except.ok.inj hruns, List.map_append, ih hothers, List.flatMap_cons]
      congr 1
      have hids := mapM_eq_ok_iff.mp hfirst
      rw [← List.forall₂_eq_eq_eq, List.forall₂_map_left_iff, List.forall₂_map_right_iff]
      exact (hids.imp fun localIndex run hrun => id_planRun hrun).flip

/-- No two runs of a plan have the same id. -/
theorem nodup_planRuns {runs : List (PlannedRun F)} (h : planRuns random spec = .ok runs) :
    (runs.map PlannedRun.simulationRunId).Nodup := by
  rw [ids_planScenarios h, List.nodup_flatMap]
  constructor
  · intro plan _
    exact List.nodup_range.map fun i j hij => (runId_injective hij).2
  · refine (List.pairwise_map.mp spec.nodup_scenarios).imp fun {plan plan'} hne => ?_
    intro id hid hid'
    obtain ⟨i, -, rfl⟩ := List.mem_map.mp hid
    obtain ⟨j, -, hij⟩ := List.mem_map.mp hid'
    exact hne (runId_injective hij).1.symm

end Ids

end Planning

end Odis.Simulator
