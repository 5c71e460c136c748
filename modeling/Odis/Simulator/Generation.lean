import Odis.Simulator.Splits
import Odis.Simulator.Telemetry

/-!
# Dataset generation

`generate_dataset` (`dataset/generate.py`): the runs of a specification are planned, each of them is
exported (`dataset/export.py`), and the manifest (`dataset/manifest.py`) says how many rows there
are. A table of a file is the list of its rows.

* `of_exportRun`: the rows that a run is exported to.
* `generated_of_generateDataset`: the tables of a dataset.
-/

namespace Odis.Simulator

open Arithmetic Exceptions Inference

variable {format : NumberFormat}

/-! ## Rows -/

/-- A row of `telemetry.parquet`. -/
structure TelemetryRow (format : NumberFormat) where
  datasetId : String
  simulationRunId : String
  observationId : String
  timestamp : Datetime
  elapsedSimSeconds : Number format
  assetId : String
  measurementType : String
  value : Number format
  unit : String

/-- A row of `ground_truth.parquet`. -/
structure GroundTruthRow (format : NumberFormat) where
  datasetId : String
  simulationRunId : String
  timestamp : Datetime
  elapsedSimSeconds : Number format
  assetId : String
  faultType : String
  faultActive : Bool
  faultSeverity : Number format
  secondsSinceFaultStart : Option (Number format)
  sensorCorruptionType : String

/-- A row of `runs.parquet`. -/
structure RunRow (format : NumberFormat) where
  datasetId : String
  simulationRunId : String
  classLabel : String
  seed : ℤ
  targetAssetId : String
  durationSimSeconds : Number format
  dtSeconds : Number format
  runStartTime : Datetime
  faultStartSimSeconds : Option (Number format)
  faultDurationSimSeconds : Option (Number format)
  faultSeverity : Number format
  loadBaselinePercent : Number format
  loadAmplitudePercent : Number format
  loadPeriodSeconds : Number format
  loadPhaseRadians : Number format
  initialLoadOffsetPercent : Number format
  initialStackTemperatureOffsetCelsius : Number format
  sensorNoise : List (SensorNoiseConfig (Number format))
  observationCount : ℕ
  groundTruthRowCount : ℕ
  sampleCount : ℕ

/-- The value of a fault type. -/
def FaultType.value : FaultType → String
  | none => "none"
  | coolingDegradation => "cooling_degradation"
  | hydrogenSupplyIssue => "hydrogen_supply_issue"

/-- The value of a sensor corruption. -/
def SensorCorruptionType.value : SensorCorruptionType → String
  | none => "none"
  | bias => "bias"

/-! ## The export of a run -/

namespace PlannedRun

variable (plannedRun : PlannedRun (Number format))

/-- The configuration of a run, as the runner takes it. -/
def config : RunConfig (Number format) :=
  ⟨plannedRun.runConfig.toRunConfigFields,
    plannedRun.runConfig.check_eq_validate ▸ plannedRun.runConfig.valid⟩

/-- The row of an observation. -/
def telemetryRow (elapsed : Number format) (observation : Observation (Number format)) :
    TelemetryRow format where
  datasetId := plannedRun.datasetId
  simulationRunId := plannedRun.simulationRunId
  observationId := observation.id
  timestamp := observation.timestamp
  elapsedSimSeconds := elapsed
  assetId := observation.assetId
  measurementType := observation.measurementType
  value := observation.value
  unit := observation.unit

/-- The row of a label. -/
def groundTruthRow (record : GroundTruthRecord (Number format)) : GroundTruthRow format where
  datasetId := plannedRun.datasetId
  simulationRunId := plannedRun.simulationRunId
  timestamp := record.timestamp
  elapsedSimSeconds := record.elapsedSimSeconds
  assetId := record.assetId
  faultType := record.faultType.value
  faultActive := record.faultActive
  faultSeverity := record.faultSeverity
  secondsSinceFaultStart := record.secondsSinceFaultStart
  sensorCorruptionType := record.sensorCorruptionType.value

end PlannedRun

/-- What is raised while a run is exported. -/
inductive ExportError where
  | runner (error : RunnerError)
  | missingChannel (error : MissingChannel)

/-- `RunExportResult`, with the rows that the writers have taken. -/
structure RunExport (format : NumberFormat) where
  plannedRun : PlannedRun (Number format)
  telemetry : List (TelemetryRow format)
  groundTruth : List (GroundTruthRow format)
  sampleCount : ℕ

section Export

variable (source : NoiseSource (Number format)) (plannedRun : PlannedRun (Number format))

/-- The observations of a sample, asset by asset. The noise is drawn for the samples one after the
other, and nothing of the fleet depends on it. -/
def sampleObservations (sample : SimulationSample (Number format)) :
    Noisy source (List (Observation (Number format))) := do
  let timestamp := plannedRun.config.timestampAt sample.elapsedSimSeconds
  let observations ← PlantAsset.all.mapM fun asset =>
    buildSampleObservations asset (sample.fleet.machines asset) timestamp
      (sample.fleet.telemetryContexts asset) source plannedRun.runConfig.sensorNoise
  return observations.flatten

/-- The rows of the observations of a sample. -/
def telemetryRows (sample : SimulationSample (Number format)) :
    Noisy source (List (TelemetryRow format)) := do
  let observations ← sampleObservations source plannedRun sample
  return observations.map (plannedRun.telemetryRow sample.elapsedSimSeconds)

/-- `export_run`. -/
def exportRun : Except ExportError (RunExport format) := do
  let (samples, raised) := plannedRun.config.iterSamples
  let noise := source.seeded (intText plannedRun.runConfig.seed ++ ":sensor_noise")
  let telemetry ← ((samples.mapM (telemetryRows source plannedRun)).run' noise).mapError
    .missingChannel
  -- the samples before an exception have been observed by then
  if let some error := raised then throw (.runner error)
  return {
    telemetry := telemetry.flatten
    groundTruth := samples.flatMap fun sample => sample.groundTruth.map plannedRun.groundTruthRow
    sampleCount := samples.length
    plannedRun }

end Export

/-! ## Ticks of a run -/

/-- A fleet of a run after some ticks. -/
structure AtTick (config : RunConfig (Number format)) (tick : ℕ)
    (fleet : PlantAlphaFleet (Number format)) : Prop where
  elapsed : fleet.elapsedSimSeconds = config.elapsedAt tick
  tickCount : ∀ asset, (fleet.machines asset).tickCount = tick
  assetId : ∀ asset, (fleet.machines asset).assetId = asset.id
  runId : ∀ asset, (fleet.telemetryContexts asset).runId = config.simulationRunId

section Ticks

variable {config : RunConfig (Number format)} {target : PlantAsset} {tick : ℕ}
  {fleet fleet' : PlantAlphaFleet (Number format)} {progress : Number format}
  {sample : SimulationSample (Number format)}

/-- Before the first tick the fleet is at tick zero. -/
theorem atTick_initialFleet : AtTick config 0 config.initialFleet :=
  ⟨rfl, fun _ => rfl, fun _ => rfl, fun _ => rfl⟩

/-- The effect of a fault is no tick. -/
theorem AtTick.applyFaultEffect (h : AtTick config tick fleet)
    (happly : Simulator.applyFaultEffect fleet config target progress = .ok fleet') :
    AtTick config tick fleet' := by
  obtain ⟨endpoints, -, happly⟩ := bind_eq_ok.mp happly
  dsimp only at happly
  -- a command changes neither the id of a machine nor its ticks
  have hmachines {machine : FuelCellMachine (Number format)}
      (hcount : machine.tickCount = (fleet.machines target).tickCount)
      (hid : machine.assetId = (fleet.machines target).assetId) (asset : PlantAsset) :
      (Function.update fleet.machines target machine asset).tickCount = tick ∧
        (Function.update fleet.machines target machine asset).assetId = asset.id := by
    by_cases hasset : asset = target
    · rw [hasset, Function.update_self, hcount, hid]
      exact ⟨h.tickCount target, h.assetId target⟩
    · rw [Function.update_of_ne hasset]
      exact ⟨h.tickCount asset, h.assetId asset⟩
  have hcooling (value : Number format) := hmachines
    (rfl : ((fleet.machines target).setCoolingEfficiency value).tickCount = _) rfl
  have hfuel (value : Number format) := hmachines
    (rfl : ((fleet.machines target).setFuelSupplyFactor value).tickCount = _) rfl
  -- the effect by scenario: a command to the machine, or a drift of its sensor
  split at happly
  · cases happly
    exact ⟨h.elapsed, fun asset => (hcooling _ asset).1, fun asset => (hcooling _ asset).2, h.runId⟩
  · cases happly
    exact ⟨h.elapsed, fun asset => (hfuel _ asset).1, fun asset => (hfuel _ asset).2, h.runId⟩
  · cases happly
    refine ⟨h.elapsed, h.tickCount, h.assetId, fun asset => ?_⟩
    dsimp only
    by_cases hasset : asset = target
    · rw [hasset, Function.update_self]
      exact h.runId target
    · rw [Function.update_of_ne hasset]
      exact h.runId asset
  · cases happly

/-- A step is one tick. -/
theorem AtTick.stepRun (h : AtTick config tick fleet)
    (hstep : config.stepRun target fleet = .ok sample) : AtTick config (tick + 1) sample.fleet := by
  have hticked {fleet : PlantAlphaFleet (Number format)} (h : AtTick config tick fleet) :
      AtTick config (tick + 1) (fleet.normalOperationTick config.profile config.step) :=
    ⟨congrArg (· + config.dtSeconds) h.elapsed, fun asset => congrArg (· + 1) (h.tickCount asset),
      h.assetId, h.runId⟩
  cases happlied : config.appliedProgress? (fleet.elapsedSimSeconds + config.dtSeconds) with
  | none =>
      rw [stepRun_of_none target happlied] at hstep
      obtain ⟨-, rfl⟩ := observe_eq_ok_iff.mp hstep
      exact hticked h
  | some progress =>
      obtain ⟨fleet', endpoints, happly, -, hstep'⟩ := exists_stepRun_of_some target happlied
      obtain ⟨-, rfl⟩ := observe_eq_ok_iff.mp (hstep'.symm.trans hstep)
      exact hticked (h.applyFaultEffect happly)

/-- The samples of a run that goes on to its last step, tick by tick. -/
theorem forall₂_iterFrom {steps : ℕ} (h : AtTick config tick fleet)
    (hended : (config.iterFrom target steps fleet).2 = none) :
    (List.range' (tick + 1) steps).Forall₂ (fun tick sample =>
      AtTick config tick sample.fleet ∧ sample = config.sampleOf sample.fleet)
        (config.iterFrom target steps fleet).1 := by
  induction steps generalizing fleet tick with
  | zero => exact .nil
  | succ steps ih =>
      rw [RunConfig.iterFrom] at hended ⊢
      cases hfirst : config.stepRun target fleet with
      | error error =>
          rw [hfirst] at hended
          cases hended
      | ok first =>
          rw [hfirst] at hended
          have hnext := h.stepRun hfirst
          rw [List.range'_succ]
          exact .cons ⟨hnext, (eq_sampleOf_of_stepRun hfirst).1⟩ (ih hnext hended)

/-- If all samples are taken, there is one for each tick. -/
theorem forall₂_iterSamples (hended : config.iterSamples.2 = none) :
    (List.range' 1 config.totalSteps).Forall₂ (fun tick sample =>
      AtTick config tick sample.fleet ∧ sample = config.sampleOf sample.fleet)
        config.iterSamples.1 := by
  cases htarget : PlantAsset.ofId? config.targetAssetId with
  | none =>
      rw [RunConfig.iterSamples, htarget] at hended
      cases hended
  | some target =>
      rw [RunConfig.iterSamples_eq htarget] at hended ⊢
      exact forall₂_iterFrom atTick_initialFleet hended

end Ticks

/-! ## What a run is exported to -/

/-- A row of `telemetry.parquet`, without what is measured and when. -/
structure TelemetryFrame (format : NumberFormat) where
  observationId : String
  simulationRunId : String
  elapsedSimSeconds : Number format
  assetId : String
  measurementType : String
  unit : String

def TelemetryRow.frame (row : TelemetryRow format) : TelemetryFrame format where
  observationId := row.observationId
  simulationRunId := row.simulationRunId
  elapsedSimSeconds := row.elapsedSimSeconds
  assetId := row.assetId
  measurementType := row.measurementType
  unit := row.unit

namespace PlannedRun

variable (plannedRun : PlannedRun (Number format))

/-- The row of a channel at a tick. -/
def frame (tick : ℕ) (asset : PlantAsset) (channel : Channel) : TelemetryFrame format where
  observationId := observationId plannedRun.config.simulationRunId asset.id tick channel.name
  simulationRunId := plannedRun.simulationRunId
  elapsedSimSeconds := plannedRun.config.elapsedAt tick
  assetId := asset.id
  measurementType := channel.name
  unit := channel.unit

/-- The rows of a tick: every channel of every asset. -/
def framesAt (tick : ℕ) : List (TelemetryFrame format) :=
  PlantAsset.all.flatMap fun asset => Channel.all.map (plannedRun.frame tick asset)

/-- The label of an asset at a tick. -/
def labelAt (tick : ℕ) (asset : PlantAsset) : GroundTruthRow format :=
  let elapsed := plannedRun.config.elapsedAt tick
  plannedRun.groundTruthRow
    (computeGroundTruth plannedRun.config asset (plannedRun.config.timestampAt elapsed) elapsed)

end PlannedRun

/-- What the export of a run has written. -/
structure Exported (plannedRun : PlannedRun (Number format)) (result : RunExport format) :
    Prop where
  plannedRun_eq : result.plannedRun = plannedRun
  telemetry : result.telemetry.map TelemetryRow.frame =
    (List.range' 1 plannedRun.config.totalSteps).flatMap plannedRun.framesAt
  groundTruth : result.groundTruth =
    (List.range' 1 plannedRun.config.totalSteps).flatMap fun tick =>
      PlantAsset.all.map (plannedRun.labelAt tick)
  sampleCount : result.sampleCount = plannedRun.config.totalSteps

section Exports

variable {source : NoiseSource (Number format)} {plannedRun : PlannedRun (Number format)} {tick : ℕ}
  {sample : SimulationSample (Number format)}

/-- The rows of what is emitted for an asset. -/
theorem map_frame_of_emitted {asset : PlantAsset} {timestamp : Datetime}
    {context : TelemetryContext (Number format)} {channels : List Channel}
    {observations : List (Observation (Number format))}
    (h : Emitted asset timestamp context tick channels observations)
    (hcontext : context.runId = plannedRun.config.simulationRunId) :
    (observations.map (plannedRun.telemetryRow (plannedRun.config.elapsedAt tick))).map
      TelemetryRow.frame = channels.map (plannedRun.frame tick asset) := by
  induction h with
  | nil => rfl
  | @cons channel observation channels observations hfirst hrest ih =>
      obtain ⟨value, rfl⟩ := hfirst
      rw [List.map_cons, List.map_cons, List.map_cons, ih]
      congr 1
      unfold PlannedRun.frame
      rw [← hcontext]
      rfl

variable (source) in
/-- The rows of a sample are those of its tick, whatever the noise. -/
theorem exists_telemetryRows (hsample : sample = plannedRun.config.sampleOf sample.fleet)
    (s : source.State) :
    ∃ rows s', telemetryRows source plannedRun sample s = .ok (rows, s') ∧
      ∀ tick, AtTick plannedRun.config tick sample.fleet →
        rows.map TelemetryRow.frame = plannedRun.framesAt tick := by
  have hround := exists_run_mapM (l := PlantAsset.all) fun asset _ s =>
    exists_buildSampleObservations asset (sample.fleet.machines asset)
      (plannedRun.config.timestampAt sample.elapsedSimSeconds)
      (sample.fleet.telemetryContexts asset) source plannedRun.runConfig.sensorNoise s
  obtain ⟨observations, s', hrun, hobservations⟩ := hround s
  have hsampled : sampleObservations source plannedRun sample s =
      .ok (observations.flatten, s') := by
    unfold sampleObservations
    rw [run_bind_of_ok hrun]
    rfl
  refine ⟨observations.flatten.map (plannedRun.telemetryRow sample.elapsedSimSeconds), s', ?_,
    fun tick h => ?_⟩
  · unfold telemetryRows
    rw [run_bind_of_ok hsampled]
    rfl
  -- only the times of the frames depend on the tick
  have helapsed : sample.elapsedSimSeconds = plannedRun.config.elapsedAt tick := by
    rw [hsample]
    exact h.elapsed
  rw [helapsed]
  unfold PlannedRun.framesAt
  clear hround hrun hsampled
  generalize PlantAsset.all = assets at hobservations
  -- asset by asset
  induction hobservations with
  | nil => rfl
  | @cons asset ofAsset assets others hfirst hrest ih =>
      rw [h.tickCount asset] at hfirst
      rw [List.flatten_cons, List.map_append, List.map_append, List.flatMap_cons, ih,
        map_frame_of_emitted hfirst (h.runId asset)]

/-- The rows of the samples of a run. -/
theorem map_frame_flatten {ticks : List ℕ} {samples : List (SimulationSample (Number format))}
    {rows : List (List (TelemetryRow format))}
    (hticks : ticks.Forall₂ (fun tick sample => AtTick plannedRun.config tick sample.fleet ∧
      sample = plannedRun.config.sampleOf sample.fleet) samples)
    (hrows : samples.Forall₂ (fun sample rows =>
      ∀ tick, AtTick plannedRun.config tick sample.fleet →
        rows.map TelemetryRow.frame = plannedRun.framesAt tick) rows) :
    rows.flatten.map TelemetryRow.frame = ticks.flatMap plannedRun.framesAt := by
  induction hticks generalizing rows with
  | nil =>
      cases hrows
      rfl
  | cons hfirst hrest ih =>
      cases hrows with
      | cons hrow hrows =>
          rw [List.flatten_cons, List.map_append, List.flatMap_cons, ih hrows, hrow _ hfirst.1]

/-- The labels of the samples of a run. -/
theorem flatMap_groundTruth {ticks : List ℕ} {samples : List (SimulationSample (Number format))}
    (hticks : ticks.Forall₂ (fun tick sample => AtTick plannedRun.config tick sample.fleet ∧
      sample = plannedRun.config.sampleOf sample.fleet) samples) :
    (samples.flatMap fun sample => sample.groundTruth.map plannedRun.groundTruthRow) =
      ticks.flatMap fun tick => PlantAsset.all.map (plannedRun.labelAt tick) := by
  induction hticks with
  | nil => rfl
  | @cons tick sample ticks samples hfirst hrest ih =>
      rw [List.flatMap_cons, List.flatMap_cons, ih, hfirst.2]
      congr 1
      unfold RunConfig.sampleOf PlannedRun.labelAt
      rw [List.map_map, hfirst.1.elapsed]
      rfl

/-- A run whose samples are all taken is exported. -/
theorem exists_exportRun (source : NoiseSource (Number format))
    (hended : plannedRun.config.iterSamples.2 = none) :
    ∃ result, exportRun source plannedRun = .ok result ∧ Exported plannedRun result := by
  have hticks := forall₂_iterSamples hended
  generalize hsamples : plannedRun.config.iterSamples.1 = samples at hticks
  -- every sample is what its fleet shows
  have hsampled : ∀ sample ∈ samples, sample = plannedRun.config.sampleOf sample.fleet := by
    intro sample hmem
    obtain ⟨i, hi, rfl⟩ := List.getElem_of_mem hmem
    exact (hticks.get (hticks.length_eq ▸ hi) hi).2
  obtain ⟨rows, s', hrows, hframes⟩ :=
    exists_run_mapM (fun sample hmem s => exists_telemetryRows source (hsampled sample hmem) s)
      (source.seeded (intText plannedRun.runConfig.seed ++ ":sensor_noise"))
  -- the source of the noise is seeded once for the run
  have htelemetry : ((samples.mapM (telemetryRows source plannedRun)).run'
      (source.seeded (intText plannedRun.runConfig.seed ++ ":sensor_noise"))) = .ok rows := by
    show Prod.fst <$> samples.mapM (telemetryRows source plannedRun) _ = _
    rw [hrows]
    rfl
  have hrun : exportRun source plannedRun = .ok {
      telemetry := rows.flatten
      groundTruth := samples.flatMap fun sample => sample.groundTruth.map plannedRun.groundTruthRow
      sampleCount := samples.length
      plannedRun } := by
    unfold exportRun
    rw [show plannedRun.config.iterSamples = (samples, none) from Prod.ext hsamples hended]
    dsimp only
    rw [htelemetry]
    rfl
  refine ⟨_, hrun, rfl, map_frame_flatten hticks hframes, flatMap_groundTruth hticks, ?_⟩
  exact hticks.length_eq.symm.trans List.length_range'

/-- Nothing is exported where the generator has raised. -/
theorem ended_of_exportRun {result : RunExport format}
    (h : exportRun source plannedRun = .ok result) : plannedRun.config.iterSamples.2 = none := by
  unfold exportRun at h
  generalize plannedRun.config.iterSamples = run at h
  obtain ⟨samples, raised⟩ := run
  obtain ⟨telemetry, -, h⟩ := bind_eq_ok.mp h
  cases raised with
  | none => rfl
  | some error => cases h

/-- What a run is exported to. -/
theorem of_exportRun {result : RunExport format} (h : exportRun source plannedRun = .ok result) :
    Exported plannedRun result := by
  obtain ⟨result', hresult, hexported⟩ := exists_exportRun source (ended_of_exportRun h)
  rw [h, Except.ok.injEq] at hresult
  exact hresult ▸ hexported

variable (source plannedRun) in
/-- A run is exported exactly if its target is an asset of the plant and all its times are dates. -/
theorem exists_exportRun_iff :
    (∃ result, exportRun source plannedRun = .ok result) ↔
      (∃ target, PlantAsset.ofId? plannedRun.runConfig.targetAssetId = some target) ∧
        plannedRun.config.Datable := by
  have hended : (∃ result, exportRun source plannedRun = .ok result) ↔
      plannedRun.config.iterSamples.2 = none := by
    constructor
    · rintro ⟨result, h⟩
      exact ended_of_exportRun h
    · intro hended
      obtain ⟨result, hresult, -⟩ := exists_exportRun source hended
      exact ⟨result, hresult⟩
  rw [hended]
  show _ ↔ (∃ target, PlantAsset.ofId? plannedRun.config.targetAssetId = some target) ∧ _
  cases htarget : PlantAsset.ofId? plannedRun.config.targetAssetId with
  | none => simp [RunConfig.iterSamples, htarget]
  | some target => simp [RunConfig.iterSamples_ended_iff htarget]

end Exports

/-- A row of `build_runs_table`. -/
def RunExport.runRow (result : RunExport format) : RunRow format :=
  let config := result.plannedRun.runConfig
  { datasetId := result.plannedRun.datasetId
    simulationRunId := result.plannedRun.simulationRunId
    classLabel := result.plannedRun.classLabel
    seed := config.seed
    targetAssetId := config.targetAssetId
    durationSimSeconds := config.durationSimSeconds
    dtSeconds := config.dtSeconds
    runStartTime := config.runStartTime
    faultStartSimSeconds := config.faultStartSimSeconds
    faultDurationSimSeconds := config.faultDurationSimSeconds
    faultSeverity := config.faultSeverity
    loadBaselinePercent := config.operatingConditions.loadBaselinePercent
    loadAmplitudePercent := config.operatingConditions.loadAmplitudePercent
    loadPeriodSeconds := config.operatingConditions.loadPeriodSeconds
    loadPhaseRadians := config.operatingConditions.loadPhaseRadians
    initialLoadOffsetPercent := config.operatingConditions.loadOffsetPercent
    initialStackTemperatureOffsetCelsius :=
      config.operatingConditions.stackTemperatureOffsetCelsius
    sensorNoise := config.sensorNoise
    observationCount := result.telemetry.length
    groundTruthRowCount := result.groundTruth.length
    sampleCount := result.sampleCount }

/-! ## Datasets -/

/-- `row_counts` of a manifest. -/
structure RowCounts where
  telemetry : ℕ
  groundTruth : ℕ
  runs : ℕ
  deriving DecidableEq, Repr

/-- `split_counts` of a manifest. -/
structure SplitCounts where
  train : ℕ
  validation : ℕ
  test : ℕ
  deriving DecidableEq, Repr

/-- `dataset_manifest.json`, as far as the audit reads it. -/
structure DatasetManifest (format : NumberFormat) where
  datasetSpec : Json (Number format)
  rowCounts : RowCounts
  splitCounts : SplitCounts

/-- The lists of `splits.json`. -/
structure SplitLists where
  train : List String
  validation : List String
  test : List String

/-- The files of a dataset. -/
structure DatasetFiles (format : NumberFormat) where
  manifest : DatasetManifest format
  splits : SplitLists
  runs : List (RunRow format)
  telemetry : List (TelemetryRow format)
  groundTruth : List (GroundTruthRow format)

/-- What `generate_dataset` raises. -/
inductive GenerationError (format : NumberFormat) where
  /-- `DatasetOutputExistsError`. -/
  | outputExists (path : String)
  | plan (error : PlanError (Number format))
  /-- `DatasetGenerationError`. -/
  | run (runId : String) (cause : ExportError)
  /-- A seed is no `int64` of `runs.parquet`. -/
  | seedOutOfRange (seed : ℤ)

/-- Numbers of a format are cut and rounded as floats are. -/
instance : FloatRounding (Number format) where
  truncate x := .ok (x.val.num.tdiv x.val.den)
  roundSix x := Number.ofRat format (roundHalfEven (x.val * 1000000) / 1000000)

/-- `build_manifest`. -/
def buildManifest (spec : DatasetSpec (Number format)) (results : List (RunExport format))
    (splits : SplitLists) : DatasetManifest format where
  datasetSpec := spec.toJsonDict
  rowCounts :=
    { telemetry := (results.map fun result => result.telemetry.length).sum
      groundTruth := (results.map fun result => result.groundTruth.length).sum
      runs := results.length }
  splitCounts := ⟨splits.train.length, splits.validation.length, splits.test.length⟩

/-- What draws the runs of a dataset, its splits and its noise. -/
structure DatasetDraws (format : NumberFormat) where
  random : RandomSource (Number format)
  shuffle : Shuffle
  noise : NoiseSource (Number format)

section Files

variable (draws : DatasetDraws format) (spec : DatasetSpec (Number format))

/-- The runs of a specification, assigned to splits. -/
def splitsOf (plannedRuns : List (PlannedRun (Number format))) : SplitLists :=
  let assignment :=
    assignSplits draws.shuffle plannedRuns spec.val.splitProportions spec.val.datasetId
  ⟨assignment.train, assignment.validation, assignment.test⟩

/-- The files that are written for the runs of a plan, once they are exported. -/
def filesOf (plannedRuns : List (PlannedRun (Number format))) (results : List (RunExport format)) :
    DatasetFiles format where
  manifest := buildManifest spec results (splitsOf draws spec plannedRuns)
  splits := splitsOf draws spec plannedRuns
  runs := results.map RunExport.runRow
  telemetry := results.flatMap RunExport.telemetry
  groundTruth := results.flatMap RunExport.groundTruth

/-- The integers of `pa.int64()`. -/
def FitsInt64 (n : ℤ) : Prop := -(2 ^ 63) ≤ n ∧ n < 2 ^ 63

instance (n : ℤ) : Decidable (FitsInt64 n) := inferInstanceAs (Decidable (_ ∧ _))

/-- `build_runs_table`. -/
def buildRunsTable (results : List (RunExport format)) :
    Except (GenerationError format) (List (RunRow format)) :=
  results.mapM fun result =>
    if FitsInt64 result.plannedRun.runConfig.seed then .ok result.runRow
    else .error (.seedOutOfRange result.plannedRun.runConfig.seed)

/-- The loop over the planned runs. The error names the run that could not be exported. -/
def exportRuns (plannedRuns : List (PlannedRun (Number format))) :
    Except (GenerationError format) (List (RunExport format)) :=
  plannedRuns.mapM fun plannedRun =>
    (exportRun draws.noise plannedRun).mapError (.run plannedRun.simulationRunId)

/-- `generate_dataset`, with the entries of the output directory if there is one. -/
def generateDataset (entries? : Option (List String)) (overwrite : Bool) :
    Except (GenerationError format) (DatasetFiles format) := do
  if entries?.any (fun entries => entries ≠ []) ∧ overwrite = false then
    throw (.outputExists spec.val.outputDirectory)
  let plannedRuns ← (planRuns draws.random spec).mapError .plan
  let results ← exportRuns draws plannedRuns
  let runs ← buildRunsTable results
  return { filesOf draws spec plannedRuns results with runs }

end Files

/-- The files of a dataset, with the runs that they are written for. -/
structure Generated (draws : DatasetDraws format) (spec : DatasetSpec (Number format))
    (plannedRuns : List (PlannedRun (Number format))) (results : List (RunExport format))
    (files : DatasetFiles format) : Prop where
  planned : planRuns draws.random spec = .ok plannedRuns
  exported : plannedRuns.Forall₂ Exported results
  files_eq : files = filesOf draws spec plannedRuns results

section Generation

variable {draws : DatasetDraws format} {spec : DatasetSpec (Number format)}
  {plannedRuns : List (PlannedRun (Number format))} {results : List (RunExport format)}
  {files : DatasetFiles format}

/-- The table of the runs is built if every seed fits into 64 bits. -/
theorem buildRunsTable_eq_ok_iff {runs : List (RunRow format)} :
    buildRunsTable results = .ok runs ↔
      (∀ result ∈ results, FitsInt64 result.plannedRun.runConfig.seed) ∧
        runs = results.map RunExport.runRow := by
  unfold buildRunsTable
  induction results generalizing runs with
  | nil => simp [pure, Except.pure, eq_comm]
  | cons result results ih =>
      rw [List.mapM_cons, bind_eq_ok]
      by_cases hfits : FitsInt64 result.plannedRun.runConfig.seed
      · simp only [bind_eq_ok, ih, List.forall_mem_cons, hfits, true_and]
        simp [pure, Except.pure, eq_comm]
      · simp [hfits]

/-- Each run is exported as it was planned. -/
theorem exported_of_exportRuns (h : exportRuns draws plannedRuns = .ok results) :
    plannedRuns.Forall₂ Exported results :=
  (mapM_eq_ok_iff.mp h).imp fun _ _ hrun => of_exportRun (mapError_eq_ok.mp hrun)

/-- All runs are exported if each has its asset and only times that are dates. -/
theorem exists_exportRuns_iff : (∃ results, exportRuns draws plannedRuns = .ok results) ↔
    ∀ plannedRun ∈ plannedRuns,
      (∃ target, PlantAsset.ofId? plannedRun.runConfig.targetAssetId = some target) ∧
        plannedRun.config.Datable := by
  unfold exportRuns
  rw [exists_mapM_eq_ok_iff]
  refine forall₂_congr fun plannedRun _ => ?_
  rw [← exists_exportRun_iff draws.noise plannedRun]
  exact exists_congr fun result => mapError_eq_ok

/-- What is returned are the files of the planned runs. -/
theorem exists_generated {entries? : Option (List String)} {overwrite : Bool}
    (h : generateDataset draws spec entries? overwrite = .ok files) :
    ∃ plannedRuns results, Generated draws spec plannedRuns results files := by
  unfold generateDataset at h
  split_ifs at h
  · cases h
  obtain ⟨plannedRuns, hplanned, h⟩ := bind_eq_ok.mp h
  obtain ⟨results, hresults, h⟩ := bind_eq_ok.mp h
  obtain ⟨runs, hruns, h⟩ := bind_eq_ok.mp h
  obtain ⟨-, rfl⟩ := buildRunsTable_eq_ok_iff.mp hruns
  cases h
  exact ⟨plannedRuns, results, mapError_eq_ok.mp hplanned, exported_of_exportRuns hresults, rfl⟩

/-- The seeds that are written are those of the plan. -/
theorem forall_fitsInt64_iff (h : plannedRuns.Forall₂ Exported results) :
    (∀ result ∈ results, FitsInt64 result.plannedRun.runConfig.seed) ↔
      ∀ run ∈ plannedRuns, FitsInt64 run.runConfig.seed := by
  induction h with
  | nil => simp
  | cons hfirst hrest ih =>
      rw [List.forall_mem_cons, List.forall_mem_cons, ih, hfirst.plannedRun_eq]

/-- A run of a plan can be written: its target is an asset of the plant, its times are dates and its
seed has 64 bits. -/
structure Writable (plannedRun : PlannedRun (Number format)) : Prop where
  target : ∃ target, PlantAsset.ofId? plannedRun.runConfig.targetAssetId = some target
  datable : plannedRun.config.Datable
  seed : FitsInt64 plannedRun.runConfig.seed

/-- A dataset is generated exactly if there is room for it and its runs can be planned and written:
neither the simulation nor the noise raises anything. -/
theorem exists_generateDataset_iff (draws : DatasetDraws format)
    (spec : DatasetSpec (Number format)) (entries? : Option (List String)) (overwrite : Bool) :
    (∃ files, generateDataset draws spec entries? overwrite = .ok files) ↔
      ((∀ entries, entries? = some entries → entries = []) ∨ overwrite = true) ∧
      ∃ plannedRuns, planRuns draws.random spec = .ok plannedRuns ∧
        ∀ plannedRun ∈ plannedRuns, Writable plannedRun := by
  have hroom : ((∀ entries, entries? = some entries → entries = []) ∨ overwrite = true) ↔
      ¬ (entries?.any (fun entries => entries ≠ []) ∧ overwrite = false) := by
    cases entries? <;> cases overwrite <;> simp
  unfold generateDataset
  rw [hroom]
  by_cases htaken : entries?.any (fun entries => entries ≠ []) ∧ overwrite = false
  · rw [if_pos htaken]
    refine iff_of_false ?_ fun h => h.1 htaken
    rintro ⟨files, h⟩
    cases h
  rw [if_neg htaken]
  simp only [htaken, not_false_eq_true, true_and]
  rw [exists_bind_eq_ok]
  refine exists_congr fun plannedRuns => and_congr mapError_eq_ok ?_
  constructor
  · rintro ⟨files, h⟩ plannedRun hmem
    obtain ⟨results, hresults, h⟩ := bind_eq_ok.mp h
    obtain ⟨runs, hruns, -⟩ := bind_eq_ok.mp h
    -- a run that was written has its asset, its dates and its seed
    obtain ⟨htarget, hdatable⟩ := exists_exportRuns_iff.mp ⟨results, hresults⟩ plannedRun hmem
    have hseeds := (forall_fitsInt64_iff (exported_of_exportRuns hresults)).mp
      (buildRunsTable_eq_ok_iff.mp hruns).1
    exact ⟨htarget, hdatable, hseeds plannedRun hmem⟩
  · intro hwritable
    obtain ⟨results, hresults⟩ := exists_exportRuns_iff.mpr fun plannedRun hmem =>
      ⟨(hwritable plannedRun hmem).target, (hwritable plannedRun hmem).datable⟩
    have hseeds := (forall_fitsInt64_iff (exported_of_exportRuns hresults)).mpr
      fun run hrun => (hwritable run hrun).seed
    have hruns := buildRunsTable_eq_ok_iff.mpr ⟨hseeds, rfl⟩
    exact ⟨_, bind_eq_ok.mpr ⟨results, hresults, bind_eq_ok.mpr ⟨_, hruns, rfl⟩⟩⟩

/-! ### Planned runs -/

/-- What a run takes over from its specification. -/
structure PlannedFor (spec : DatasetSpec (Number format)) (run : PlannedRun (Number format)) :
    Prop where
  runId : run.runConfig.simulationRunId = run.simulationRunId
  classLabel : run.classLabel = run.runConfig.scenarioName.value
  datasetId : run.datasetId = spec.val.datasetId
  dtSeconds : run.runConfig.dtSeconds = spec.val.dtSeconds

/-- The config of a run has the fields that it was made with. -/
theorem fields_of_create {F : Type} [PyFloat F] {config : RunConfigFields F} {seed : ℤ}
    {sensorNoise : List (SensorNoiseConfig F)} {runConfig : SeededRunConfig F}
    (h : SeededRunConfig.create config seed sensorNoise = .ok runConfig) :
    runConfig.toRunConfigFields = config := by
  unfold SeededRunConfig.create at h
  split at h
  · cases h
    rfl
  · cases h

/-- A resolved configuration has the id, the scenario and the step of its template. -/
theorem of_resolveRunConfig {random : RandomSource (Number format)}
    {template : RunTemplate (Number format)} {runConfig : SeededRunConfig (Number format)}
    (h : resolveRunConfig random template = .ok runConfig) :
    runConfig.simulationRunId = template.simulationRunId ∧
      runConfig.scenarioName = template.scenarioName ∧
      runConfig.dtSeconds = template.dtSeconds := by
  obtain ⟨sensorNoise, -, h⟩ := bind_eq_ok.mp h
  obtain ⟨conditions, -, h⟩ := bind_eq_ok.mp h
  obtain ⟨window, -, h⟩ := bind_eq_ok.mp h
  have hfields := fields_of_create h
  rw [hfields]
  exact ⟨rfl, rfl, rfl⟩

/-- A run is planned for the spec. -/
theorem plannedFor_of_planRun {random : RandomSource (Number format)}
    {plan : ScenarioRunSpec (Number format)} {seedCursor localIndex : ℕ}
    {run : PlannedRun (Number format)}
    (h : planRun random spec plan seedCursor localIndex = .ok run) : PlannedFor spec run := by
  unfold planRun at h
  split at h
  · split at h
    · obtain ⟨runConfig, hconfig, h⟩ := bind_eq_ok.mp h
      cases h
      obtain ⟨hrunId, hscenario, hstep⟩ := of_resolveRunConfig hconfig
      exact ⟨hrunId, congrArg DatasetScenario.value hscenario.symm, rfl, hstep⟩
    · cases h
  · cases h

/-- So are all runs of its scenarios. -/
theorem plannedFor_of_planScenarios {random : RandomSource (Number format)}
    {plans : List (ScenarioRunSpec (Number format))} {seedCursor : ℕ}
    (h : planScenarios random spec seedCursor plans = .ok plannedRuns) :
    ∀ run ∈ plannedRuns, PlannedFor spec run := by
  induction plans generalizing seedCursor plannedRuns with
  | nil =>
      cases h
      exact fun _ hmem => absurd hmem List.not_mem_nil
  | cons plan plans ih =>
      obtain ⟨first, hfirst, hrest⟩ := bind_eq_ok.mp h
      obtain ⟨others, hothers, hruns⟩ := bind_eq_ok.mp hrest
      cases hruns
      intro run hmem
      rcases List.mem_append.mp hmem with hmem | hmem
      · obtain ⟨localIndex, -, hrun⟩ := (mem_of_mapM hfirst).mp hmem
        exact plannedFor_of_planRun hrun
      · exact ih hothers run hmem

/-! ### The tables -/

/-- The ticks of the runs, one run after the other. -/
def runTicks (plannedRuns : List (PlannedRun (Number format))) :
    List (PlannedRun (Number format) × ℕ) :=
  plannedRuns.flatMap fun run => (List.range' 1 run.config.totalSteps).map (run, ·)

/-- The ticks of a run are those of its steps. -/
theorem mem_runTicks {run : PlannedRun (Number format)} {tick : ℕ} :
    (run, tick) ∈ runTicks plannedRuns ↔
      run ∈ plannedRuns ∧ 1 ≤ tick ∧ tick ≤ run.config.totalSteps := by
  simp only [runTicks, List.mem_flatMap, List.mem_map, List.mem_range'_1, Prod.mk.injEq]
  constructor
  · rintro ⟨run', hrun, tick', htick, rfl, rfl⟩
    exact ⟨hrun, htick.1, by omega⟩
  · rintro ⟨hrun, hone, hle⟩
    exact ⟨run, hrun, tick, ⟨hone, by omega⟩, rfl, rfl⟩

section Parts

variable {α β γ : Type}

/-- What is put together of disjoint parts has nothing twice. -/
theorem nodup_flatMap_of_eq {f : α → List β} {l : List α} (hl : l.Nodup)
    (hparts : ∀ a ∈ l, (f a).Nodup)
    (heq : ∀ a ∈ l, ∀ b ∈ l, ∀ x, x ∈ f a → x ∈ f b → a = b) : (l.flatMap f).Nodup := by
  refine List.nodup_flatMap.mpr ⟨hparts, ?_⟩
  refine List.Pairwise.imp_of_mem (fun {a b} ha hb hne => ?_) hl
  exact fun x hxa hxb => hne (heq a ha b hb x hxa hxb)

/-- Lists that agree part by part agree. -/
theorem flatMap_eq_of_forall₂ {f : α → List γ} {g : β → List γ} {l : List α} {l' : List β}
    (h : l.Forall₂ (fun a b => g b = f a) l') : l'.flatMap g = l.flatMap f := by
  induction h with
  | nil => rfl
  | cons hfirst hrest ih => rw [List.flatMap_cons, List.flatMap_cons, hfirst, ih]

end Parts

namespace Generated

variable (h : Generated draws spec plannedRuns results files)
include h

/-- All planned runs are planned for the spec. -/
theorem plannedFor : ∀ run ∈ plannedRuns, PlannedFor spec run :=
  plannedFor_of_planScenarios h.planned

/-- The rows of telemetry: tick by tick, asset by asset, channel by channel. -/
theorem telemetry : files.telemetry.map TelemetryRow.frame =
    (runTicks plannedRuns).flatMap fun place => place.1.framesAt place.2 := by
  rw [h.files_eq]
  show (results.flatMap RunExport.telemetry).map TelemetryRow.frame = _
  rw [List.map_flatMap, runTicks, List.flatMap_assoc]
  simp only [List.flatMap_map]
  exact flatMap_eq_of_forall₂ (h.exported.imp fun _ _ hrun => hrun.telemetry)

/-- The labels: tick by tick, asset by asset. -/
theorem groundTruth : files.groundTruth =
    (runTicks plannedRuns).flatMap fun place => PlantAsset.all.map (place.1.labelAt place.2) := by
  rw [h.files_eq, runTicks, List.flatMap_assoc]
  simp only [List.flatMap_map]
  exact flatMap_eq_of_forall₂ (h.exported.imp fun _ _ hrun => hrun.groundTruth)

/-- No run has a tick twice. -/
theorem nodup_runTicks : (runTicks plannedRuns).Nodup := by
  have hplanned : plannedRuns.Nodup := (nodup_planRuns h.planned).of_map _
  refine nodup_flatMap_of_eq hplanned (fun run _ => ?_) fun run _ run' _ place hplace hplace' => ?_
  · exact List.Nodup.map (Prod.mk_right_injective run) List.nodup_range'
  · obtain ⟨tick, -, rfl⟩ := List.mem_map.mp hplace
    obtain ⟨tick', -, heq⟩ := List.mem_map.mp hplace'
    exact (Prod.mk.inj heq).1.symm

/-- Two runs with the same id are the same. -/
theorem eq_of_runId {run run' : PlannedRun (Number format)} (hrun : run ∈ plannedRuns)
    (hrun' : run' ∈ plannedRuns) (hid : run.simulationRunId = run'.simulationRunId) : run = run' :=
  List.inj_on_of_nodup_map (nodup_planRuns h.planned) hrun hrun' hid

/-- A key of the rows of telemetry has nothing twice, if it tells their places, assets and
channels. -/
theorem nodup_telemetry {κ : Type} {key : TelemetryFrame format → κ}
    (hkey : ∀ place ∈ runTicks plannedRuns, ∀ place' ∈ runTicks plannedRuns,
      ∀ asset asset' channel channel', key (place.1.frame place.2 asset channel) =
        key (place'.1.frame place'.2 asset' channel') →
          place = place' ∧ asset = asset' ∧ channel = channel') :
    ((files.telemetry.map TelemetryRow.frame).map key).Nodup := by
  rw [h.telemetry, List.map_flatMap]
  refine nodup_flatMap_of_eq h.nodup_runTicks (fun place hplace => ?_)
    fun place hplace place' hplace' k hk hk' => ?_
  · rw [PlannedRun.framesAt, List.map_flatMap]
    refine nodup_flatMap_of_eq (by decide) (fun asset _ => ?_) fun asset _ asset' _ k hk hk' => ?_
    -- rows of one asset differ by their channels
    · rw [List.map_map]
      exact List.Nodup.map_on (fun channel _ channel' _ heq =>
        (hkey place hplace place hplace asset asset channel channel' heq).2.2) Channel.nodup_all
    -- rows of one place differ by their assets, and those of two places by the places
    · obtain ⟨frame, hframe, rfl⟩ := List.mem_map.mp hk
      obtain ⟨channel, -, rfl⟩ := List.mem_map.mp hframe
      obtain ⟨frame', hframe', heq⟩ := List.mem_map.mp hk'
      obtain ⟨channel', -, rfl⟩ := List.mem_map.mp hframe'
      exact (hkey place hplace place hplace asset asset' channel channel' heq.symm).2.1
  · obtain ⟨frame, hframe, rfl⟩ := List.mem_map.mp hk
    obtain ⟨asset, -, hframe⟩ := List.mem_flatMap.mp hframe
    obtain ⟨channel, -, rfl⟩ := List.mem_map.mp hframe
    obtain ⟨frame', hframe', heq⟩ := List.mem_map.mp hk'
    obtain ⟨asset', -, hframe'⟩ := List.mem_flatMap.mp hframe'
    obtain ⟨channel', -, rfl⟩ := List.mem_map.mp hframe'
    exact (hkey place hplace place' hplace' asset asset' channel channel' heq.symm).1

/-- A key of the labels has nothing twice, if it tells their places and assets. -/
theorem nodup_groundTruth {κ : Type} {key : GroundTruthRow format → κ}
    (hkey : ∀ place ∈ runTicks plannedRuns, ∀ place' ∈ runTicks plannedRuns, ∀ asset asset',
      key (place.1.labelAt place.2 asset) = key (place'.1.labelAt place'.2 asset') →
        place = place' ∧ asset = asset') :
    (files.groundTruth.map key).Nodup := by
  rw [h.groundTruth, List.map_flatMap]
  refine nodup_flatMap_of_eq h.nodup_runTicks (fun place hplace => ?_)
    fun place hplace place' hplace' k hk hk' => ?_
  · rw [List.map_map]
    exact List.Nodup.map_on (fun asset _ asset' _ heq =>
      (hkey place hplace place hplace asset asset' heq).2) (by decide)
  · obtain ⟨label, hlabel, rfl⟩ := List.mem_map.mp hk
    obtain ⟨asset, -, rfl⟩ := List.mem_map.mp hlabel
    obtain ⟨label', hlabel', heq⟩ := List.mem_map.mp hk'
    obtain ⟨asset', -, rfl⟩ := List.mem_map.mp hlabel'
    exact (hkey place hplace place' hplace' asset asset' heq.symm).1

/-- No id is given to two observations. -/
theorem nodup_observationIds : (files.telemetry.map TelemetryRow.observationId).Nodup := by
  suffices hnodup : ((files.telemetry.map TelemetryRow.frame).map
      TelemetryFrame.observationId).Nodup by
    rwa [List.map_map] at hnodup
  apply h.nodup_telemetry
  rintro ⟨run, tick⟩ hplace ⟨run', tick'⟩ hplace' asset asset' channel channel' heq
  obtain ⟨hid, hasset, htick, hchannel⟩ := observationId_inj heq
  have hrun := (mem_runTicks.mp hplace).1
  have hrun' := (mem_runTicks.mp hplace').1
  have hid : run.simulationRunId = run'.simulationRunId := by
    rw [← (h.plannedFor run hrun).runId, ← (h.plannedFor run' hrun').runId]
    exact hid
  exact ⟨Prod.ext (h.eq_of_runId hrun hrun' hid) htick, hasset, hchannel⟩

/-- The exported runs are the planned ones. -/
theorem plannedRuns_eq : results.map RunExport.plannedRun = plannedRuns := by
  rw [← List.forall₂_eq_eq_eq, List.forall₂_map_left_iff]
  exact (h.exported.imp fun _ _ hrun => hrun.plannedRun_eq).flip

/-- The table of the runs lists their ids. -/
theorem runIds : files.runs.map RunRow.simulationRunId =
    plannedRuns.map PlannedRun.simulationRunId := by
  rw [h.files_eq, ← h.plannedRuns_eq, List.map_map]
  show (results.map RunExport.runRow).map RunRow.simulationRunId = _
  rw [List.map_map]
  rfl

/-- The splits have the runs, each as often as it is planned. -/
theorem perm_splits : (files.splits.train ++ files.splits.validation ++ files.splits.test).Perm
    (plannedRuns.map PlannedRun.simulationRunId) := by
  rw [h.files_eq]
  exact perm_assignSplits

/-- The manifest counts the rows of the tables. -/
theorem rowCounts : files.manifest.rowCounts =
    ⟨files.telemetry.length, files.groundTruth.length, files.runs.length⟩ := by
  rw [h.files_eq]
  simp [filesOf, buildManifest, List.length_flatMap]

end Generated

/-- The files have all that is to be known of the runs of a plan, and nothing else. -/
structure DatasetFiles.Complete (files : DatasetFiles format)
    (plannedRuns : List (PlannedRun (Number format))) : Prop where
  /-- There is a row of telemetry for every tick, asset and channel of every run. -/
  telemetry : files.telemetry.map TelemetryRow.frame =
    (runTicks plannedRuns).flatMap fun place => place.1.framesAt place.2
  /-- There is a label for every tick and asset of every run. -/
  groundTruth : files.groundTruth =
    (runTicks plannedRuns).flatMap fun place => PlantAsset.all.map (place.1.labelAt place.2)
  observationIds : (files.telemetry.map TelemetryRow.observationId).Nodup
  runs : files.runs.map RunRow.simulationRunId = plannedRuns.map PlannedRun.simulationRunId
  /-- Every run is in one split. -/
  splits : (files.splits.train ++ files.splits.validation ++ files.splits.test).Perm
    (files.runs.map RunRow.simulationRunId)
  once : (files.runs.map RunRow.simulationRunId).Nodup
  rowCounts : files.manifest.rowCounts =
    ⟨files.telemetry.length, files.groundTruth.length, files.runs.length⟩

/-- A dataset is generated exactly if its output directory is empty or may be replaced, and its runs
can be planned and written. Its files are complete then, whatever is drawn for them. -/
theorem generateDataset_complete (draws : DatasetDraws format) (spec : DatasetSpec (Number format))
    (entries? : Option (List String)) (overwrite : Bool) :
    ((∃ files, generateDataset draws spec entries? overwrite = .ok files) ↔
      ((∀ entries, entries? = some entries → entries = []) ∨ overwrite = true) ∧
      ∃ plannedRuns, planRuns draws.random spec = .ok plannedRuns ∧
        ∀ plannedRun ∈ plannedRuns, Writable plannedRun) ∧
    ∀ files, generateDataset draws spec entries? overwrite = .ok files →
      ∃ plannedRuns, planRuns draws.random spec = .ok plannedRuns ∧ files.Complete plannedRuns := by
  refine ⟨exists_generateDataset_iff draws spec entries? overwrite, fun files hfiles => ?_⟩
  obtain ⟨plannedRuns, results, h⟩ := exists_generated hfiles
  refine ⟨plannedRuns, h.planned, h.telemetry, h.groundTruth, h.nodup_observationIds, h.runIds,
    ?_, ?_, h.rowCounts⟩
  · rw [h.runIds]
    exact h.perm_splits
  · rw [h.runIds]
    exact nodup_planRuns h.planned

end Generation

/-! ## A dataset of one run -/

section Example

/-- The numbers of the dataset. -/
abbrev tinyFormat : NumberFormat := .exact id id 3

/-- A cooling degradation that starts ten seconds into a run. -/
def tinyPlan : ScenarioRunSpec (Number tinyFormat) where
  val :=
    { scenarioName := .coolingDegradation
      runCount := 1
      faultStartSimSeconds := some (literal 10)
      faultStartRange := none
      faultDurationSimSeconds := some (literal 20)
      faultSeverity := some (literal 0.5)
      faultSeverityRange := none }
  valid := eq_ok_of_toBool (by decide +kernel)

/-- The dataset of the example starts at a time that is a date. -/
theorem tinyStart_inRange : Datetime.IsoDatetime.InRange ⟨0, some 0⟩ :=
  ⟨by decide, by decide, fun _ h => by rw [← Option.some.inj h]; decide⟩

/-- A specification of one run of a minute. -/
def tinySpecFields : DatasetSpecFields (Number tinyFormat) where
  datasetId := "tiny"
  schemaVersion := schemaVersion
  simulatorVersion := "1"
  scenarioPlans := [tinyPlan]
  seeds := [7]
  targetAssetIds := ["fuel-cell-stack-01"]
  durationSimSeconds := literal 60
  dtSeconds := literal 10
  runStartTime := ⟨⟨0, some 0⟩, tinyStart_inRange⟩
  operatingConditionRanges := ⟨(literal 50, literal 70), (literal 5, literal 18),
    (literal 180, literal 420), (literal 0, literal 6), (literal (-5), literal 5),
    (literal (-3), literal 3)⟩
  sensorNoise := []
  sensorNoiseRegimes := []
  splitProportions :=
    ⟨⟨literal 0.5, literal 0.25, literal 0.25⟩, eq_ok_of_toBool (by decide +kernel)⟩
  outputDirectory := "out"

/-- Its spec is valid. -/
theorem tinySpecFields_valid : tinySpecFields.validate = .ok () :=
  eq_ok_of_toBool (by decide +kernel)

/-- The dataset of this run. -/
def tinySpec : DatasetSpec (Number tinyFormat) := ⟨tinySpecFields, tinySpecFields_valid⟩

/-- Draws in the middle of every range, and no noise. -/
def tinyDraws : DatasetDraws tinyFormat where
  random := ⟨Unit, fun _ => (), fun _ => (literal 0.5, ()), fun n _ => (⟨0, n.succ_pos⟩, ())⟩
  shuffle := fun _ _ => Equiv.refl _
  noise := ⟨Unit, fun _ => (), fun _ _ => (literal 0, ())⟩

/-- Its runs can be planned and written. -/
theorem exists_tinyRuns : ∃ plannedRuns, planRuns tinyDraws.random tinySpec = .ok plannedRuns ∧
    ∀ run ∈ plannedRuns, Writable run := by
  have hcheck : ((planRuns tinyDraws.random tinySpec).toOption.any fun runs =>
      runs.all fun run => (PlantAsset.ofId? run.runConfig.targetAssetId).isSome ∧
        run.config.Datable ∧ FitsInt64 run.runConfig.seed) = true := by
    decide +kernel
  cases hplanned : planRuns tinyDraws.random tinySpec with
  | error error =>
      rw [hplanned] at hcheck
      cases hcheck
  | ok plannedRuns =>
      rw [hplanned] at hcheck
      refine ⟨plannedRuns, rfl, fun run hrun => ?_⟩
      obtain ⟨htarget, hdatable, hseed⟩ := of_decide_eq_true (List.all_eq_true.mp hcheck run hrun)
      exact ⟨Option.isSome_iff_exists.mp htarget, hdatable, hseed⟩

/-- So it is generated. -/
theorem exists_tinyFiles : ∃ files, generateDataset tinyDraws tinySpec none false = .ok files :=
  (exists_generateDataset_iff tinyDraws tinySpec none false).mpr
    ⟨Or.inl (by simp), exists_tinyRuns⟩

/-- The dataset is generated where there is no output directory, with all rows of its run. -/
theorem generateDataset_complete_tiny : ∃ files plannedRuns,
    generateDataset tinyDraws tinySpec none false = .ok files ∧
      planRuns tinyDraws.random tinySpec = .ok plannedRuns ∧ files.Complete plannedRuns ∧
      plannedRuns.length = 1 := by
  obtain ⟨hgenerated, hcomplete⟩ := generateDataset_complete tinyDraws tinySpec none false
  obtain ⟨files, hfiles⟩ := hgenerated.mpr ⟨Or.inl (by simp), exists_tinyRuns⟩
  obtain ⟨plannedRuns, hplanned, hrows⟩ := hcomplete files hfiles
  have hcount : ((planRuns tinyDraws.random tinySpec).toOption.map List.length) = some 1 := by
    decide +kernel
  rw [hplanned] at hcount
  exact ⟨files, plannedRuns, hfiles, hplanned, hrows, Option.some.inj hcount⟩

end Example

end Odis.Simulator
