import Odis.Library.OrderBy
import Odis.Simulator.Generation

/-!
# The audit of labels

`check_labels` (`dataset/audit/labels.py`) computes the labels of a dataset once more, from the
configurations in `runs.parquet`, and looks for labels that contradict themselves. Whatever it finds
is a finding of some severity (`findings.py`), and the worst one decides the verdict (`verdict.py`).

* `checkLabels_generated`: what it finds in a dataset that `generate_dataset` has written.
-/

namespace Odis.Simulator

open Arithmetic Exceptions OrderBy

variable {format : NumberFormat}

/-! ## Findings -/

/-- `Severity`. -/
inductive FindingSeverity where
  | blocking
  | high
  | medium
  | low
  deriving DecidableEq, Repr

/-- `Finding`. -/
structure Finding (format : NumberFormat) where
  severity : FindingSeverity
  category : String
  message : String
  evidence : List (String × Json (Number format)) := []

/-- `math.isclose`. -/
def isclose (relTol absTol a b : Number format) : Bool :=
  a = b ||
    let difference := absolute (b - a)
    difference ≤ absolute (relTol * b) || difference ≤ absolute (relTol * a) ||
      difference ≤ absTol

/-- Every number is close to itself. -/
@[simp]
theorem isclose_self (relTol absTol a : Number format) : isclose relTol absTol a a = true := by
  simp [isclose]

/-! ## Labels that are computed once more -/

/-- What is raised while labels are checked. -/
inductive LabelAuditError where
  | scenario (error : PyException)
  | runConfig (error : RunConfigError)
  | emptyAssetId
  deriving DecidableEq, Repr

/-- `OperatingConditions()`. -/
def OperatingConditions.default : OperatingConditions (Number format) where
  loadBaselinePercent := literal 60.0
  loadAmplitudePercent := literal 15.0
  loadPeriodSeconds := literal 300.0
  loadPhaseRadians := literal 0.0
  loadOffsetPercent := literal 0.0
  stackTemperatureOffsetCelsius := literal 0.0

/-- The call of the constructor of `RunConfig`. -/
def RunConfig.create (config : RunConfigFields (Number format)) :
    Except RunConfigError (RunConfig (Number format)) :=
  match h : config.validate with
  | .ok () => .ok ⟨config, h⟩
  | .error error => .error error

/-- A config that is valid is created. -/
theorem RunConfig.create_of_valid {config : RunConfigFields (Number format)}
    (h : config.validate = .ok ()) : RunConfig.create config = .ok ⟨config, h⟩ := by
  unfold create
  split
  · rfl
  next error herror =>
    rw [h] at herror
    cases herror

/-- `_reconstruct_run_config`. The seed is read for no label. -/
def reconstructRunConfig (row : RunRow format) :
    Except LabelAuditError (RunConfig (Number format)) := do
  let scenario ← (DatasetScenario.read (.str row.classLabel : Json (Number format))).mapError
    .scenario
  let config := RunConfig.create
    { simulationRunId := row.simulationRunId
      scenarioName := scenario
      targetAssetId := row.targetAssetId
      durationSimSeconds := row.durationSimSeconds
      dtSeconds := row.dtSeconds
      runStartTime := row.runStartTime
      faultStartSimSeconds := row.faultStartSimSeconds
      faultDurationSimSeconds := row.faultDurationSimSeconds
      faultSeverity := row.faultSeverity
      operatingConditions := .default }
  config.mapError .runConfig

/-- What a label says. -/
structure Label (format : NumberFormat) where
  faultType : String
  faultActive : Bool
  faultSeverity : Number format
  secondsSinceFaultStart : Option (Number format)
  sensorCorruptionType : String

/-- The label of a row. -/
def GroundTruthRow.label (row : GroundTruthRow format) : Label format where
  faultType := row.faultType
  faultActive := row.faultActive
  faultSeverity := row.faultSeverity
  secondsSinceFaultStart := row.secondsSinceFaultStart
  sensorCorruptionType := row.sensorCorruptionType

/-- The seconds since the fault start and the progress of the ramp, as `compute_ground_truth` finds
them for the asset of any id. -/
def activeRampOf? (config : RunConfig (Number format)) (assetId : String)
    (elapsed : Number format) : Option (Number format × Number format) :=
  match config.faultStartSimSeconds, config.faultDurationSimSeconds with
  | some faultStart, some faultDuration =>
      if assetId = config.targetAssetId ∧ faultStart ≤ elapsed then
        some (elapsed - faultStart, min (literal 1.0) ((elapsed - faultStart) / faultDuration))
      else none
  | _, _ => none

/-- The audit looks up the ramp of an asset by its id. -/
theorem activeRampOf?_id (config : RunConfig (Number format)) (asset : PlantAsset)
    (elapsed : Number format) :
    activeRampOf? config asset.id elapsed = activeRamp? config asset elapsed := by
  unfold activeRampOf? activeRamp?
  cases config.faultStartSimSeconds <;> cases config.faultDurationSimSeconds <;> rfl

/-- `compute_ground_truth`, for the asset of any id. -/
def recomputeLabel (config : RunConfig (Number format)) (assetId : String)
    (elapsed : Number format) : Except LabelAuditError (Label format) :=
  let ramp? := activeRampOf? config assetId elapsed
  let faultType := if assetId ≠ config.targetAssetId then .none else faultTypeOf config.scenarioName
  let corruption :=
    if assetId ≠ config.targetAssetId then .none else sensorCorruptionOf config.scenarioName
  if assetId = "" then .error .emptyAssetId
  else .ok {
    faultType := faultType.value
    faultActive := ramp?.isSome
    faultSeverity := reportedSeverity config ramp?
    secondsSinceFaultStart := ramp?.map Prod.fst
    sensorCorruptionType := corruption.value }

/-- `_matches`. -/
def Label.matchesLabel (expected label : Label format) : Bool :=
  let close := isclose (literal 1e-9) (literal 1e-6)
  expected.faultType = label.faultType && expected.faultActive = label.faultActive &&
    close expected.faultSeverity label.faultSeverity &&
    (match expected.secondsSinceFaultStart, label.secondsSinceFaultStart with
      | none, none => true
      | some seconds, some seconds' => close seconds seconds'
      | _, _ => false) &&
    expected.sensorCorruptionType = label.sensorCorruptionType

/-- A label matches itself. -/
@[simp]
theorem Label.matchesLabel_self (label : Label format) : label.matchesLabel label = true := by
  unfold matchesLabel
  cases label.secondsSinceFaultStart <;> simp

/-! ## The tally -/

/-- What the loop of `check_labels` counts, with the examples that it keeps. -/
structure LabelTally (format : NumberFormat) where
  recomputeMismatchCount : ℕ
  recomputeMismatches : List (Json (Number format))
  wrongAssetLabeled : ℕ
  wrongAssetExamples : List (Json (Number format))
  inactiveNonzeroSeverity : ℕ
  activeNonpositiveSeverity : ℕ
  onsetMismatchExamples : List (Json (Number format))
  secondsNullMismatch : ℕ
  classLabelMismatches : List (Json (Number format))
  healthyRunActiveLabels : ℕ
  healthyRunExamples : List (Json (Number format))
  severitySeries : OrderedDict (id : String × String → String × String)
    (List (Number format × Number format))

/-- The tally before the loop. -/
def LabelTally.empty : LabelTally format :=
  ⟨0, [], 0, [], 0, 0, [], 0, [], 0, [], .empty⟩

/-- The first five examples are kept. -/
def keepFive {α : Type} (examples : List α) (example_ : α) : List α :=
  if examples.length < 5 then examples ++ [example_] else examples

namespace LabelTally

variable (tally : LabelTally format) (row : GroundTruthRow format)

/-- The row does not match its label computed once more. -/
def countMismatch (expected : Label format) : LabelTally format :=
  if expected.matchesLabel row.label then tally
  else { tally with
    recomputeMismatchCount := tally.recomputeMismatchCount + 1
    recomputeMismatches := keepFive tally.recomputeMismatches (.obj [
      ("run_id", .str row.simulationRunId), ("asset_id", .str row.assetId),
      ("elapsed_sim_seconds", .float row.elapsedSimSeconds)]) }

/-- The row has a fault for an asset that is not the target. -/
def countWrongAsset (isTarget : Bool) : LabelTally format :=
  if !isTarget &&
      (row.faultType ≠ "none" || row.faultActive || row.sensorCorruptionType ≠ "none") then
    { tally with
      wrongAssetLabeled := tally.wrongAssetLabeled + 1
      wrongAssetExamples := keepFive tally.wrongAssetExamples (.obj [
        ("run_id", .str row.simulationRunId), ("asset_id", .str row.assetId)]) }
  else tally

/-- The row has a severity while no fault is active. -/
def countInactive : LabelTally format :=
  if !row.faultActive && row.faultSeverity ≠ literal 0.0 then
    { tally with inactiveNonzeroSeverity := tally.inactiveNonzeroSeverity + 1 }
  else tally

/-- The row has no positive severity past the onset of its fault. -/
def countNonpositive : LabelTally format :=
  if !row.faultActive then tally
  else if row.faultSeverity < literal 0.0 then
    { tally with activeNonpositiveSeverity := tally.activeNonpositiveSeverity + 1 }
  else if row.secondsSinceFaultStart.any (literal 0.0 < ·) && row.faultSeverity ≤ literal 0.0 then
    { tally with
      activeNonpositiveSeverity := tally.activeNonpositiveSeverity + 1
      onsetMismatchExamples := keepFive tally.onsetMismatchExamples (.obj [
        ("run_id", .str row.simulationRunId),
        ("elapsed_sim_seconds", .float row.elapsedSimSeconds)]) }
  else tally

/-- The row has seconds since a fault start without a fault, or none with one. -/
def countNullMismatch : LabelTally format :=
  let withNull :=
    if row.faultActive && row.secondsSinceFaultStart.isNone then
      { tally with secondsNullMismatch := tally.secondsNullMismatch + 1 }
    else tally
  if !row.faultActive && row.secondsSinceFaultStart.isSome then
    { withNull with secondsNullMismatch := withNull.secondsNullMismatch + 1 }
  else withNull

/-- The fault type and the sensor corruption that a class has while its fault is active. -/
def expectedOfClass (classLabel : String) : Option (String × String) :=
  if classLabel = "sensor_anomaly" then some ("none", "bias")
  else if classLabel = "cooling_degradation" ∨ classLabel = "hydrogen_supply_issue" then
    some (classLabel, "none")
  else none

/-- The row has another fault than the class of its run. -/
def countClassMismatch (classLabel : String) (isTarget : Bool) : LabelTally format :=
  match expectedOfClass classLabel with
  | none => tally
  | some (faultType, corruption) =>
      if isTarget && row.faultActive &&
          (row.faultType ≠ faultType || row.sensorCorruptionType ≠ corruption) then
        { tally with classLabelMismatches := tally.classLabelMismatches ++ [.obj [
            ("run_id", .str row.simulationRunId), ("class_label", .str classLabel),
            ("fault_type", .str row.faultType),
            ("sensor_corruption_type", .str row.sensorCorruptionType)]] }
      else tally

/-- The row has a fault in a healthy run. -/
def countHealthyRun (classLabel : String) : LabelTally format :=
  if classLabel = "normal_operation" &&
      (row.faultActive || row.faultType ≠ "none" || row.sensorCorruptionType ≠ "none") then
    { tally with
      healthyRunActiveLabels := tally.healthyRunActiveLabels + 1
      healthyRunExamples := keepFive tally.healthyRunExamples (.obj [
        ("run_id", .str row.simulationRunId), ("asset_id", .str row.assetId)]) }
  else tally

/-- The row is a point of the ramp of its run. -/
def extendSeries (isTarget : Bool) : LabelTally format :=
  if isTarget && row.faultActive then
    let key := (row.simulationRunId, row.assetId)
    let series := (tally.severitySeries.get? key).getD []
    { tally with severitySeries :=
        tally.severitySeries.set key (series ++ [(row.elapsedSimSeconds, row.faultSeverity)]) }
  else tally

/-- What the loop counts of a row. -/
def count (expected : Label format) (classLabel : String) (isTarget : Bool) : LabelTally format :=
  let tally := tally.countMismatch row expected
  let tally := tally.countWrongAsset row isTarget
  let tally := tally.countInactive row
  let tally := tally.countNonpositive row
  let tally := tally.countNullMismatch row
  let tally := tally.countClassMismatch row classLabel isTarget
  let tally := tally.countHealthyRun row classLabel
  tally.extendSeries row isTarget

end LabelTally

/-- A round of the loop of `check_labels`. A configuration is made anew for each row, as it is the
same for all the rows of a run. -/
def tallyRow (runs : List (RunRow format)) (tally : LabelTally format)
    (row : GroundTruthRow format) : Except LabelAuditError (LabelTally format) := do
  let some runRow := runs.reverse.find? fun runRow => runRow.simulationRunId = row.simulationRunId
    | return tally
  let config ← reconstructRunConfig runRow
  let expected ← recomputeLabel config row.assetId row.elapsedSimSeconds
  return tally.count row expected runRow.classLabel (row.assetId = runRow.targetAssetId)

/-! ## The findings of the tally -/

/-- A finding, if something is counted. -/
def findingOf (count : ℕ) (severity : FindingSeverity) (message : String)
    (evidence : List (String × Json (Number format))) : List (Finding format) :=
  if count = 0 then []
  else [{ severity, category := "labeling", message := toString count ++ message, evidence }]

/-- Examples, as the evidence of a finding. -/
def examplesOf (examples : List (Json (Number format))) :
    List (String × Json (Number format)) := [("examples", .arr examples)]

namespace LabelTally

variable (tally : LabelTally format)

/-- The severities of a ramp, by time. -/
def isNonMonotonic (series : List (Number format × Number format)) : Bool :=
  let severities := (orderBy Prod.fst series).map Prod.snd
  (severities.zip severities.tail).any fun (earlier, later) => later < earlier - literal 1e-6

/-- The runs whose severity falls while their fault is active. -/
def nonMonotonicRamps : List String :=
  (tally.severitySeries.items.filter fun entry => isNonMonotonic entry.2).map fun entry =>
    entry.1.1

/-- The finding of rows past the onset of their fault. -/
def nonpositiveFinding : List (Finding format) :=
  findingOf tally.activeNonpositiveSeverity .high
    " active ground-truth row(s) past fault onset report non-positive fault_severity"
    (examplesOf tally.onsetMismatchExamples)

/-- What `check_labels` reports. -/
def findings : List (Finding format) :=
  findingOf tally.recomputeMismatchCount .blocking
      (" ground_truth.parquet row(s) do not match recomputing ground truth from the run's " ++
        "runs.parquet configuration") (examplesOf tally.recomputeMismatches) ++
    findingOf tally.wrongAssetLabeled .blocking
      " ground-truth row(s) label a non-target asset as faulty"
      (examplesOf tally.wrongAssetExamples) ++
    findingOf tally.inactiveNonzeroSeverity .blocking
      " inactive ground-truth row(s) report a nonzero fault_severity" [] ++
    tally.nonpositiveFinding ++
    findingOf tally.secondsNullMismatch .blocking
      (" ground-truth row(s) have seconds_since_fault_start null/non-null inconsistent with " ++
        "fault_active") [] ++
    findingOf tally.classLabelMismatches.length .blocking
      (" active target-asset rows have a fault_type/sensor_corruption_type combination " ++
        "inconsistent with their run's class_label")
      (examplesOf (tally.classLabelMismatches.take 5)) ++
    findingOf tally.healthyRunActiveLabels .blocking
      " ground-truth row(s) in normal_operation runs carry an active or non-none fault label"
      (examplesOf tally.healthyRunExamples) ++
    findingOf tally.nonMonotonicRamps.length .medium
      " run(s) have a non-monotonic fault_severity ramp during the active window"
      (examplesOf (((orderBy id tally.nonMonotonicRamps).take 5).map .str))

end LabelTally

/-- `check_labels`. -/
def checkLabels (runs : List (RunRow format)) (groundTruth : List (GroundTruthRow format)) :
    Except LabelAuditError (List (Finding format)) := do
  let tally ← groundTruth.foldlM (tallyRow runs) .empty
  return tally.findings

/-! ## Rows that are generated -/

section Rows

variable {run : PlannedRun (Number format)} {result : RunExport format} {tick : ℕ}
  {asset : PlantAsset}

/-- Two configurations agree in all that labels are computed from. -/
structure RunConfig.SameFault (config config' : RunConfig (Number format)) : Prop where
  scenarioName : config.scenarioName = config'.scenarioName
  targetAssetId : config.targetAssetId = config'.targetAssetId
  faultStart : config.faultStartSimSeconds = config'.faultStartSimSeconds
  faultDuration : config.faultDurationSimSeconds = config'.faultDurationSimSeconds
  faultSeverity : config.faultSeverity = config'.faultSeverity

/-- The configuration of a run is made again from its row, but for its conditions. -/
theorem reconstructRunConfig_runRow (hrun : result.plannedRun = run)
    (hid : run.runConfig.simulationRunId = run.simulationRunId)
    (hclass : run.classLabel = run.runConfig.scenarioName.value) :
    ∃ config, reconstructRunConfig result.runRow = .ok config ∧ config.SameFault run.config := by
  subst hrun
  let fields : RunConfigFields (Number format) :=
    { result.plannedRun.config.toRunConfigFields with operatingConditions := .default }
  have hvalid : fields.validate = .ok () := result.plannedRun.config.valid
  refine ⟨⟨fields, hvalid⟩, ?_, rfl, rfl, rfl, rfl, rfl⟩
  unfold reconstructRunConfig RunExport.runRow
  dsimp only
  rw [hclass, DatasetScenario.read_value, ← hid]
  show (RunConfig.create fields).mapError _ = _
  rw [RunConfig.create_of_valid hvalid]
  rfl

/-- A label that is generated is the one that is computed from the row of its run. -/
theorem recomputeLabel_labelAt {config : RunConfig (Number format)}
    (h : config.SameFault run.config) :
    recomputeLabel config asset.id (run.config.elapsedAt tick) =
      .ok (run.labelAt tick asset).label := by
  have hramp : activeRampOf? config asset.id (run.config.elapsedAt tick) =
      activeRamp? run.config asset (run.config.elapsedAt tick) := by
    rw [← activeRampOf?_id]
    unfold activeRampOf?
    rw [h.faultStart, h.faultDuration, h.targetAssetId]
  have hseverity (ramp? : Option (Number format × Number format)) :
      reportedSeverity config ramp? = reportedSeverity run.config ramp? := by
    unfold reportedSeverity
    rw [h.faultSeverity]
  unfold recomputeLabel
  rw [if_neg asset.id_ne_empty, hramp, hseverity, h.scenarioName, h.targetAssetId]
  rfl

variable (tick) in
/-- An asset that is not the target has the label of a healthy one. -/
theorem labelAt_of_ne (hasset : asset.id ≠ run.config.targetAssetId) :
    (run.labelAt tick asset).faultType = "none" ∧ (run.labelAt tick asset).faultActive = false ∧
      (run.labelAt tick asset).sensorCorruptionType = "none" := by
  unfold PlannedRun.labelAt PlannedRun.groundTruthRow computeGroundTruth activeRamp?
  dsimp only
  refine ⟨?_, ?_, ?_⟩
  · rw [if_pos hasset]
    rfl
  · split
    · rw [if_neg fun h => hasset h.1]
      rfl
    · rfl
  · rw [if_pos hasset]
    rfl

variable (tick asset) in
/-- So has every asset of a healthy run. -/
theorem labelAt_of_normalOperation (hscenario : run.config.scenarioName = .normalOperation) :
    (run.labelAt tick asset).faultType = "none" ∧ (run.labelAt tick asset).faultActive = false ∧
      (run.labelAt tick asset).sensorCorruptionType = "none" := by
  have hstart : run.config.faultStartSimSeconds = none := by
    rcases run.config.window with ⟨-, hstart, -⟩ | ⟨hne, -⟩
    · exact hstart
    · exact absurd hscenario hne
  unfold PlannedRun.labelAt PlannedRun.groundTruthRow computeGroundTruth activeRamp?
  dsimp only
  rw [hscenario, hstart]
  refine ⟨?_, rfl, ?_⟩
  · split_ifs <;> rfl
  · split_ifs <;> rfl

/-- Where no fault is active there is no severity. -/
theorem labelAt_of_inactive (hinactive : (run.labelAt tick asset).faultActive = false) :
    (run.labelAt tick asset).faultSeverity = literal 0.0 :=
  (computeGroundTruth run.config asset (run.config.timestampAt (run.config.elapsedAt tick))
    (run.config.elapsedAt tick)).severity_of_inactive hinactive

/-- A fault is active exactly where seconds since its start are written. -/
theorem faultActive_labelAt : (run.labelAt tick asset).faultActive =
    (run.labelAt tick asset).secondsSinceFaultStart.isSome :=
  (computeGroundTruth run.config asset (run.config.timestampAt (run.config.elapsedAt tick))
    (run.config.elapsedAt tick)).active_iff

variable (tick) in
/-- The target of a run has the fault of its class. -/
theorem labelAt_of_class {faultType corruption : String}
    (hasset : asset.id = run.config.targetAssetId)
    (hclass : LabelTally.expectedOfClass run.config.scenarioName.value =
      some (faultType, corruption)) :
    (run.labelAt tick asset).faultType = faultType ∧
      (run.labelAt tick asset).sensorCorruptionType = corruption := by
  unfold PlannedRun.labelAt PlannedRun.groundTruthRow computeGroundTruth
  dsimp only
  rw [if_neg (not_not.mpr hasset), if_neg (not_not.mpr hasset)]
  -- the fault of the scenario is the one that the class is expected to have
  cases hscenario : run.config.scenarioName with
  | normalOperation =>
      rw [hscenario] at hclass
      exact absurd hclass (by simp [LabelTally.expectedOfClass, DatasetScenario.value])
  | coolingDegradation =>
      rw [hscenario] at hclass
      cases (Option.some.inj hclass : ("cooling_degradation", "none") = _)
      exact ⟨rfl, rfl⟩
  | hydrogenSupplyIssue =>
      rw [hscenario] at hclass
      cases (Option.some.inj hclass : ("hydrogen_supply_issue", "none") = _)
      exact ⟨rfl, rfl⟩
  | sensorAnomaly =>
      rw [hscenario] at hclass
      cases (Option.some.inj hclass : ("none", "bias") = _)
      exact ⟨rfl, rfl⟩

section Counts

variable (tally : LabelTally format)

/-- No label is active on an asset that is not the target. -/
theorem countWrongAsset_labelAt : tally.countWrongAsset (run.labelAt tick asset)
    (asset.id = run.config.targetAssetId) = tally := by
  unfold LabelTally.countWrongAsset
  by_cases hasset : asset.id = run.config.targetAssetId
  · simp [hasset]
  · obtain ⟨htype, hactive, hcorruption⟩ := labelAt_of_ne tick hasset
    simp [htype, hactive, hcorruption]

/-- No inactive label has a severity. -/
theorem countInactive_labelAt : tally.countInactive (run.labelAt tick asset) = tally := by
  unfold LabelTally.countInactive
  cases hactive : (run.labelAt tick asset).faultActive with
  | true => simp
  | false => simp [labelAt_of_inactive hactive]

/-- No label has seconds without being active, or the other way round. -/
theorem countNullMismatch_labelAt : tally.countNullMismatch (run.labelAt tick asset) = tally := by
  unfold LabelTally.countNullMismatch
  rw [faultActive_labelAt]
  cases (run.labelAt tick asset).secondsSinceFaultStart <;> simp

/-- Every active label has the class of the scenario. -/
theorem countClassMismatch_labelAt : tally.countClassMismatch (run.labelAt tick asset)
    run.config.scenarioName.value (asset.id = run.config.targetAssetId) = tally := by
  unfold LabelTally.countClassMismatch
  split
  · rfl
  next faultType corruption hexpected =>
    by_cases hasset : asset.id = run.config.targetAssetId
    · obtain ⟨htype, hcorruption⟩ := labelAt_of_class tick hasset hexpected
      simp [htype, hcorruption]
    · simp [hasset]

/-- No label of a healthy run is active. -/
theorem countHealthyRun_labelAt : tally.countHealthyRun (run.labelAt tick asset)
    run.config.scenarioName.value = tally := by
  unfold LabelTally.countHealthyRun
  by_cases hscenario : run.config.scenarioName = .normalOperation
  · obtain ⟨htype, hactive, hcorruption⟩ := labelAt_of_normalOperation tick asset hscenario
    simp [htype, hactive, hcorruption]
  · have hne : run.config.scenarioName.value ≠ "normal_operation" := by
      revert hscenario
      cases run.config.scenarioName <;> decide
    simp [hne]

/-- Of a generated row nothing is counted but a severity that is not positive. -/
theorem count_labelAt : tally.count (run.labelAt tick asset) (run.labelAt tick asset).label
    run.config.scenarioName.value (asset.id = run.config.targetAssetId) =
      (tally.countNonpositive (run.labelAt tick asset)).extendSeries (run.labelAt tick asset)
        (asset.id = run.config.targetAssetId) := by
  have hmismatch : tally.countMismatch (run.labelAt tick asset)
      (run.labelAt tick asset).label = tally := by
    simp [LabelTally.countMismatch]
  simp only [LabelTally.count, hmismatch, countWrongAsset_labelAt, countInactive_labelAt,
    countNullMismatch_labelAt, countClassMismatch_labelAt, countHealthyRun_labelAt]

end Counts

/-- A round for a generated row. -/
theorem tallyRow_labelAt {runs : List (RunRow format)} (tally : LabelTally format)
    (hrun : result.plannedRun = run)
    (hid : run.runConfig.simulationRunId = run.simulationRunId)
    (hclass : run.classLabel = run.runConfig.scenarioName.value)
    (hfind : (runs.reverse.find? fun runRow =>
      runRow.simulationRunId = (run.labelAt tick asset).simulationRunId) = some result.runRow) :
    tallyRow runs tally (run.labelAt tick asset) =
      .ok ((tally.countNonpositive (run.labelAt tick asset)).extendSeries
        (run.labelAt tick asset) (asset.id = run.config.targetAssetId)) := by
  -- the configuration of the run is read back from its row, with the fault
  obtain ⟨config, hconfig, hfault⟩ := reconstructRunConfig_runRow hrun hid hclass
  have hlabel : recomputeLabel config asset.id (run.config.elapsedAt tick) =
      .ok (run.labelAt tick asset).label := recomputeLabel_labelAt hfault
  have htarget : result.runRow.targetAssetId = run.config.targetAssetId := by
    rw [← hrun]
    rfl
  have hrowClass : result.runRow.classLabel = run.config.scenarioName.value := by
    rw [← hrun] at hclass ⊢
    exact hclass
  unfold tallyRow
  rw [hfind]
  dsimp only
  rw [hconfig, ok_bind]
  show (recomputeLabel config asset.id (run.config.elapsedAt tick) >>= fun expected => _) = _
  rw [hlabel, ok_bind, htarget, hrowClass]
  exact congrArg Except.ok (count_labelAt tally)

end Rows

/-! ## Ramps -/

section Ramps

/-- The severity of the target of a run at a time. -/
def rampSeverity (config : RunConfig (Number format)) (elapsed : Number format) : Number format :=
  match config.appliedProgress? elapsed with
  | some progress => config.faultSeverity * progress
  | none => literal 0.0

variable {config : RunConfig (Number format)} {elapsed elapsed' : Number format}

/-- The severity of the target is that of the ramp. -/
theorem reportedSeverity_eq {asset : PlantAsset} (hasset : asset.id = config.targetAssetId) :
    reportedSeverity config (activeRamp? config asset elapsed) = rampSeverity config elapsed := by
  unfold rampSeverity
  rw [← activeRamp_eq config hasset elapsed]
  cases activeRamp? config asset elapsed <;> rfl

/-- It is not negative. -/
theorem rampSeverity_nonneg (config : RunConfig (Number format)) (elapsed : Number format) :
    0 ≤ (rampSeverity config elapsed).val := by
  unfold rampSeverity
  cases hprogress : config.appliedProgress? elapsed with
  | none => exact literal_zero.ge
  | some progress =>
      exact format.round_zero ▸ format.round_mono
        (mul_nonneg (severity_mem config).1 (progress_mem hprogress).1)

/-- The severity does not fall. -/
theorem rampSeverity_mono (hle : elapsed ≤ elapsed') :
    rampSeverity config elapsed ≤ rampSeverity config elapsed' := by
  cases hprogress : config.appliedProgress? elapsed with
  | none =>
      have hnonneg := rampSeverity_nonneg config elapsed'
      rw [rampSeverity, hprogress, Number.le_iff, literal_zero]
      exact hnonneg
  | some progress =>
      obtain ⟨progress', hprogress', hrise⟩ := progress_mono hprogress hle
      rw [rampSeverity, rampSeverity, hprogress, hprogress']
      exact Number.ofRat_mono (mul_le_mul_of_nonneg_left hrise (severity_mem config).1)

/-- Neighbours in a list are related as its members are. -/
theorem rel_of_mem_zip_tail {α : Type} {r : α → α → Prop} {xs : List α} (h : xs.Pairwise r)
    {x y : α} (hmem : (x, y) ∈ xs.zip xs.tail) : r x y := by
  induction xs with
  | nil => cases hmem
  | cons first xs ih =>
      cases xs with
      | nil => cases hmem
      | cons second xs =>
          obtain ⟨hfirst, hrest⟩ := List.pairwise_cons.mp h
          rcases List.mem_cons.mp hmem with heq | hmem
          · cases heq
            exact hfirst _ List.mem_cons_self
          · exact ih hrest hmem

/-- Severities of one run make no falling ramp. -/
theorem isNonMonotonic_eq_false {series : List (Number format × Number format)}
    (h : ∀ point ∈ series, point.2 = rampSeverity config point.1) :
    LabelTally.isNonMonotonic series = false := by
  have hrising : ((orderBy Prod.fst series).map Prod.snd).Pairwise (· ≤ ·) := by
    refine List.pairwise_map.mpr (pairwise_le_orderBy.imp_of_mem fun {a b} ha hb hle => ?_)
    rw [h a (mem_orderBy.mp ha), h b (mem_orderBy.mp hb)]
    exact rampSeverity_mono hle
  unfold LabelTally.isNonMonotonic
  refine List.any_eq_false.mpr fun pair hpair => ?_
  obtain ⟨earlier, later⟩ := pair
  have hle : earlier ≤ later := rel_of_mem_zip_tail hrising hpair
  have htolerance : earlier - literal 1e-6 ≤ earlier := by
    refine Number.ofRat_le (sub_le_self _ ?_)
    exact format.round_zero ▸ format.round_mono (by norm_num)
  simpa using htolerance.trans hle

end Ramps

/-! ## Generated datasets -/

/-- The row has no positive severity past the onset of its fault. -/
def GroundTruthRow.isLate (row : GroundTruthRow format) : Bool :=
  row.faultActive && row.secondsSinceFaultStart.any (literal 0.0 < ·) &&
    row.faultSeverity ≤ literal 0.0

/-- A late row, as an example. -/
def GroundTruthRow.lateExample (row : GroundTruthRow format) : Json (Number format) :=
  .obj [("run_id", .str row.simulationRunId),
    ("elapsed_sim_seconds", .float row.elapsedSimSeconds)]

/-- Of what is found the first five are kept. -/
theorem keepFive_take {α β : Type} (f : α → β) (xs : List α) (x : α) :
    keepFive ((xs.take 5).map f) (f x) = ((xs ++ [x]).take 5).map f := by
  unfold keepFive
  rw [List.length_map, List.length_take]
  split_ifs with hlength
  · rw [List.take_of_length_le (by omega), List.take_of_length_le (by simp; omega)]
    simp
  · rw [List.take_append_of_le_length (by omega)]

section Loop

variable {plannedRuns : List (PlannedRun (Number format))} {run : PlannedRun (Number format)}
  {tick : ℕ} {asset : PlantAsset} {tally : LabelTally format}
  {rows : List (GroundTruthRow format)}

/-- No severity is negative. -/
theorem faultSeverity_nonneg : 0 ≤ (run.labelAt tick asset).faultSeverity.val := by
  by_cases hasset : asset.id = run.config.targetAssetId
  · show 0 ≤ (reportedSeverity run.config (activeRamp? run.config asset _)).val
    rw [reportedSeverity_eq hasset]
    exact rampSeverity_nonneg _ _
  · rw [labelAt_of_inactive (labelAt_of_ne tick hasset).2.1]
    exact literal_zero.ge

/-- An active label past the onset without a severity is counted as late. -/
theorem countNonpositive_labelAt : tally.countNonpositive (run.labelAt tick asset) =
    if (run.labelAt tick asset).isLate then
      { tally with
        activeNonpositiveSeverity := tally.activeNonpositiveSeverity + 1
        onsetMismatchExamples :=
          keepFive tally.onsetMismatchExamples (run.labelAt tick asset).lateExample }
    else tally := by
  have hnonneg : ¬ (run.labelAt tick asset).faultSeverity < literal 0.0 := by
    have hnonneg : 0 ≤ (run.labelAt tick asset).faultSeverity.val := faultSeverity_nonneg
    rw [Number.lt_iff, literal_zero]
    exact not_lt.mpr hnonneg
  unfold LabelTally.countNonpositive GroundTruthRow.isLate
  cases (run.labelAt tick asset).faultActive with
  | false => rfl
  | true =>
      rw [if_neg hnonneg]
      rfl

/-- A tally that has counted late rows only. -/
def lateTally (rows : List (GroundTruthRow format))
    (severitySeries : OrderedDict (id : String × String → String × String)
      (List (Number format × Number format))) : LabelTally format :=
  { LabelTally.empty with
    activeNonpositiveSeverity := (rows.filter GroundTruthRow.isLate).length
    onsetMismatchExamples :=
      ((rows.filter GroundTruthRow.isLate).take 5).map GroundTruthRow.lateExample
    severitySeries }

/-- What the tally has counted of generated rows: those that are late, and points of ramps. -/
structure Tallied (plannedRuns : List (PlannedRun (Number format)))
    (rows : List (GroundTruthRow format)) (tally : LabelTally format) : Prop where
  counts : tally = lateTally rows tally.severitySeries
  series : ∀ item ∈ tally.severitySeries.items, ∃ run ∈ plannedRuns,
    run.simulationRunId = item.1.1 ∧ ∀ point ∈ item.2, point.2 = rampSeverity run.config point.1

/-- Before the first row nothing is counted. -/
theorem tallied_nil : Tallied plannedRuns [] (.empty : LabelTally format) :=
  ⟨rfl, fun _ hitem => absurd hitem List.not_mem_nil⟩

variable (run tick asset) in
/-- A late row is counted, and named if it is one of the first five. -/
theorem Tallied.countNonpositive (h : Tallied plannedRuns rows tally) :
    Tallied plannedRuns (rows ++ [run.labelAt tick asset])
      (tally.countNonpositive (run.labelAt tick asset)) := by
  rw [countNonpositive_labelAt]
  by_cases hlate : (run.labelAt tick asset).isLate = true
  -- the new row is counted last
  · have hfilter : (rows ++ [run.labelAt tick asset]).filter GroundTruthRow.isLate =
        rows.filter GroundTruthRow.isLate ++ [run.labelAt tick asset] := by
      simp [List.filter_append, hlate]
    rw [if_pos hlate]
    refine ⟨?_, h.series⟩
    rw [h.counts]
    unfold lateTally
    rw [hfilter, ← keepFive_take, List.length_append]
    rfl
  · have hfilter : (rows ++ [run.labelAt tick asset]).filter GroundTruthRow.isLate =
        rows.filter GroundTruthRow.isLate := by
      simp [List.filter_append, hlate]
    rw [if_neg hlate]
    refine ⟨?_, h.series⟩
    unfold lateTally
    rw [hfilter]
    exact h.counts

/-- What is in the series of a key is in one of the series. -/
theorem exists_item_of_mem_getD {κ α : Type} [DecidableEq κ] {k : κ} {x : α}
    {d : OrderedDict (id : κ → κ) (List α)} (h : x ∈ (d.get? k).getD []) :
    ∃ xs, (k, xs) ∈ d.items ∧ x ∈ xs := by
  cases hget : d.get? k with
  | none =>
      rw [hget] at h
      cases h
  | some xs =>
      rw [hget] at h
      obtain ⟨k', hmem, hkey⟩ := OrderedDict.get?_eq_some_iff.mp hget
      have hkey : k' = k := hkey
      exact ⟨xs, hkey ▸ hmem, h⟩

variable (run tick asset) in
/-- The points of a series are those of the run of its key. -/
theorem Tallied.extendSeries (h : Tallied plannedRuns rows tally)
    (hids : ∀ run ∈ plannedRuns, ∀ run' ∈ plannedRuns,
      run.simulationRunId = run'.simulationRunId → run = run')
    (hrun : run ∈ plannedRuns) :
    Tallied plannedRuns rows (tally.extendSeries (run.labelAt tick asset)
      (asset.id = run.config.targetAssetId)) := by
  unfold LabelTally.extendSeries
  split_ifs with hactive
  · refine ⟨?_, fun item hitem => ?_⟩
    · rw [h.counts]
      rfl
    rcases OrderedDict.mem_set hitem with ⟨hkey, hvalue⟩ | ⟨hitem, -⟩
    · -- the series of the run, with the point of the row
      have hasset : asset.id = run.config.targetAssetId := by
        simp only [Bool.and_eq_true, decide_eq_true_eq] at hactive
        exact hactive.1
      have hkey : item.1 = (run.simulationRunId, asset.id) := hkey
      refine ⟨run, hrun, by rw [hkey], fun point hpoint => ?_⟩
      rw [hvalue] at hpoint
      rcases List.mem_append.mp hpoint with hpoint | hpoint
      -- the points that were there are of a run with the same id, so of the same run
      · obtain ⟨series, hmem, hpoint⟩ := exists_item_of_mem_getD hpoint
        obtain ⟨run', hrun', hid, hpoints⟩ := h.series _ hmem
        have hsame : run' = run := hids run' hrun' run hrun hid
        exact hsame ▸ hpoints point hpoint
      · rw [List.mem_singleton.mp hpoint]
        exact reportedSeverity_eq hasset
    · exact h.series item hitem
  · exact h

end Loop

section Generated

variable {draws : DatasetDraws format} {spec : DatasetSpec (Number format)}
  {plannedRuns : List (PlannedRun (Number format))} {results : List (RunExport format)}
  {files : DatasetFiles format}

/-- Every label is that of a run that is planned. -/
theorem Generated.exists_labelAt (h : Generated draws spec plannedRuns results files)
    {row : GroundTruthRow format} (hrow : row ∈ files.groundTruth) :
    ∃ run ∈ plannedRuns, ∃ tick asset, row = run.labelAt tick asset := by
  rw [h.groundTruth] at hrow
  obtain ⟨⟨run, tick⟩, hplace, hrow⟩ := List.mem_flatMap.mp hrow
  obtain ⟨asset, -, rfl⟩ := List.mem_map.mp hrow
  exact ⟨run, (mem_runTicks.mp hplace).1, tick, asset, rfl⟩

/-- Every run is found by its id. -/
theorem Generated.exists_find?_runs (h : Generated draws spec plannedRuns results files)
    {run : PlannedRun (Number format)} (hrun : run ∈ plannedRuns) :
    ∃ result : RunExport format, result.plannedRun = run ∧
      (files.runs.reverse.find? fun runRow =>
        runRow.simulationRunId = run.simulationRunId) = some result.runRow := by
  have hruns : files.runs = results.map RunExport.runRow := congrArg DatasetFiles.runs h.files_eq
  have hrun' := hrun
  rw [← h.plannedRuns_eq] at hrun'
  obtain ⟨result, hresult, heq⟩ := List.mem_map.mp hrun'
  cases hfind : files.runs.reverse.find? fun runRow =>
      runRow.simulationRunId = run.simulationRunId with
  | none =>
      have hnone := List.find?_eq_none.mp hfind result.runRow
        (List.mem_reverse.mpr (hruns ▸ List.mem_map_of_mem hresult))
      refine absurd (decide_eq_true ?_) hnone
      exact congrArg PlannedRun.simulationRunId heq
  | some runRow =>
      have hmem := List.mem_reverse.mp (List.mem_of_find?_eq_some hfind)
      rw [hruns] at hmem
      obtain ⟨found, hfound, rfl⟩ := List.mem_map.mp hmem
      refine ⟨found, ?_, rfl⟩
      -- no two planned runs share an id
      have hid := List.find?_some hfind
      rw [decide_eq_true_eq] at hid
      exact h.eq_of_runId (h.plannedRuns_eq ▸ List.mem_map_of_mem hfound) hrun hid

/-- The loop over generated rows. -/
theorem Generated.exists_foldlM_tallyRow (h : Generated draws spec plannedRuns results files)
    {past rows : List (GroundTruthRow format)} {tally : LabelTally format}
    (hrows : ∀ row ∈ rows, row ∈ files.groundTruth) (htally : Tallied plannedRuns past tally) :
    ∃ tally', rows.foldlM (tallyRow files.runs) tally = .ok tally' ∧
      Tallied plannedRuns (past ++ rows) tally' := by
  induction rows generalizing past tally with
  | nil => exact ⟨tally, rfl, (List.append_nil past).symm ▸ htally⟩
  | cons row rows ih =>
      obtain ⟨run, hrun, tick, asset, rfl⟩ := h.exists_labelAt (hrows row List.mem_cons_self)
      obtain ⟨result, hresult, hfind⟩ := h.exists_find?_runs hrun
      have hplanned := h.plannedFor run hrun
      have hnext := (htally.countNonpositive run tick asset).extendSeries run tick asset
        (fun _ hrun _ hrun' => h.eq_of_runId hrun hrun') hrun
      obtain ⟨tally', hrest, htally'⟩ :=
        ih (fun row hrow => hrows row (List.mem_cons_of_mem _ hrow)) hnext
      refine ⟨tally', ?_, ?_⟩
      · rw [List.foldlM_cons, tallyRow_labelAt tally hresult hplanned.runId hplanned.classLabel
          hfind, ok_bind]
        exact hrest
      · rwa [List.append_assoc] at htally'

/-- What is reported of late rows. -/
def lateFindings (rows : List (GroundTruthRow format)) : List (Finding format) :=
  (lateTally rows .empty).nonpositiveFinding

/-- Of a tally of generated rows, the late ones are reported. -/
theorem Tallied.findings_eq {rows : List (GroundTruthRow format)} {tally : LabelTally format}
    (h : Tallied plannedRuns rows tally) : tally.findings = lateFindings rows := by
  have hramps : tally.nonMonotonicRamps = [] := by
    unfold LabelTally.nonMonotonicRamps
    rw [List.map_eq_nil_iff, List.filter_eq_nil_iff]
    intro item hitem
    obtain ⟨run, -, -, hpoints⟩ := h.series item hitem
    simp [isNonMonotonic_eq_false hpoints]
  unfold LabelTally.findings
  rw [hramps, h.counts]
  simp [findingOf, lateFindings, lateTally, LabelTally.empty, LabelTally.nonpositiveFinding]

/-- The audit of the labels of a generated dataset. -/
theorem Generated.checkLabels_eq (h : Generated draws spec plannedRuns results files) :
    checkLabels files.runs files.groundTruth = .ok (lateFindings files.groundTruth) := by
  obtain ⟨tally, hrun, htally⟩ := h.exists_foldlM_tallyRow (fun _ hrow => hrow) tallied_nil
  unfold checkLabels
  rw [hrun]
  exact congrArg Except.ok htally.findings_eq

/-- A fault has a positive severity. -/
theorem faultSeverity_pos {config : RunConfig (Number format)}
    (hfault : config.scenarioName ≠ .normalOperation) : 0 < config.faultSeverity.val := by
  have hvalid := config.valid
  rw [RunConfigFields.validate] at hvalid
  split_ifs at hvalid
  rw [RunConfigFields.validateFaultWindow] at hvalid
  split_ifs at hvalid with hseverity
  rw [Number.le_iff, literal_zero] at hseverity
  exact lt_of_not_ge hseverity

/-- Where no positive result is rounded to zero, the severity is positive past the onset. -/
theorem isLate_eq_false (hround : ∀ q, 0 < q → 0 < format.round q)
    (run : PlannedRun (Number format)) (tick : ℕ) (asset : PlantAsset) :
    (run.labelAt tick asset).isLate = false := by
  by_contra hlate
  rw [Bool.not_eq_false] at hlate
  unfold GroundTruthRow.isLate at hlate
  simp only [Bool.and_eq_true, decide_eq_true_eq, Option.any_eq_true] at hlate
  obtain ⟨⟨hactive, seconds, hseconds, hpositive⟩, hseverity⟩ := hlate
  have hasset : asset.id = run.config.targetAssetId := by
    by_contra hne
    rw [(labelAt_of_ne tick hne).2.1] at hactive
    cases hactive
  obtain ⟨⟨_, progress⟩, hramp, rfl⟩ := Option.map_eq_some_iff.mp hseconds
  have happlied : run.config.appliedProgress? (run.config.elapsedAt tick) = some progress := by
    rw [← activeRamp_eq run.config hasset, hramp]
    rfl
  -- the label is that of the target, in a scenario with a fault
  have hfault := normalOperation_of_appliedProgress happlied
  obtain ⟨faultStart, faultDuration, hstart, hduration, hlong, -, hprogress⟩ :=
    exists_window happlied
  rw [activeRamp?, hstart, hduration] at hramp
  simp only [Option.ite_none_right_eq_some, Option.some.injEq, Prod.mk.injEq] at hramp
  rw [← hramp.2.1, Number.lt_iff, literal_zero] at hpositive
  -- neither the progress nor the severity is rounded to zero
  have hpos : 0 < progress.val := by
    rw [hprogress]
    rcases min_choice (literal 1.0 : Number format)
      ((run.config.elapsedAt tick - faultStart) / faultDuration) with hmin | hmin
    · rw [hmin, literal_one]
      exact zero_lt_one
    · rw [hmin]
      exact hround _ (div_pos hpositive hlong)
  have hreported :
      (run.labelAt tick asset).faultSeverity = run.config.faultSeverity * progress := by
    show reportedSeverity run.config (activeRamp? run.config asset _) = _
    rw [reportedSeverity_eq hasset, rampSeverity, happlied]
  rw [hreported, Number.le_iff, literal_zero] at hseverity
  exact absurd hseverity (not_le.mpr (hround _ (mul_pos (faultSeverity_pos hfault) hpos)))

/-- A label is the one that is computed once more from the row of its run. -/
def IsRecomputed (runs : List (RunRow format)) (row : GroundTruthRow format) : Prop :=
  ∃ runRow config,
    runs.reverse.find? (fun runRow => runRow.simulationRunId = row.simulationRunId) =
      some runRow ∧
    reconstructRunConfig runRow = .ok config ∧
    recomputeLabel config row.assetId row.elapsedSimSeconds = .ok row.label

/-- Every row of the dataset has its run, from which it is recomputed. -/
theorem Generated.isRecomputed (h : Generated draws spec plannedRuns results files)
    {row : GroundTruthRow format} (hrow : row ∈ files.groundTruth) :
    IsRecomputed files.runs row := by
  obtain ⟨run, hrun, tick, asset, rfl⟩ := h.exists_labelAt hrow
  obtain ⟨result, hresult, hfind⟩ := h.exists_find?_runs hrun
  have hplanned := h.plannedFor run hrun
  obtain ⟨config, hconfig, hfault⟩ :=
    reconstructRunConfig_runRow hresult hplanned.runId hplanned.classLabel
  exact ⟨result.runRow, config, hfind, hconfig, recomputeLabel_labelAt hfault⟩

/-- The labels of a generated dataset are those that are computed once more, and contradict
themselves nowhere. All that is ever reported of them are severities that are rounded to zero. -/
theorem checkLabels_generated {entries? : Option (List String)} {overwrite : Bool}
    (h : generateDataset draws spec entries? overwrite = .ok files) :
    (∀ row ∈ files.groundTruth, IsRecomputed files.runs row) ∧
      checkLabels files.runs files.groundTruth = .ok (lateFindings files.groundTruth) ∧
      (∀ finding ∈ lateFindings files.groundTruth, finding.severity = .high) ∧
      (lateFindings files.groundTruth = [] ↔ ∀ row ∈ files.groundTruth, row.isLate = false) ∧
      ((∀ q, 0 < q → 0 < format.round q) → lateFindings files.groundTruth = []) := by
  obtain ⟨plannedRuns, results, hgenerated⟩ := exists_generated h
  have hnil : lateFindings files.groundTruth = [] ↔
      ∀ row ∈ files.groundTruth, row.isLate = false := by
    unfold lateFindings LabelTally.nonpositiveFinding findingOf lateTally
    simp [List.filter_eq_nil_iff]
  refine ⟨fun row hrow => hgenerated.isRecomputed hrow, hgenerated.checkLabels_eq, ?_, hnil,
    fun hround => hnil.mpr fun row hrow => ?_⟩
  · unfold lateFindings LabelTally.nonpositiveFinding findingOf
    split_ifs
    · exact fun _ hmem => absurd hmem List.not_mem_nil
    · intro finding hmem
      rw [List.mem_singleton.mp hmem]
  · obtain ⟨run, -, tick, asset, rfl⟩ := hgenerated.exists_labelAt hrow
    exact isLate_eq_false hround run tick asset

/-- The labels of the example pass the audit. -/
theorem checkLabels_tiny : ∃ files, generateDataset tinyDraws tinySpec none false = .ok files ∧
    checkLabels files.runs files.groundTruth = .ok [] := by
  obtain ⟨files, hfiles⟩ := exists_tinyFiles
  obtain ⟨-, hcheck, -, -, hnil⟩ := checkLabels_generated hfiles
  exact ⟨files, hfiles, hnil (fun _ hq => hq) ▸ hcheck⟩

end Generated

end Odis.Simulator
