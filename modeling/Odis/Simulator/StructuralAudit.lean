import Mathlib.Data.Finset.Sort
import Mathlib.Data.String.Basic
import Odis.Library.KeyedWindow
import Odis.Simulator.LabelAudit

/-!
# The audit of the structure

`check_structural` (`dataset/audit/structural.py`), as far as it looks at the rows: a dataset is
loaded (`loader.py`), its runs are planned once more from the specification in its manifest, and its
tables are compared with the plan, with its splits and with each other. A set of ids is a `Finset`.

* `checkStructural_generated`: when nothing is found in a dataset that `generate_dataset` has
  written.
-/

namespace Odis.Simulator

open Arithmetic Exceptions KeyedWindow

variable {format : NumberFormat}

/-! ## The dataset that is audited -/

/-- `DatasetHandle`, with the tables as records. -/
structure DatasetHandle (format : NumberFormat) where
  files : DatasetFiles format
  spec : DatasetSpec (Number format)

/-- `load_dataset`, once all files are there. -/
def loadDataset [JsonText (Number format)] [FloatText (Number format)]
    (files : DatasetFiles format) :
    Except (SpecFailure (Number format)) (DatasetHandle format) := do
  let spec ← DatasetSpec.fromJsonDict (files.manifest.datasetSpec.reloaded false)
  return ⟨files, spec⟩

/-- A blocking finding about the structure. -/
def structuralFinding (severity : FindingSeverity) (message : String)
    (evidence : List (String × Json (Number format))) : Finding format :=
  { severity, category := "structural", message, evidence }

/-- The first five of a set of ids, sorted, as the evidence of a finding. -/
def idExamples (ids : Finset String) : List (Json (Number format)) :=
  ((ids.sort (· ≤ ·)).take 5).map .str

section Checks

variable (handle : DatasetHandle format)

/-- The ids of the rows of `runs.parquet`. -/
def DatasetHandle.runIds : Finset String :=
  (handle.files.runs.map RunRow.simulationRunId).toFinset

/-! ## Row counts -/

/-- The finding of a table that has not the declared number of rows. -/
def checkRowCount (key : String) (declared actual : ℕ) : List (Finding format) :=
  if declared ≠ actual then
    [structuralFinding .blocking ("manifest row_counts." ++ key ++ "=" ++ toString declared ++
      " does not match the Parquet file's actual row count (" ++ toString actual ++ ")") []]
  else []

/-- `_check_manifest_row_counts`. -/
def checkManifestRowCounts : List (Finding format) :=
  let declared := handle.files.manifest.rowCounts
  checkRowCount "telemetry" declared.telemetry handle.files.telemetry.length ++
    checkRowCount "ground_truth" declared.groundTruth handle.files.groundTruth.length ++
    checkRowCount "runs" declared.runs handle.files.runs.length

/-! ## The plan -/

/-- A value of a column of `runs.parquet`. -/
inductive ColumnValue (format : NumberFormat) where
  | text (s : String)
  | integer (n : ℤ)
  | number (x : Option (Number format))

/-- A value, as evidence. -/
def ColumnValue.toJson : ColumnValue format → Json (Number format)
  | text s => .str s
  | integer n => .int n
  | number (some x) => .float x
  | number none => .null

/-- `_approx_equal`. -/
def approxEqual : ColumnValue format → ColumnValue format → Bool
  | .text s, .text s' => s = s'
  | .integer n, .integer n' => n = n'
  | .number none, .number none => true
  | .number (some x), .number (some x') => isclose (literal 1e-6) (literal 1e-6) x x'
  | _, _ => false

/-- Every value is close to itself. -/
theorem approxEqual_self (v : ColumnValue format) : approxEqual v v = true := by
  cases v with
  | text s => simp [approxEqual]
  | integer n => simp [approxEqual]
  | number x => cases x <;> simp [approxEqual]

/-- `_reconstructed_fields`: a column, what it is expected to hold, and what it holds. -/
def comparedFields (planned : PlannedRun (Number format)) (row : RunRow format) :
    List (String × ColumnValue format × ColumnValue format) :=
  let config := planned.runConfig
  let conditions := config.operatingConditions
  [("class_label", .text planned.classLabel, .text row.classLabel),
    ("seed", .integer config.seed, .integer row.seed),
    ("target_asset_id", .text config.targetAssetId, .text row.targetAssetId),
    ("fault_start_sim_seconds", .number config.faultStartSimSeconds,
      .number row.faultStartSimSeconds),
    ("fault_duration_sim_seconds", .number config.faultDurationSimSeconds,
      .number row.faultDurationSimSeconds),
    ("fault_severity", .number (some config.faultSeverity), .number (some row.faultSeverity)),
    ("load_baseline_percent", .number (some conditions.loadBaselinePercent),
      .number (some row.loadBaselinePercent)),
    ("load_amplitude_percent", .number (some conditions.loadAmplitudePercent),
      .number (some row.loadAmplitudePercent)),
    ("load_period_seconds", .number (some conditions.loadPeriodSeconds),
      .number (some row.loadPeriodSeconds)),
    ("load_phase_radians", .number (some conditions.loadPhaseRadians),
      .number (some row.loadPhaseRadians)),
    ("initial_load_offset_percent", .number (some conditions.loadOffsetPercent),
      .number (some row.initialLoadOffsetPercent)),
    ("initial_stack_temperature_offset_celsius",
      .number (some conditions.stackTemperatureOffsetCelsius),
      .number (some row.initialStackTemperatureOffsetCelsius))]

/-- The columns of a row that do not hold what is planned. -/
def columnMismatches (plannedRuns : List (PlannedRun (Number format))) (row : RunRow format) :
    List (Json (Number format)) :=
  match plannedRuns.reverse.find? fun planned => planned.simulationRunId = row.simulationRunId with
  | none => []
  | some planned =>
      ((comparedFields planned row).filter fun field => !approxEqual field.2.1 field.2.2).map
        fun (name, expected, actual) => .obj [("run_id", .str row.simulationRunId),
          ("field", .str name), ("expected", expected.toJson), ("actual", actual.toJson)]

/-- `dict(Counter(labels))`, with the keys as texts. -/
def counted {κ : Type} [DecidableEq κ] (text : κ → String) (labels : List κ) :
    Json (Number format) :=
  .obj (labels.eraseDups.map fun label => (text label, .int (labels.count label)))

/-- The finding of two counters that are not equal. -/
def checkCounts {κ : Type} [DecidableEq κ] (text : κ → String) (message : String)
    (expected actual : List κ) : List (Finding format) :=
  if (expected : Multiset κ) ≠ actual then
    [structuralFinding .blocking message
      [("expected", counted text expected), ("actual", counted text actual)]]
  else []

/-- `_check_plan_reproducibility`, for the runs that are planned once more. -/
def checkPlanReproducibility (plannedRuns : List (PlannedRun (Number format))) :
    List (Finding format) :=
  let expectedRunIds := (plannedRuns.map PlannedRun.simulationRunId).toFinset
  let missing := expectedRunIds \ handle.runIds
  let extra := handle.runIds \ expectedRunIds
  let mismatches := (handle.files.runs.flatMap (columnMismatches plannedRuns)).take 5
  (if missing.Nonempty then
    [structuralFinding .blocking
      (toString missing.card ++
        " run(s) planned from the dataset spec are absent from runs.parquet")
      [("examples", .arr (idExamples missing))]]
  else []) ++
  (if extra.Nonempty then
    [structuralFinding .blocking
      (toString extra.card ++
        " run(s) in runs.parquet are not produced by re-planning the dataset spec")
      [("examples", .arr (idExamples extra))]]
  else []) ++
  (if mismatches ≠ [] then
    [structuralFinding .blocking
      ("runs.parquet configuration diverges from re-planning the dataset spec " ++
        "(reproducibility violation)") [("examples", .arr mismatches)]]
  else []) ++
  checkCounts id
    ("runs.parquet class distribution does not match the dataset spec's scenario_plans run " ++
      "counts")
    (plannedRuns.map PlannedRun.classLabel) (handle.files.runs.map RunRow.classLabel) ++
  checkCounts (fun pair : String × String => pair.1 ++ "/" ++ pair.2)
    ("runs.parquet (class, target_asset_id) distribution does not match the dataset spec's " ++
      "round-robin asset assignment")
    (plannedRuns.map stratum)
    (handle.files.runs.map fun row => (row.classLabel, row.targetAssetId))

/-! ## The splits -/

/-- Counts of splits, as evidence. -/
def SplitCounts.toJson (counts : SplitCounts) : Json (Number format) :=
  .obj [("train", .int counts.train), ("validation", .int counts.validation),
    ("test", .int counts.test)]

/-- The finding of runs in two splits. -/
def checkOverlap (pair : String) (overlap : Finset String) : List (Finding format) :=
  if overlap.Nonempty then
    [structuralFinding .blocking ("splits.json has " ++ toString overlap.card ++
      " run(s) assigned to both the " ++ pair ++ " splits")
      [("examples", .arr (idExamples overlap))]]
  else []

/-- `_check_splits`, for the splits that are assigned once more. -/
def checkSplits (expected : SplitLists) : List (Finding format) :=
  let train := handle.files.splits.train.toFinset
  let validation := handle.files.splits.validation.toFinset
  let test := handle.files.splits.test.toFinset
  let assigned := train ∪ validation ∪ test
  let expectedCounts : SplitCounts :=
    ⟨expected.train.length, expected.validation.length, expected.test.length⟩
  let actualCounts : SplitCounts := ⟨train.card, validation.card, test.card⟩
  checkOverlap "train/validation" (train ∩ validation) ++
  checkOverlap "train/test" (train ∩ test) ++
  checkOverlap "validation/test" (validation ∩ test) ++
  (if assigned ≠ handle.runIds then
    [structuralFinding .blocking
      ("splits.json's train/validation/test union does not equal the set of runs in " ++
        "runs.parquet")
      [("missing_from_splits", .arr (idExamples (handle.runIds \ assigned))),
        ("unknown_in_splits", .arr (idExamples (assigned \ handle.runIds)))]]
  else []) ++
  (if expected.train.toFinset ≠ train ∨ expected.validation.toFinset ≠ validation ∨
      expected.test.toFinset ≠ test then
    [structuralFinding .blocking
      ("splits.json does not match re-deriving the split assignment from the dataset spec " ++
        "(splits.assign_splits)")
      [("expected_counts", expectedCounts.toJson), ("actual_counts", actualCounts.toJson)]]
  else []) ++
  (if handle.files.manifest.splitCounts ≠ actualCounts then
    [structuralFinding .blocking
      "dataset_manifest.json's split_counts does not match splits.json"
      [("manifest", handle.files.manifest.splitCounts.toJson),
        ("splits_json", actualCounts.toJson)]]
  else [])

/-! ## References -/

/-- The finding of ids that should not be. -/
def checkIds (severity : FindingSeverity) (message : String → String) (ids : Finset String) :
    List (Finding format) :=
  if ids.Nonempty then
    [structuralFinding severity (message (toString ids.card))
      [("examples", .arr (idExamples ids))]]
  else []

/-- There is no finding if there are no ids. -/
@[simp]
theorem checkIds_eq_nil_iff {severity : FindingSeverity} {message : String → String}
    {ids : Finset String} :
    checkIds severity message ids = ([] : List (Finding format)) ↔ ids = ∅ := by
  unfold checkIds
  split_ifs with hids
  · simp [hids.ne_empty]
  · simpa using hids

/-- `_check_row_references`. -/
def checkRowReferences (known : Finset String) : List (Finding format) :=
  let telemetry := (handle.files.telemetry.map TelemetryRow.simulationRunId).toFinset
  let groundTruth := (handle.files.groundTruth.map GroundTruthRow.simulationRunId).toFinset
  checkIds .blocking (fun count => "telemetry.parquet has " ++ count ++
    " row(s) referencing run IDs not present in runs.parquet") (telemetry \ known) ++
  checkIds .blocking (fun count => "ground_truth.parquet has " ++ count ++
    " row(s) referencing run IDs not present in runs.parquet") (groundTruth \ known) ++
  checkIds .high (fun count => count ++
    " run(s) in runs.parquet contributed no telemetry.parquet rows") (known \ telemetry) ++
  checkIds .high (fun count => count ++
    " run(s) in runs.parquet contributed no ground_truth.parquet rows") (known \ groundTruth)

/-! ## Times -/

/-- The times of the labels, by run and asset. -/
def elapsedSeries (groundTruth : List (GroundTruthRow format)) :
    List ((String × String) × List (Number format)) :=
  (grouped (fun row => (row.simulationRunId, row.assetId)) groundTruth).items.map fun entry =>
    (entry.1, entry.2.map GroundTruthRow.elapsedSimSeconds)

/-- The times rise. -/
def isRising (elapsed : List (Number format)) : Bool :=
  (elapsed.zip elapsed.tail).all fun (earlier, later) => earlier < later

/-- The times are one step apart. -/
def isEven (dtSeconds : Number format) (elapsed : List (Number format)) : Bool :=
  (elapsed.zip elapsed.tail).all fun (earlier, later) =>
    isclose (literal 1e-6) (literal 1e-6) (later - earlier) dtSeconds

/-- The first five of some series, as the evidence of a finding. -/
def seriesExamples (keys : List (String × String)) : List (String × Json (Number format)) :=
  [("examples", .arr ((keys.take 5).map fun key => .str (key.1 ++ "/" ++ key.2)))]

/-- `_check_cadence_and_monotonicity`. -/
def checkCadenceAndMonotonicity [JsonText (Number format)] (dtSeconds : Number format) :
    List (Finding format) :=
  let series := elapsedSeries handle.files.groundTruth
  let nonMonotonic := (series.filter fun entry => !isRising entry.2).map Prod.fst
  let badCadence := (series.filter fun entry =>
    isRising entry.2 && !isEven dtSeconds entry.2).map Prod.fst
  (if nonMonotonic ≠ [] then
    [structuralFinding .blocking
      (toString nonMonotonic.length ++
        " (run, asset) series have non-monotonically-increasing elapsed_sim_seconds")
      (seriesExamples nonMonotonic)]
  else []) ++
  (if badCadence ≠ [] then
    [structuralFinding .blocking
      (toString badCadence.length ++
        " (run, asset) series have a sample interval that is not consistently " ++
        JsonText.repr (.float dtSeconds : Json (Number format)) ++ " seconds")
      (seriesExamples badCadence)]
  else [])

/-! ## Units -/

/-- The units of each measurement. -/
def unitsByMeasurement (telemetry : List (TelemetryRow format)) :
    List (String × Finset String) :=
  (grouped TelemetryRow.measurementType telemetry).items.map fun entry =>
    (entry.1, (entry.2.map TelemetryRow.unit).toFinset)

/-- `_check_stable_units`. -/
def checkStableUnits : List (Finding format) :=
  let unstable := (unitsByMeasurement handle.files.telemetry).filter fun entry => 1 < entry.2.card
  if unstable = [] then []
  else
    [structuralFinding .blocking
      "telemetry.parquet reports more than one unit for the same measurement_type"
      [("units_by_measurement", .obj (unstable.map fun entry =>
        (entry.1, .arr ((entry.2.sort (· ≤ ·)).map .str))))]]

/-! ## Keys -/

section Duplicates

variable {κ : Type} [DecidableEq κ]

/-- The keys that come a second time or later. -/
def duplicateKeys (seen : List κ) : List κ → List κ
  | [] => []
  | key :: keys =>
      if key ∈ seen then key :: duplicateKeys seen keys else duplicateKeys (key :: seen) keys

/-- Nothing is found exactly if no key comes twice. -/
theorem duplicateKeys_eq_nil_iff {seen keys : List κ} :
    duplicateKeys seen keys = [] ↔ keys.Nodup ∧ ∀ key ∈ keys, key ∉ seen := by
  induction keys generalizing seen with
  | nil => simp [duplicateKeys]
  | cons key keys ih =>
      rw [duplicateKeys]
      split_ifs with hseen
      · simp [hseen]
      · rw [ih, List.nodup_cons, List.forall_mem_cons]
        simp only [List.mem_cons, not_or]
        grind

/-- `_check_no_duplicate_keys`. -/
def checkNoDuplicateKeys {α : Type} (keyOf : α → κ) (toJson : κ → List (Json (Number format)))
    (keyFields tableName : String) (rows : List α) : List (Finding format) :=
  let duplicates := duplicateKeys [] (rows.map keyOf)
  if duplicates = [] then []
  else
    [structuralFinding .blocking
      (tableName ++ ".parquet has " ++ toString duplicates.length ++
        " duplicate row(s) for key " ++ keyFields)
      [("examples", .arr ((duplicates.take 5).map fun key => .arr (toJson key)))]]

end Duplicates

/-- The key of a row of telemetry. -/
def TelemetryRow.auditKey (row : TelemetryRow format) :
    String × String × String × Number format :=
  (row.simulationRunId, row.assetId, row.measurementType, row.elapsedSimSeconds)

/-- The key of a label. -/
def GroundTruthRow.auditKey (row : GroundTruthRow format) : String × String × Number format :=
  (row.simulationRunId, row.assetId, row.elapsedSimSeconds)

/-- The check of the keys of `telemetry.parquet`. -/
def checkTelemetryKeys : List (Finding format) :=
  checkNoDuplicateKeys TelemetryRow.auditKey
    (fun key => [.str key.1, .str key.2.1, .str key.2.2.1, .float key.2.2.2])
    "('simulation_run_id', 'asset_id', 'measurement_type', 'elapsed_sim_seconds')" "telemetry"
    handle.files.telemetry

/-- The check of the keys of `ground_truth.parquet`. -/
def checkGroundTruthKeys : List (Finding format) :=
  checkNoDuplicateKeys GroundTruthRow.auditKey
    (fun key => [.str key.1, .str key.2.1, .float key.2.2])
    "('simulation_run_id', 'asset_id', 'elapsed_sim_seconds')" "ground_truth"
    handle.files.groundTruth

/-! ## All checks -/

/-- The findings of all checks, for the runs that are planned and the splits that are assigned once
more. -/
def structuralFindings [JsonText (Number format)]
    (plannedRuns : List (PlannedRun (Number format))) (expected : SplitLists) :
    List (Finding format) :=
  checkManifestRowCounts handle ++
    checkPlanReproducibility handle plannedRuns ++
    checkSplits handle expected ++
    checkRowReferences handle (plannedRuns.map PlannedRun.simulationRunId).toFinset ++
    checkCadenceAndMonotonicity handle handle.spec.val.dtSeconds ++
    checkStableUnits handle ++ checkTelemetryKeys handle ++ checkGroundTruthKeys handle

/-- `check_structural`, for the rows of a dataset. -/
def checkStructural [JsonText (Number format)] (random : RandomSource (Number format))
    (shuffle : Shuffle) : Except (PlanError (Number format)) (List (Finding format)) := do
  let plannedRuns ← planRuns random handle.spec
  let assignment := assignSplits shuffle plannedRuns handle.spec.val.splitProportions
    handle.spec.val.datasetId
  return structuralFindings handle plannedRuns
    ⟨assignment.train, assignment.validation, assignment.test⟩

end Checks

/-! ## Times of a run -/

section Times

/-- The neighbours in a list over consecutive numbers. -/
theorem zip_tail_map_range' {α : Type} (f : ℕ → α) (start n : ℕ) :
    ((List.range' start n).map f).zip ((List.range' start n).map f).tail =
      (List.range' start (n - 1)).map fun i => (f i, f (i + 1)) := by
  induction n generalizing start with
  | zero => rfl
  | succ n ih =>
      cases n with
      | zero => rfl
      | succ n =>
          have hrest := ih (start + 1)
          rw [List.range'_succ, List.map_cons, List.tail_cons]
          rw [List.range'_succ, List.map_cons, List.tail_cons] at hrest
          rw [List.range'_succ, List.map_cons, List.zip_cons_cons, hrest]
          rfl

/-- The times of the samples of a run. -/
def RunConfig.elapsedTimes (config : RunConfig (Number format)) : List (Number format) :=
  (List.range' 1 config.totalSteps).map config.elapsedAt

/-- A run takes a sample, and its samples are one step apart, as far as numbers tell. -/
structure EvenlySampled (config : RunConfig (Number format)) : Prop where
  steps : 0 < config.totalSteps
  rising : ∀ tick, 1 ≤ tick → tick < config.totalSteps →
    config.elapsedAt tick < config.elapsedAt (tick + 1)
  even : ∀ tick, 1 ≤ tick → tick < config.totalSteps →
    isclose (literal 1e-6) (literal 1e-6) (config.elapsedAt (tick + 1) - config.elapsedAt tick)
      config.dtSeconds = true

variable {config : RunConfig (Number format)}

/-- The times of a run rise exactly if every tick moves them on. -/
theorem isRising_elapsedTimes : isRising config.elapsedTimes = true ↔
    ∀ tick, 1 ≤ tick → tick < config.totalSteps →
      config.elapsedAt tick < config.elapsedAt (tick + 1) := by
  unfold isRising RunConfig.elapsedTimes
  rw [zip_tail_map_range', List.all_eq_true, List.forall_mem_map]
  simp only [List.mem_range'_1, and_imp, decide_eq_true_eq]
  exact forall₂_congr fun tick _ => imp_congr_left (by omega)

/-- They are even exactly if every tick moves them on by the step, up to the tolerance. -/
theorem isEven_elapsedTimes : isEven config.dtSeconds config.elapsedTimes = true ↔
    ∀ tick, 1 ≤ tick → tick < config.totalSteps →
      isclose (literal 1e-6) (literal 1e-6) (config.elapsedAt (tick + 1) - config.elapsedAt tick)
        config.dtSeconds = true := by
  unfold isEven RunConfig.elapsedTimes
  rw [zip_tail_map_range', List.all_eq_true, List.forall_mem_map]
  simp only [List.mem_range'_1, and_imp]
  exact forall₂_congr fun tick _ => imp_congr_left (by omega)

/-- Times that are all distinct tell their ticks. -/
theorem nodup_elapsedTimes_iff : config.elapsedTimes.Nodup ↔
    ∀ tick, 1 ≤ tick ∧ tick ≤ config.totalSteps → ∀ tick', 1 ≤ tick' ∧ tick' ≤ config.totalSteps →
      config.elapsedAt tick = config.elapsedAt tick' → tick = tick' := by
  have hmem (tick : ℕ) : tick ∈ List.range' 1 config.totalSteps ↔
      1 ≤ tick ∧ tick ≤ config.totalSteps := by
    rw [List.mem_range'_1]
    omega
  unfold RunConfig.elapsedTimes
  rw [List.nodup_map_iff_inj_on List.nodup_range']
  simp only [hmem]

/-- Times that rise from sample to sample rise altogether. -/
theorem EvenlySampled.elapsedAt_lt (h : EvenlySampled config) {tick tick' : ℕ} (hone : 1 ≤ tick)
    (hlt : tick < tick') (hle : tick' ≤ config.totalSteps) :
    config.elapsedAt tick < config.elapsedAt tick' := by
  induction tick', hlt using Nat.le_induction with
  | base => exact h.rising tick hone hle
  | succ tick' hlt ih =>
      exact (ih (by omega)).trans (h.rising tick' (by omega) hle)

/-- Times that rise are distinct. -/
theorem EvenlySampled.nodup_elapsedTimes (h : EvenlySampled config) :
    config.elapsedTimes.Nodup := by
  rw [nodup_elapsedTimes_iff]
  intro tick htick tick' htick' heq
  rcases lt_trichotomy tick tick' with hlt | rfl | hlt
  · exact absurd heq (h.elapsedAt_lt htick.1 hlt htick'.2).ne
  · rfl
  · exact absurd heq (h.elapsedAt_lt htick'.1 hlt htick.2).ne'

/-- Where nothing is rounded, the samples of a run are one step apart. -/
theorem evenlySampled_of_exact (hround : ∀ q, format.round q = q)
    (hsteps : 0 < config.totalSteps) : EvenlySampled config := by
  have hdt : 0 < config.dtSeconds.val := by
    have hpositive := config.common.1
    rwa [Number.lt_iff, val_literal, format.round_zero] at hpositive
  have hnext (tick : ℕ) : (config.elapsedAt (tick + 1)).val =
      (config.elapsedAt tick).val + config.dtSeconds.val := hround _
  refine ⟨hsteps, fun tick _ _ => ?_, fun tick _ _ => ?_⟩
  · rw [Number.lt_iff, hnext]
    linarith
  · have hdifference : config.elapsedAt (tick + 1) - config.elapsedAt tick = config.dtSeconds := by
      apply Number.val_injective
      rw [Number.val_sub, hround, hnext]
      ring
    rw [hdifference]
    exact isclose_self _ _ _

end Times

/-! ## Generated datasets -/

section Generated

variable {draws : DatasetDraws format} {spec : DatasetSpec (Number format)}
  {plannedRuns : List (PlannedRun (Number format))} {results : List (RunExport format)}
  {files : DatasetFiles format}

/-- The specification is read back from the manifest. -/
theorem Generated.loadDataset_eq [JsonText (Number format)] [FloatText (Number format)]
    (h : Generated draws spec plannedRuns results files) :
    loadDataset files = .ok ⟨files, spec⟩ := by
  have hspec : files.manifest.datasetSpec = spec.toJsonDict := by
    rw [h.files_eq]
    rfl
  unfold loadDataset
  rw [hspec, spec.fromJsonDict_reloaded]
  rfl

namespace Generated

variable (h : Generated draws spec plannedRuns results files)
include h

/-- The manifest counts the rows that are there. -/
theorem checkManifestRowCounts_eq :
    checkManifestRowCounts (⟨files, spec⟩ : DatasetHandle format) = [] := by
  simp [checkManifestRowCounts, checkRowCount, h.rowCounts]

/-- The runs of the dataset are the planned ones. -/
theorem toFinset_runIds : (⟨files, spec⟩ : DatasetHandle format).runIds =
    (plannedRuns.map PlannedRun.simulationRunId).toFinset := congrArg List.toFinset h.runIds

/-- A row of a run holds what is planned for it. -/
theorem columnMismatches_eq {row : RunRow format} (hrow : row ∈ files.runs) :
    columnMismatches plannedRuns row = [] := by
  have hruns : files.runs = results.map RunExport.runRow := congrArg DatasetFiles.runs h.files_eq
  rw [hruns] at hrow
  obtain ⟨result, hresult, rfl⟩ := List.mem_map.mp hrow
  have hplanned : result.plannedRun ∈ plannedRuns :=
    h.plannedRuns_eq ▸ List.mem_map_of_mem hresult
  unfold columnMismatches
  split
  · rfl
  next planned hfind =>
    have hid := List.find?_some hfind
    rw [decide_eq_true_eq] at hid
    -- the plan found by the id is the one that the row was made for
    have heq : planned = result.plannedRun :=
      h.eq_of_runId (List.mem_reverse.mp (List.mem_of_find?_eq_some hfind)) hplanned hid
    rw [heq, List.map_eq_nil_iff, List.filter_eq_nil_iff]
    unfold comparedFields
    simp [RunExport.runRow, approxEqual_self]

/-- Planning the spec again gives the same runs. -/
theorem checkPlanReproducibility_eq :
    checkPlanReproducibility (⟨files, spec⟩ : DatasetHandle format) plannedRuns = [] := by
  have hruns : files.runs = results.map RunExport.runRow := congrArg DatasetFiles.runs h.files_eq
  have hmismatches : files.runs.flatMap (columnMismatches plannedRuns) = [] :=
    List.flatMap_eq_nil_iff.mpr fun _ hrow => h.columnMismatches_eq hrow
  have hlabels : files.runs.map RunRow.classLabel = plannedRuns.map PlannedRun.classLabel := by
    rw [hruns, ← h.plannedRuns_eq, List.map_map, List.map_map]
    rfl
  have hstrata : (files.runs.map fun row => (row.classLabel, row.targetAssetId)) =
      plannedRuns.map stratum := by
    rw [hruns, ← h.plannedRuns_eq, List.map_map, List.map_map]
    rfl
  unfold checkPlanReproducibility
  simp [h.toFinset_runIds, hmismatches, hlabels, hstrata, checkCounts]

/-- The splits of a generated dataset pass: they partition its runs, and the manifest counts them.
-/
theorem checkSplits_eq :
    checkSplits (⟨files, spec⟩ : DatasetHandle format) (splitsOf draws spec plannedRuns) = [] := by
  have hsplits : files.splits = splitsOf draws spec plannedRuns :=
    congrArg DatasetFiles.splits h.files_eq
  have hcounts : files.manifest.splitCounts = ⟨files.splits.train.length,
      files.splits.validation.length, files.splits.test.length⟩ := by
    rw [h.files_eq]
    rfl
  -- no run is in two splits, as the splits are a permutation of the runs
  have honce : (files.splits.train ++ files.splits.validation ++ files.splits.test).Nodup :=
    h.perm_splits.nodup_iff.mpr (nodup_planRuns h.planned)
  obtain ⟨hleft, htest, hdisjoint⟩ := List.nodup_append.mp honce
  obtain ⟨htrain, hvalidation, hdisjoint'⟩ := List.nodup_append.mp hleft
  have hunion : files.splits.train.toFinset ∪ files.splits.validation.toFinset ∪
      files.splits.test.toFinset = (plannedRuns.map PlannedRun.simulationRunId).toFinset := by
    rw [← List.toFinset_append, ← List.toFinset_append]
    exact List.toFinset_eq_of_perm _ _ h.perm_splits
  have hoverlap (pair : String) {xs ys : List String} (hne : ∀ x ∈ xs, ∀ y ∈ ys, x ≠ y) :
      checkOverlap pair (xs.toFinset ∩ ys.toFinset) = ([] : List (Finding format)) := by
    refine if_neg ?_
    rw [Finset.not_nonempty_iff_eq_empty, ← Finset.disjoint_iff_inter_eq_empty,
      Finset.disjoint_left]
    intro x hx hy
    exact hne x (List.mem_toFinset.mp hx) x (List.mem_toFinset.mp hy) rfl
  unfold checkSplits
  dsimp only
  rw [hoverlap _ hdisjoint', hoverlap _ fun x hx => hdisjoint x (List.mem_append_left _ hx),
    hoverlap _ fun x hx => hdisjoint x (List.mem_append_right _ hx), hunion, h.toFinset_runIds,
    hcounts, List.toFinset_card_of_nodup htrain, List.toFinset_card_of_nodup hvalidation,
    List.toFinset_card_of_nodup htest, ← hsplits]
  simp

/-- Every row of telemetry is that of a tick, an asset and a channel. -/
theorem mem_telemetry {row : TelemetryRow format} (hrow : row ∈ files.telemetry) :
    ∃ place ∈ runTicks plannedRuns, ∃ asset channel,
      row.frame = place.1.frame place.2 asset channel := by
  have hframe : row.frame ∈ files.telemetry.map TelemetryRow.frame := List.mem_map_of_mem hrow
  rw [h.telemetry] at hframe
  obtain ⟨place, hplace, hframe⟩ := List.mem_flatMap.mp hframe
  obtain ⟨asset, -, hframe⟩ := List.mem_flatMap.mp hframe
  obtain ⟨channel, -, hframe⟩ := List.mem_map.mp hframe
  exact ⟨place, hplace, asset, channel, hframe.symm⟩

/-- The runs of the rows of telemetry: those that have a tick. -/
theorem mem_telemetry_runIds {runId : String} :
    runId ∈ files.telemetry.map TelemetryRow.simulationRunId ↔
      ∃ run ∈ plannedRuns, 0 < run.config.totalSteps ∧ run.simulationRunId = runId := by
  have hids : files.telemetry.map TelemetryRow.simulationRunId =
      (files.telemetry.map TelemetryRow.frame).map TelemetryFrame.simulationRunId := by
    rw [List.map_map]
    rfl
  rw [hids, h.telemetry, List.mem_map]
  constructor
  · rintro ⟨frame, hframe, rfl⟩
    obtain ⟨⟨run, tick⟩, hplace, hframe⟩ := List.mem_flatMap.mp hframe
    obtain ⟨asset, -, hframe⟩ := List.mem_flatMap.mp hframe
    obtain ⟨channel, -, rfl⟩ := List.mem_map.mp hframe
    obtain ⟨hrun, hone, hle⟩ := mem_runTicks.mp hplace
    exact ⟨run, hrun, by omega, rfl⟩
  · rintro ⟨run, hrun, hsteps, rfl⟩
    -- the first tick of a run has a row for the voltage of its first asset
    refine ⟨run.frame 1 .stack01 .voltage, List.mem_flatMap.mpr ⟨(run, 1), ?_, ?_⟩, rfl⟩
    · exact mem_runTicks.mpr ⟨hrun, le_rfl, hsteps⟩
    · exact List.mem_flatMap.mpr ⟨.stack01, by simp, List.mem_map_of_mem (by simp)⟩

/-- The runs of the labels: those that have a tick. -/
theorem mem_groundTruth_runIds {runId : String} :
    runId ∈ files.groundTruth.map GroundTruthRow.simulationRunId ↔
      ∃ run ∈ plannedRuns, 0 < run.config.totalSteps ∧ run.simulationRunId = runId := by
  rw [h.groundTruth, List.mem_map]
  constructor
  · rintro ⟨row, hrow, rfl⟩
    obtain ⟨⟨run, tick⟩, hplace, hrow⟩ := List.mem_flatMap.mp hrow
    obtain ⟨asset, -, rfl⟩ := List.mem_map.mp hrow
    obtain ⟨hrun, hone, hle⟩ := mem_runTicks.mp hplace
    exact ⟨run, hrun, by omega, rfl⟩
  · rintro ⟨run, hrun, hsteps, rfl⟩
    refine ⟨run.labelAt 1 .stack01, List.mem_flatMap.mpr ⟨(run, 1), ?_, ?_⟩, rfl⟩
    · exact mem_runTicks.mpr ⟨hrun, le_rfl, hsteps⟩
    · exact List.mem_map_of_mem (by simp)

/-- A run without rows is one without a tick. -/
theorem checkRowReferences_eq_nil_iff :
    checkRowReferences (⟨files, spec⟩ : DatasetHandle format)
        (plannedRuns.map PlannedRun.simulationRunId).toFinset = [] ↔
      ∀ run ∈ plannedRuns, 0 < run.config.totalSteps := by
  -- telemetry and labels name the runs that have a tick
  have hknown {ids : List String} (hids : ∀ runId, runId ∈ ids ↔
      ∃ run ∈ plannedRuns, 0 < run.config.totalSteps ∧ run.simulationRunId = runId) :
      ids.toFinset \ (plannedRuns.map PlannedRun.simulationRunId).toFinset = ∅ ∧
      ((plannedRuns.map PlannedRun.simulationRunId).toFinset \ ids.toFinset = ∅ ↔
        ∀ run ∈ plannedRuns, 0 < run.config.totalSteps) := by
    constructor
    · refine Finset.sdiff_eq_empty_iff_subset.mpr fun runId hmem => ?_
      obtain ⟨run, hrun, -, hid⟩ := (hids runId).mp (List.mem_toFinset.mp hmem)
      exact List.mem_toFinset.mpr (List.mem_map.mpr ⟨run, hrun, hid⟩)
    · rw [Finset.sdiff_eq_empty_iff_subset]
      constructor
      · intro hsub run hrun
        have hmem := hsub (List.mem_toFinset.mpr (List.mem_map_of_mem hrun))
        obtain ⟨run', hrun', hsteps, hid⟩ := (hids _).mp (List.mem_toFinset.mp hmem)
        exact h.eq_of_runId hrun' hrun hid ▸ hsteps
      · intro hsteps runId hmem
        obtain ⟨run, hrun, hid⟩ := List.mem_map.mp (List.mem_toFinset.mp hmem)
        exact List.mem_toFinset.mpr ((hids runId).mpr ⟨run, hrun, hsteps run hrun, hid⟩)
  obtain ⟨htelemetry, hmissing⟩ := hknown fun _ => h.mem_telemetry_runIds
  obtain ⟨hgroundTruth, hmissing'⟩ := hknown fun _ => h.mem_groundTruth_runIds
  unfold checkRowReferences
  simp only [List.append_eq_nil_iff, checkIds_eq_nil_iff, htelemetry, hgroundTruth, hmissing,
    hmissing', and_self, true_and]

/-- A measurement is reported in the unit of its channel. -/
theorem checkStableUnits_eq :
    checkStableUnits (⟨files, spec⟩ : DatasetHandle format) = [] := by
  refine if_pos (List.filter_eq_nil_iff.mpr fun entry hentry => ?_)
  obtain ⟨⟨measurement, rows⟩, hitem, rfl⟩ := List.mem_map.mp hentry
  obtain ⟨rfl, -⟩ := mem_items_grouped.mp hitem
  rw [decide_eq_true_eq, not_lt, Finset.card_le_one]
  -- every unit of the measurement is that of a channel of its name
  have hunit : ∀ unit ∈ ((ofKey TelemetryRow.measurementType measurement files.telemetry).map
      TelemetryRow.unit).toFinset, ∃ channel : Channel,
        channel.name = measurement ∧ channel.unit = unit := by
    intro unit hmem
    obtain ⟨row, hrow, rfl⟩ := List.mem_map.mp (List.mem_toFinset.mp hmem)
    obtain ⟨hrow, hname⟩ := mem_ofKey.mp hrow
    obtain ⟨place, -, asset, channel, hframe⟩ := h.mem_telemetry hrow
    have hmeasured : row.measurementType = channel.name :=
      congrArg TelemetryFrame.measurementType hframe
    exact ⟨channel, hmeasured.symm.trans hname, (congrArg TelemetryFrame.unit hframe).symm⟩
  intro unit hmem unit' hmem'
  obtain ⟨channel, hname, rfl⟩ := hunit unit hmem
  obtain ⟨channel', hname', rfl⟩ := hunit unit' hmem'
  rw [Channel.name_injective (hname.trans hname'.symm)]

/-- The labels of a run and an asset: one for each tick. -/
theorem ofKey_groundTruth {run : PlannedRun (Number format)} (hrun : run ∈ plannedRuns)
    (asset : PlantAsset) :
    ofKey (fun row => (row.simulationRunId, row.assetId)) (run.simulationRunId, asset.id)
      files.groundTruth =
        (List.range' 1 run.config.totalSteps).map fun tick => run.labelAt tick asset := by
  have hrows : files.groundTruth = plannedRuns.flatMap fun run =>
      (List.range' 1 run.config.totalSteps).flatMap fun tick =>
        PlantAsset.all.map (run.labelAt tick) := by
    rw [h.groundTruth, runTicks, List.flatMap_assoc]
    simp only [List.flatMap_map]
  have hofRun : ofKey GroundTruthRow.simulationRunId run.simulationRunId files.groundTruth =
      (List.range' 1 run.config.totalSteps).flatMap fun tick =>
        PlantAsset.all.map (run.labelAt tick) := by
    rw [hrows]
    refine ofKey_flatMap (nodup_planRuns h.planned) (fun run _ row hrow => ?_) hrun
    obtain ⟨tick, -, hrow⟩ := List.mem_flatMap.mp hrow
    obtain ⟨asset, -, rfl⟩ := List.mem_map.mp hrow
    rfl
  -- of the labels of a tick, one is that of the asset
  have hofTick (tick : ℕ) : (PlantAsset.all.map (run.labelAt tick)).filter
      (fun row => row.assetId = asset.id) = [run.labelAt tick asset] := by
    have hasset : PlantAsset.all.filter (fun other => other.id = asset.id) = [asset] := by
      cases asset <;> decide
    rw [List.filter_map]
    exact congrArg (List.map (run.labelAt tick)) hasset
  have hsplit : ofKey (fun row => (row.simulationRunId, row.assetId))
      (run.simulationRunId, asset.id) files.groundTruth =
        (ofKey GroundTruthRow.simulationRunId run.simulationRunId files.groundTruth).filter
          fun row => row.assetId = asset.id := by
    unfold ofKey
    rw [List.filter_filter]
    refine List.filter_congr fun row _ => ?_
    simp [Bool.and_comm]
  rw [hsplit, hofRun, List.filter_flatMap]
  simp only [hofTick]
  exact List.flatMap_pure_eq_map _ _

/-- The series of times are those of the runs, for each of their assets. -/
theorem mem_elapsedSeries {key : String × String} {elapsed : List (Number format)} :
    (key, elapsed) ∈ elapsedSeries files.groundTruth ↔
      ∃ run ∈ plannedRuns, 0 < run.config.totalSteps ∧
        ∃ asset : PlantAsset, key = (run.simulationRunId, asset.id) ∧
          elapsed = run.config.elapsedTimes := by
  -- the times of a run are the same for all its assets
  have htimes {run : PlannedRun (Number format)} (hrun : run ∈ plannedRuns) (asset : PlantAsset) :
      (ofKey (fun row => (row.simulationRunId, row.assetId)) (run.simulationRunId, asset.id)
        files.groundTruth).map GroundTruthRow.elapsedSimSeconds = run.config.elapsedTimes := by
    rw [h.ofKey_groundTruth hrun asset, List.map_map]
    rfl
  constructor
  · intro hmem
    obtain ⟨⟨key', rows⟩, hitem, heq⟩ := List.mem_map.mp hmem
    obtain ⟨rfl, hne⟩ := mem_items_grouped.mp hitem
    cases heq
    obtain ⟨row, hrow⟩ := List.exists_mem_of_ne_nil _ hne
    obtain ⟨hrow, hkey⟩ := mem_ofKey.mp hrow
    obtain ⟨run, hrun, hsteps, hid⟩ := h.mem_groundTruth_runIds.mp (List.mem_map_of_mem hrow)
    obtain ⟨run', hrun', tick, asset, rfl⟩ := h.exists_labelAt hrow
    cases h.eq_of_runId hrun hrun' hid
    refine ⟨run, hrun, hsteps, asset, hkey.symm, ?_⟩
    rw [← htimes hrun asset, ← hkey]
    rfl
  · rintro ⟨run, hrun, hsteps, asset, rfl, rfl⟩
    refine List.mem_map.mpr ⟨((run.simulationRunId, asset.id), _),
      mem_items_grouped.mpr ⟨rfl, ?_⟩, ?_⟩
    · rw [h.ofKey_groundTruth hrun asset]
      simpa using hsteps.ne'
    · exact Prod.ext rfl (htimes hrun asset)

/-- The cadence is found fine exactly if the times of every run with a tick rise, and in even steps.
-/
theorem checkCadenceAndMonotonicity_eq_nil_iff [JsonText (Number format)] :
    checkCadenceAndMonotonicity (⟨files, spec⟩ : DatasetHandle format) spec.val.dtSeconds = [] ↔
      ∀ run ∈ plannedRuns, 0 < run.config.totalSteps →
        isRising run.config.elapsedTimes = true ∧
          isEven run.config.dtSeconds run.config.elapsedTimes = true := by
  have hnil : checkCadenceAndMonotonicity (⟨files, spec⟩ : DatasetHandle format)
      spec.val.dtSeconds = [] ↔ ∀ entry ∈ elapsedSeries files.groundTruth,
        isRising entry.2 = true ∧ isEven spec.val.dtSeconds entry.2 = true := by
    unfold checkCadenceAndMonotonicity
    simp only [List.append_eq_nil_iff, ite_eq_right_iff, List.cons_ne_nil, imp_false, ne_eq,
      not_not, List.map_eq_nil_iff, List.filter_eq_nil_iff, Bool.and_eq_true, Bool.not_eq_true',
      Bool.not_eq_false, not_and]
    rw [← forall₂_and]
    exact forall₂_congr fun entry _ => ⟨fun h => ⟨h.1, h.2 h.1⟩, fun h => ⟨h.1, fun _ => h.2⟩⟩
  rw [hnil]
  constructor
  · intro hseries run hrun hsteps
    -- one asset is enough to see the times of a run
    have hentry : ((run.simulationRunId, PlantAsset.stack01.id), run.config.elapsedTimes) ∈
        elapsedSeries files.groundTruth :=
      h.mem_elapsedSeries.mpr ⟨run, hrun, hsteps, .stack01, rfl, rfl⟩
    have hdt : run.config.dtSeconds = spec.val.dtSeconds := (h.plannedFor run hrun).dtSeconds
    rw [hdt]
    exact hseries _ hentry
  · rintro hruns ⟨key, elapsed⟩ hentry
    obtain ⟨run, hrun, hsteps, asset, -, rfl⟩ := h.mem_elapsedSeries.mp hentry
    have hdt : run.config.dtSeconds = spec.val.dtSeconds := (h.plannedFor run hrun).dtSeconds
    rw [← hdt]
    exact hruns run hrun hsteps

omit h in
/-- Where the rows of a run have a key for each of its times and no key comes twice, its times are
distinct. -/
theorem nodup_elapsedTimes_of_nodup {κ : Type} {keysAt : PlannedRun (Number format) × ℕ → List κ}
    {run : PlannedRun (Number format)} (hrun : run ∈ plannedRuns)
    (hkey : ∀ tick tick', run.config.elapsedAt tick = run.config.elapsedAt tick' →
      ∃ k, k ∈ keysAt (run, tick) ∧ k ∈ keysAt (run, tick'))
    (hnodup : ((runTicks plannedRuns).flatMap keysAt).Nodup) : run.config.elapsedTimes.Nodup := by
  obtain ⟨-, hdisjoint⟩ := List.nodup_flatMap.mp hnodup
  rw [nodup_elapsedTimes_iff]
  intro tick htick tick' htick' heq
  by_contra hne
  obtain ⟨k, hk, hk'⟩ := hkey tick tick' heq
  have : Std.Symm (Function.onFun List.Disjoint keysAt) := ⟨fun _ _ hplaces => hplaces.symm⟩
  have hplaces : List.Disjoint (keysAt (run, tick)) (keysAt (run, tick')) :=
    hdisjoint.forall (mem_runTicks.mpr ⟨hrun, htick⟩) (mem_runTicks.mpr ⟨hrun, htick'⟩)
      fun hplace => hne (Prod.mk.inj hplace).2
  exact hplaces hk hk'

/-- Distinct times tell the place of a row in its run. -/
theorem place_eq_of_elapsedAt (htimes : ∀ run ∈ plannedRuns, run.config.elapsedTimes.Nodup) :
    ∀ place ∈ runTicks plannedRuns, ∀ place' ∈ runTicks plannedRuns,
      place.1.simulationRunId = place'.1.simulationRunId →
      place.1.config.elapsedAt place.2 = place'.1.config.elapsedAt place'.2 → place = place' := by
  rintro ⟨run, tick⟩ hplace ⟨run', tick'⟩ hplace' hid htime
  obtain ⟨hrun, htick⟩ := mem_runTicks.mp hplace
  obtain ⟨hrun', htick'⟩ := mem_runTicks.mp hplace'
  cases h.eq_of_runId hrun hrun' hid
  rw [nodup_elapsedTimes_iff.mp (htimes run hrun) tick htick tick' htick' htime]

/-- The keys of the rows of telemetry are distinct exactly if the times of each run are. -/
theorem nodup_telemetryKeys_iff : (files.telemetry.map TelemetryRow.auditKey).Nodup ↔
    ∀ run ∈ plannedRuns, run.config.elapsedTimes.Nodup := by
  let keyOf (frame : TelemetryFrame format) :=
    (frame.simulationRunId, frame.assetId, frame.measurementType, frame.elapsedSimSeconds)
  have hkeys : files.telemetry.map TelemetryRow.auditKey =
      (files.telemetry.map TelemetryRow.frame).map keyOf := by
    rw [List.map_map]
    rfl
  rw [hkeys]
  constructor
  · rw [h.telemetry, List.map_flatMap]
    intro hnodup run hrun
    refine nodup_elapsedTimes_of_nodup hrun (fun tick tick' heq => ?_) hnodup
    -- the voltage of the first stack
    have hmem (tick : ℕ) : keyOf (run.frame tick .stack01 .voltage) ∈
        (run.framesAt tick).map keyOf :=
      List.mem_map_of_mem (List.mem_flatMap.mpr
        ⟨.stack01, by simp, List.mem_map_of_mem (by simp)⟩)
    refine ⟨_, hmem tick, ?_⟩
    rw [show keyOf (run.frame tick .stack01 .voltage) = keyOf (run.frame tick' .stack01 .voltage) by
      simp only [keyOf, PlannedRun.frame, heq]]
    exact hmem tick'
  · intro htimes
    -- conversely, run and time tell the tick
    have hplace := h.place_eq_of_elapsedAt htimes
    apply h.nodup_telemetry
    intro place hmem place' hmem' asset asset' channel channel' heq
    simp only [keyOf, PlannedRun.frame, Prod.mk.injEq] at heq
    obtain ⟨hid, hasset, hchannel, htime⟩ := heq
    exact ⟨hplace place hmem place' hmem' hid htime, PlantAsset.id_injective hasset,
      Channel.name_injective hchannel⟩

/-- So are those of the labels. -/
theorem nodup_groundTruthKeys_iff : (files.groundTruth.map GroundTruthRow.auditKey).Nodup ↔
    ∀ run ∈ plannedRuns, run.config.elapsedTimes.Nodup := by
  constructor
  · rw [h.groundTruth, List.map_flatMap]
    intro hnodup run hrun
    refine nodup_elapsedTimes_of_nodup hrun (fun tick tick' heq => ?_) hnodup
    have hmem (tick : ℕ) : (run.labelAt tick .stack01).auditKey ∈
        (PlantAsset.all.map (run.labelAt tick)).map GroundTruthRow.auditKey :=
      List.mem_map_of_mem (List.mem_map_of_mem (by simp))
    refine ⟨_, hmem tick, ?_⟩
    -- two ticks at the same time have labels with the same key
    have hkey : (run.labelAt tick .stack01).auditKey = (run.labelAt tick' .stack01).auditKey := by
      show (_, _, run.config.elapsedAt tick) = (_, _, run.config.elapsedAt tick')
      rw [heq]
      rfl
    rw [hkey]
    exact hmem tick'
  · intro htimes
    have hplace := h.place_eq_of_elapsedAt htimes
    apply h.nodup_groundTruth
    intro place hmem place' hmem' asset asset' heq
    obtain ⟨hid, heq⟩ := Prod.mk.inj heq
    obtain ⟨hasset, htime⟩ := Prod.mk.inj heq
    exact ⟨hplace place hmem place' hmem' hid htime, PlantAsset.id_injective hasset⟩

end Generated

/-- What each of the checks finds in a dataset. Counts, runs, splits and units are as they were
planned; a run without a sample has no rows, and times that are rounded may stand still. -/
structure StructurallyChecked [JsonText (Number format)] (handle : DatasetHandle format)
    (plannedRuns : List (PlannedRun (Number format))) (expected : SplitLists) : Prop where
  rowCounts : checkManifestRowCounts handle = []
  plan : checkPlanReproducibility handle plannedRuns = []
  splits : checkSplits handle expected = []
  units : checkStableUnits handle = []
  references :
    checkRowReferences handle (plannedRuns.map PlannedRun.simulationRunId).toFinset = [] ↔
      ∀ run ∈ plannedRuns, 0 < run.config.totalSteps
  cadence : checkCadenceAndMonotonicity handle handle.spec.val.dtSeconds = [] ↔
    ∀ run ∈ plannedRuns, 0 < run.config.totalSteps → isRising run.config.elapsedTimes = true ∧
      isEven run.config.dtSeconds run.config.elapsedTimes = true
  telemetryKeys : checkTelemetryKeys handle = [] ↔
    ∀ run ∈ plannedRuns, run.config.elapsedTimes.Nodup
  groundTruthKeys : checkGroundTruthKeys handle = [] ↔
    ∀ run ∈ plannedRuns, run.config.elapsedTimes.Nodup

/-- There is no finding exactly if no key comes twice. -/
theorem checkNoDuplicateKeys_eq_nil_iff {α κ : Type} [DecidableEq κ] {keyOf : α → κ}
    {toJson : κ → List (Json (Number format))} {keyFields tableName : String} {rows : List α} :
    checkNoDuplicateKeys keyOf toJson keyFields tableName rows = [] ↔ (rows.map keyOf).Nodup := by
  have hduplicates : duplicateKeys [] (rows.map keyOf) = [] ↔ (rows.map keyOf).Nodup := by
    rw [duplicateKeys_eq_nil_iff]
    exact and_iff_left fun _ _ => List.not_mem_nil
  unfold checkNoDuplicateKeys
  simp only [hduplicates, ite_eq_left_iff, List.cons_ne_nil, imp_false, not_not]

/-- What each structural check finds in a generated dataset. -/
theorem Generated.structurallyChecked [JsonText (Number format)]
    (h : Generated draws spec plannedRuns results files) :
    StructurallyChecked ⟨files, spec⟩ plannedRuns (splitsOf draws spec plannedRuns) where
  rowCounts := h.checkManifestRowCounts_eq
  plan := h.checkPlanReproducibility_eq
  splits := h.checkSplits_eq
  units := h.checkStableUnits_eq
  references := h.checkRowReferences_eq_nil_iff
  cadence := h.checkCadenceAndMonotonicity_eq_nil_iff
  telemetryKeys := checkNoDuplicateKeys_eq_nil_iff.trans h.nodup_telemetryKeys_iff
  groundTruthKeys := checkNoDuplicateKeys_eq_nil_iff.trans h.nodup_groundTruthKeys_iff

/-- All checks together find nothing exactly in runs whose samples are one step apart. -/
theorem StructurallyChecked.structuralFindings_eq_nil_iff [JsonText (Number format)]
    {handle : DatasetHandle format} {expected : SplitLists}
    (h : StructurallyChecked handle plannedRuns expected) :
    structuralFindings handle plannedRuns expected = [] ↔
      ∀ run ∈ plannedRuns, EvenlySampled run.config := by
  unfold structuralFindings
  rw [h.rowCounts, h.plan, h.splits, h.units]
  simp only [List.nil_append, List.append_nil, List.append_eq_nil_iff, h.references, h.cadence,
    h.telemetryKeys, h.groundTruthKeys]
  constructor
  · rintro ⟨⟨⟨hsteps, htimes⟩, -⟩, -⟩ run hrun
    obtain ⟨hrising, heven⟩ := htimes run hrun (hsteps run hrun)
    exact ⟨hsteps run hrun, isRising_elapsedTimes.mp hrising, isEven_elapsedTimes.mp heven⟩
  · intro heven
    have hkeys : ∀ run ∈ plannedRuns, run.config.elapsedTimes.Nodup :=
      fun run hrun => (heven run hrun).nodup_elapsedTimes
    refine ⟨⟨⟨fun run hrun => (heven run hrun).steps, fun run hrun _ => ?_⟩, hkeys⟩, hkeys⟩
    exact ⟨isRising_elapsedTimes.mpr (heven run hrun).rising,
      isEven_elapsedTimes.mpr (heven run hrun).even⟩

/-- A dataset that is generated is loaded with the specification that it was generated from. Of its
structure, row counts, runs, splits and units always pass; the references pass exactly if every run
takes a sample, the keys if no time of a run is recorded twice, and nothing is found exactly if the
samples of each run are one step apart, as far as numbers tell. Where nothing is rounded, they
are. -/
theorem checkStructural_generated [JsonText (Number format)] [FloatText (Number format)]
    {entries? : Option (List String)} {overwrite : Bool}
    (h : generateDataset draws spec entries? overwrite = .ok files) :
    ∃ plannedRuns findings, planRuns draws.random spec = .ok plannedRuns ∧
      loadDataset files = .ok ⟨files, spec⟩ ∧
      checkStructural ⟨files, spec⟩ draws.random draws.shuffle = .ok findings ∧
      StructurallyChecked ⟨files, spec⟩ plannedRuns (splitsOf draws spec plannedRuns) ∧
      (findings = [] ↔ ∀ run ∈ plannedRuns, EvenlySampled run.config) ∧
      ((∀ q, format.round q = q) →
        (findings = [] ↔ ∀ run ∈ plannedRuns, 0 < run.config.totalSteps)) := by
  obtain ⟨plannedRuns, results, hgenerated⟩ := exists_generated h
  have hchecked := hgenerated.structurallyChecked
  have hnil := hchecked.structuralFindings_eq_nil_iff
  refine ⟨plannedRuns, _, hgenerated.planned, hgenerated.loadDataset_eq, ?_, hchecked, hnil,
    fun hround => hnil.trans (forall₂_congr fun run _ => ?_)⟩
  · unfold checkStructural
    rw [hgenerated.planned]
    rfl
  · exact ⟨EvenlySampled.steps, evenlySampled_of_exact hround⟩

/-- Numbers of the dataset of one run are written as fractions. -/
instance : JsonText (Number tinyFormat) where
  repr
    | .int n => intText n
    | .float x => intText x.val.num ++ "/" ++ Nat.repr x.val.den
    | .arr _ => "[...]"
    | _ => "{...}"
  repr_ne_empty v := by
    cases v with
    | int n => exact append_ne_empty Nat.repr_ne_empty
    | float x => exact append_ne_empty Nat.repr_ne_empty
    | arr items => exact (by decide : ("[...]" : String) ≠ "")
    | _ => exact (by decide : ("{...}" : String) ≠ "")
  toInt
    | .int n => .ok n
    | _ => .error .typeError
  toInt_int _ := rfl

/-- No number of its specification is written as a text. -/
instance : FloatText (Number tinyFormat) := ⟨fun _ => none⟩

/-- The dataset of the example is loaded, and passes. -/
theorem checkStructural_tiny : ∃ files,
    generateDataset tinyDraws tinySpec none false = .ok files ∧
    loadDataset files = .ok ⟨files, tinySpec⟩ ∧
    checkStructural ⟨files, tinySpec⟩ tinyDraws.random tinyDraws.shuffle = .ok [] := by
  obtain ⟨files, hfiles⟩ := exists_tinyFiles
  obtain ⟨plannedRuns, findings, hplanned, hload, hcheck, -, -, hnil⟩ :=
    checkStructural_generated hfiles
  have hsteps : ((planRuns tinyDraws.random tinySpec).toOption.any fun runs =>
      runs.all fun run => 0 < run.config.totalSteps) = true := by
    decide +kernel
  rw [hplanned] at hsteps
  have hfindings : findings = [] := by
    refine (hnil fun _ => rfl).mpr fun run hrun => ?_
    exact of_decide_eq_true (List.all_eq_true.mp hsteps run hrun)
  exact ⟨files, hfiles, hload, hfindings ▸ hcheck⟩

end Generated

end Odis.Simulator
