import Mathlib.Data.Prod.Lex
import Mathlib.Data.String.Basic
import Odis.Features.Builder
import Odis.Features.Computable
import Odis.Library.KeyedWindow
import Odis.Library.OrderBy

/-!
# The feature table of a data set

`build_feature_table` (`features/builder.py`, with `labels.py`): the telemetry is checked and
indexed by run, asset and measurement, the ground truth by run and asset, and the rows of every
`(run, asset)` are computed position by position. A row of telemetry and a row of ground truth come
together by their positions in the sorted series, not by their times.

* `indexAndValidateTelemetry_eq_ok`: the index has the samples of each series, sorted, no time
  twice.
* `exists_buildFeatureTable_iff`: when the builder returns.
* `has_of_buildFeatureTable`: the table has a row for every position behind the warm-up.
-/

namespace Odis.Features

open Exceptions KeyedWindow OrderBy

variable {F : Type}

/-! ## The tables that are read -/

/-- A simulation run and one of its assets. -/
abbrev AssetRun : Type := String × String

/-- What one series of samples is about. -/
abbrev SeriesKey : Type := AssetRun × FeatureMeasurement

/-- The measurement of a name. -/
def FeatureMeasurement.ofName? (s : String) : Option FeatureMeasurement :=
  defaultMeasurements.find? fun m => m.name = s

/-- A row of `telemetry.parquet`. -/
structure TelemetryRow (F : Type) where
  simulationRunId : String
  assetId : String
  measurementType : String
  elapsedSimSeconds : ℚ
  value : F
  unit : String

/-- The series that a row belongs to, unless its measurement is none of the features'. -/
def TelemetryRow.seriesKey? (row : TelemetryRow F) : Option SeriesKey :=
  (FeatureMeasurement.ofName? row.measurementType).map fun m =>
    ((row.simulationRunId, row.assetId), m)

/-- A row of `ground_truth.parquet`. -/
structure GroundTruthRow (F : Type) where
  simulationRunId : String
  assetId : String
  elapsedSimSeconds : ℚ
  timestamp : Datetime
  faultActive : Bool
  faultType : String
  sensorCorruptionType : String
  faultSeverity : Option F

/-- The run and the asset of a row. -/
def GroundTruthRow.assetRun (row : GroundTruthRow F) : AssetRun :=
  (row.simulationRunId, row.assetId)

/-- `splits.json`: the runs of each split. -/
structure Splits where
  train : List String
  validation : List String
  test : List String

/-- The exceptions of `build_feature_table`. -/
inductive TableError (F : Type) where
  | unsupportedCadence (actual : ℚ)
  | duplicateObservation (key : SeriesKey) (elapsed : ℚ)
  | unitMismatch (measurement : FeatureMeasurement) (units : List String)
  | builder (error : BuilderError F)
  | keyError (runId : String)

/-! ## The index of the telemetry -/

/-- What `_index_and_validate_telemetry` has seen so far. A series that it has not met is empty. -/
structure TelemetryIndex (F : Type) where
  seenKeys : List (SeriesKey × ℚ)
  unitsByMeasurement : OrderedDict (id : FeatureMeasurement → FeatureMeasurement) (List String)
  index : SeriesKey → List (ℚ × F)

/-- The index of no row. -/
def TelemetryIndex.empty : TelemetryIndex F := ⟨[], .empty, fun _ => []⟩

/-- One round of the loop of `_index_and_validate_telemetry`. -/
def indexRow (state : TelemetryIndex F) (row : TelemetryRow F) :
    Except (TableError F) (TelemetryIndex F) :=
  match row.seriesKey? with
  -- no feature is made of this measurement
  | none => .ok state
  | some key =>
      if (key, row.elapsedSimSeconds) ∈ state.seenKeys then
        .error (.duplicateObservation key row.elapsedSimSeconds)
      else
        let units := (state.unitsByMeasurement.get? key.2).getD []
        .ok
          { seenKeys := (key, row.elapsedSimSeconds) :: state.seenKeys
            unitsByMeasurement := state.unitsByMeasurement.set key.2
              (if row.unit ∈ units then units else units ++ [row.unit])
            index := Function.update state.index key
              (state.index key ++ [(row.elapsedSimSeconds, row.value)]) }

/-- `_index_and_validate_telemetry`. -/
def indexAndValidateTelemetry (telemetry : List (TelemetryRow F)) :
    Except (TableError F) (SeriesKey → List (ℚ × F)) := do
  let state ← telemetry.foldlM indexRow .empty
  match state.unitsByMeasurement.items.find? fun entry => 1 < entry.2.length with
  | some (measurement, units) => .error (.unitMismatch measurement units)
  | none => return fun key => orderBy Prod.fst (state.index key)

/-! ## The steps of the ground truth -/

/-- `_timestamps_by_series`. -/
def timestampsBySeries (groundTruth : List (GroundTruthRow F)) :
    List (AssetRun × List (ℚ × Datetime)) :=
  (grouped GroundTruthRow.assetRun groundTruth).items.map fun entry =>
    (entry.1, orderBy Prod.fst (entry.2.map fun row => (row.elapsedSimSeconds, row.timestamp)))

/-! ## The labels -/

/-- `HEALTHY_LABEL`. -/
def healthyLabel : String := "healthy"

/-- `derive_label`. -/
def deriveLabel (row : GroundTruthRow F) : String :=
  if !row.faultActive then healthyLabel
  else if row.faultType ≠ "none" then row.faultType
  else if row.sensorCorruptionType = "bias" then "sensor_anomaly" else healthyLabel

/-- `LabelRow`. -/
structure LabelRow (F : Type) where
  simulationRunId : String
  assetId : String
  timestamp : Datetime
  split : String
  classLabel : String
  isAnomalous : Bool
  faultSeverity : Option F

/-- `_split_by_run_id(splits)[run_id]`: a run of several splits is in the last one. -/
def Splits.splitOf? (splits : Splits) (runId : String) : Option String :=
  if runId ∈ splits.test then some "test"
  else if runId ∈ splits.validation then some "validation"
  else if runId ∈ splits.train then some "train" else none

/-- `build_label_rows`. -/
def buildLabelRows (splits : Splits) (groundTruth : List (GroundTruthRow F)) :
    Except (TableError F) (List (LabelRow F)) :=
  groundTruth.mapM fun row =>
    match splits.splitOf? row.simulationRunId with
    | none => .error (.keyError row.simulationRunId)
    | some split =>
        .ok
          { simulationRunId := row.simulationRunId
            assetId := row.assetId
            timestamp := row.timestamp
            split
            classLabel := deriveLabel row
            isAnomalous := deriveLabel row ≠ healthyLabel
            faultSeverity := if row.faultActive then row.faultSeverity else none }

/-! ## The table -/

variable [PyFloat F]

/-- `FeatureTable`. -/
structure FeatureTable (F : Type) where
  features : List (FeatureRecord F)
  labels : List (LabelRow F)
  rejections : List (RejectionRecord F)
  totalRowsBeforeWarmupDrop : ℕ
  droppedWarmupRows : ℕ

/-- Times and their data, the times as numbers that are computed with. -/
def withFloatTimes {α : Type} (series : List (ℚ × α)) : List (F × α) :=
  series.map fun entry => (PyFloat.literal entry.1, entry.2)

/-- A row of ground truth has a row of features. -/
def eligible (features : List (FeatureRecord F)) (row : GroundTruthRow F) : Bool :=
  features.any fun record => record.key.runId == row.simulationRunId &&
    record.key.assetId == row.assetId &&
    record.key.elapsed == PyFloat.literal row.elapsedSimSeconds

/-- The rows of the `(run, asset)` pairs, one after the other. -/
def buildRows (index : SeriesKey → List (ℚ × F)) :
    List (AssetRun × List (ℚ × Datetime)) → Except (TableError F) (List (SeriesRows F)) :=
  List.mapM fun entry =>
    (buildSeries entry.1.1 entry.1.2 (fun m => withFloatTimes (index (entry.1, m)))
      (withFloatTimes entry.2)).mapError .builder

/-- `build_feature_table`. -/
def buildFeatureTable (dtSeconds : ℚ) (splits : Splits) (telemetry : List (TelemetryRow F))
    (groundTruth : List (GroundTruthRow F)) : Except (TableError F) (FeatureTable F) := do
  if dtSeconds ≠ 10 then throw (.unsupportedCadence dtSeconds)
  let index ← indexAndValidateTelemetry telemetry
  let series := timestampsBySeries groundTruth
  let parts ← buildRows index (orderBy (fun entry => toLex entry.1) series)
  let features := parts.flatMap SeriesRows.features
  let labels ← buildLabelRows splits (groundTruth.filter (eligible features))
  return {
    features
    labels
    rejections := parts.flatMap SeriesRows.rejections
    totalRowsBeforeWarmupDrop := (series.map fun entry => entry.2.length).sum
    droppedWarmupRows := (parts.map SeriesRows.droppedWarmupRows).sum }

/-! ## What the index holds -/

section Index

omit [PyFloat F]

/-- The samples of a series, in the order of the telemetry. -/
def observations (telemetry : List (TelemetryRow F)) (key : SeriesKey) : List (ℚ × F) :=
  (telemetry.filter fun row => row.seriesKey? = some key).map fun row =>
    (row.elapsedSimSeconds, row.value)

/-- The samples of a series, in the order of time. -/
def seriesOf (telemetry : List (TelemetryRow F)) (key : SeriesKey) : List (ℚ × F) :=
  orderBy Prod.fst (observations telemetry key)

variable {telemetry : List (TelemetryRow F)} {state state' : TelemetryIndex F}
  {row : TelemetryRow F} {key : SeriesKey}

/-- The observations of a series are the times and values of its rows of telemetry. -/
theorem mem_observations {sample : ℚ × F} : sample ∈ observations telemetry key ↔
    ∃ row ∈ telemetry, row.seriesKey? = some key ∧
      (row.elapsedSimSeconds, row.value) = sample := by
  simp [observations, and_assoc]

/-- A further row of the series comes last among its observations. -/
theorem observations_concat_self (h : row.seriesKey? = some key) :
    observations (telemetry ++ [row]) key =
      observations telemetry key ++ [(row.elapsedSimSeconds, row.value)] := by
  simp [observations, h]

/-- A row of another series leaves the observations as they are. -/
theorem observations_concat_of_ne (h : row.seriesKey? ≠ some key) :
    observations (telemetry ++ [row]) key = observations telemetry key := by
  simp [observations, h]

/-- The loop has indexed some rows, and met no time of a series twice. -/
structure Indexed (state : TelemetryIndex F) (telemetry : List (TelemetryRow F)) : Prop where
  index : ∀ key, state.index key = observations telemetry key
  seen : ∀ key t, (key, t) ∈ state.seenKeys ↔ t ∈ (observations telemetry key).map Prod.fst
  once : ∀ key, ((observations telemetry key).map Prod.fst).Nodup

/-- Before the first row the index is empty, as are the observations. -/
theorem indexed_empty : Indexed (.empty : TelemetryIndex F) [] where
  index _ := rfl
  seen _ _ := by simp [TelemetryIndex.empty, observations]
  once _ := List.nodup_nil

/-- One row: it has been indexed, or it is ignored, and no time was there before. -/
theorem Indexed.indexRow (h : Indexed state telemetry) (hrow : indexRow state row = .ok state') :
    Indexed state' (telemetry ++ [row]) := by
  rw [Features.indexRow] at hrow
  cases hkey : row.seriesKey? with
  -- a measurement that is not monitored is passed over
  | none =>
      rw [hkey] at hrow
      cases hrow
      have hsame : ∀ key, observations (telemetry ++ [row]) key = observations telemetry key :=
        fun key => observations_concat_of_ne (by rw [hkey]; rintro ⟨⟩)
      exact ⟨fun key => by rw [hsame, h.index], fun key t => by rw [hsame, h.seen],
        fun key => by rw [hsame]; exact h.once key⟩
  | some key =>
      rw [hkey] at hrow
      -- a time that had been there would have been refused
      have hseen : (key, row.elapsedSimSeconds) ∉ state.seenKeys := by
        intro hmem
        simp only [if_pos hmem] at hrow
        cases hrow
      simp only [if_neg hseen] at hrow
      cases hrow
      have hself : observations (telemetry ++ [row]) key =
          observations telemetry key ++ [(row.elapsedSimSeconds, row.value)] :=
        observations_concat_self hkey
      -- the row is that of its own series only
      have hother : ∀ key', key' ≠ key →
          observations (telemetry ++ [row]) key' = observations telemetry key' := by
        intro key' hne
        refine observations_concat_of_ne ?_
        rw [hkey]
        exact fun heq => hne (Option.some.inj heq).symm
      rw [h.seen] at hseen
      refine ⟨fun key' => ?_, fun key' t => ?_, fun key' => ?_⟩
      · dsimp only
        by_cases hne : key' = key
        · subst hne
          rw [Function.update_self, hself, h.index]
        · rw [Function.update_of_ne hne, hother key' hne, h.index]
      · by_cases hne : key' = key
        · subst hne
          rw [hself, List.map_append, List.mem_append, ← h.seen, List.mem_cons]
          simp [or_comm]
        · rw [hother key' hne, ← h.seen, List.mem_cons]
          simp [hne]
      · by_cases hne : key' = key
        · subst hne
          rw [hself, List.map_append, List.nodup_append]
          refine ⟨h.once key', by simp, ?_⟩
          rintro a ha b hb rfl
          rw [List.map_singleton, List.mem_singleton] at hb
          rw [hb] at ha
          exact hseen ha
        · rw [hother key' hne]
          exact h.once key'

/-- All rows, one after the other. -/
theorem Indexed.foldlM {past : List (TelemetryRow F)} (h : Indexed state past)
    (hrows : telemetry.foldlM Features.indexRow state = .ok state') :
    Indexed state' (past ++ telemetry) := by
  induction telemetry generalizing past state with
  | nil =>
      cases hrows
      rwa [List.append_nil]
  | cons row telemetry ih =>
      rw [List.foldlM_cons] at hrows
      obtain ⟨between, hrow, hrest⟩ := bind_eq_ok.mp hrows
      have := ih (h.indexRow hrow) hrest
      rwa [List.append_assoc] at this

/-- The index has the samples of each series, sorted, no time twice. -/
theorem indexAndValidateTelemetry_eq_ok {index : SeriesKey → List (ℚ × F)}
    (h : indexAndValidateTelemetry telemetry = .ok index) :
    index = seriesOf telemetry ∧ ∀ key, ((observations telemetry key).map Prod.fst).Nodup := by
  obtain ⟨state, hstate, h⟩ := bind_eq_ok.mp h
  have hindexed : Indexed state telemetry := indexed_empty.foldlM hstate
  split at h
  · cases h
  · cases h
    refine ⟨funext fun key => ?_, hindexed.once⟩
    rw [hindexed.index]
    rfl

end Index

/-! ## The steps of a run -/

section Steps

omit [PyFloat F]

/-- The steps of the ground truth of a run and an asset, in the order of time. -/
def stepsOf (groundTruth : List (GroundTruthRow F)) (key : AssetRun) : List (ℚ × Datetime) :=
  orderBy Prod.fst ((groundTruth.filter fun row => row.assetRun = key).map fun row =>
    (row.elapsedSimSeconds, row.timestamp))

/-- The timestamps kept for a run and asset are those of its steps, if it has any. -/
theorem mem_timestampsBySeries {groundTruth : List (GroundTruthRow F)}
    {entry : AssetRun × List (ℚ × Datetime)} :
    entry ∈ timestampsBySeries groundTruth ↔
      entry.2 = stepsOf groundTruth entry.1 ∧ entry.2 ≠ [] := by
  -- sorting loses no row
  have hne : ∀ rows : List (GroundTruthRow F), orderBy Prod.fst
      (rows.map fun row => (row.elapsedSimSeconds, row.timestamp)) ≠ [] ↔ rows ≠ [] := by
    intro rows
    rw [ne_eq, ← List.length_eq_zero_iff, orderBy, List.length_mergeSort, List.length_map,
      List.length_eq_zero_iff]
  rw [timestampsBySeries, List.mem_map]
  constructor
  · rintro ⟨⟨key, rows⟩, hmem, rfl⟩
    obtain ⟨rfl, hrows⟩ := mem_items_grouped.mp hmem
    exact ⟨rfl, (hne _).mpr hrows⟩
  · obtain ⟨key, steps⟩ := entry
    rintro ⟨hsteps, hnil⟩
    dsimp only at hsteps hnil
    subst hsteps
    exact ⟨(key, ofKey GroundTruthRow.assetRun key groundTruth),
      mem_items_grouped.mpr ⟨rfl, (hne _).mp hnil⟩, rfl⟩

end Steps

/-! ## The rows of a series -/

section Rows

variable {runId assetId : String} {series : FeatureMeasurement → Series F}
  {steps : List (F × Datetime)} {rows rows' : SeriesRows F}

/-- The record of a valid row. -/
def featureRecord (key : AssetRun) (step : F × Datetime) (result : FeatureRowResult F) :
    FeatureRecord F :=
  ⟨⟨key.1, key.2, step.1⟩, step.2, result.values⟩

/-- The record of a row that is rejected. -/
def rejectionRecord (key : AssetRun) (step : F × Datetime) (result : FeatureRowResult F) :
    RejectionRecord F :=
  ⟨⟨key.1, key.2, step.1⟩, step.2, result.validity⟩

/-- A row of a series of steps is behind the warm-up, and comes to a result. -/
def ComesTo (runId assetId : String) (series : FeatureMeasurement → Series F)
    (steps : List (F × Datetime)) (i : ℕ) (step : F × Datetime) (result : FeatureRowResult F) :
    Prop :=
  steps[i]? = some step ∧ longestWindowSamples - 1 ≤ i ∧
    rowAt runId assetId series step.1 i = .ok result

/-- The loop has made a row of every step behind the warm-up. -/
structure RowsOf (runId assetId : String) (series : FeatureMeasurement → Series F)
    (steps : List (F × Datetime)) (rows : SeriesRows F) : Prop where
  computed : ∀ i step, steps[i]? = some step → longestWindowSamples - 1 ≤ i →
    ∃ result, rowAt runId assetId series step.1 i = .ok result
  features : ∀ record, record ∈ rows.features ↔ ∃ i step result,
    ComesTo runId assetId series steps i step result ∧ result.validity.status = .valid ∧
      record = featureRecord (runId, assetId) step result
  rejections : ∀ record, record ∈ rows.rejections ↔ ∃ i step result,
    ComesTo runId assetId series steps i step result ∧
      result.validity.status = .insufficientData ∧
      record = rejectionRecord (runId, assetId) step result

/-- The rows of one more step are built behind those of the steps before it. -/
theorem buildSeries_concat (step : F × Datetime) :
    buildSeries runId assetId series (steps ++ [step]) =
      buildSeries runId assetId series steps >>= fun rows =>
        buildIndex runId assetId series rows (step, steps.length) := by
  rw [buildSeries, List.zipIdx_append, List.foldlM_append]
  simp [buildSeries]

/-- With one more step, the result of that step is added, if it is behind the warm-up. -/
theorem comesTo_concat {i : ℕ} {step step' : F × Datetime} {result : FeatureRowResult F} :
    ComesTo runId assetId series (steps ++ [step']) i step result ↔
      ComesTo runId assetId series steps i step result ∨
        i = steps.length ∧ step = step' ∧ longestWindowSamples - 1 ≤ steps.length ∧
          rowAt runId assetId series step'.1 steps.length = .ok result := by
  rw [ComesTo, ComesTo, List.getElem?_append]
  split_ifs with hlt
  · rw [or_iff_left]
    rintro ⟨rfl, -⟩
    exact absurd hlt (lt_irrefl _)
  · have hnone : steps[i]? = none := List.getElem?_eq_none (Nat.le_of_not_lt hlt)
    rw [hnone, or_iff_right (by rintro ⟨⟨⟩, -⟩), List.getElem?_singleton]
    constructor
    · rintro ⟨hstep, hwarm, hrow⟩
      split_ifs at hstep with hzero
      obtain rfl : i = steps.length := by omega
      cases hstep
      exact ⟨rfl, rfl, hwarm, hrow⟩
    · rintro ⟨rfl, rfl, hwarm, hrow⟩
      exact ⟨by simp, hwarm, hrow⟩

/-- The step that comes next comes to one more result. -/
theorem exists_comesTo_concat {step : F × Datetime} {result : FeatureRowResult F}
    {p : F × Datetime → FeatureRowResult F → Prop} (hle : longestWindowSamples - 1 ≤ steps.length)
    (hrow : rowAt runId assetId series step.1 steps.length = .ok result) :
    (∃ i step' result', ComesTo runId assetId series (steps ++ [step]) i step' result' ∧
        p step' result') ↔
      (∃ i step' result', ComesTo runId assetId series steps i step' result' ∧ p step' result') ∨
        p step result := by
  simp only [comesTo_concat]
  constructor
  · rintro ⟨i, step', result', hcomes | ⟨-, rfl, -, heq⟩, hp⟩
    · exact .inl ⟨i, step', result', hcomes, hp⟩
    · obtain rfl := Except.ok.inj (hrow.symm.trans heq)
      exact .inr hp
  · rintro (⟨i, step', result', hcomes, hp⟩ | hp)
    · exact ⟨i, step', result', .inl hcomes, hp⟩
    · exact ⟨_, step, result, .inr ⟨rfl, rfl, hle, hrow⟩, hp⟩

/-- One round of the loop, on the step that comes next. -/
theorem RowsOf.buildIndex {step : F × Datetime}
    (h : RowsOf runId assetId series steps rows)
    (hround : buildIndex runId assetId series rows (step, steps.length) = .ok rows') :
    RowsOf runId assetId series (steps ++ [step]) rows' := by
  rw [Features.buildIndex] at hround
  split_ifs at hround with hwarm
  · -- a step of the warm-up comes to nothing
    cases hround
    have hsame : ∀ i step' result, ComesTo runId assetId series (steps ++ [step]) i step' result ↔
        ComesTo runId assetId series steps i step' result := by
      intro i step' result
      rw [comesTo_concat, or_iff_left]
      rintro ⟨-, -, hle, -⟩
      exact absurd hwarm (Nat.not_lt.mpr hle)
    refine ⟨fun i step' hstep hle => ?_, ?_, ?_⟩
    · have hlt : i < steps.length := by
        have := (List.getElem?_eq_some_iff.mp hstep).1
        rw [List.length_append, List.length_singleton] at this
        omega
      rw [List.getElem?_append_left hlt] at hstep
      exact h.computed i step' hstep hle
    · simpa only [hsame] using h.features
    · simpa only [hsame] using h.rejections
  · obtain ⟨result, hrow, hround⟩ := bind_eq_ok.mp hround
    have hle := Nat.le_of_not_lt hwarm
    -- the steps before it were computed, and this one has been now
    have hcomputed : ∀ i step', (steps ++ [step])[i]? = some step' →
        longestWindowSamples - 1 ≤ i → ∃ result, rowAt runId assetId series step'.1 i =
          .ok result := by
      intro i step' hstep hlei
      rw [List.getElem?_append] at hstep
      split_ifs at hstep with hlt
      · exact h.computed i step' hstep hlei
      · have hi := (List.getElem?_eq_some_iff.mp hstep).1
        rw [List.length_singleton] at hi
        obtain rfl : i = steps.length := by omega
        rw [Nat.sub_self, List.getElem?_cons_zero] at hstep
        cases hstep
        exact ⟨result, hrow⟩
    -- a rejected row goes to the rejections, a valid one to the features
    cases hstatus : result.validity.status with
    | insufficientData =>
        rw [hstatus] at hround
        cases hround
        refine ⟨hcomputed, fun record => ?_, fun record => ?_⟩
        · rw [exists_comesTo_concat hle hrow, ← h.features, or_iff_left]
          rintro ⟨hvalid, -⟩
          rw [hstatus] at hvalid
          cases hvalid
        · rw [exists_comesTo_concat hle hrow, ← h.rejections, and_iff_right hstatus,
            List.mem_append, List.mem_singleton]
          rfl
    | valid =>
        rw [hstatus] at hround
        cases hround
        refine ⟨hcomputed, fun record => ?_, fun record => ?_⟩
        · rw [exists_comesTo_concat hle hrow, ← h.features, and_iff_right hstatus,
            List.mem_append, List.mem_singleton]
          rfl
        · rw [exists_comesTo_concat hle hrow, ← h.rejections, or_iff_left]
          rintro ⟨hinvalid, -⟩
          rw [hstatus] at hinvalid
          cases hinvalid

/-- The loop over the steps of a series. -/
theorem rowsOf_buildSeries (h : buildSeries runId assetId series steps = .ok rows) :
    RowsOf runId assetId series steps rows := by
  induction steps using List.reverseRecOn generalizing rows with
  | nil =>
      cases h
      refine ⟨fun i step hstep => ?_, fun record => ?_, fun record => ?_⟩
      · cases hstep
      · simp [ComesTo]
      · simp [ComesTo]
  | append_singleton steps step ih =>
      rw [buildSeries_concat] at h
      obtain ⟨before, hbefore, hround⟩ := bind_eq_ok.mp h
      exact (ih hbefore).buildIndex hround

variable (runId assetId series steps) in
/-- The loop returns if every row can be computed. -/
theorem exists_buildSeries (h : ∀ i step, steps[i]? = some step → longestWindowSamples - 1 ≤ i →
    ∃ result, rowAt runId assetId series step.1 i = .ok result) :
    ∃ rows, buildSeries runId assetId series steps = .ok rows := by
  induction steps using List.reverseRecOn with
  | nil => exact ⟨_, rfl⟩
  | append_singleton steps step ih =>
      obtain ⟨before, hbefore⟩ := ih fun i step' hstep hle => h i step' (by
        rw [List.getElem?_append_left (List.getElem?_eq_some_iff.mp hstep).1]
        exact hstep) hle
      rw [buildSeries_concat, hbefore]
      show ∃ rows, buildIndex runId assetId series before (step, steps.length) = .ok rows
      rw [Features.buildIndex]
      -- a step of the warm-up has no row; any other one has a row, of features or of a rejection
      split_ifs with hwarm
      · exact ⟨_, rfl⟩
      · obtain ⟨result, hrow⟩ := h steps.length step (by simp) (Nat.le_of_not_lt hwarm)
        refine exists_bind_eq_ok.mpr ⟨result, hrow, ?_⟩
        split
        · exact ⟨_, rfl⟩
        · exact ⟨_, rfl⟩

end Rows

/-! ## The rows of the table -/

section Table

variable {dtSeconds : ℚ} {splits : Splits} {telemetry : List (TelemetryRow F)}
  {groundTruth : List (GroundTruthRow F)} {table : FeatureTable F}

/-- The row that is computed at a position of a run and an asset. -/
def rowAtStep (telemetry : List (TelemetryRow F)) (key : AssetRun) (i : ℕ) (elapsed : ℚ) :
    Except (BuilderError F) (FeatureRowResult F) :=
  rowAt key.1 key.2 (fun m => withFloatTimes (seriesOf telemetry (key, m)))
    (PyFloat.literal elapsed) i

/-- The table has the row of a step. -/
def FeatureTable.Has (table : FeatureTable F) (key : AssetRun) (step : ℚ × Datetime)
    (result : FeatureRowResult F) : Prop :=
  match result.validity.status with
  | .valid => featureRecord key (PyFloat.literal step.1, step.2) result ∈ table.features
  | .insufficientData =>
      rejectionRecord key (PyFloat.literal step.1, step.2) result ∈ table.rejections

/-- What the parts of a table that is returned are. -/
theorem of_buildFeatureTable
    (h : buildFeatureTable dtSeconds splits telemetry groundTruth = .ok table) :
    indexAndValidateTelemetry telemetry = .ok (seriesOf telemetry) ∧
      (∀ key, ((observations telemetry key).map Prod.fst).Nodup) ∧
      ∃ parts, buildRows (seriesOf telemetry)
          (orderBy (fun entry => toLex entry.1) (timestampsBySeries groundTruth)) = .ok parts ∧
        table.features = parts.flatMap SeriesRows.features ∧
        table.rejections = parts.flatMap SeriesRows.rejections := by
  rw [buildFeatureTable] at h
  split_ifs at h
  · obtain ⟨_, ⟨⟩, -⟩ := bind_eq_ok.mp h
  · obtain ⟨index, hindex, h⟩ := bind_eq_ok.mp h
    obtain ⟨parts, hparts, h⟩ := bind_eq_ok.mp h
    obtain ⟨labels, -, h⟩ := bind_eq_ok.mp h
    cases h
    obtain ⟨rfl, honce⟩ := indexAndValidateTelemetry_eq_ok hindex
    exact ⟨hindex, honce, parts, hparts, rfl, rfl⟩

/-- The times of the steps, one by one, are the floats of the times of the entries. -/
theorem getElem?_withFloatTimes {α : Type} {entries : List (ℚ × α)} {i : ℕ} {step : F × α} :
    (withFloatTimes entries)[i]? = some step ↔
      ∃ entry, entries[i]? = some entry ∧ (PyFloat.literal entry.1, entry.2) = step := by
  rw [withFloatTimes, List.getElem?_map, Option.map_eq_some_iff]

/-- The parts of the table are those of the runs and assets that have steps. -/
theorem mem_parts {parts : List (SeriesRows F)} (h : buildRows (seriesOf telemetry)
    (orderBy (fun entry => toLex entry.1) (timestampsBySeries groundTruth)) = .ok parts)
    {part : SeriesRows F} : part ∈ parts ↔
      ∃ key, stepsOf groundTruth key ≠ [] ∧
        buildSeries key.1 key.2 (fun m => withFloatTimes (seriesOf telemetry (key, m)))
          (withFloatTimes (stepsOf groundTruth key)) = .ok part := by
  rw [mem_of_mapM h]
  simp only [mem_orderBy, mem_timestampsBySeries, mapError_eq_ok]
  constructor
  · rintro ⟨⟨key, steps⟩, ⟨hsteps, hne⟩, hpart⟩
    dsimp only at hsteps hne hpart
    subst hsteps
    exact ⟨key, hne, hpart⟩
  · rintro ⟨key, hne, hpart⟩
    exact ⟨(key, stepsOf groundTruth key), ⟨rfl, hne⟩, hpart⟩

/-- The table has the row of every step behind the warm-up. -/
theorem has_of_buildFeatureTable
    (h : buildFeatureTable dtSeconds splits telemetry groundTruth = .ok table) {key : AssetRun}
    {i : ℕ} {step : ℚ × Datetime} (hstep : (stepsOf groundTruth key)[i]? = some step)
    (hle : longestWindowSamples - 1 ≤ i) :
    ∃ result, rowAtStep telemetry key i step.1 = .ok result ∧ table.Has key step result := by
  obtain ⟨-, -, parts, hparts, hfeatures, hrejections⟩ := of_buildFeatureTable h
  have hne : stepsOf groundTruth key ≠ [] := by
    rintro hnil
    rw [hnil] at hstep
    cases hstep
  -- the run and asset has steps, so it is one of the series that are built
  have hentry : (key, stepsOf groundTruth key) ∈
      orderBy (fun entry => toLex entry.1) (timestampsBySeries groundTruth) := by
    rw [mem_orderBy, mem_timestampsBySeries]
    exact ⟨rfl, hne⟩
  -- since the builder has returned, this series was built
  obtain ⟨part, hpart⟩ := exists_mapM_eq_ok_iff.mp ⟨parts, hparts⟩ _ hentry
  rw [mapError_eq_ok] at hpart
  have hmem : part ∈ parts := (mem_parts hparts).mpr ⟨key, hne, hpart⟩
  have hrows := rowsOf_buildSeries hpart
  have hfloat : (withFloatTimes (stepsOf groundTruth key))[i]? =
      some ((PyFloat.literal step.1 : F), step.2) :=
    getElem?_withFloatTimes.mpr ⟨step, hstep, rfl⟩
  obtain ⟨result, hresult⟩ := hrows.computed i _ hfloat hle
  refine ⟨result, hresult, ?_⟩
  -- the table has the parts of all series, and this result is in one of them
  rw [FeatureTable.Has, hfeatures, hrejections]
  cases hstatus : result.validity.status with
  | valid =>
      exact List.mem_flatMap.mpr ⟨part, hmem, (hrows.features _).mpr
        ⟨i, _, result, ⟨hfloat, hle, hresult⟩, hstatus, rfl⟩⟩
  | insufficientData =>
      exact List.mem_flatMap.mpr ⟨part, hmem, (hrows.rejections _).mpr
        ⟨i, _, result, ⟨hfloat, hle, hresult⟩, hstatus, rfl⟩⟩

/-- The builder returns if the telemetry can be indexed, every row behind the warm-up can be
computed and every run has a split. -/
theorem exists_buildFeatureTable {index : SeriesKey → List (ℚ × F)}
    (hindex : indexAndValidateTelemetry telemetry = .ok index)
    (hrows : ∀ key i step, (stepsOf groundTruth key)[i]? = some step →
      longestWindowSamples - 1 ≤ i → ∃ result, rowAtStep telemetry key i step.1 = .ok result)
    (hsplits : ∀ row ∈ groundTruth, ∃ split, splits.splitOf? row.simulationRunId = some split) :
    ∃ table, buildFeatureTable 10 splits telemetry groundTruth = .ok table := by
  obtain ⟨rfl, -⟩ := indexAndValidateTelemetry_eq_ok hindex
  rw [buildFeatureTable, if_neg (by simp)]
  refine exists_bind_eq_ok.mpr ⟨_, hindex, ?_⟩
  -- the rows of every run and asset with ground truth
  have hparts : ∃ parts, buildRows (seriesOf telemetry)
      (orderBy (fun entry => toLex entry.1) (timestampsBySeries groundTruth)) = .ok parts := by
    refine exists_mapM_eq_ok_iff.mpr ?_
    rintro ⟨key, steps⟩ hentry
    rw [mem_orderBy, mem_timestampsBySeries] at hentry
    obtain ⟨hsteps, -⟩ := hentry
    dsimp only at hsteps
    subst hsteps
    obtain ⟨rows, hseries⟩ := exists_buildSeries key.1 key.2
      (fun m => withFloatTimes (seriesOf telemetry (key, m)))
      (withFloatTimes (stepsOf groundTruth key)) fun i step hstep hle => by
        obtain ⟨entry, hentry, rfl⟩ := getElem?_withFloatTimes.mp hstep
        exact hrows key i entry hentry hle
    exact ⟨rows, mapError_eq_ok.mpr hseries⟩
  obtain ⟨parts, hparts⟩ := hparts
  refine exists_bind_eq_ok.mpr ⟨parts, hparts, ?_⟩
  refine exists_bind_eq_ok.mpr ?_
  -- the labels of the rows that are eligible
  have hlabels : ∃ labels, buildLabelRows splits
      (groundTruth.filter (eligible (parts.flatMap SeriesRows.features))) = .ok labels := by
    refine exists_mapM_eq_ok_iff.mpr fun row hrow => ?_
    obtain ⟨split, hsplit⟩ := hsplits row (List.mem_of_mem_filter hrow)
    rw [hsplit]
    exact ⟨_, rfl⟩
  obtain ⟨labels, hlabels⟩ := hlabels
  exact ⟨labels, hlabels, _, rfl⟩

end Table

end Odis.Features
