import Odis.Features.Table

/-!
# The alignment of features with the ground truth

A row of the feature table is made of the samples at the positions of its step and of the eleven
steps before it (`rowAt_congr`). `safety.py` says of `_index_and_validate_telemetry` that it
guarantees one observation per measurement and eligible timestamp; the index has no time twice, but
nothing compares its times with those of the ground truth.

* `aligned_iff`: the tables whose rows are made of the observations of their steps.
* `not_aligned_gap`: a gap in the voltage and one sample more at the end shift the voltage of the
  last row.
-/

namespace Odis.Features

open OrderBy

variable {F : Type} [PyFloat F]

/-! ## What a row reads -/

section Reads

omit [PyFloat F] in
/-- A trailing window reads no sample but the last few up to its index. -/
theorem getElem?_trailingWindow {series series' : Series F} {i windowSamples : ℕ}
    (hle : windowSamples ≤ longestWindowSamples)
    (h : ∀ j ≤ i, i < j + longestWindowSamples → series[j]? = series'[j]?) :
    trailingWindow series i windowSamples = trailingWindow series' i windowSamples := by
  rw [trailingWindow, trailingWindow]
  split_ifs
  · rfl
  · refine congrArg Except.ok (List.ext_getElem? fun j => ?_)
    rw [List.getElem?_drop, List.getElem?_drop, List.getElem?_take, List.getElem?_take]
    split_ifs
    · exact h _ (by omega) (by omega)
    · rfl

/-- A row behind the warm-up reads the samples of its step and of the eleven steps before. -/
theorem rowAt_congr {runId assetId : String} {series series' : FeatureMeasurement → Series F}
    {elapsed : F} {i : ℕ}
    (h : ∀ m, ∀ j ≤ i, i < j + longestWindowSamples → (series m)[j]? = (series' m)[j]?) :
    rowAt runId assetId series elapsed i = rowAt runId assetId series' elapsed i := by
  -- the current and the previous values are among these samples
  have hvalues : ∀ j ≤ i, i < j + longestWindowSamples →
      valuesAt series j = valuesAt series' j := by
    intro j hj hlt
    have hlength : ∀ m, j < (series m).length ↔ j < (series' m).length := fun m => by
      rw [← not_le, ← not_le, ← List.getElem?_eq_none_iff, ← List.getElem?_eq_none_iff,
        h m j hj hlt]
    rw [valuesAt, valuesAt]
    split_ifs with hall hall' hall'
    · refine congrArg some (funext fun m => ?_)
      have heq := h m j hj hlt
      rw [List.getElem?_eq_getElem (hall m (by simp)),
        List.getElem?_eq_getElem (hall' m (by simp)), Option.some.injEq] at heq
      exact congrArg Prod.snd heq
    · exact absurd (fun m hm => (hlength m).mp (hall m hm)) hall'
    · exact absurd (fun m hm => (hlength m).mpr (hall' m hm)) hall
    · rfl
  -- twelve samples reach back to the previous step as well
  have htwelve : longestWindowSamples = 12 := rfl
  rw [rowAt, rowAt, hvalues i le_rfl (by omega), hvalues (i - 1) (Nat.sub_le _ _) (by omega)]
  have hrow : ∀ currentValues previousValues,
      computeRow currentValues previousValues series i =
        computeRow currentValues previousValues series' i := fun _ _ =>
    computeRow_congr fun m seconds hseconds =>
      getElem?_trailingWindow (windowSamples_le hseconds) (h m)
  simp only [computeFeatureRow, hrow]

end Reads

/-! ## Alignment -/

/-- The row of a step is in the table. It is made of the observations of its step and of those
before it, and would be the same whatever the telemetry of other runs and assets and of later
times. -/
structure AlignedAt (telemetry : List (TelemetryRow F)) (groundTruth : List (GroundTruthRow F))
    (table : FeatureTable F) (key : AssetRun) (i : ℕ) (step : ℚ × Datetime) : Prop where
  written : ∃ result, rowAtStep telemetry key i step.1 = .ok result ∧ table.Has key step result
  observed : ∀ m, ∀ j ≤ i, i < j + longestWindowSamples →
    ∀ step', (stepsOf groundTruth key)[j]? = some step' →
      ∃ row ∈ telemetry, row.seriesKey? = some (key, m) ∧ row.elapsedSimSeconds = step'.1 ∧
        (seriesOf telemetry (key, m))[j]? = some (row.elapsedSimSeconds, row.value)
  causal : ∀ dtSeconds splits telemetry' table',
    buildFeatureTable dtSeconds splits telemetry' groundTruth = .ok table' →
      (∀ row : TelemetryRow F, (row.simulationRunId, row.assetId) = key →
        row.elapsedSimSeconds ≤ step.1 → (row ∈ telemetry' ↔ row ∈ telemetry)) →
      rowAtStep telemetry' key i step.1 = rowAtStep telemetry key i step.1

/-- The rows of all steps behind the warm-up are aligned. -/
def Aligned (telemetry : List (TelemetryRow F)) (groundTruth : List (GroundTruthRow F))
    (table : FeatureTable F) : Prop :=
  ∀ key i step, (stepsOf groundTruth key)[i]? = some step → longestWindowSamples - 1 ≤ i →
    AlignedAt telemetry groundTruth table key i step

/-- The ground truth of a run and an asset has no time twice, a measurement has an observation at
each of its steps, and up to the last step at no other time. -/
structure SampledOnSteps (telemetry : List (TelemetryRow F))
    (groundTruth : List (GroundTruthRow F)) (key : AssetRun) (m : FeatureMeasurement) : Prop where
  once : ((groundTruth.filter fun row => row.assetRun = key).map
    GroundTruthRow.elapsedSimSeconds).Nodup
  observed : ∀ truth ∈ groundTruth, truth.assetRun = key →
    ∃ row ∈ telemetry, row.seriesKey? = some (key, m) ∧
      row.elapsedSimSeconds = truth.elapsedSimSeconds
  noOther : ∀ row ∈ telemetry, row.seriesKey? = some (key, m) →
    ∀ truth ∈ groundTruth, truth.assetRun = key →
      row.elapsedSimSeconds ≤ truth.elapsedSimSeconds →
        ∃ truth' ∈ groundTruth, truth'.assetRun = key ∧
          truth'.elapsedSimSeconds = row.elapsedSimSeconds

section Prefix

omit [PyFloat F]

variable {telemetry : List (TelemetryRow F)} {groundTruth : List (GroundTruthRow F)}
  {key : AssetRun} {m : FeatureMeasurement}

/-- The samples of a measurement are those of its rows of telemetry. -/
theorem mem_seriesOf {key : SeriesKey} {sample : ℚ × F} : sample ∈ seriesOf telemetry key ↔
    ∃ row ∈ telemetry, row.seriesKey? = some key ∧
      (row.elapsedSimSeconds, row.value) = sample := by
  rw [seriesOf, mem_orderBy, mem_observations]

/-- Its times are those of its rows of telemetry. -/
theorem mem_times_seriesOf {key : SeriesKey} {t : ℚ} :
    t ∈ (seriesOf telemetry key).map Prod.fst ↔
      ∃ row ∈ telemetry, row.seriesKey? = some key ∧ row.elapsedSimSeconds = t := by
  simp only [List.mem_map, mem_seriesOf]
  constructor
  · rintro ⟨_, ⟨row, hrow, hkey, rfl⟩, rfl⟩
    exact ⟨row, hrow, hkey, rfl⟩
  · rintro ⟨row, hrow, hkey, rfl⟩
    exact ⟨_, ⟨row, hrow, hkey, rfl⟩, rfl⟩

/-- The times of the steps are those of the rows of ground truth. -/
theorem mem_times_stepsOf {t : ℚ} : t ∈ (stepsOf groundTruth key).map Prod.fst ↔
    ∃ truth ∈ groundTruth, truth.assetRun = key ∧ truth.elapsedSimSeconds = t := by
  simp [stepsOf, and_assoc]

/-- The times of the steps are increasing once no time occurs twice. -/
theorem increasing_stepsOf_iff : ((stepsOf groundTruth key).map Prod.fst).Pairwise (· < ·) ↔
    ((groundTruth.filter fun row => row.assetRun = key).map
      GroundTruthRow.elapsedSimSeconds).Nodup := by
  have htimes : ((groundTruth.filter fun row => row.assetRun = key).map fun row =>
      (row.elapsedSimSeconds, row.timestamp)).map Prod.fst =
        (groundTruth.filter fun row => row.assetRun = key).map
          GroundTruthRow.elapsedSimSeconds := by
    rw [List.map_map]
    rfl
  rw [← htimes]
  constructor
  · intro h
    exact ((List.mergeSort_perm _ _).map Prod.fst).nodup_iff.mp (h.imp ne_of_lt)
  · exact fun h => List.pairwise_map.mpr (pairwise_orderBy h)

/-- Samples at distinct times are in increasing order. -/
theorem increasing_seriesOf {key : SeriesKey}
    (honce : ((observations telemetry key).map Prod.fst).Nodup) :
    (seriesOf telemetry key).Pairwise fun a b => a.1 < b.1 :=
  pairwise_orderBy honce

/-- The samples are on the steps exactly if the times of the steps are the first ones of the
samples. -/
theorem sampledOnSteps_iff (honce : ((observations telemetry (key, m)).map Prod.fst).Nodup) :
    SampledOnSteps telemetry groundTruth key m ↔
      (stepsOf groundTruth key).map Prod.fst <+: (seriesOf telemetry (key, m)).map Prod.fst := by
  rw [prefix_iff (List.pairwise_map.mpr (increasing_seriesOf honce)), increasing_stepsOf_iff]
  simp only [mem_times_seriesOf, mem_times_stepsOf]
  constructor
  · rintro ⟨honce, hobserved, hother⟩
    refine ⟨honce, ?_, ?_⟩
    · rintro _ ⟨truth, htruth, hkey, rfl⟩
      exact hobserved truth htruth hkey
    · rintro _ ⟨row, hrow, hkey, rfl⟩ ⟨_, ⟨truth, htruth, hassetRun, rfl⟩, hle⟩
      exact hother row hrow hkey truth htruth hassetRun hle
  · rintro ⟨honce, hobserved, hother⟩
    refine ⟨honce, fun truth htruth hkey => hobserved _ ⟨truth, htruth, hkey, rfl⟩, ?_⟩
    intro row hrow hkey truth htruth hassetRun hle
    exact hother _ ⟨row, hrow, hkey, rfl⟩ ⟨_, ⟨truth, htruth, hassetRun, rfl⟩, hle⟩

/-- Telemetry that agrees up to some time has the same samples up to there. -/
theorem filter_seriesOf_congr {telemetry' : List (TelemetryRow F)} {t : ℚ}
    (honce : ((observations telemetry (key, m)).map Prod.fst).Nodup)
    (honce' : ((observations telemetry' (key, m)).map Prod.fst).Nodup)
    (h : ∀ row : TelemetryRow F, (row.simulationRunId, row.assetId) = key →
      row.elapsedSimSeconds ≤ t → (row ∈ telemetry' ↔ row ∈ telemetry)) :
    (seriesOf telemetry' (key, m)).filter (fun sample => sample.1 ≤ t) =
      (seriesOf telemetry (key, m)).filter fun sample => sample.1 ≤ t := by
  have hkey : ∀ row : TelemetryRow F, row.seriesKey? = some (key, m) →
      (row.simulationRunId, row.assetId) = key := by
    intro row hrow
    rw [TelemetryRow.seriesKey?, Option.map_eq_some_iff] at hrow
    obtain ⟨_, -, heq⟩ := hrow
    exact (Prod.mk.inj heq).1
  rw [eq_iff_of_increasing ((increasing_seriesOf honce').filter _)
    ((increasing_seriesOf honce).filter _)]
  intro sample
  rw [List.mem_filter, List.mem_filter, mem_seriesOf, mem_seriesOf]
  refine and_congr_left fun hle => ⟨?_, ?_⟩
  · rintro ⟨row, hrow, hseries, rfl⟩
    exact ⟨row, (h row (hkey row hseries) (of_decide_eq_true hle)).mp hrow, hseries, rfl⟩
  · rintro ⟨row, hrow, hseries, rfl⟩
    exact ⟨row, (h row (hkey row hseries) (of_decide_eq_true hle)).mpr hrow, hseries, rfl⟩

/-- A sample of a time up to a bound is found among those up to the bound. -/
theorem getElem?_filter_of_le {samples : List (ℚ × F)} {j : ℕ} {sample : ℚ × F} {t : ℚ}
    (hincreasing : samples.Pairwise fun a b => a.1 < b.1) (hj : samples[j]? = some sample)
    (hle : sample.1 ≤ t) : (samples.filter fun a => a.1 ≤ t)[j]? = some sample := by
  have hsplit := filter_le_append_filter_lt hincreasing t
  rw [← hsplit, List.getElem?_append] at hj
  split_ifs at hj with hlt
  · exact hj
  · have hbeyond := List.mem_filter.mp (List.mem_of_getElem? hj)
    exact absurd hle (not_le_of_gt (of_decide_eq_true hbeyond.2))

/-- What comes at a position among the samples up to a time comes there among all samples. -/
theorem getElem?_of_filter {samples : List (ℚ × F)} {j : ℕ} {sample : ℚ × F} {t : ℚ}
    (hincreasing : samples.Pairwise fun a b => a.1 < b.1)
    (hj : (samples.filter fun a => a.1 ≤ t)[j]? = some sample) : samples[j]? = some sample := by
  rw [← filter_le_append_filter_lt hincreasing t,
    List.getElem?_append_left (List.getElem?_eq_some_iff.mp hj).1]
  exact hj

end Prefix

/-! ## When the table is aligned -/

section Table

variable {dtSeconds : ℚ} {splits : Splits} {telemetry : List (TelemetryRow F)}
  {groundTruth : List (GroundTruthRow F)} {table : FeatureTable F} {key : AssetRun}

omit [PyFloat F] in
/-- On the steps, the sample at a position has the time of the step. -/
theorem SampledOnSteps.exists_sample {m : FeatureMeasurement}
    (h : SampledOnSteps telemetry groundTruth key m)
    (honce : ((observations telemetry (key, m)).map Prod.fst).Nodup) {j : ℕ} {step : ℚ × Datetime}
    (hstep : (stepsOf groundTruth key)[j]? = some step) :
    ∃ sample, (seriesOf telemetry (key, m))[j]? = some sample ∧ sample.1 = step.1 := by
  obtain ⟨rest, hrest⟩ := (sampledOnSteps_iff honce).mp h
  have htime : ((seriesOf telemetry (key, m)).map Prod.fst)[j]? = some step.1 := by
    rw [← hrest, List.getElem?_append_left, List.getElem?_map, hstep]
    · rfl
    · rw [List.length_map]
      exact (List.getElem?_eq_some_iff.mp hstep).1
  rw [List.getElem?_map, Option.map_eq_some_iff] at htime
  exact htime

/-- A row whose samples are on the steps is aligned. -/
theorem alignedAt_of_sampledOnSteps
    (hbuild : buildFeatureTable dtSeconds splits telemetry groundTruth = .ok table)
    (h : ∀ m, SampledOnSteps telemetry groundTruth key m) {i : ℕ} {step : ℚ × Datetime}
    (hstep : (stepsOf groundTruth key)[i]? = some step) (hle : longestWindowSamples - 1 ≤ i) :
    AlignedAt telemetry groundTruth table key i step := by
  obtain ⟨-, honce, -⟩ := of_buildFeatureTable hbuild
  refine ⟨has_of_buildFeatureTable hbuild hstep hle, ?_, ?_⟩
  -- the sample at the position of a step is the one at the time of this step
  · intro m j hj hlt step' hstep'
    obtain ⟨sample, hsample, htime⟩ := (h m).exists_sample (honce _) hstep'
    obtain ⟨row, hrow, hkey, rfl⟩ := mem_seriesOf.mp (List.mem_of_getElem? hsample)
    exact ⟨row, hrow, hkey, htime, hsample⟩
  -- with other telemetry after the step, the samples up to it are still at their positions
  · intro dtSeconds' splits' telemetry' table' hbuild' hagree
    obtain ⟨-, honce', -⟩ := of_buildFeatureTable hbuild'
    refine rowAt_congr fun m j hj hlt => ?_
    rw [withFloatTimes, withFloatTimes, List.getElem?_map, List.getElem?_map]
    refine congrArg _ ?_
    have hincreasing := increasing_seriesOf (honce (key, m))
    have hincreasing' := increasing_seriesOf (honce' (key, m))
    -- the step at `j` is not after the one of the row
    obtain ⟨step', hstep'⟩ : ∃ step', (stepsOf groundTruth key)[j]? = some step' := by
      have := (List.getElem?_eq_some_iff.mp hstep).1
      exact ⟨_, List.getElem?_eq_getElem (by omega)⟩
    obtain ⟨sample, hsample, htime⟩ := (h m).exists_sample (honce _) hstep'
    have hnotAfter : sample.1 ≤ step.1 := by
      rw [htime]
      have hsteps := increasing_stepsOf_iff.mpr (h m).once
      rw [List.pairwise_map] at hsteps
      rcases Nat.eq_or_lt_of_le hj with rfl | hji
      · rw [hstep, Option.some.injEq] at hstep'
        rw [hstep']
      · obtain ⟨hjlt, rfl⟩ := List.getElem?_eq_some_iff.mp hstep'
        obtain ⟨hilt, rfl⟩ := List.getElem?_eq_some_iff.mp hstep
        exact (List.pairwise_iff_getElem.mp hsteps j i hjlt hilt hji).le
    have hfilter := getElem?_filter_of_le hincreasing hsample hnotAfter
    rw [← filter_seriesOf_congr (honce _) (honce' _) hagree] at hfilter
    rw [hsample]
    exact getElem?_of_filter hincreasing' hfilter

/-- A run whose rows are aligned has its samples on the steps. -/
theorem sampledOnSteps_of_aligned
    (hbuild : buildFeatureTable dtSeconds splits telemetry groundTruth = .ok table)
    (h : Aligned telemetry groundTruth table)
    (hlength : longestWindowSamples ≤ (stepsOf groundTruth key).length)
    (m : FeatureMeasurement) : SampledOnSteps telemetry groundTruth key m := by
  obtain ⟨-, honce, -⟩ := of_buildFeatureTable hbuild
  have htwelve : longestWindowSamples = 12 := rfl
  rw [sampledOnSteps_iff (honce _), List.prefix_iff_getElem?]
  intro j hj
  rw [List.length_map] at hj
  -- a row behind the warm-up reads the sample at `j`
  have hi : max j 11 < (stepsOf groundTruth key).length := by omega
  have haligned := h key (max j 11) _ (List.getElem?_eq_getElem hi) (by omega)
  obtain ⟨row, -, -, htime, hsample⟩ :=
    haligned.observed m j (le_max_left _ _) (by omega) _ (List.getElem?_eq_getElem hj)
  rw [List.getElem?_map, hsample, Option.map_some, List.getElem_map, htime]

/-- The table is aligned exactly if the samples of every run and asset with a row behind the warm-up
are on the steps of the ground truth. -/
theorem aligned_iff
    (hbuild : buildFeatureTable dtSeconds splits telemetry groundTruth = .ok table) :
    Aligned telemetry groundTruth table ↔
      ∀ key, longestWindowSamples ≤ (stepsOf groundTruth key).length →
        ∀ m, SampledOnSteps telemetry groundTruth key m := by
  constructor
  · exact fun h key hlength => sampledOnSteps_of_aligned hbuild h hlength
  · intro h key i step hstep hle
    have hi := (List.getElem?_eq_some_iff.mp hstep).1
    exact alignedAt_of_sampledOnSteps hbuild
      (h key (Nat.le_trans (Nat.le_add_of_sub_le hle) hi)) hstep hle

end Table

/-! ## A run of twelve steps -/

section TwelveSteps

/-- The asset of the run. -/
def stackOfRun : AssetRun := ("run-1", "stack-1")

/-- The time of a step, one every ten seconds. -/
def timeOf (i : ℕ) : ℚ := (10 * i : ℕ)

/-- The instant of a step. -/
def instantOf (i : ℕ) : Datetime := .utc (10000000 * i : ℕ)

/-- The ground truth of the run. -/
def twelveSteps : List (GroundTruthRow ℚ) :=
  (List.range 12).map fun i =>
    { simulationRunId := "run-1"
      assetId := "stack-1"
      elapsedSimSeconds := timeOf i
      timestamp := instantOf i
      faultActive := false
      faultType := "none"
      sensorCorruptionType := "none"
      faultSeverity := none }

/-- Telemetry of the run: the steps at which each measurement is observed. All values are 2. -/
def telemetryOf (samples : FeatureMeasurement → List ℕ) : List (TelemetryRow ℚ) :=
  defaultMeasurements.flatMap fun m => (samples m).map fun i =>
    { simulationRunId := "run-1"
      assetId := "stack-1"
      measurementType := m.name
      elapsedSimSeconds := timeOf i
      value := 2
      unit := "1" }

/-- The samples of one measurement. -/
def samplesAt (positions : List ℕ) : List (ℚ × ℚ) := positions.map fun i => (timeOf i, 2)

/-- Every measurement is observed at every step. -/
def everyStep : FeatureMeasurement → List ℕ := fun _ => List.range 12

/-- The voltage is not observed at the sixth step, but once more after the last one. -/
def gappedVoltage : FeatureMeasurement → List ℕ
  | .voltage => [0, 1, 2, 3, 4, 6, 7, 8, 9, 10, 11, 12]
  | _ => List.range 12

/-- The split of the run. -/
def trainOnly : Splits := ⟨["run-1"], [], []⟩

/-- The steps of the example. -/
theorem stepsOf_twelveSteps : stepsOf twelveSteps stackOfRun =
    (List.range 12).map fun i => (timeOf i, instantOf i) := by
  have hlist : ((twelveSteps.filter fun row => row.assetRun = stackOfRun).map fun row =>
      (row.elapsedSimSeconds, row.timestamp)) =
        (List.range 12).map fun i => (timeOf i, instantOf i) := by
    decide +kernel
  rw [stepsOf, hlist]
  exact List.mergeSort_of_pairwise (by decide +kernel)

/-- Only the stack of the example has steps. -/
theorem eq_stackOfRun {key : AssetRun} {i : ℕ} {step : ℚ × Datetime}
    (h : (stepsOf twelveSteps key)[i]? = some step) : key = stackOfRun := by
  have htime := List.mem_map_of_mem (f := Prod.fst) (List.mem_of_getElem? h)
  obtain ⟨truth, htruth, rfl, -⟩ := mem_times_stepsOf.mp htime
  obtain ⟨_, -, rfl⟩ := List.mem_map.mp htruth
  rfl

/-- The samples of the example are in order already. -/
theorem seriesOf_telemetryOf {samples : FeatureMeasurement → List ℕ} {m : FeatureMeasurement}
    (hobserved : observations (telemetryOf samples) (stackOfRun, m) = samplesAt (samples m))
    (hsorted : (samplesAt (samples m)).Pairwise fun a b => decide (a.1 ≤ b.1) = true) :
    seriesOf (telemetryOf samples) (stackOfRun, m) = samplesAt (samples m) := by
  rw [seriesOf, hobserved]
  exact List.mergeSort_of_pairwise hsorted

/-- Times that are rationals stay as they are. -/
theorem withFloatTimes_rat (entries : List (ℚ × ℚ)) :
    (withFloatTimes entries : List (ℚ × ℚ)) = entries :=
  List.map_id entries

/-- The builder returns on telemetry whose last row can be computed. -/
theorem exists_table {samples : FeatureMeasurement → List ℕ}
    (hseries : ∀ m, seriesOf (telemetryOf samples) (stackOfRun, m) = samplesAt (samples m))
    (hindex : (indexAndValidateTelemetry (telemetryOf samples)).toBool = true)
    (hrow : (rowAt stackOfRun.1 stackOfRun.2 (fun m => samplesAt (samples m)) (timeOf 11)
      11).toBool = true) :
    ∃ table, buildFeatureTable 10 trainOnly (telemetryOf samples) twelveSteps = .ok table := by
  obtain ⟨index, hindex⟩ := Exceptions.exists_of_toBool hindex
  refine exists_buildFeatureTable hindex ?_ ?_
  · intro key i step hstep hle
    obtain rfl := eq_stackOfRun hstep
    rw [stepsOf_twelveSteps] at hstep
    have hi : i < 12 := (List.getElem?_eq_some_iff.mp hstep).1
    obtain rfl : i = 11 := le_antisymm (Nat.le_of_lt_succ hi) hle
    cases hstep
    simp only [rowAtStep, hseries, withFloatTimes_rat]
    exact Exceptions.exists_of_toBool hrow
  · intro row hrow
    obtain ⟨_, -, rfl⟩ := List.mem_map.mp hrow
    exact ⟨"train", rfl⟩

/-- The samples at every step. -/
theorem seriesOf_everyStep (m : FeatureMeasurement) :
    seriesOf (telemetryOf everyStep) (stackOfRun, m) = samplesAt (everyStep m) := by
  apply seriesOf_telemetryOf
  · cases m <;> decide +kernel
  · cases m <;> decide +kernel

/-- The samples where one of the voltage is missing. -/
theorem seriesOf_gappedVoltage (m : FeatureMeasurement) :
    seriesOf (telemetryOf gappedVoltage) (stackOfRun, m) = samplesAt (gappedVoltage m) := by
  apply seriesOf_telemetryOf
  · cases m <;> decide +kernel
  · cases m <;> decide +kernel

/-- The table of a run that is observed at every step is aligned. -/
theorem aligned_everyStep : ∃ table,
    buildFeatureTable 10 trainOnly (telemetryOf everyStep) twelveSteps = .ok table ∧
      Aligned (telemetryOf everyStep) twelveSteps table := by
  obtain ⟨table, hbuild⟩ :=
    exists_table seriesOf_everyStep (by decide +kernel) (by decide +kernel)
  refine ⟨table, hbuild, (aligned_iff hbuild).mpr ?_⟩
  intro key hlength m
  have hpos : 0 < longestWindowSamples := by decide
  obtain rfl : key = stackOfRun :=
    eq_stackOfRun (List.getElem?_eq_getElem (Nat.lt_of_lt_of_le hpos hlength))
  obtain ⟨-, honce, -⟩ := of_buildFeatureTable hbuild
  rw [sampledOnSteps_iff (honce _), stepsOf_twelveSteps, seriesOf_everyStep]
  exact List.prefix_rfl

/-- With a gap in the voltage and one sample more at the end, the row of the last step is made of
the voltage after it. -/
theorem not_aligned_gap : ¬ ∀ (telemetry : List (TelemetryRow ℚ))
    (groundTruth : List (GroundTruthRow ℚ)) (table : FeatureTable ℚ),
      buildFeatureTable 10 trainOnly telemetry groundTruth = .ok table →
        Aligned telemetry groundTruth table := by
  intro h
  obtain ⟨table, hbuild⟩ :=
    exists_table seriesOf_gappedVoltage (by decide +kernel) (by decide +kernel)
  have hlast : (stepsOf twelveSteps stackOfRun)[11]? = some (timeOf 11, instantOf 11) := by
    rw [stepsOf_twelveSteps]
    rfl
  have haligned := h _ _ table hbuild stackOfRun 11 _ hlast (by decide)
  obtain ⟨row, -, -, htime, hsample⟩ := haligned.observed .voltage 11 le_rfl (by decide) _ hlast
  rw [seriesOf_gappedVoltage] at hsample
  -- the twelfth sample of the voltage is that of the thirteenth step
  have hshifted : (samplesAt (gappedVoltage .voltage))[11]? = some (timeOf 12, 2) := rfl
  rw [hshifted, Option.some.injEq, Prod.mk.injEq, htime] at hsample
  exact absurd hsample.1 (by decide +kernel)

end TwelveSteps

end Odis.Features
