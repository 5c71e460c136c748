import Odis.Features.Alignment

/-!
# The rows of a feature table

Every position of a run behind the warm-up is accounted for: it makes one row, in the table of the
features or in that of the rejections, and every row of the features has a label.

* `sound_computeRow`: what is computed of a row is finite, and every rejection has its reason.
* `accounts_buildSeries`: the rows of one run and asset, position by position.
* `accounted_buildFeatureTable`: the three tables of a data set.
-/

namespace Odis.Features

open Exceptions KeyedWindow OrderBy

variable {F : Type} [PyFloat F]

/-! ## One row -/

/-- All values of a row are finite, and every feature that is rejected has a reason. -/
structure FeatureRowResult.Sound (row : FeatureRowResult F) : Prop where
  finite : ∀ entry ∈ row.values, PyFloat.isfinite entry.2 = true
  reasons : row.validity.invalidFeatureNames.length = row.validity.reasonCodes.length

/-- The statistics of a window are checked before they are returned. -/
theorem finite_windowFeatures {window : Except IncompleteWindow (Series F)}
    {m : FeatureMeasurement} {seconds : ℕ} {features : List (FeatureColumn × F)}
    (h : windowFeatures window m seconds = .ok features) :
    ∀ entry ∈ features, PyFloat.isfinite entry.2 = true := by
  obtain ⟨series, -, h⟩ := bind_eq_ok.mp h
  obtain ⟨stats, -, h⟩ := bind_eq_ok.mp h
  intro entry hentry
  obtain ⟨stat, -, hstat⟩ := (mem_of_mapM h).mp hentry
  obtain ⟨_, hcheck, hvalue⟩ := bind_eq_ok.mp hstat
  cases hvalue
  exact checkFinite_eq_ok_iff.mp hcheck

/-- So are all features of a measurement, the raw ones and those of its windows. -/
theorem finite_measurementFeatures {currentValue previousValue : F} {series : Series F}
    {index : ℕ} {m : FeatureMeasurement} {features : List (FeatureColumn × F)}
    (h : measurementFeatures currentValue previousValue series index m = .ok features) :
    ∀ entry ∈ features, PyFloat.isfinite entry.2 = true := by
  obtain ⟨raw, -, h⟩ := bind_eq_ok.mp h
  obtain ⟨_, hvalue, h⟩ := bind_eq_ok.mp h
  obtain ⟨_, hdiff, h⟩ := bind_eq_ok.mp h
  obtain ⟨_, hrate, h⟩ := bind_eq_ok.mp h
  obtain ⟨windows, hwindows, h⟩ := bind_eq_ok.mp h
  cases h
  intro entry hentry
  rcases List.mem_append.mp hentry with hraw | hwindow
  · -- the raw features of the measurement, each checked on its own
    have hall : ∀ entry ∈ [(FeatureColumn.value m, raw.value), (.diff m, raw.diff),
        (.rateOfChange m, raw.rateOfChangePerSecond)], PyFloat.isfinite entry.2 = true := by
      simp only [List.forall_mem_cons]
      exact ⟨checkFinite_eq_ok_iff.mp hvalue, checkFinite_eq_ok_iff.mp hdiff,
        checkFinite_eq_ok_iff.mp hrate, fun _ h => absurd h List.not_mem_nil⟩
    exact hall entry hraw
  -- the features of the windows
  · obtain ⟨window, hmem, hentry⟩ := List.mem_flatten.mp hwindow
    obtain ⟨seconds, -, hwindow⟩ := (mem_of_mapM hwindows).mp hmem
    exact finite_windowFeatures hwindow entry hentry

/-- The loop over the ratios checks what it keeps, and gives a reason for what it does not. -/
theorem sound_recordCrossSignal {row row' : FeatureRowResult F}
    {ratios : List (CrossSignalFeature × SafeDivisionResult F)} (h : row.Sound)
    (hrecord : recordCrossSignal row ratios = .ok row') : row'.Sound := by
  -- by induction on the ratios that are left, for whatever has been kept so far
  induction ratios generalizing row with
  | nil =>
      cases hrecord
      exact h
  | cons ratio rest ih =>
      obtain ⟨feature, result⟩ := ratio
      rw [recordCrossSignal] at hrecord
      cases hvalue : result.value with
      | ok value =>
          rw [hvalue] at hrecord
          obtain ⟨_, hcheck, hrest⟩ := bind_eq_ok.mp hrecord
          -- a ratio with a value is kept after it was checked
          have hkept : FeatureRowResult.Sound
              { row with values := row.values ++ [(.crossSignal feature, value)] } := by
            refine ⟨fun entry hentry => ?_, h.reasons⟩
            rcases List.mem_append.mp hentry with hold | hnew
            · exact h.finite entry hold
            · rw [List.mem_singleton.mp hnew]
              exact checkFinite_eq_ok_iff.mp hcheck
          exact ih hkept hrest
      | error reason =>
          rw [hvalue] at hrecord
          -- a ratio without one adds its reason
          have hrejected : FeatureRowResult.Sound { row with
              validity := row.validity.recordDivision (.crossSignal feature) result } := by
            refine ⟨h.finite, ?_⟩
            unfold FeatureRowValidity.recordDivision
            rw [hvalue]
            dsimp only
            rw [List.length_append, List.length_append, h.reasons]
            rfl
          exact ih hrejected hrecord

/-- Every row that is computed is sound. -/
theorem sound_computeRow {currentValues previousValues : FeatureMeasurement → F}
    {seriesByMeasurement : FeatureMeasurement → Series F} {index : ℕ} {row : FeatureRowResult F}
    (h : computeRow currentValues previousValues seriesByMeasurement index = .ok row) :
    row.Sound := by
  obtain ⟨features, hfeatures, h⟩ := bind_eq_ok.mp h
  obtain ⟨crossSignal, -, h⟩ := bind_eq_ok.mp h
  obtain ⟨recorded, hrecorded, h⟩ := bind_eq_ok.mp h
  obtain ⟨residuals, -, h⟩ := bind_eq_ok.mp h
  obtain ⟨_, hchecked, h⟩ := bind_eq_ok.mp h
  cases h
  -- the features of the measurements are checked one by one before the row is built
  have hstart : (⟨features.flatten, .fresh⟩ : FeatureRowResult F).Sound := by
    refine ⟨fun entry hentry => ?_, rfl⟩
    obtain ⟨measured, hmem, hentry⟩ := List.mem_flatten.mp hentry
    obtain ⟨m, -, hmeasured⟩ := (mem_of_mapM hfeatures).mp hmem
    exact finite_measurementFeatures hmeasured entry hentry
  have hrecord := sound_recordCrossSignal hstart hrecorded
  refine ⟨fun entry hentry => ?_, hrecord.reasons⟩
  -- the residuals are checked once the cross-signal features are recorded
  rcases List.mem_append.mp hentry with hold | hresidual
  · exact hrecord.finite entry hold
  · exact checkFinite_eq_ok_iff.mp (forM_eq_ok_iff.mp hchecked entry hresidual)

/-- The row of a step is sound: what it keeps is finite, and what it lacks has a reason. -/
theorem sound_rowAt {runId assetId : String} {series : FeatureMeasurement → Series F}
    {elapsed : F} {index : ℕ} {row : FeatureRowResult F}
    (h : rowAt runId assetId series elapsed index = .ok row) : row.Sound := by
  unfold rowAt at h
  split at h
  · exact sound_computeRow (mapError_eq_ok.mp (mapError_eq_ok.mp h))
  · contradiction

/-! ## The rows of one run and asset -/

/-- A row goes into the table of the features. -/
def FeatureRowResult.isValid (row : FeatureRowResult F) : Bool := row.validity.status = .valid

/-- The loop has accounted for every position: those of the warm-up are dropped, and each one behind
it has come to a result, which is a row of one of the two tables. -/
structure Accounts (runId assetId : String) (series : FeatureMeasurement → Series F)
    (steps : List (F × Datetime)) (rows : SeriesRows F)
    (results : List ((F × Datetime) × FeatureRowResult F)) : Prop where
  dropped : rows.droppedWarmupRows = (steps.take (longestWindowSamples - 1)).length
  positions : results.map Prod.fst = steps.drop (longestWindowSamples - 1)
  computed : ∀ j entry, results[j]? = some entry →
    rowAt runId assetId series entry.1.1 (longestWindowSamples - 1 + j) = .ok entry.2
  features : rows.features = (results.filter fun entry => entry.2.isValid).map fun entry =>
    featureRecord (runId, assetId) entry.1 entry.2
  rejections : rows.rejections = (results.filter fun entry => !entry.2.isValid).map fun entry =>
    rejectionRecord (runId, assetId) entry.1 entry.2

section Series

variable {runId assetId : String} {series : FeatureMeasurement → Series F}
  {steps : List (F × Datetime)} {rows rows' : SeriesRows F}
  {results : List ((F × Datetime) × FeatureRowResult F)}

/-- One round of the loop, on the step that comes next. -/
theorem Accounts.buildIndex {step : F × Datetime}
    (h : Accounts runId assetId series steps rows results)
    (hround : buildIndex runId assetId series rows (step, steps.length) = .ok rows') :
    ∃ results', Accounts runId assetId series (steps ++ [step]) rows' results' := by
  unfold Features.buildIndex at hround
  dsimp only at hround
  split_ifs at hround with hwarm
  · -- a step of the warm-up is dropped
    cases hround
    have htake : steps.take (longestWindowSamples - 1) = steps :=
      List.take_of_length_le (by omega)
    have htake' : (steps ++ [step]).take (longestWindowSamples - 1) = steps ++ [step] :=
      List.take_of_length_le (by rw [List.length_append]; exact hwarm)
    have hdrop : steps.drop (longestWindowSamples - 1) = [] :=
      List.drop_of_length_le (by omega)
    have hdrop' : (steps ++ [step]).drop (longestWindowSamples - 1) = [] :=
      List.drop_of_length_le (by rw [List.length_append]; exact hwarm)
    refine ⟨results, ?_, ?_, h.computed, h.features, h.rejections⟩
    · show rows.droppedWarmupRows + 1 = _
      rw [h.dropped, htake, htake', List.length_append]
      rfl
    · rw [h.positions, hdrop, hdrop']
  · obtain ⟨result, hresult, hround⟩ := bind_eq_ok.mp hround
    have hle : longestWindowSamples - 1 ≤ steps.length := Nat.le_of_not_lt hwarm
    -- behind the warm-up there is one result for each step so far
    have hlength : longestWindowSamples - 1 + results.length = steps.length := by
      have hpositions := congrArg List.length h.positions
      rw [List.length_map, List.length_drop] at hpositions
      omega
    -- the results so far are as they were, and the new one is that of its step
    have hcomputed : ∀ j entry, (results ++ [(step, result)])[j]? = some entry →
        rowAt runId assetId series entry.1.1 (longestWindowSamples - 1 + j) = .ok entry.2 := by
      intro j entry hentry
      rcases Nat.lt_or_ge j results.length with hlt | hge
      · rw [List.getElem?_append_left hlt] at hentry
        exact h.computed j entry hentry
      · rw [List.getElem?_append_right hge, List.getElem?_singleton] at hentry
        split_ifs at hentry with hzero
        obtain rfl : j = results.length := by omega
        cases hentry
        rw [hlength]
        exact hresult
    have hdropped : rows.droppedWarmupRows =
        ((steps ++ [step]).take (longestWindowSamples - 1)).length := by
      rw [h.dropped, List.take_append_of_le_length hle]
    have hpositions : (results ++ [(step, result)]).map Prod.fst =
        (steps ++ [step]).drop (longestWindowSamples - 1) := by
      rw [List.map_append, h.positions, List.drop_append_of_le_length hle]
      rfl
    refine ⟨results ++ [(step, result)], ?_⟩
    -- a valid row becomes one of features, any other a rejection
    cases hstatus : result.validity.status with
    | valid =>
        have hvalid : result.isValid = true := decide_eq_true hstatus
        rw [hstatus] at hround
        cases hround
        refine ⟨hdropped, hpositions, hcomputed, ?_, ?_⟩
        · simp [List.filter_append, hvalid, h.features, featureRecord]
        · simp [List.filter_append, hvalid, h.rejections]
    | insufficientData =>
        have hinvalid : result.isValid = false :=
          decide_eq_false (by rw [hstatus]; exact fun heq => FeatureRowStatus.noConfusion heq)
        rw [hstatus] at hround
        cases hround
        refine ⟨hdropped, hpositions, hcomputed, ?_, ?_⟩
        · simp [List.filter_append, hinvalid, h.features]
        · simp [List.filter_append, hinvalid, h.rejections, rejectionRecord]

/-- The whole loop. -/
theorem accounts_buildSeries (h : buildSeries runId assetId series steps = .ok rows) :
    ∃ results, Accounts runId assetId series steps rows results := by
  induction steps using List.reverseRecOn generalizing rows with
  | nil =>
      cases h
      refine ⟨[], rfl, rfl, fun j entry hentry => ?_, rfl, rfl⟩
      exact absurd hentry.symm (Option.some_ne_none _)
  | append_singleton steps step ih =>
      rw [buildSeries_concat] at h
      obtain ⟨past, hpast, hround⟩ := bind_eq_ok.mp h
      obtain ⟨results, hresults⟩ := ih hpast
      exact hresults.buildIndex hround

/-- No row is lost and none is added. -/
theorem Accounts.length_eq (h : Accounts runId assetId series steps rows results) :
    steps.length = rows.droppedWarmupRows + rows.features.length + rows.rejections.length := by
  have hcount : results.length = (results.filter fun entry => entry.2.isValid).length +
      (results.filter fun entry => !entry.2.isValid).length :=
    List.length_eq_length_filter_add _
  have hpositions := congrArg List.length h.positions
  rw [List.length_map, List.length_drop] at hpositions
  rw [h.dropped, h.features, h.rejections, List.length_map, List.length_map, List.length_take]
  omega

end Series

/-! ## The parts of the table -/

section Table

variable {dtSeconds : ℚ} {splits : Splits} {telemetry : List (TelemetryRow F)}
  {groundTruth : List (GroundTruthRow F)} {table : FeatureTable F}
  {parts : List (AssetRun × SeriesRows F)} {key : AssetRun}

/-- `valid_rows`. -/
def FeatureTable.validRows (table : FeatureTable F) : ℕ := table.features.length

/-- `rejected_rows`. -/
def FeatureTable.rejectedRows (table : FeatureTable F) : ℕ := table.rejections.length

/-- The rows of a run and an asset are accounted for. -/
abbrev AccountsFor (telemetry : List (TelemetryRow F)) (groundTruth : List (GroundTruthRow F))
    (key : AssetRun) : SeriesRows F → List ((F × Datetime) × FeatureRowResult F) → Prop :=
  Accounts key.1 key.2 (fun m => withFloatTimes (seriesOf telemetry (key, m)))
    (withFloatTimes (stepsOf groundTruth key))

/-- The table is put together of the rows of each run and asset. -/
structure FeatureTable.MadeOf (telemetry : List (TelemetryRow F))
    (groundTruth : List (GroundTruthRow F)) (table : FeatureTable F)
    (parts : List (AssetRun × SeriesRows F)) : Prop where
  once : (parts.map Prod.fst).Nodup
  covers : ∀ key, key ∈ parts.map Prod.fst ↔ stepsOf groundTruth key ≠ []
  built : ∀ part ∈ parts, ∃ results, AccountsFor telemetry groundTruth part.1 part.2 results
  features : table.features = parts.flatMap fun part => part.2.features
  rejections : table.rejections = parts.flatMap fun part => part.2.rejections
  total : table.totalRowsBeforeWarmupDrop =
    (parts.map fun part => (stepsOf groundTruth part.1).length).sum
  dropped : table.droppedWarmupRows = (parts.map fun part => part.2.droppedWarmupRows).sum

omit [PyFloat F] in
/-- Every run and asset has its steps once. -/
theorem nodup_timestampsBySeries : ((timestampsBySeries groundTruth).map Prod.fst).Nodup := by
  rw [timestampsBySeries, List.map_map]
  exact (grouped GroundTruthRow.assetRun groundTruth).nodup

/-- The labels are those of the rows of ground truth that have a row of features. -/
theorem labels_of_buildFeatureTable
    (h : buildFeatureTable dtSeconds splits telemetry groundTruth = .ok table) :
    buildLabelRows splits (groundTruth.filter (eligible table.features)) = .ok table.labels := by
  unfold buildFeatureTable at h
  split_ifs at h
  · obtain ⟨_, ⟨⟩, -⟩ := bind_eq_ok.mp h
  · obtain ⟨index, -, h⟩ := bind_eq_ok.mp h
    obtain ⟨rows, -, h⟩ := bind_eq_ok.mp h
    obtain ⟨labels, hlabels, h⟩ := bind_eq_ok.mp h
    cases h
    exact hlabels

/-- What a table that is returned is made of. -/
theorem exists_parts (h : buildFeatureTable dtSeconds splits telemetry groundTruth = .ok table) :
    ∃ parts, table.MadeOf telemetry groundTruth parts := by
  unfold buildFeatureTable at h
  split_ifs at h
  · obtain ⟨_, ⟨⟩, -⟩ := bind_eq_ok.mp h
  · obtain ⟨index, hindex, h⟩ := bind_eq_ok.mp h
    obtain ⟨rows, hrows, h⟩ := bind_eq_ok.mp h
    obtain ⟨labels, -, h⟩ := bind_eq_ok.mp h
    cases h
    obtain ⟨rfl, -⟩ := indexAndValidateTelemetry_eq_ok hindex
    -- the entries of the ground truth, each with the rows that are made of it
    let entries := orderBy (fun entry => toLex entry.1) (timestampsBySeries groundTruth)
    have hperm : entries.Perm (timestampsBySeries groundTruth) := List.mergeSort_perm _ _
    have hsteps : ∀ entry ∈ entries, entry.2 = stepsOf groundTruth entry.1 :=
      fun entry hentry => (mem_timestampsBySeries.mp (hperm.mem_iff.mp hentry)).1
    obtain ⟨hlength, hzip⟩ := List.forall₂_iff_zip.mp (mapM_eq_ok_iff.mp hrows)
    -- each entry has the rows that `_build_series` returned for it
    have hentries : (entries.zip rows).map Prod.fst = entries :=
      List.map_fst_zip (Nat.le_of_eq hlength)
    have hrows' : (entries.zip rows).map Prod.snd = rows :=
      List.map_snd_zip (Nat.le_of_eq hlength.symm)
    have hkeys : ((entries.zip rows).map fun pair => (pair.1.1, pair.2)).map Prod.fst =
        entries.map Prod.fst := by
      rw [List.map_map, ← hentries, List.map_map, hentries]
      rfl
    have hparts : ((entries.zip rows).map fun pair => (pair.1.1, pair.2)).map Prod.snd = rows := by
      rw [List.map_map]
      exact hrows'
    -- the parts are these pairs, and each field is read off them
    refine ⟨(entries.zip rows).map fun pair => (pair.1.1, pair.2), ?_, ?_, ?_, ?_, ?_, ?_, ?_⟩
    · rw [hkeys]
      exact ((hperm.map Prod.fst).nodup_iff).mpr nodup_timestampsBySeries
    · intro key
      rw [hkeys, (hperm.map Prod.fst).mem_iff, List.mem_map]
      constructor
      · rintro ⟨entry, hentry, rfl⟩
        obtain ⟨hsteps, hne⟩ := mem_timestampsBySeries.mp hentry
        rwa [← hsteps]
      · exact fun hne => ⟨(key, _), mem_timestampsBySeries.mpr ⟨rfl, hne⟩, rfl⟩
    · intro part hpart
      obtain ⟨⟨⟨key, steps⟩, rows⟩, hmem, rfl⟩ := List.mem_map.mp hpart
      have hbuilt := mapError_eq_ok.mp (hzip hmem)
      obtain rfl : steps = stepsOf groundTruth key := hsteps _ (List.of_mem_zip hmem).1
      exact accounts_buildSeries hbuilt
    · show rows.flatMap SeriesRows.features = _
      rw [← hparts, List.flatMap_map, hparts]
    · show rows.flatMap SeriesRows.rejections = _
      rw [← hparts, List.flatMap_map, hparts]
    · have hlengths : ((entries.zip rows).map fun pair => (pair.1.1, pair.2)).map
          (fun part => (stepsOf groundTruth part.1).length) =
            entries.map fun entry => entry.2.length := by
        conv_rhs => rw [← hentries]
        rw [List.map_map, List.map_map]
        refine List.map_congr_left fun pair hpair => ?_
        show (stepsOf groundTruth pair.1.1).length = pair.1.2.length
        rw [hsteps _ (List.of_mem_zip hpair).1]
      rw [hlengths]
      exact (hperm.map _).sum_nat.symm
    · show (rows.map SeriesRows.droppedWarmupRows).sum = _
      rw [← hparts, List.map_map, hparts]
      rfl

/-! ## Rows by run and asset -/

/-- The run and the asset of a row. -/
def RowKey.assetRun (key : RowKey F) : AssetRun := (key.runId, key.assetId)

/-- The rows of features of a run and an asset. -/
def FeatureTable.featuresOf (table : FeatureTable F) (key : AssetRun) : List (FeatureRecord F) :=
  ofKey (fun record => record.key.assetRun) key table.features

/-- The rejected rows of a run and an asset. -/
def FeatureTable.rejectionsOf (table : FeatureTable F) (key : AssetRun) :
    List (RejectionRecord F) :=
  ofKey (fun record => record.key.assetRun) key table.rejections

/-- The rows that a run and an asset make are rows of theirs. -/
theorem Accounts.assetRun_eq {rows : SeriesRows F}
    {results : List ((F × Datetime) × FeatureRowResult F)}
    (h : AccountsFor telemetry groundTruth key rows results) :
    (∀ record ∈ rows.features, record.key.assetRun = key) ∧
      ∀ record ∈ rows.rejections, record.key.assetRun = key := by
  rw [h.features, h.rejections]
  constructor
  · intro record hrecord
    obtain ⟨_, -, rfl⟩ := List.mem_map.mp hrecord
    rfl
  · intro record hrecord
    obtain ⟨_, -, rfl⟩ := List.mem_map.mp hrecord
    rfl

/-- The records of a part are of its run and asset. -/
theorem FeatureTable.MadeOf.assetRun_eq (h : table.MadeOf telemetry groundTruth parts) :
    ∀ part ∈ parts, (∀ record ∈ part.2.features, record.key.assetRun = part.1) ∧
      ∀ record ∈ part.2.rejections, record.key.assetRun = part.1 := by
  intro part hpart
  obtain ⟨results, hresults⟩ := h.built part hpart
  exact hresults.assetRun_eq

/-- The rows of every run and asset are accounted for, also of those without any. -/
theorem FeatureTable.MadeOf.exists_accounts (h : table.MadeOf telemetry groundTruth parts)
    (key : AssetRun) : ∃ rows results, AccountsFor telemetry groundTruth key rows results ∧
      table.featuresOf key = rows.features ∧ table.rejectionsOf key = rows.rejections := by
  unfold featuresOf rejectionsOf
  rw [h.features, h.rejections]
  by_cases hkey : key ∈ parts.map Prod.fst
  · obtain ⟨part, hpart, rfl⟩ := List.mem_map.mp hkey
    obtain ⟨results, hresults⟩ := h.built part hpart
    exact ⟨part.2, results, hresults,
      ofKey_flatMap h.once (fun part hpart => (h.assetRun_eq part hpart).1) hpart,
      ofKey_flatMap h.once (fun part hpart => (h.assetRun_eq part hpart).2) hpart⟩
  -- a run and asset that is not among the parts has no steps, hence no rows
  · have hnone : stepsOf groundTruth key = [] := by
      by_contra hne
      exact hkey ((h.covers key).mpr hne)
    refine ⟨⟨0, [], []⟩, [], ?_,
      ofKey_flatMap_eq_nil (fun part hpart => (h.assetRun_eq part hpart).1) hkey,
      ofKey_flatMap_eq_nil (fun part hpart => (h.assetRun_eq part hpart).2) hkey⟩
    unfold AccountsFor
    rw [hnone]
    exact ⟨rfl, rfl, fun j entry hentry => absurd hentry.symm (Option.some_ne_none _), rfl, rfl⟩

/-- A row of features has all the columns, and finite values. -/
theorem Accounts.sound_features {rows : SeriesRows F}
    {results : List ((F × Datetime) × FeatureRowResult F)}
    (h : AccountsFor telemetry groundTruth key rows results) :
    ∀ record ∈ rows.features, record.values.map Prod.fst = featureColumnOrder ∧
      ∀ entry ∈ record.values, PyFloat.isfinite entry.2 = true := by
  rw [h.features]
  intro record hrecord
  obtain ⟨entry, hentry, rfl⟩ := List.mem_map.mp hrecord
  obtain ⟨hmem, hvalid⟩ := List.mem_filter.mp hentry
  obtain ⟨j, hj⟩ := List.mem_iff_getElem?.mp hmem
  have hrow := h.computed j entry hj
  exact ⟨columns_rowAt hrow (of_decide_eq_true hvalid), (sound_rowAt hrow).finite⟩

/-- A rejected row has a reason, and one for each feature that is rejected. -/
theorem Accounts.sound_rejections {rows : SeriesRows F}
    {results : List ((F × Datetime) × FeatureRowResult F)}
    (h : AccountsFor telemetry groundTruth key rows results) :
    ∀ record ∈ rows.rejections, record.validity.reasonCodes ≠ [] ∧
      record.validity.invalidFeatureNames.length = record.validity.reasonCodes.length := by
  rw [h.rejections]
  intro record hrecord
  obtain ⟨entry, hentry, rfl⟩ := List.mem_map.mp hrecord
  obtain ⟨hmem, hinvalid⟩ := List.mem_filter.mp hentry
  obtain ⟨j, hj⟩ := List.mem_iff_getElem?.mp hmem
  have hreasons := (sound_rowAt (h.computed j entry hj)).reasons
  refine ⟨fun hnone => ?_, hreasons⟩
  have hnames : entry.2.validity.invalidFeatureNames = [] := by
    rw [← List.length_eq_zero_iff, hreasons]
    exact List.length_eq_zero_iff.mpr hnone
  -- with no reason there are no names, so the row would be valid and not be rejected
  have hvalid : entry.2.isValid = true := by
    refine decide_eq_true ?_
    unfold FeatureRowValidity.status
    rw [if_pos hnames]
  rw [hvalid] at hinvalid
  cases hinvalid

/-- The counts of the table add up. -/
theorem FeatureTable.MadeOf.total_eq (h : table.MadeOf telemetry groundTruth parts) :
    table.totalRowsBeforeWarmupDrop =
      table.droppedWarmupRows + table.validRows + table.rejectedRows := by
  unfold validRows rejectedRows
  rw [h.total, h.dropped, h.features, h.rejections, List.length_flatMap, List.length_flatMap]
  have hlength : ∀ part ∈ parts, (stepsOf groundTruth part.1).length =
      part.2.droppedWarmupRows + part.2.features.length + part.2.rejections.length := by
    intro part hpart
    obtain ⟨results, hresults⟩ := h.built part hpart
    rw [← hresults.length_eq, withFloatTimes, List.length_map]
  rw [List.map_congr_left hlength]
  clear h hlength
  induction parts with
  | nil => rfl
  | cons part rest ih =>
      simp only [List.map_cons, List.sum_cons]
      omega

/-! ## The labels -/

/-- Two rows of ground truth have the same key. -/
def GroundTruthRow.SameKey (a b : GroundTruthRow F) : Prop :=
  a.assetRun = b.assetRun ∧
    ((PyFloat.literal a.elapsedSimSeconds : F) == PyFloat.literal b.elapsedSimSeconds) = true

/-- The keys of the ground truth are distinct: a row has the key of no row but itself. -/
structure DistinctKeys (groundTruth : List (GroundTruthRow F)) : Prop where
  nodup : groundTruth.Nodup
  sameKey_iff : ∀ a ∈ groundTruth, ∀ b ∈ groundTruth, a.SameKey b ↔ a = b

/-- The run, the asset and the time of a row of features. -/
def FeatureRecord.place (record : FeatureRecord F) : AssetRun × Datetime :=
  (record.key.assetRun, record.timestamp)

omit [PyFloat F] in
/-- The run, the asset and the time of a label. -/
def LabelRow.place (row : LabelRow F) : AssetRun × Datetime :=
  ((row.simulationRunId, row.assetId), row.timestamp)

omit [PyFloat F] in
/-- A label has the place of its row of ground truth. -/
theorem place_buildLabelRows {rows : List (GroundTruthRow F)} {labels : List (LabelRow F)}
    (h : buildLabelRows splits rows = .ok labels) :
    labels.map LabelRow.place = rows.map fun row => (row.assetRun, row.timestamp) := by
  refine map_eq_of_mapM (fun row label hlabel => ?_) h
  split at hlabel
  · cases hlabel
  · cases hlabel
    rfl

/-- The time of a row of ground truth, as a number that is computed with, and its timestamp. -/
def GroundTruthRow.step (row : GroundTruthRow F) : F × Datetime :=
  (PyFloat.literal row.elapsedSimSeconds, row.timestamp)

/-- The steps of a run and an asset are those of its rows. -/
theorem perm_withFloatTimes_stepsOf :
    ((ofKey GroundTruthRow.assetRun key groundTruth).map GroundTruthRow.step).Perm
      (withFloatTimes (stepsOf groundTruth key)) := by
  have hperm : ((ofKey GroundTruthRow.assetRun key groundTruth).map fun row =>
      (row.elapsedSimSeconds, row.timestamp)).Perm (stepsOf groundTruth key) :=
    (List.mergeSort_perm _ _).symm
  have hfloat := hperm.map fun entry => ((PyFloat.literal entry.1 : F), entry.2)
  rw [List.map_map] at hfloat
  exact hfloat

/-- The rows of ground truth of a run and an asset that have a row of features are its valid
steps. -/
theorem Accounts.filter_eligible {rows : SeriesRows F}
    {results : List ((F × Datetime) × FeatureRowResult F)} (hdistinct : DistinctKeys groundTruth)
    (h : AccountsFor telemetry groundTruth key rows results) :
    (withFloatTimes (stepsOf groundTruth key)).filter
        (fun step => rows.features.any fun record => record.key.elapsed == step.1) =
      (results.filter fun entry => entry.2.isValid).map Prod.fst := by
  have hsteps : ∀ step, step ∈ withFloatTimes (stepsOf groundTruth key) ↔
      ∃ row ∈ groundTruth, row.assetRun = key ∧ row.step = step := by
    intro step
    rw [← perm_withFloatTimes_stepsOf.mem_iff, List.mem_map]
    simp only [mem_ofKey, and_assoc]
  -- steps at equal times are those of one row
  have hself : ∀ a b : F × Datetime, a ∈ withFloatTimes (stepsOf groundTruth key) →
      b ∈ withFloatTimes (stepsOf groundTruth key) → ((a.1 == b.1) = true ↔ a = b) := by
    intro a b ha hb
    obtain ⟨row, hrow, hkey, rfl⟩ := (hsteps a).mp ha
    obtain ⟨row', hrow', hkey', rfl⟩ := (hsteps b).mp hb
    constructor
    · intro heq
      rw [(hdistinct.sameKey_iff row hrow row' hrow').mp ⟨hkey.trans hkey'.symm, heq⟩]
    · intro heq
      rw [← heq]
      exact ((hdistinct.sameKey_iff row hrow row hrow).mpr rfl).2
  -- the valid steps are among the steps, in their order
  have hsub : ((results.filter fun entry => entry.2.isValid).map Prod.fst).Sublist
      (withFloatTimes (stepsOf groundTruth key)) := by
    have hkept := (List.filter_sublist (p := fun entry => entry.2.isValid) (l := results)).map
      Prod.fst
    rw [h.positions] at hkept
    exact hkept.trans (List.drop_sublist _ _)
  -- a sublist of steps that are distinct is what a filter keeps, once both keep the same steps
  refine filter_eq_of_sublist hsub ?_ ?_
  · rw [← perm_withFloatTimes_stepsOf.nodup_iff]
    refine List.Nodup.map_on ?_ (hdistinct.nodup.filter _)
    intro row hrow row' hrow' heq
    obtain ⟨hrow, hkey⟩ := mem_ofKey.mp hrow
    obtain ⟨hrow', hkey'⟩ := mem_ofKey.mp hrow'
    refine (hdistinct.sameKey_iff row hrow row' hrow').mp ⟨hkey.trans hkey'.symm, ?_⟩
    exact (hself _ _ ((hsteps _).mpr ⟨row, hrow, hkey, rfl⟩)
      ((hsteps _).mpr ⟨row', hrow', hkey', rfl⟩)).mpr heq
  · intro step hstep
    rw [h.features, List.any_map, List.any_eq_true, List.mem_map]
    refine exists_congr fun entry => and_congr_right fun hentry => ?_
    exact hself entry.1 step (hsub.subset (List.mem_map_of_mem hentry)) hstep

/-- The labels of a run and an asset are at the places of its rows of features. -/
theorem perm_labels_of_key (hdistinct : DistinctKeys groundTruth)
    (h : table.MadeOf telemetry groundTruth parts) (key : AssetRun) :
    ((ofKey GroundTruthRow.assetRun key (groundTruth.filter (eligible table.features))).map
      fun row => (row.assetRun, row.timestamp)).Perm
      ((table.featuresOf key).map FeatureRecord.place) := by
  obtain ⟨rows, results, hresults, hfeatures, -⟩ := h.exists_accounts key
  have hkept := hresults.filter_eligible hdistinct
  -- a row is looked up among the features of its run and asset
  have heligible : ∀ row ∈ ofKey GroundTruthRow.assetRun key groundTruth,
      eligible table.features row =
        rows.features.any fun record => record.key.elapsed == row.step.1 := by
    intro row hrow
    obtain ⟨-, rfl⟩ := mem_ofKey.mp hrow
    rw [← hfeatures, FeatureTable.featuresOf, ofKey, List.any_filter, eligible]
    refine congrArg _ (funext fun record => ?_)
    simp [RowKey.assetRun, GroundTruthRow.assetRun, GroundTruthRow.step, Prod.ext_iff,
      beq_eq_decide (α := String)]
  -- labels and rows of features are both made of the steps that are valid
  have hlabels : (ofKey GroundTruthRow.assetRun key
      (groundTruth.filter (eligible table.features))).map
        (fun row => (row.assetRun, row.timestamp)) =
      (((ofKey GroundTruthRow.assetRun key groundTruth).map GroundTruthRow.step).filter
        fun step => rows.features.any fun record => record.key.elapsed == step.1).map
          fun step => (key, step.2) := by
    rw [ofKey, List.filter_comm, ← ofKey, List.filter_congr heligible, List.filter_map,
      List.map_map]
    refine List.map_congr_left fun row hrow => ?_
    obtain ⟨-, rfl⟩ := mem_ofKey.mp (List.mem_of_mem_filter hrow)
    rfl
  have hplaces : (table.featuresOf key).map FeatureRecord.place =
      ((results.filter fun entry => entry.2.isValid).map Prod.fst).map
        fun step => (key, step.2) := by
    rw [hfeatures, hresults.features, List.map_map, List.map_map]
    rfl
  rw [hlabels, hplaces, ← hkept]
  exact (perm_withFloatTimes_stepsOf.filter _).map _

/-- With distinct keys, there is one label for each row of features, of its run and asset and at its
time. -/
theorem FeatureTable.MadeOf.perm_labels (hdistinct : DistinctKeys groundTruth)
    (h : table.MadeOf telemetry groundTruth parts)
    (hlabels : buildLabelRows splits (groundTruth.filter (eligible table.features)) =
      .ok table.labels) :
    (table.labels.map LabelRow.place).Perm (table.features.map FeatureRecord.place) := by
  -- both tables are the union of their parts by run and asset
  have hrows : ((parts.map Prod.fst).flatMap fun key => ofKey GroundTruthRow.assetRun key
      (groundTruth.filter (eligible table.features))).Perm
        (groundTruth.filter (eligible table.features)) := by
    refine perm_flatMap_ofKey h.once fun row hrow => (h.covers _).mpr ?_
    have hstep := perm_withFloatTimes_stepsOf.mem_iff.mp (List.mem_map_of_mem
      (f := GroundTruthRow.step) (mem_ofKey.mpr ⟨List.mem_of_mem_filter hrow, rfl⟩))
    intro hnone
    rw [hnone] at hstep
    exact absurd hstep List.not_mem_nil
  have hfeatures : ((parts.map Prod.fst).flatMap table.featuresOf).Perm table.features := by
    refine perm_flatMap_ofKey h.once fun record hrecord => ?_
    rw [h.features] at hrecord
    obtain ⟨part, hpart, hrecord⟩ := List.mem_flatMap.mp hrecord
    rw [(h.assetRun_eq part hpart).1 record hrecord]
    exact List.mem_map_of_mem hpart
  rw [place_buildLabelRows hlabels]
  refine ((hrows.map _).symm.trans ?_).trans (hfeatures.map _)
  rw [List.map_flatMap, List.map_flatMap]
  exact List.Perm.flatMap_left _ fun key _ => perm_labels_of_key hdistinct h key

/-! ## The whole table -/

/-- Every row of the ground truth is accounted for: it is dropped by the warm-up, or has a row in
one of the two tables, which is sound. -/
structure FeatureTable.Accounted (telemetry : List (TelemetryRow F))
    (groundTruth : List (GroundTruthRow F)) (table : FeatureTable F) : Prop where
  /-- Every position behind the warm-up makes one row, of the features or of the rejections. -/
  rows : ∀ key, ∃ rows results, AccountsFor telemetry groundTruth key rows results ∧
    table.featuresOf key = rows.features ∧ table.rejectionsOf key = rows.rejections
  /-- A row of features has every column, with a finite value. -/
  finite : ∀ record ∈ table.features, record.values.map Prod.fst = featureColumnOrder ∧
    ∀ entry ∈ record.values, PyFloat.isfinite entry.2 = true
  /-- A rejected row has a reason, and one for each feature that is rejected. -/
  reasons : ∀ record ∈ table.rejections, record.validity.reasonCodes ≠ [] ∧
    record.validity.invalidFeatureNames.length = record.validity.reasonCodes.length
  /-- Every row of features has its label. -/
  labels : DistinctKeys groundTruth →
    (table.labels.map LabelRow.place).Perm (table.features.map FeatureRecord.place)
  /-- No row is lost. -/
  total : table.totalRowsBeforeWarmupDrop =
    table.droppedWarmupRows + table.validRows + table.rejectedRows

/-- Every row of a table that is returned is accounted for. -/
theorem accounted_buildFeatureTable
    (h : buildFeatureTable dtSeconds splits telemetry groundTruth = .ok table) :
    table.Accounted telemetry groundTruth := by
  obtain ⟨parts, hparts⟩ := exists_parts h
  refine ⟨hparts.exists_accounts, ?_, ?_, ?_, hparts.total_eq⟩
  · rw [hparts.features]
    intro record hrecord
    obtain ⟨part, hpart, hrecord⟩ := List.mem_flatMap.mp hrecord
    obtain ⟨results, hresults⟩ := hparts.built part hpart
    exact hresults.sound_features record hrecord
  · rw [hparts.rejections]
    intro record hrecord
    obtain ⟨part, hpart, hrecord⟩ := List.mem_flatMap.mp hrecord
    obtain ⟨results, hresults⟩ := hparts.built part hpart
    exact hresults.sound_rejections record hrecord
  · exact fun hdistinct => hparts.perm_labels hdistinct (labels_of_buildFeatureTable h)

end Table

/-- Two steps of the example are at different times. -/
theorem timeOf_injective : Function.Injective timeOf := by
  intro i j h
  have hnat : 10 * i = 10 * j := Nat.cast_injective h
  omega

/-- The steps of the run have distinct keys. -/
theorem distinctKeys_twelveSteps : DistinctKeys twelveSteps where
  nodup := by
    refine List.Nodup.map (fun i j h => ?_) List.nodup_range
    exact timeOf_injective (congrArg GroundTruthRow.elapsedSimSeconds h)
  sameKey_iff a ha b hb := by
    obtain ⟨i, -, rfl⟩ := List.mem_map.mp ha
    obtain ⟨j, -, rfl⟩ := List.mem_map.mp hb
    constructor
    · intro hsame
      have htimes : timeOf i = timeOf j := of_decide_eq_true hsame.2
      rw [timeOf_injective htimes]
    · intro hrow
      rw [← hrow]
      exact ⟨rfl, decide_eq_true rfl⟩

/-- The table of the run that is observed at every step, and its labels. -/
theorem accounted_everyStep : ∃ table,
    buildFeatureTable 10 trainOnly (telemetryOf everyStep) twelveSteps = .ok table ∧
      table.Accounted (telemetryOf everyStep) twelveSteps ∧
      (table.labels.map LabelRow.place).Perm (table.features.map FeatureRecord.place) := by
  obtain ⟨table, hbuild⟩ :=
    exists_table seriesOf_everyStep (by decide +kernel) (by decide +kernel)
  have haccounted := accounted_buildFeatureTable hbuild
  exact ⟨table, hbuild, haccounted, haccounted.labels distinctKeys_twelveSteps⟩

end Odis.Features
