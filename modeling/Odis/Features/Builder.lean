import Odis.Features.Row
import Odis.Python.Datetime

/-!
# Feature tables

The batch builder (`features/builder.py`): the loop of `build_feature_table` over the samples of
one `(run, asset)`, with the whole run's series. The row at a position reads the series up to it
only (`rowAt_append`).
-/

namespace Odis.Features

variable {F : Type} [PyFloat F]

/-- The exceptions of the loop. -/
inductive BuilderError (F : Type) where
  | indexError
  | feature (error : FeatureError F)

/-- A row of the feature table, without the data set's name. -/
structure FeatureRecord (F : Type) where
  key : RowKey F
  timestamp : Datetime
  values : List (FeatureColumn × F)

/-- A row of the rejection table, without the data set's name. -/
structure RejectionRecord (F : Type) where
  key : RowKey F
  timestamp : Datetime
  validity : FeatureRowValidity F

/-- What the loop has written so far. -/
structure SeriesRows (F : Type) where
  droppedWarmupRows : ℕ
  features : List (FeatureRecord F)
  rejections : List (RejectionRecord F)

/-- The feature row at a position of a run's series. -/
def rowAt (runId assetId : String) (seriesByMeasurement : FeatureMeasurement → Series F)
    (elapsed : F) (index : ℕ) : Except (BuilderError F) (FeatureRowResult F) :=
  match valuesAt seriesByMeasurement index, valuesAt seriesByMeasurement (index - 1) with
  | some currentValues, some previousValues =>
      (computeFeatureRow currentValues previousValues seriesByMeasurement index
        ⟨runId, assetId, elapsed⟩).mapError .feature
  | _, _ => .error .indexError

/-- One round of the loop: a row of the warm-up is dropped, every other one is kept in one of
the two tables. -/
def buildIndex (runId assetId : String) (seriesByMeasurement : FeatureMeasurement → Series F)
    (rows : SeriesRows F) (position : (F × Datetime) × ℕ) :
    Except (BuilderError F) (SeriesRows F) :=
  let ((elapsed, timestamp), index) := position
  if index < longestWindowSamples - 1 then
    .ok { rows with droppedWarmupRows := rows.droppedWarmupRows + 1 }
  else do
    let row ← rowAt runId assetId seriesByMeasurement elapsed index
    match row.validity.status with
    | .insufficientData =>
        return { rows with
          rejections := rows.rejections ++ [⟨⟨runId, assetId, elapsed⟩, timestamp, row.validity⟩] }
    | .valid =>
        return { rows with
          features := rows.features ++ [⟨⟨runId, assetId, elapsed⟩, timestamp, row.values⟩] }

/-- The loop over the samples of one `(run, asset)`. -/
def buildSeries (runId assetId : String) (seriesByMeasurement : FeatureMeasurement → Series F)
    (elapsedTimestamps : List (F × Datetime)) : Except (BuilderError F) (SeriesRows F) :=
  elapsedTimestamps.zipIdx.foldlM (buildIndex runId assetId seriesByMeasurement) ⟨0, [], []⟩

omit [PyFloat F] in
/-- The value of a measurement at a position of its series. -/
theorem valuesAt_eq_some {series : FeatureMeasurement → Series F} {index : ℕ}
    (h : ∀ m, index < (series m).length) :
    valuesAt series index = some fun m => ((series m).get ⟨index, h m⟩).2 := by
  rw [valuesAt, dif_pos fun m _ => h m]

/-- The row at a position does not depend on later samples. -/
theorem rowAt_append {runId assetId : String} {series more : FeatureMeasurement → Series F}
    {elapsed : F} {index : ℕ} (h : ∀ m, index < (series m).length) :
    rowAt runId assetId (fun m => series m ++ more m) elapsed index =
      rowAt runId assetId series elapsed index := by
  -- the values at the position and the one before it are read from the samples that are there
  have hvalues : ∀ i ≤ index,
      valuesAt (fun m => series m ++ more m) i = valuesAt series i := by
    intro i hi
    have hlt : ∀ m, i < (series m).length := fun m => Nat.lt_of_le_of_lt hi (h m)
    have hlt' : ∀ m, i < (series m ++ more m).length := fun m => by
      rw [List.length_append]
      exact Nat.lt_add_right _ (hlt m)
    rw [valuesAt_eq_some hlt, valuesAt_eq_some hlt']
    refine congrArg some (funext fun m => ?_)
    rw [List.get_eq_getElem, List.get_eq_getElem, List.getElem_append_left (hlt m)]
  rw [rowAt, rowAt, hvalues index (Nat.le_refl _), hvalues (index - 1) (Nat.sub_le _ _)]
  -- so are the windows, which end at the position
  have hrow : ∀ currentValues previousValues,
      computeRow currentValues previousValues (fun m => series m ++ more m) index =
        computeRow currentValues previousValues series index := fun _ _ =>
    computeRow_congr fun m seconds _ => trailingWindow_append (series m) (more m) (h m)
  simp only [computeFeatureRow, hrow]

/-- A valid row of the builder has every feature column, in order. -/
theorem columns_rowAt {runId assetId : String} {series : FeatureMeasurement → Series F}
    {elapsed : F} {index : ℕ} {row : FeatureRowResult F}
    (h : rowAt runId assetId series elapsed index = .ok row)
    (hvalid : row.validity.status = .valid) : row.values.map Prod.fst = featureColumnOrder := by
  rw [rowAt] at h
  split at h
  · exact columns_computeRow
      (Exceptions.mapError_eq_ok.mp (Exceptions.mapError_eq_ok.mp h)) hvalid
  · contradiction

end Odis.Features
