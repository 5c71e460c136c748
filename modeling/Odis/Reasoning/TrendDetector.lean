import Odis.Inference.Telemetry

/-!
# Trend detection

`TrendDetector` (`application/trend_detector.py`) classifies the direction of a series of
observations by comparing the means of its two halves, relative to the spread of the series.
-/

namespace Odis.Reasoning

open Inference

variable {F : Type} [PyFloat F]

/-- `TrendDirection`. -/
inductive TrendDirection where
  | increasing
  | stable
  | decreasing
  deriving DecidableEq, Repr

/-- The text of a direction. -/
def TrendDirection.value : TrendDirection → String
  | increasing => "increasing"
  | stable => "stable"
  | decreasing => "decreasing"

/-- `DetectedTrend`. -/
structure DetectedTrend where
  direction : TrendDirection
  assetId : String
  measurementType : String

/-- The exceptions of `detect`. -/
inductive TrendError where
  | tooFewObservations
  | mixedAssets
  | mixedMeasurementTypes
  | arithmetic (error : ArithmeticError)
  deriving DecidableEq, Repr

/-- `_STABLE_EPSILON`. -/
def stableEpsilon (F : Type) [PyFloat F] : F := PyFloat.literal (1 / 1000000000)

/-- `_TREND_RATIO_THRESHOLD`. -/
def trendRatioThreshold (F : Type) [PyFloat F] : F := PyFloat.literal (8 / 10)

/-- `_MIN_SAMPLES_FOR_DIRECTIONAL_TREND`. -/
def minSamplesForDirectionalTrend : ℕ := 8

/-- The direction of a shift that counts as a trend. -/
def directionOf (shift : F) : TrendDirection :=
  if PyFloat.literal 0 < shift then .increasing else .decreasing

/-- `_split_half_direction`. -/
def splitHalfDirection (ordered : List (Observation F)) :
    Except ArithmeticError TrendDirection := do
  let values := ordered.map Observation.value
  let n := values.length
  if n < minSamplesForDirectionalTrend then return .stable
  let mid := n / 2
  let firstHalfMean ← PyFloat.fmean (values.take mid)
  -- the middle value of an odd series is in neither half
  let secondHalfMean ← PyFloat.fmean (values.drop (n - mid))
  let shift := secondHalfMean - firstHalfMean
  if PyFloat.abs shift ≤ stableEpsilon F then return .stable
  let spread ← PyFloat.pstdev values
  if spread ≤ stableEpsilon F then return directionOf shift
  let ratio ← PyFloat.truediv (PyFloat.abs shift) spread
  if ratio < trendRatioThreshold F then return .stable
  return directionOf shift

/-- The observations in the order of their timestamps; those of one instant stay as they were. -/
def sortedByTimestamp (observations : List (Observation F)) : List (Observation F) :=
  observations.mergeSort fun a b => a.timestamp.instant ≤ b.timestamp.instant

/-- `TrendDetector.detect`. -/
def detect (observations : List (Observation F)) : Except TrendError DetectedTrend :=
  match observations with
  | first :: second :: rest =>
      -- the source checks the asset and the type of each observation before the next one's
      match (second :: rest).find? fun o =>
          o.assetId ≠ first.assetId ∨ o.measurementType ≠ first.measurementType with
      | some o =>
          if o.assetId ≠ first.assetId then .error .mixedAssets else .error .mixedMeasurementTypes
      | none =>
          match splitHalfDirection (sortedByTimestamp observations) with
          | .error error => .error (.arithmetic error)
          | .ok direction => .ok ⟨direction, first.assetId, first.measurementType⟩
  | _ => .error .tooFewObservations

end Odis.Reasoning
