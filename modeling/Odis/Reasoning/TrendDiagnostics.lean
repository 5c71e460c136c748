import Mathlib.Data.String.Basic
import Odis.Inference.Telemetry
import Odis.Library.TieBreaking
import Odis.Python.ExactReal

/-!
# Trend diagnostics

`analyze_trend_diagnostics` (`application/time_series_analysis.py`) describes the recent window of a
series: its net change, how many of its steps go the same way, and how much they vary. A direction
that is not consistent enough is overridden by `stable`.
-/

namespace Odis.TimeSeries

open Inference

variable {F : Type} [PyMath F]

/-- `TrendDirection`. -/
inductive TrendDirection where
  | rising
  | falling
  | stable
  deriving DecidableEq, Repr

/-- `TrendDiagnostics`: the direction of a series, and the measures of its regularity that scores
are made of. -/
@[ext]
structure TrendDiagnostics (F : Type) where
  direction : TrendDirection
  rateOfChange : F
  monotonicity : F
  volatilityNorm : F
  stabilityScore : ℤ
  volatilityScore : ℤ

/-- The exceptions of the analysis. -/
inductive AnalysisError where
  | observationWindowNotPositive
  | indexError
  | arithmetic (error : ArithmeticError)
  deriving DecidableEq, Repr

/-- `_MIN_SAMPLES_FOR_DIRECTIONAL_TREND`. -/
def minSamplesForDirectionalTrend : ℕ := 8

/-- `deltas`: the steps of a series. -/
def stepsOf (values : List F) : List F :=
  List.zipWith (fun value next => next - value) values values.tail

/-- Whether a step goes in a direction. -/
def isAligned (direction : TrendDirection) (delta : F) : Bool :=
  (direction = .rising ∧ PyFloat.literal 0 < delta) ∨
    (direction = .falling ∧ delta < PyFloat.literal 0)

/-- `_monotonicity`. -/
def monotonicity (deltas : List F) (direction : TrendDirection) : Except ArithmeticError F :=
  if deltas = [] then .ok (PyFloat.literal 1.0)
  else if direction = .stable then
    let nonZero := deltas.countP fun d => PyFloat.literal (1 / 1000000000000) < PyFloat.abs d
    .ok (if nonZero = 0 then PyFloat.literal 1.0 else PyFloat.literal 0.6)
  else
    -- a step that is close to zero is passed over
    let considered := deltas.filter fun delta =>
      ¬ PyFloat.abs delta ≤ PyFloat.literal (1 / 1000000000000)
    if considered.length = 0 then .ok (PyFloat.literal 0.8)
    else PyFloat.intTruediv (considered.countP (isAligned direction)) considered.length

/-- `_volatility_norm`. -/
def volatilityNorm (deltas : List F) (avgDelta : F) : Except ArithmeticError F :=
  if deltas = [] then .ok (PyFloat.literal 0.0)
  else do
    let count := PyFloat.ofInt deltas.length
    let mean ← PyFloat.truediv (PyFloat.sum deltas) count
    let squares ← deltas.mapM fun d => PyFloat.square (d - mean)
    let variance ← PyFloat.truediv (PyFloat.sum squares) count
    let std ← PyMath.sqrt variance
    let denom := PyFloat.abs avgDelta + PyFloat.literal (1 / 1000000)
    let ratio ← PyFloat.truediv std denom
    return PyFloat.maximum (PyFloat.literal 0.0) [PyFloat.minimum (PyFloat.literal 1.0) [ratio]]

/-- The direction of the net change. -/
def directionHypothesis (netChange : F) : TrendDirection :=
  if PyFloat.abs netChange ≤ PyFloat.literal (1 / 1000000000) then .stable
  else if PyFloat.literal 0 < netChange then .rising else .falling

/-- The part of `_compute_signals` after the net change and the average step. -/
def signalsFrom (deltas : List F) (netChange avgDelta : F) :
    Except ArithmeticError (TrendDiagnostics F) := do
  let hypothesis := directionHypothesis netChange
  let consistency ← monotonicity deltas hypothesis
  let volatility ← volatilityNorm deltas avgDelta
  let volatilityScore ← PyMath.round (PyFloat.ofInt 100 * volatility)
  let stabilityRaw := PyFloat.literal 0.65 * consistency +
    PyFloat.literal 0.35 * (PyFloat.literal 1.0 - volatility)
  let rounded ← PyMath.round (PyFloat.ofInt 100 * stabilityRaw)
  let stabilityScore := max 0 (min 100 rounded)
  -- a direction that is not consistent enough is not trusted
  if hypothesis ≠ .stable ∧ stabilityScore < 55 then
    let overridden ← monotonicity deltas .stable
    return ⟨.stable, avgDelta, overridden, volatility, stabilityScore, volatilityScore⟩
  else
    return ⟨hypothesis, avgDelta, consistency, volatility, stabilityScore, volatilityScore⟩

/-- `_compute_signals`, of the values of the observations. -/
def signalsOf (values : List F) : Except AnalysisError (TrendDiagnostics F) :=
  match values.head?, values.getLast? with
  | some first, some last =>
      let netChange := last - first
      let avgDelta := PyFloat.truediv netChange (PyFloat.ofInt (max 1 (values.length - 1)))
      (avgDelta >>= signalsFrom (stepsOf values) netChange).mapError .arithmetic
  | _, _ => .error .indexError

/-- `_compute_signals`. -/
def computeSignals (windowed : List (Observation F)) :
    Except AnalysisError (TrendDiagnostics F) :=
  signalsOf (windowed.map Observation.value)

/-- The observations in the order of their timestamps, those of one instant by their ids. -/
def sortedByTimestampAndId (observations : List (Observation F)) : List (Observation F) :=
  OrderBy.orderByBreaking (fun o => o.timestamp.instant) Observation.id observations

/-- `ordered[-observation_window:]`, for a positive window. -/
def recentWindow (ordered : List (Observation F)) (observationWindow : ℕ) :
    List (Observation F) :=
  ordered.drop (ordered.length - observationWindow)

/-- `analyze_trend_diagnostics`. -/
def analyzeTrendDiagnostics (observations : List (Observation F)) (observationWindow : ℤ) :
    Except AnalysisError (Option (TrendDiagnostics F)) :=
  if observationWindow ≤ 0 then .error .observationWindowNotPositive
  else
    let windowed := recentWindow (sortedByTimestampAndId observations) observationWindow.toNat
    if windowed.length < minSamplesForDirectionalTrend then .ok none
    else (computeSignals windowed).map some

end Odis.TimeSeries
