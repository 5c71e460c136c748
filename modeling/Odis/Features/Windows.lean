import Odis.Features.Config
import Odis.Library.RingBuffer

/-!
# Trailing windows

The window of a series that ends at a sample, and the six statistics over it
(`features/windows.py`). A window only reads the samples it covers: it is the same on a series and
on what is left of the series once older samples are dropped (`trailingWindow_drop`).
-/

namespace Odis.Features

variable {F : Type}

/-- Samples of a measurement, `(elapsed_sim_seconds, value)`, ascending. -/
abbrev Series (F : Type) : Type := List (F × F)

/-- `ValueError` of `trailing_window`: fewer samples than the window has. -/
structure IncompleteWindow where
  windowSamples : ℕ
  currentIndex : ℕ
  deriving DecidableEq, Repr

/-- `trailing_window`: the `windowSamples` samples that end at `currentIndex`. -/
def trailingWindow (series : Series F) (currentIndex windowSamples : ℕ) :
    Except IncompleteWindow (Series F) :=
  if currentIndex + 1 < windowSamples then .error ⟨windowSamples, currentIndex⟩
  else .ok ((series.take (currentIndex + 1)).drop (currentIndex + 1 - windowSamples))

/-- Dropping samples older than the window leaves the window. -/
theorem trailingWindow_drop (series : Series F) {dropped index windowSamples : ℕ}
    (h : windowSamples ≤ index + 1) :
    trailingWindow (series.drop dropped) index windowSamples =
      trailingWindow series (dropped + index) windowSamples := by
  rw [trailingWindow, trailingWindow, if_neg (by omega), if_neg (by omega)]
  exact congrArg Except.ok (RingBuffer.slice_drop series h)

/-- Samples after the current one are not in the window. -/
theorem trailingWindow_append (series more : Series F) {index windowSamples : ℕ}
    (h : index < series.length) :
    trailingWindow (series ++ more) index windowSamples =
      trailingWindow series index windowSamples := by
  rw [trailingWindow, trailingWindow]
  split_ifs
  · rfl
  · exact congrArg Except.ok (RingBuffer.slice_append series more h)

variable [PyFloat F]

/-- The statistics of a window. -/
structure WindowStats (F : Type) where
  mean : F
  std : F
  minimum : F
  maximum : F
  slope : F
  delta : F

/-- A statistic by its name, as in `as_dict`. -/
def WindowStats.get (stats : WindowStats F) : WindowStat → F
  | .mean => stats.mean
  | .std => stats.std
  | .min => stats.minimum
  | .max => stats.maximum
  | .slope => stats.slope
  | .delta => stats.delta

/-- `_ols_slope`: the least-squares slope of `ys` against `xs`. -/
def olsSlope (xs ys : List F) : Except ArithmeticError F := do
  let meanX ← PyFloat.fmean xs
  let meanY ← PyFloat.fmean ys
  let numerator := PyFloat.sum ((xs.zip ys).map fun (x, y) => (x - meanX) * (y - meanY))
  let squares ← xs.mapM fun x => PyFloat.square (x - meanX)
  PyFloat.truediv numerator (PyFloat.sum squares)

/-- `compute_window_stats`. -/
def computeWindowStats (window : Series F) : Except ArithmeticError (WindowStats F) :=
  match window with
  | [] => .error .statisticsError
  | first :: rest => do
      let elapsed := window.map Prod.fst
      let values := window.map Prod.snd
      let mean ← PyFloat.fmean values
      let std ← if 1 < values.length then PyFloat.pstdev values else .ok (PyFloat.literal 0.0)
      let minimum := PyFloat.minimum first.2 (rest.map Prod.snd)
      let maximum := PyFloat.maximum first.2 (rest.map Prod.snd)
      let slope ← olsSlope elapsed values
      let delta := ((first :: rest).getLast (List.cons_ne_nil _ _)).2 - first.2
      return { mean, std, minimum, maximum, slope, delta }

end Odis.Features
