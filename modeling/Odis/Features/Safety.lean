import Odis.Features.Config
import Odis.Library.OrderedDict

/-!
# Safe ratios

The ratios of two measurements (`features/safety.py`, `features/cross_signal.py`): a ratio is
not computed when its denominator is below its floor, and such a feature makes its row
insufficient data. `FeatureRowValidity` accumulates the rejections of one row.
-/

namespace Odis.Features

variable {F : Type}

/-- Why a feature is rejected. -/
inductive RejectionReason where
  | nearZeroDenominator
  | nonFiniteValue
  | missingMeasurement
  deriving DecidableEq, Repr

/-- The text of a reason code. -/
def RejectionReason.value : RejectionReason → String
  | nearZeroDenominator => "near_zero_denominator"
  | nonFiniteValue => "non_finite_value"
  | missingMeasurement => "missing_measurement"

/-- What `safe_divide` says of a ratio: its value, or why there is none. -/
structure SafeDivisionResult (F : Type) where
  value : Except RejectionReason F
  denominatorName : FeatureMeasurement
  denominatorValue : F

/-- The rejections of one row. `diagnostic_values` maps the denominators met to their values. -/
structure FeatureRowValidity (F : Type) where
  invalidFeatureNames : List FeatureColumn
  reasonCodes : List RejectionReason
  diagnosticValues : OrderedDict (id : FeatureMeasurement → FeatureMeasurement) F

/-- The status of a row. -/
inductive FeatureRowStatus where
  | valid
  | insufficientData
  deriving DecidableEq, Repr

namespace FeatureRowValidity

/-- A row none of whose features is rejected so far. -/
def fresh : FeatureRowValidity F := ⟨[], [], .empty⟩

/-- The row is valid while no feature is rejected. -/
def status (validity : FeatureRowValidity F) : FeatureRowStatus :=
  if validity.invalidFeatureNames = [] then .valid else .insufficientData

/-- `record_division`. -/
def recordDivision (validity : FeatureRowValidity F) (feature : FeatureColumn)
    (result : SafeDivisionResult F) : FeatureRowValidity F :=
  match result.value with
  | .ok _ => validity
  | .error reason =>
      { invalidFeatureNames := validity.invalidFeatureNames ++ [feature]
        reasonCodes := validity.reasonCodes ++ [reason]
        diagnosticValues :=
          validity.diagnosticValues.set result.denominatorName result.denominatorValue }

end FeatureRowValidity

variable [PyFloat F]

/-- `MIN_ABS_CURRENT_AMPS`. -/
def minAbsCurrentAmps : F := PyFloat.literal 1.0

/-- `MIN_ABS_FUEL_FLOW_SLPM`. -/
def minAbsFuelFlowSlpm : F := PyFloat.literal 0.1

/-- `safe_divide`. -/
def safeDivide (numerator denominator minAbsDenominator : F)
    (denominatorName : FeatureMeasurement) : Except ArithmeticError (SafeDivisionResult F) :=
  if PyFloat.abs denominator < minAbsDenominator then
    .ok ⟨.error .nearZeroDenominator, denominatorName, denominator⟩
  else do
    let value ← PyFloat.truediv numerator denominator
    if PyFloat.isfinite value then return ⟨.ok value, denominatorName, denominator⟩
    else return ⟨.error .nonFiniteValue, denominatorName, denominator⟩

/-- `compute_cross_signal_features`. -/
def computeCrossSignalFeatures (values : FeatureMeasurement → F) :
    Except ArithmeticError (List (CrossSignalFeature × SafeDivisionResult F)) := do
  let voltagePerCurrent ←
    safeDivide (values .voltage) (values .current) minAbsCurrentAmps .current
  let powerPerFuelFlow ←
    safeDivide (values .powerOutput) (values .fuelFlow) minAbsFuelFlowSlpm .fuelFlow
  return [(.voltagePerCurrent, voltagePerCurrent), (.powerPerFuelFlow, powerPerFuelFlow)]

end Odis.Features
