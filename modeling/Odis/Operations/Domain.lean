import Odis.Python.Isoformat

/-!
# The operational condition of an asset

What the operator-facing engines compute from the outcome of a reasoning run: the operational state
(`domain/operational_state.py`), the notification (`domain/notification.py`) and the diagnostics of
a trend (`application/time_series_analysis.py`), with what their `__post_init__` checks.
-/

namespace Odis.Operations

/-- A `datetime` that Python can represent. -/
abbrev Timestamp : Type := { t : Datetime // t.InRange }

/-- `HealthStatus`. -/
inductive HealthStatus where
  | normal
  | warning
  | critical
  deriving DecidableEq, Repr

/-- The text of a health status. -/
def HealthStatus.value : HealthStatus → String
  | normal => "NORMAL"
  | warning => "WARNING"
  | critical => "CRITICAL"

/-- `RiskLevel`. -/
inductive RiskLevel where
  | low
  | medium
  | high
  deriving DecidableEq, Repr

/-- The text of a risk level. -/
def RiskLevel.value : RiskLevel → String
  | low => "LOW"
  | medium => "MEDIUM"
  | high => "HIGH"

/-- `OperationalState`. -/
structure OperationalState where
  assetId : String
  healthScore : ℤ
  healthStatus : HealthStatus
  riskLevel : RiskLevel
  confidence : ℤ
  primaryDriver : String
  recommendedAction : String
  lastUpdated : Timestamp
  assetId_ne : assetId ≠ ""
  healthScore_range : 0 ≤ healthScore ∧ healthScore ≤ 100
  confidence_range : 0 ≤ confidence ∧ confidence ≤ 100
  primaryDriver_ne : primaryDriver ≠ ""
  recommendedAction_ne : recommendedAction ≠ ""

/-- `NotificationSeverity`. -/
inductive NotificationSeverity where
  | info
  | warning
  | critical
  deriving DecidableEq, Repr

/-- The text of a severity. -/
def NotificationSeverity.value : NotificationSeverity → String
  | info => "INFO"
  | warning => "WARNING"
  | critical => "CRITICAL"

/-- `NotificationStatus`. -/
inductive NotificationStatus where
  | opened
  | acknowledged
  | resolved
  deriving DecidableEq, Repr

/-- The text of a notification status. -/
def NotificationStatus.value : NotificationStatus → String
  | opened => "OPEN"
  | acknowledged => "ACKNOWLEDGED"
  | resolved => "RESOLVED"

/-- `Notification`. -/
structure Notification where
  id : String
  assetId : String
  recommendationId : String
  severity : NotificationSeverity
  status : NotificationStatus
  title : String
  message : String
  createdAt : Timestamp
  id_ne : id ≠ ""
  assetId_ne : assetId ≠ ""
  recommendationId_ne : recommendationId ≠ ""
  title_ne : title ≠ ""
  message_ne : message ≠ ""

/-- `TrendDirection`. -/
inductive TrendDirection where
  | rising
  | falling
  | stable
  deriving DecidableEq, Repr

/-- The text of a direction. -/
def TrendDirection.value : TrendDirection → String
  | rising => "rising"
  | falling => "falling"
  | stable => "stable"

/-- `TrendDiagnostics`, as far as it is announced. -/
structure TrendDiagnostics where
  direction : TrendDirection
  stabilityScore : ℤ
  volatilityScore : ℤ

end Odis.Operations
