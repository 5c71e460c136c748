import Odis.Investigation.Transition
import Odis.Operations.Domain
import Odis.Python.JsonRoundTrip

/-!
# Digital twins

The view of an asset that operators are shown (`domain/digital_twin.py`), with the parts it is made
of and what their `__post_init__` checks.

The metadata of a timeline entry is a dict as a JSON column returns it. Python compares dicts
without regard to the order of their keys, so they are kept in the order of their keys here.
-/

namespace Odis.Twin

open Investigation Operations

variable {F : Type}

/-- `Location`. -/
structure Location where
  identifier : String
  identifier_ne : identifier ≠ ""

/-- `RecommendationCategory`. -/
inductive RecommendationCategory where
  | investigate
  | mitigate
  | monitor
  deriving DecidableEq, Repr

/-- The text of a category. -/
def RecommendationCategory.value : RecommendationCategory → String
  | investigate => "investigate"
  | mitigate => "mitigate"
  | monitor => "monitor"

/-- `RecommendationPriority`. -/
inductive RecommendationPriority where
  | p0
  | p1
  | p2
  | p3
  deriving DecidableEq, Repr

/-- The text of a priority. -/
def RecommendationPriority.value : RecommendationPriority → String
  | p0 => "P0"
  | p1 => "P1"
  | p2 => "P2"
  | p3 => "P3"

/-- `RecommendationUrgency`. -/
inductive RecommendationUrgency where
  | immediate
  | soon
  | scheduled
  deriving DecidableEq, Repr

/-- The text of an urgency. -/
def RecommendationUrgency.value : RecommendationUrgency → String
  | immediate => "IMMEDIATE"
  | soon => "SOON"
  | scheduled => "SCHEDULED"

/-- `Recommendation`. -/
structure Recommendation where
  id : String
  assetId : String
  category : RecommendationCategory
  priority : RecommendationPriority
  urgency : RecommendationUrgency
  title : String
  description : String
  recommendedSteps : List String
  estimatedImpact : String
  createdAt : Timestamp
  id_ne : id ≠ ""
  assetId_ne : assetId ≠ ""
  title_ne : title ≠ ""
  description_ne : description ≠ ""
  recommendedSteps_ne : recommendedSteps ≠ []
  steps_ne : ∀ step ∈ recommendedSteps, step ≠ ""
  estimatedImpact_ne : estimatedImpact ≠ ""

/-- A dict of JSON values. -/
structure Metadata (F : Type) where
  fields : List (String × Json F)
  sorted : (Json.obj fields).throughText = .obj fields

/-- A dict, with its keys in order. -/
def Metadata.ofFields (fields : List (String × Json F)) : Metadata F where
  fields := Json.sortFields (Json.fieldsThroughText fields)
  sorted := Json.throughText_throughText (.obj fields)

/-- The metadata are those of their fields. -/
theorem Metadata.ofFields_fields (metadata : Metadata F) :
    Metadata.ofFields metadata.fields = metadata := by
  obtain ⟨fields, sorted⟩ := metadata
  have hfields : Json.sortFields (Json.fieldsThroughText fields) = fields :=
    Json.obj.inj sorted
  unfold Metadata.ofFields
  congr

/-- `TimelineEvent`. -/
structure TimelineEvent (F : Type) where
  id : String
  assetId : String
  timestamp : Timestamp
  eventType : String
  title : String
  description : String
  metadata : Metadata F
  id_ne : id ≠ ""
  assetId_ne : assetId ≠ ""
  title_ne : title ≠ ""
  description_ne : description ≠ ""

/-- `ForecastSample`. -/
structure ForecastSample (F : Type) where
  timestamp : Timestamp
  value : F

/-- `TelemetryForecast`. -/
structure TelemetryForecast (F : Type) where
  assetId : String
  measurementType : String
  unit : String
  modelId : String
  horizonStart : Timestamp
  generatedAt : Timestamp
  samples : List (ForecastSample F)
  assetId_ne : assetId ≠ ""
  measurementType_ne : measurementType ≠ ""
  unit_ne : unit ≠ ""
  modelId_ne : modelId ≠ ""
  samples_after : ∀ sample ∈ samples, horizonStart.val.instant < sample.timestamp.val.instant
  samples_ordered : samples.IsChain fun previous current =>
    previous.timestamp.val.instant ≤ current.timestamp.val.instant

/-- `DigitalTwin`: all that is shown of an asset, with the checks of its constructor. -/
structure DigitalTwin (F : Type) where
  assetId : String
  assetName : String
  assetType : String
  location : Location
  operationalState : OperationalState
  recommendation : Recommendation
  notification : Option Notification
  investigation : Option { event : InvestigationEvent // event.occurredAt.InRange }
  latestReasoningRunId : String
  timelinePreview : List (TimelineEvent F)
  telemetryForecasts : List (TelemetryForecast F)
  lastUpdated : Timestamp
  assetId_ne : assetId ≠ ""
  assetName_ne : assetName ≠ ""
  assetType_ne : assetType ≠ ""
  latestReasoningRunId_ne : latestReasoningRunId ≠ ""

end Odis.Twin
