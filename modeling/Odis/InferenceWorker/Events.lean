import Odis.Inference.Result
import Odis.InferenceWorker.Assembly

/-!
# Events published by the inference worker

The three output events (`inference_worker/events.py`) and their identities
(`inference_worker/identity.py`): one result event for each assembled sample, one transition event
for each alert event, and a data-quality event for each rejection. `uuid5` stands for the
name-based UUID in the worker's namespace.
-/

namespace Odis.InferenceWorker

open AlertPolicy Features Inference

variable {F : Type} [PyFloat F]

/-- `INPUT_EVENT_VERSION`. -/
def inputEventVersion : String := "v1"

/-- `deterministic_event_id`. -/
def deterministicEventId (uuid5 : String → String) (parts : List String) : String :=
  uuid5 ("|".intercalate parts)

/-- `FaultInferenceResultEventV1`. -/
structure FaultInferenceResultEvent (F : Type) where
  eventId : String
  eventVersion : String
  occurredAt : Datetime
  assetId : String
  sourceTimestamp : Datetime
  status : String
  diagnosedClass : Option String
  classScores : Option (List (String × F))
  maximumScore : Option F
  evidence : List (EvidenceItem F)
  alertState : Option String
  modelSystemVersion : Option String
  modelHash : Option String
  policyHash : Option String
  featureSchemaVersion : Option String
  reasonCodes : List String

/-- `build_result_event`. -/
def buildResultEvent (uuid5 : String → String) (result : InferenceResult F) (now : Datetime) :
    FaultInferenceResultEvent F where
  eventId := deterministicEventId uuid5
    ["fault_inference.v1", result.assetId, result.timestamp.isoformat,
      result.modelHash.getD "", result.status.value]
  eventVersion := inputEventVersion
  occurredAt := now
  assetId := result.assetId
  sourceTimestamp := result.timestamp
  status := result.status.value
  diagnosedClass := result.diagnosedClass
  classScores := result.classProbabilities
  maximumScore := result.maximumProbability
  evidence := result.evidence
  alertState := result.alertState
  modelSystemVersion := result.modelSystemVersion
  modelHash := result.modelHash
  policyHash := result.policyHash
  featureSchemaVersion := result.featureSchemaVersion
  reasonCodes := result.reasonCodes.map RejectionReason.value

/-- The transition types. -/
inductive TransitionType where
  | confirmed
  | classChanged
  | cleared
  deriving DecidableEq, Repr

/-- The text of a transition type. -/
def TransitionType.value : TransitionType → String
  | confirmed => "confirmed"
  | classChanged => "class_changed"
  | cleared => "cleared"

/-- `_TRANSITION_TYPE_BY_ALERT_EVENT_TYPE`. -/
def transitionTypeOf : AlertEventType → TransitionType
  | .newAlert => .confirmed
  | .classChange => .classChanged
  | .cleared => .cleared

/-- `FaultAlertTransitionEventV1`. -/
structure FaultAlertTransitionEvent (F : Type) where
  eventId : String
  eventVersion : String
  occurredAt : Datetime
  assetId : String
  sourceTimestamp : Datetime
  transitionType : TransitionType
  fromState : String
  toState : String
  diagnosedClass : Option String
  evidence : List (EvidenceItem F)
  modelSystemVersion : Option String
  modelHash : Option String
  policyHash : Option String
  featureSchemaVersion : Option String
  classScores : Option (List (String × F))
  maximumScore : Option F

/-- `build_transition_event`: there is one where the result has an alert event. -/
def buildTransitionEvent (uuid5 : String → String) (result : InferenceResult F) (now : Datetime) :
    Option (FaultAlertTransitionEvent F) :=
  result.alertEvent.map fun alertEvent =>
    let transitionType := transitionTypeOf alertEvent.eventType
    { eventId := deterministicEventId uuid5
        ["fault_alert_transition.v1", result.assetId, result.timestamp.isoformat,
          transitionType.value, alertEvent.faultClass.getD "None", result.modelHash.getD ""]
      eventVersion := inputEventVersion
      occurredAt := now
      assetId := result.assetId
      sourceTimestamp := result.timestamp
      transitionType := transitionType
      fromState := alertEvent.fromState
      toState := alertEvent.toState
      diagnosedClass := result.diagnosedClass
      evidence := result.evidence
      modelSystemVersion := result.modelSystemVersion
      modelHash := result.modelHash
      policyHash := result.policyHash
      featureSchemaVersion := result.featureSchemaVersion
      classScores := result.classProbabilities
      maximumScore := result.maximumProbability }

/-- `TelemetryDataQualityEventV1`. -/
structure TelemetryDataQualityEvent where
  eventId : String
  eventVersion : String
  occurredAt : Datetime
  assetId : Option String
  sourceTimestamp : Option Datetime
  reason : String
  detail : String

/-- `build_data_quality_event`. -/
def buildDataQualityEvent (uuid5 : String → String) (assetId : Option String)
    (sourceTimestamp : Option Datetime) (reason detail : String) (now : Datetime) :
    TelemetryDataQualityEvent where
  eventId := deterministicEventId uuid5
    ["telemetry_data_quality.v1", assetId.getD "",
      (sourceTimestamp.map Datetime.isoformat).getD "", reason, detail]
  eventVersion := inputEventVersion
  occurredAt := now
  assetId := assetId
  sourceTimestamp := sourceTimestamp
  reason := reason
  detail := detail

/-- A message for the broker. Its constructor is its topic. -/
inductive Message (F : Type) where
  | result (key : String) (value : FaultInferenceResultEvent F)
  | alertTransition (key : String) (value : FaultAlertTransitionEvent F)
  | dataQuality (key : String) (value : TelemetryDataQualityEvent)

end Odis.InferenceWorker
