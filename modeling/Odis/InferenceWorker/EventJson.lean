import Odis.InferenceWorker.Events
import Odis.Python.JsonRoundTrip

/-!
# Alert transitions as JSON

`FaultAlertTransitionEventV1.to_json_dict` and the `to_json_dict` of the items of evidence, as the
worker publishes them.
-/

namespace Odis

namespace Inference

/-- `EvidenceItem.to_json_dict`. -/
def EvidenceItem.toJsonDict {F : Type} (item : EvidenceItem F) : Json F :=
  .obj [("label", .str item.label), ("value", .float item.value), ("detail", .str item.detail)]

end Inference

namespace InferenceWorker

open Inference

variable {F : Type}

/-- A text, or `None`. -/
def optionalText : Option String → Json F
  | some s => .str s
  | none => .null

/-- A score, or `None`. -/
def optionalScore : Option F → Json F
  | some x => .float x
  | none => .null

/-- The entries of a dict of scores. -/
def scoreFields (scores : List (String × F)) : List (String × Json F) :=
  scores.map fun score => (score.1, .float score.2)

/-- A dict of scores, or `None`. -/
def optionalScores : Option (List (String × F)) → Json F
  | some scores => .obj (scoreFields scores)
  | none => .null

/-- The entries of `FaultAlertTransitionEventV1.to_json_dict`. -/
def FaultAlertTransitionEvent.jsonFields (event : FaultAlertTransitionEvent F) :
    List (String × Json F) :=
  [("event_id", .str event.eventId),
    ("event_version", .str event.eventVersion),
    ("occurred_at", .str event.occurredAt.isoformat),
    ("asset_id", .str event.assetId),
    ("source_timestamp", .str event.sourceTimestamp.isoformat),
    ("transition_type", .str event.transitionType.value),
    ("from_state", .str event.fromState),
    ("to_state", .str event.toState),
    ("diagnosed_class", optionalText event.diagnosedClass),
    ("evidence", .arr (event.evidence.map EvidenceItem.toJsonDict)),
    ("model_system_version", optionalText event.modelSystemVersion),
    ("model_hash", optionalText event.modelHash),
    ("policy_hash", optionalText event.policyHash),
    ("feature_schema_version", optionalText event.featureSchemaVersion),
    ("class_scores", optionalScores event.classScores),
    ("maximum_score", optionalScore event.maximumScore)]

/-- `FaultAlertTransitionEventV1.to_json_dict`. -/
def FaultAlertTransitionEvent.toJsonDict (event : FaultAlertTransitionEvent F) : Json F :=
  .obj event.jsonFields

/-- The names of the fields of the message. -/
def transitionFieldNames : List String :=
  ["event_id", "event_version", "occurred_at", "asset_id", "source_timestamp", "transition_type",
    "from_state", "to_state", "diagnosed_class", "evidence", "model_system_version", "model_hash",
    "policy_hash", "feature_schema_version", "class_scores", "maximum_score"]

/-- The fields of the JSON object are those of the contract, in its order. -/
theorem FaultAlertTransitionEvent.names_jsonFields (event : FaultAlertTransitionEvent F) :
    event.jsonFields.map Prod.fst = transitionFieldNames := rfl

/-- No field is written twice. -/
theorem FaultAlertTransitionEvent.nodup_jsonFields (event : FaultAlertTransitionEvent F) :
    (event.jsonFields.map Prod.fst).Nodup := by
  rw [event.names_jsonFields]
  decide

/-- What the reader of the message finds under a name. -/
theorem FaultAlertTransitionEvent.item_throughText {event : FaultAlertTransitionEvent F}
    {name : String} {v : Json F} (h : (name, v) ∈ event.jsonFields) :
    event.toJsonDict.throughText.item name = v.throughText := by
  rw [toJsonDict, Json.item_throughText event.nodup_jsonFields,
    Json.item_of_mem event.nodup_jsonFields h]

end InferenceWorker

end Odis
