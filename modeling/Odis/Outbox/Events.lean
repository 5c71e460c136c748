import Odis.Python.Json

/-!
# Domain events and integration events

The events that application services emit (`application/events/domain_events.py`), the outbox rows
they are stored in (`domain/outbox.py`), how a dispatcher reads a row back
(`_deserialize_domain_event`), and which events cross the integration boundary
(`application/integration_event_mapping.py`).
-/

namespace Odis.Outbox

variable {F : Type}

/-- The domain events. -/
inductive DomainEvent where
  | observationCreated (assetId observationId : String) (timestamp : Datetime)
  | reasoningCompleted (assetId runId : String) (timestamp : Datetime)
  | aiFaultInvestigationUpdated (assetId investigationId diagnosedFaultClass investigationStatus
      alertTransitionType : String) (timestamp : Datetime)
  | reasoningStarted (assetId runId : String) (timestamp : Datetime)
  | recommendationUpdated (assetId runId : String) (previousRecommendation : Option String)
      (newRecommendation : String) (timestamp : Datetime)
  | trendChanged (assetId runId previousDirection newDirection : String)
      (stabilityScore volatilityScore : ℤ) (timestamp : Datetime)
  | healthChanged (assetId runId previousHealthStatus newHealthStatus : String) (healthScore : ℤ)
      (timestamp : Datetime)
  | riskChanged (assetId runId previousRiskLevel newRiskLevel : String) (healthScore : ℤ)
      (timestamp : Datetime)
  | notificationCreated (assetId runId notificationId recommendationId severity status title
      message : String) (createdAt timestamp : Datetime)
  | investigationTransitionRecorded (assetId recommendationId transitionId status actorId
      actorDisplayName : String) (occurredAt : Datetime) (notes : Option String)
      (timestamp : Datetime)
  deriving DecidableEq, Repr

namespace DomainEvent

/-- The asset an event is about. -/
def assetId : DomainEvent → String
  | observationCreated assetId .. => assetId
  | reasoningCompleted assetId .. => assetId
  | aiFaultInvestigationUpdated assetId .. => assetId
  | reasoningStarted assetId .. => assetId
  | recommendationUpdated assetId .. => assetId
  | trendChanged assetId .. => assetId
  | healthChanged assetId .. => assetId
  | riskChanged assetId .. => assetId
  | notificationCreated assetId .. => assetId
  | investigationTransitionRecorded assetId .. => assetId

/-- The timestamp of an event. -/
def timestamp : DomainEvent → Datetime
  | observationCreated _ _ timestamp => timestamp
  | reasoningCompleted _ _ timestamp => timestamp
  | aiFaultInvestigationUpdated _ _ _ _ _ timestamp => timestamp
  | reasoningStarted _ _ timestamp => timestamp
  | recommendationUpdated _ _ _ _ timestamp => timestamp
  | trendChanged _ _ _ _ _ _ timestamp => timestamp
  | healthChanged _ _ _ _ _ timestamp => timestamp
  | riskChanged _ _ _ _ _ timestamp => timestamp
  | notificationCreated _ _ _ _ _ _ _ _ _ timestamp => timestamp
  | investigationTransitionRecorded _ _ _ _ _ _ _ _ timestamp => timestamp

end DomainEvent

/-- `OutboxEvent`: a row of the outbox, which is marked by the instant at which it was dispatched.
-/
structure OutboxEvent (F : Type) where
  id : String
  eventType : String
  payload : List (String × Json F)
  createdAt : Datetime
  dispatchedAt : Option Datetime

section Deserialize

variable [JsonText F]

/-- `_parse_datetime(str(payload[name]))`. -/
def datetimeItem (payload : List (String × Json F)) (name : String) :
    Except PyException Datetime := do
  let v ← Json.getItem payload name
  match Datetime.fromIsoformat? v.text with
  | some read => return read.aware
  | none => throw .valueError

/-- `str(payload[name])`. -/
def textItem (payload : List (String × Json F)) (name : String) : Except PyException String := do
  let v ← Json.getItem payload name
  return v.text

/-- `int(payload.get(name, 0))`. -/
def intItem (payload : List (String × Json F)) (name : String) : Except PyException ℤ :=
  JsonText.toInt ((Json.lookup payload name).getD (.int 0))

/-- `payload.get(name)`, as a text unless it is missing or `None`. -/
def optionalTextItem (payload : List (String × Json F)) (name : String) : Option String :=
  match Json.lookup payload name with
  | none => none
  | some .null => none
  | some v => some v.text

/-- `_deserialize_domain_event`. A type that is not known has no event. -/
def deserializeDomainEvent (eventType : String) (payload : List (String × Json F)) :
    Except PyException (Option DomainEvent) := do
  if eventType = "ObservationCreated" then
    return some (.observationCreated (← textItem payload "asset_id")
      (← textItem payload "observation_id") (← datetimeItem payload "timestamp"))
  if eventType = "ReasoningCompleted" then
    return some (.reasoningCompleted (← textItem payload "asset_id")
      (← textItem payload "run_id") (← datetimeItem payload "timestamp"))
  if eventType = "ReasoningStarted" then
    return some (.reasoningStarted (← textItem payload "asset_id")
      (← textItem payload "run_id") (← datetimeItem payload "timestamp"))
  if eventType = "RecommendationUpdated" then
    let previous := optionalTextItem payload "previous_recommendation"
    return some (.recommendationUpdated (← textItem payload "asset_id")
      (← textItem payload "run_id") previous (← textItem payload "new_recommendation")
      (← datetimeItem payload "timestamp"))
  if eventType = "TrendChanged" then
    return some (.trendChanged (← textItem payload "asset_id") (← textItem payload "run_id")
      (← textItem payload "previous_direction") (← textItem payload "new_direction")
      (← intItem payload "stability_score") (← intItem payload "volatility_score")
      (← datetimeItem payload "timestamp"))
  if eventType = "HealthChanged" then
    return some (.healthChanged (← textItem payload "asset_id") (← textItem payload "run_id")
      (← textItem payload "previous_health_status") (← textItem payload "new_health_status")
      (← intItem payload "health_score") (← datetimeItem payload "timestamp"))
  if eventType = "RiskChanged" then
    return some (.riskChanged (← textItem payload "asset_id") (← textItem payload "run_id")
      (← textItem payload "previous_risk_level") (← textItem payload "new_risk_level")
      (← intItem payload "health_score") (← datetimeItem payload "timestamp"))
  if eventType = "NotificationCreated" then
    return some (.notificationCreated (← textItem payload "asset_id") (← textItem payload "run_id")
      (← textItem payload "notification_id") (← textItem payload "recommendation_id")
      (← textItem payload "severity") (← textItem payload "status") (← textItem payload "title")
      (← textItem payload "message") (← datetimeItem payload "created_at")
      (← datetimeItem payload "timestamp"))
  if eventType = "InvestigationTransitionRecorded" then
    let notes := optionalTextItem payload "notes"
    return some (.investigationTransitionRecorded (← textItem payload "asset_id")
      (← textItem payload "recommendation_id") (← textItem payload "transition_id")
      (← textItem payload "status") (← textItem payload "actor_id")
      (← textItem payload "actor_display_name") (← datetimeItem payload "occurred_at") notes
      (← datetimeItem payload "timestamp"))
  if eventType = "AiFaultInvestigationUpdated" then
    return some (.aiFaultInvestigationUpdated (← textItem payload "asset_id")
      (← textItem payload "investigation_id") (← textItem payload "diagnosed_fault_class")
      (← textItem payload "investigation_status") (← textItem payload "alert_transition_type")
      (← datetimeItem payload "timestamp"))
  return none

/-- A datetime in a payload is read back. -/
theorem datetimeItem_isoformat {payload : List (String × Json F)} {name : String} {t : Datetime}
    (h : t.InRange) (hitem : Json.lookup payload name = some (.str t.isoformat)) :
    datetimeItem payload name = .ok t := by
  have haware : Datetime.IsoDatetime.aware ⟨t.instant + t.utcOffset, some t.utcOffset⟩ = t := by
    simp [Datetime.IsoDatetime.aware]
  rw [datetimeItem, Json.getItem, hitem]
  simp only [bind, Except.bind, Json.text, Datetime.fromIsoformat?_isoformat h, haware]
  rfl

end Deserialize

/-- `IntegrationEvent`. -/
structure IntegrationEvent (F : Type) where
  id : String
  type : String
  occurredAt : Datetime
  payload : List (String × Json F)

/-- The payload of an event that changes the operational state, `_operational_state_payload`. -/
def operationalStatePayload (assetId runId : String) (occurredAt : Datetime) (changeType : String)
    (change : List (String × Json F)) : List (String × Json F) :=
  [("asset_id", .str assetId), ("run_id", .str runId), ("timestamp", .str occurredAt.isoformat),
    ("change_type", .str changeType)] ++ change

/-- An optional text in a payload. -/
def optionalText : Option String → Json F
  | none => .null
  | some s => .str s

/-- `map_domain_event_to_integration_event`, with the `uuid4` it draws. -/
def mapDomainEventToIntegrationEvent (uuid4 : String) (event : DomainEvent) :
    Option (IntegrationEvent F) :=
  let operationalStateChanged (payload : List (String × Json F)) : IntegrationEvent F :=
    ⟨uuid4, "OperationalStateChanged", event.timestamp, payload⟩
  match event with
  | .reasoningCompleted assetId runId timestamp =>
      some ⟨uuid4, "DigitalTwinUpdated", timestamp,
        [("asset_id", .str assetId), ("run_id", .str runId),
          ("timestamp", .str timestamp.isoformat)]⟩
  | .healthChanged assetId runId previous new healthScore timestamp =>
      some (operationalStateChanged
        (operationalStatePayload assetId runId timestamp "health_status"
          [("previous_health_status", .str previous), ("new_health_status", .str new),
            ("health_score", .int healthScore)]))
  | .riskChanged assetId runId previous new healthScore timestamp =>
      some (operationalStateChanged
        (operationalStatePayload assetId runId timestamp "risk_level"
          [("previous_risk_level", .str previous), ("new_risk_level", .str new),
            ("health_score", .int healthScore)]))
  | .trendChanged assetId runId previous new stabilityScore volatilityScore timestamp =>
      some (operationalStateChanged
        (operationalStatePayload assetId runId timestamp "trend_direction"
          [("previous_direction", .str previous), ("new_direction", .str new),
            ("stability_score", .int stabilityScore), ("volatility_score", .int volatilityScore)]))
  | .recommendationUpdated assetId runId previous new timestamp =>
      some (operationalStateChanged
        (operationalStatePayload assetId runId timestamp "recommendation"
          [("previous_recommendation", optionalText previous),
            ("new_recommendation", .str new)]))
  | .notificationCreated assetId runId notificationId recommendationId severity status title
      message createdAt timestamp =>
      some ⟨uuid4, "NotificationRaised", timestamp,
        [("asset_id", .str assetId), ("run_id", .str runId),
          ("notification_id", .str notificationId), ("recommendation_id", .str recommendationId),
          ("severity", .str severity), ("status", .str status), ("title", .str title),
          ("message", .str message), ("created_at", .str createdAt.isoformat),
          ("timestamp", .str timestamp.isoformat)]⟩
  | .investigationTransitionRecorded assetId recommendationId transitionId status actorId
      actorDisplayName occurredAt notes timestamp =>
      some ⟨uuid4, "InvestigationTransitionRecorded", timestamp,
        [("asset_id", .str assetId), ("recommendation_id", .str recommendationId),
          ("transition_id", .str transitionId), ("status", .str status),
          ("actor_id", .str actorId), ("actor_display_name", .str actorDisplayName),
          ("occurred_at", .str occurredAt.isoformat), ("notes", optionalText notes),
          ("timestamp", .str timestamp.isoformat)]⟩
  | .observationCreated .. => none
  | .aiFaultInvestigationUpdated .. => none
  | .reasoningStarted .. => none

end Odis.Outbox
