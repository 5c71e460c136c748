import Odis.Twin.Records

/-!
# The handlers of domain events

What `register_domain_event_handlers` subscribes to the bus (`application/bootstrap.py`), and the
timeline entries that `TimelineEventHandler` writes
(`application/events/handlers/timeline_event_handler.py`). What is published to browsers changes
nothing that a twin is read from.
-/

namespace Odis.Twin

open Json Operations Outbox

variable {F : Type}

/-- The classes of the domain events. -/
inductive EventType where
  | observationCreated
  | reasoningCompleted
  | aiFaultInvestigationUpdated
  | reasoningStarted
  | recommendationUpdated
  | trendChanged
  | healthChanged
  | riskChanged
  | notificationCreated
  | investigationTransitionRecorded
  deriving DecidableEq, Repr

/-- `type(event)`. -/
def eventType : DomainEvent → EventType
  | .observationCreated .. => .observationCreated
  | .reasoningCompleted .. => .reasoningCompleted
  | .aiFaultInvestigationUpdated .. => .aiFaultInvestigationUpdated
  | .reasoningStarted .. => .reasoningStarted
  | .recommendationUpdated .. => .recommendationUpdated
  | .trendChanged .. => .trendChanged
  | .healthChanged .. => .healthChanged
  | .riskChanged .. => .riskChanged
  | .notificationCreated .. => .notificationCreated
  | .investigationTransitionRecorded .. => .investigationTransitionRecorded

/-- The classes of the handlers. -/
inductive Handler where
  /-- `DigitalTwinCacheInvalidationHandler`. -/
  | cacheInvalidation
  /-- `MonitoringEventHandler`. -/
  | monitoring
  /-- `TimelineEventHandler`. -/
  | timeline
  deriving DecidableEq, Repr

/-- `register_domain_event_handlers`: the subscriptions, in their order. -/
def registerDomainEventHandlers (hasUnitOfWorkFactory : Bool) : List (EventType × Handler) :=
  [(.healthChanged, .cacheInvalidation), (.riskChanged, .cacheInvalidation),
    (.recommendationUpdated, .cacheInvalidation), (.notificationCreated, .cacheInvalidation),
    (.reasoningCompleted, .cacheInvalidation),
    (.investigationTransitionRecorded, .cacheInvalidation),
    (.observationCreated, .monitoring), (.reasoningCompleted, .monitoring),
    (.aiFaultInvestigationUpdated, .monitoring)] ++
  if hasUnitOfWorkFactory then
    [(.observationCreated, .timeline), (.reasoningStarted, .timeline),
      (.reasoningCompleted, .timeline), (.recommendationUpdated, .timeline),
      (.trendChanged, .timeline), (.healthChanged, .timeline), (.riskChanged, .timeline),
      (.notificationCreated, .timeline), (.investigationTransitionRecorded, .timeline)]
  else []

/-- The handlers that `DomainEventBus.publish` calls for an event of a class, in their order. -/
def handlers (hasUnitOfWorkFactory : Bool) (type : EventType) : List Handler :=
  (registerDomainEventHandlers hasUnitOfWorkFactory).filterMap fun (subscribed, handler) =>
    if subscribed = type then some handler else none

/-- The events that make the cache drop the twin of their asset. -/
theorem cacheInvalidation_mem_handlers_iff (hasUnitOfWorkFactory : Bool) (type : EventType) :
    .cacheInvalidation ∈ handlers hasUnitOfWorkFactory type ↔
      type ∈ [EventType.healthChanged, .riskChanged, .recommendationUpdated, .notificationCreated,
        .reasoningCompleted, .investigationTransitionRecorded] := by
  cases hasUnitOfWorkFactory <;> cases type <;> decide

/-! ## Timeline entries -/

/-- What a handler passes to `TimelineEvent`, but for the id and the asset. -/
structure TimelineEntry (F : Type) where
  timestamp : Datetime
  eventType : String
  title : String
  description : String
  metadata : List (String × Json F)

/-- `s!r`. -/
def quoted [JsonText F] (s : String) : String := JsonText.repr (.str s : Json F)

/-- The entry of `TimelineEventHandler` for an event. -/
def timelineEntry [JsonText F] : DomainEvent → Option (TimelineEntry F)
  | .observationCreated _ observationId timestamp => some
      { timestamp := timestamp
        eventType := "observation_received"
        title := "Observation received"
        description := "New observation " ++ observationId ++ " recorded for the asset."
        metadata := [("observation_id", .str observationId)] }
  | .reasoningStarted _ runId timestamp => some
      { timestamp := timestamp
        eventType := "reasoning_started"
        title := "Reasoning started"
        description := "Reasoning run " ++ runId ++ " began for the asset."
        metadata := [("run_id", .str runId)] }
  | .reasoningCompleted _ runId timestamp => some
      { timestamp := timestamp
        eventType := "reasoning_completed"
        title := "Reasoning completed"
        description := "Reasoning run " ++ runId ++ " finished for the asset."
        metadata := [("run_id", .str runId)] }
  | .recommendationUpdated _ runId previousRecommendation newRecommendation timestamp => some
      { timestamp := timestamp
        eventType := "recommendation_updated"
        title := "Recommendation updated"
        description :=
          -- `event.previous_recommendation or "none"`
          let previous := (previousRecommendation.filter fun text => text ≠ "").getD "none"
          "Recommendation changed from " ++ quoted (F := F) previous ++ " to " ++
            quoted (F := F) newRecommendation ++ "."
        metadata :=
          [("run_id", .str runId), ("previous_recommendation", optionalText previousRecommendation),
            ("new_recommendation", .str newRecommendation)] }
  | .trendChanged _ runId previousDirection newDirection stabilityScore volatilityScore timestamp =>
      some
      { timestamp := timestamp
        eventType := "trend_changed"
        title := "Trend changed"
        description := "Trend changed from " ++ quoted (F := F) previousDirection ++ " to " ++
          quoted (F := F) newDirection ++ "."
        metadata :=
          [("run_id", .str runId), ("previous_direction", .str previousDirection),
            ("new_direction", .str newDirection), ("stability_score", .int stabilityScore),
            ("volatility_score", .int volatilityScore)] }
  | .healthChanged _ runId previousHealthStatus newHealthStatus healthScore timestamp => some
      { timestamp := timestamp
        eventType := "health_changed"
        title := "Health status changed"
        description := "Health status changed from " ++ quoted (F := F) previousHealthStatus ++
          " to " ++ quoted (F := F) newHealthStatus ++ "."
        metadata :=
          [("run_id", .str runId), ("previous_health_status", .str previousHealthStatus),
            ("new_health_status", .str newHealthStatus), ("health_score", .int healthScore)] }
  | .riskChanged _ runId previousRiskLevel newRiskLevel healthScore timestamp => some
      { timestamp := timestamp
        eventType := "risk_changed"
        title := "Risk level changed"
        description := "Risk level changed from " ++ quoted (F := F) previousRiskLevel ++ " to " ++
          quoted (F := F) newRiskLevel ++ "."
        metadata :=
          [("run_id", .str runId), ("previous_risk_level", .str previousRiskLevel),
            ("new_risk_level", .str newRiskLevel), ("health_score", .int healthScore)] }
  | .notificationCreated _ runId notificationId recommendationId severity status title message
      createdAt timestamp => some
      { timestamp := timestamp
        eventType := "notification_created"
        title := "Notification created"
        description := severity ++ ": " ++ title ++ ". Linked recommendation " ++
          recommendationId ++ "."
        metadata :=
          [("run_id", .str runId), ("notification_id", .str notificationId),
            ("recommendation_id", .str recommendationId), ("severity", .str severity),
            ("status", .str status), ("title", .str title), ("message", .str message),
            ("created_at", .str createdAt.isoformat)] }
  | .investigationTransitionRecorded _ recommendationId transitionId status actorId
      actorDisplayName occurredAt notes _ => some
      { timestamp := occurredAt
        eventType := "investigation_transition"
        title := "Investigation " ++ status.toLower
        description :=
          let description := actorDisplayName ++ " marked this as " ++ status.toLower ++ "."
          -- `if event.notes`
          match notes.filter fun text => text ≠ "" with
          | some text => description ++ " Notes: " ++ text
          | none => description
        metadata :=
          [("recommendation_id", .str recommendationId), ("transition_id", .str transitionId),
            ("status", .str status), ("actor_id", .str actorId),
            ("actor_display_name", .str actorDisplayName), ("notes", optionalText notes)] }
  | .aiFaultInvestigationUpdated .. => none

/-- The entry that `_record` saves under a new id, if its constructor accepts it. -/
def recordedEntry [JsonText F] (id : String) (event : DomainEvent) : Option (TimelineEvent F) := do
  let entry ← timelineEntry event
  if h : (id ≠ "" ∧ event.assetId ≠ "" ∧ entry.title ≠ "" ∧ entry.description ≠ "") ∧
      entry.timestamp.InRange then
    some ⟨id, event.assetId, ⟨entry.timestamp, h.2⟩, entry.eventType, entry.title,
      entry.description, Metadata.ofFields entry.metadata, h.1.1, h.1.2.1, h.1.2.2.1, h.1.2.2.2⟩
  else none

/-- An entry is listed under the asset of its event. -/
theorem assetId_of_recordedEntry [JsonText F] {id : String} {event : DomainEvent}
    {recorded : TimelineEvent F} (h : recordedEntry id event = some recorded) :
    recorded.assetId = event.assetId := by
  obtain ⟨entry, -, h⟩ := Option.bind_eq_some_iff.mp h
  split_ifs at h
  rw [← Option.some.inj h]

end Odis.Twin
