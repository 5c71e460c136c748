import Odis.Investigation.Transition
import Odis.Operations.Domain
import Odis.Python.JsonRoundTrip
import Odis.ReasoningBridge.Service

/-!
# The producers of outbox rows

Three services put rows into the outbox: `ObservationService` when it stores an observation and
after a reasoning run, `InvestigationService` with a transition, `ReasoningBridgeService` with the
record of an alert. Each writes the payload by hand; `_deserialize_domain_event` reads it back when
the row is dispatched, from the JSON column that it was stored in.

* `rows_decode`: each row is read back as the event that it announces.
-/

namespace Odis.Outbox

open Operations

variable {F J : Type}

/-! ## Stored payloads -/

/-- A payload that was written to a JSON column and is read back: every value as `json.loads`
returns it, the entries in any order. -/
def ReadBack (payload stored : List (String × Json F)) : Prop :=
  stored.Perm (Json.fieldsThroughText payload)

section Items

variable {payload stored : List (String × Json F)} {name : String}

/-- A field of the stored payload is that of the payload, sent through JSON. -/
theorem ReadBack.lookup (h : ReadBack payload stored) (hnodup : (payload.map Prod.fst).Nodup) :
    Json.lookup stored name = (Json.lookup payload name).map Json.throughText := by
  rw [← Json.lookup_fieldsThroughText]
  refine Json.lookup_perm h ?_
  rw [(h.map Prod.fst).nodup_iff, Json.map_fst_fieldsThroughText]
  exact hnodup

variable (name) [JsonText F] (h : ReadBack payload stored)
  (hnodup : (payload.map Prod.fst).Nodup)

include h hnodup

/-- A text is read back as it was. -/
theorem ReadBack.textItem {s : String} (hitem : Json.lookup payload name = some (.str s)) :
    textItem stored name = .ok s := by
  rw [Outbox.textItem, Json.getItem, h.lookup hnodup, hitem]
  rfl

/-- So is an integer. -/
theorem ReadBack.intItem {n : ℤ} (hitem : Json.lookup payload name = some (.int n)) :
    intItem stored name = .ok n := by
  rw [Outbox.intItem, h.lookup hnodup, hitem]
  exact JsonText.toInt_int n

/-- So is a text that may be missing. -/
theorem ReadBack.optionalTextItem {s : Option String}
    (hitem : Json.lookup payload name = some (optionalText s)) :
    optionalTextItem stored name = s := by
  rw [Outbox.optionalTextItem, h.lookup hnodup, hitem]
  cases s <;> rfl

/-- So is a timestamp in its ISO format. -/
theorem ReadBack.datetimeItem {t : Datetime} (ht : t.InRange)
    (hitem : Json.lookup payload name = some (.str t.isoformat)) :
    datetimeItem stored name = .ok t := by
  refine datetimeItem_isoformat ht ?_
  rw [h.lookup hnodup, hitem]
  rfl

end Items

/-! ## Observations and reasoning runs -/

/-- The row that `ObservationService.create` adds for an observation. -/
def observationCreatedRow (id : String) (observation : Inference.Observation F)
    (timestamp : Timestamp) (createdAt : Datetime) : OutboxEvent F where
  id := id
  eventType := "ObservationCreated"
  payload :=
    [("asset_id", .str observation.assetId), ("observation_id", .str observation.id),
      ("timestamp", .str timestamp.val.isoformat)]
  createdAt := createdAt
  dispatchedAt := none

/-- What `_run_reasoning_for_asset` announces a run with: the run, the trends, recommendations,
states and notifications before and after it, and the times it reads. -/
structure ReasoningOutcome where
  assetId : String
  runId : String
  startedAt : Timestamp
  previousTrend : Option TrendDiagnostics
  newTrend : Option TrendDiagnostics
  /-- `len(primary_observations)`. -/
  primaryCount : ℕ
  previousRecommendation : Option String
  newRecommendation : String
  previousState : Option OperationalState
  newState : OperationalState
  previousNotificationId : Option String
  notification : Option Notification
  now : Timestamp
  completedAt : Timestamp
  createdAt : Datetime

namespace ReasoningOutcome

variable (run : ReasoningOutcome)

/-- The trends of a change that is announced: a new direction that is not stable and that enough
observations support. -/
def trendChange? : Option (TrendDiagnostics × TrendDiagnostics) := do
  let previous ← run.previousTrend
  let new ← run.newTrend
  if previous.direction ≠ new.direction ∧ 4 ≤ run.primaryCount ∧ 70 ≤ new.stabilityScore ∧
      new.direction ≠ .stable then
    some (previous, new)
  else none

/-- The previous recommendation, if there was another one. -/
def recommendationChange? : Option String :=
  run.previousRecommendation.filter fun previous => previous ≠ run.newRecommendation

/-- The previous state, if its health status was another one. -/
def healthChange? : Option OperationalState :=
  run.previousState.filter fun previous => previous.healthStatus ≠ run.newState.healthStatus

/-- The previous state, if its risk level was another one. -/
def riskChange? : Option OperationalState :=
  run.previousState.filter fun previous => previous.riskLevel ≠ run.newState.riskLevel

/-- The notification, if it is a new one. -/
def newNotification? : Option Notification :=
  run.notification.filter fun notification => run.previousNotificationId ≠ some notification.id

/-- A row of the run: what is drawn for it is its id, the `n`-th, and when it was created. -/
def row (newId : ℕ → String) (n : ℕ) (eventType : String) (details : List (String × Json F))
    (timestamp : Timestamp) (createdAt : Datetime) : OutboxEvent F where
  id := newId n
  eventType := eventType
  payload := [("asset_id", .str run.assetId), ("run_id", .str run.runId)] ++ details ++
    [("timestamp", .str timestamp.val.isoformat)]
  createdAt := createdAt
  dispatchedAt := none

/-- The rows that `_run_reasoning_for_asset` adds, in the order it adds them. -/
def rows (newId : ℕ → String) : List (OutboxEvent F) :=
  [run.row newId 0 "ReasoningStarted" [] run.startedAt run.now] ++
  (run.trendChange?.map fun (previous, new) =>
    run.row newId 1 "TrendChanged"
      [("previous_direction", .str previous.direction.value),
        ("new_direction", .str new.direction.value),
        ("stability_score", .int new.stabilityScore),
        ("volatility_score", .int new.volatilityScore)] run.now run.now).toList ++
  (run.recommendationChange?.map fun previous =>
    run.row newId 2 "RecommendationUpdated"
      [("previous_recommendation", .str previous),
        ("new_recommendation", .str run.newRecommendation)] run.now run.now).toList ++
  (run.healthChange?.map fun previous =>
    run.row newId 3 "HealthChanged"
      [("previous_health_status", .str previous.healthStatus.value),
        ("new_health_status", .str run.newState.healthStatus.value),
        ("health_score", .int run.newState.healthScore)] run.now run.now).toList ++
  (run.riskChange?.map fun previous =>
    run.row newId 4 "RiskChanged"
      [("previous_risk_level", .str previous.riskLevel.value),
        ("new_risk_level", .str run.newState.riskLevel.value),
        ("health_score", .int run.newState.healthScore)] run.now run.now).toList ++
  (run.newNotification?.map fun notification =>
    run.row newId 5 "NotificationCreated"
      [("notification_id", .str notification.id),
        ("recommendation_id", .str notification.recommendationId),
        ("severity", .str notification.severity.value), ("status", .str notification.status.value),
        ("title", .str notification.title), ("message", .str notification.message),
        ("created_at", .str notification.createdAt.val.isoformat)] run.now run.now).toList ++
  [run.row newId 6 "ReasoningCompleted" [] run.completedAt run.createdAt]

/-- The events that the rows announce. -/
def events : List DomainEvent :=
  [.reasoningStarted run.assetId run.runId run.startedAt] ++
  (run.trendChange?.map fun (previous, new) =>
    DomainEvent.trendChanged run.assetId run.runId previous.direction.value new.direction.value
      new.stabilityScore new.volatilityScore run.now).toList ++
  (run.recommendationChange?.map fun previous =>
    DomainEvent.recommendationUpdated run.assetId run.runId (some previous) run.newRecommendation
      run.now).toList ++
  (run.healthChange?.map fun previous =>
    DomainEvent.healthChanged run.assetId run.runId previous.healthStatus.value
      run.newState.healthStatus.value run.newState.healthScore run.now).toList ++
  (run.riskChange?.map fun previous =>
    DomainEvent.riskChanged run.assetId run.runId previous.riskLevel.value
      run.newState.riskLevel.value run.newState.healthScore run.now).toList ++
  (run.newNotification?.map fun notification =>
    DomainEvent.notificationCreated run.assetId run.runId notification.id
      notification.recommendationId notification.severity.value notification.status.value
      notification.title notification.message notification.createdAt run.now).toList ++
  [.reasoningCompleted run.assetId run.runId run.completedAt]

end ReasoningOutcome

/-! ## Decoding -/

/-- However the payload of the row was stored, it is read back as the event. -/
def Decodes [JsonText F] (row : OutboxEvent F) (event : DomainEvent) : Prop :=
  ∀ stored, ReadBack row.payload stored →
    deserializeDomainEvent row.eventType stored = .ok (some event)

section Decoding

variable [JsonText F]

/-- The row of a stored observation is read back as its event, with all fields. -/
theorem decodes_observationCreated (id : String) (observation : Inference.Observation F)
    (timestamp : Timestamp) (createdAt : Datetime) :
    Decodes (observationCreatedRow id observation timestamp createdAt)
      (.observationCreated observation.assetId observation.id timestamp) := by
  intro stored h
  have hnodup : ["asset_id", "observation_id", "timestamp"].Nodup := by decide
  have hasset := h.textItem "asset_id" hnodup rfl
  have hobservation := h.textItem "observation_id" hnodup rfl
  have htimestamp := h.datetimeItem "timestamp" hnodup timestamp.property rfl
  simp [deserializeDomainEvent, observationCreatedRow, hasset, hobservation, htimestamp, bind,
    Except.bind, pure, Except.pure]

variable (run : ReasoningOutcome) (newId : ℕ → String)

/-- So is the row of a run that has started. -/
theorem decodes_reasoningStarted :
    Decodes (run.row (F := F) newId 0 "ReasoningStarted" [] run.startedAt run.now)
      (.reasoningStarted run.assetId run.runId run.startedAt) := by
  intro stored h
  have hnodup : ["asset_id", "run_id", "timestamp"].Nodup := by decide
  have hasset := h.textItem "asset_id" hnodup rfl
  have hrun := h.textItem "run_id" hnodup rfl
  have htimestamp := h.datetimeItem "timestamp" hnodup run.startedAt.property rfl
  simp [deserializeDomainEvent, ReasoningOutcome.row, hasset, hrun, htimestamp, bind, Except.bind,
    pure, Except.pure]

/-- So is that of a run that is complete. -/
theorem decodes_reasoningCompleted :
    Decodes (run.row (F := F) newId 6 "ReasoningCompleted" [] run.completedAt run.createdAt)
      (.reasoningCompleted run.assetId run.runId run.completedAt) := by
  intro stored h
  have hnodup : ["asset_id", "run_id", "timestamp"].Nodup := by decide
  have hasset := h.textItem "asset_id" hnodup rfl
  have hrun := h.textItem "run_id" hnodup rfl
  have htimestamp := h.datetimeItem "timestamp" hnodup run.completedAt.property rfl
  simp [deserializeDomainEvent, ReasoningOutcome.row, hasset, hrun, htimestamp, bind, Except.bind,
    pure, Except.pure]

/-- So is that of a trend that has changed. -/
theorem decodes_trendChanged (previous new : TrendDiagnostics) :
    Decodes (run.row (F := F) newId 1 "TrendChanged"
        [("previous_direction", .str previous.direction.value),
          ("new_direction", .str new.direction.value),
          ("stability_score", .int new.stabilityScore),
          ("volatility_score", .int new.volatilityScore)] run.now run.now)
      (.trendChanged run.assetId run.runId previous.direction.value new.direction.value
        new.stabilityScore new.volatilityScore run.now) := by
  intro stored h
  have hnodup : ["asset_id", "run_id", "previous_direction", "new_direction", "stability_score",
    "volatility_score", "timestamp"].Nodup := by decide
  have hasset := h.textItem "asset_id" hnodup rfl
  have hrun := h.textItem "run_id" hnodup rfl
  have hprevious := h.textItem "previous_direction" hnodup rfl
  have hnew := h.textItem "new_direction" hnodup rfl
  have hstability := h.intItem "stability_score" hnodup rfl
  have hvolatility := h.intItem "volatility_score" hnodup rfl
  have htimestamp := h.datetimeItem "timestamp" hnodup run.now.property rfl
  simp [deserializeDomainEvent, ReasoningOutcome.row, hasset, hrun, hprevious, hnew, hstability,
    hvolatility, htimestamp, bind, Except.bind, pure, Except.pure]

/-- So is that of a new recommendation. -/
theorem decodes_recommendationUpdated (previous : String) :
    Decodes (run.row (F := F) newId 2 "RecommendationUpdated"
        [("previous_recommendation", .str previous),
          ("new_recommendation", .str run.newRecommendation)] run.now run.now)
      (.recommendationUpdated run.assetId run.runId (some previous) run.newRecommendation
        run.now) := by
  intro stored h
  have hnodup : ["asset_id", "run_id", "previous_recommendation", "new_recommendation",
    "timestamp"].Nodup := by decide
  have hasset := h.textItem "asset_id" hnodup rfl
  have hrun := h.textItem "run_id" hnodup rfl
  have hprevious := h.optionalTextItem "previous_recommendation" hnodup (s := some previous) rfl
  have hnew := h.textItem "new_recommendation" hnodup rfl
  have htimestamp := h.datetimeItem "timestamp" hnodup run.now.property rfl
  simp [deserializeDomainEvent, ReasoningOutcome.row, hasset, hrun, hprevious, hnew, htimestamp,
    bind, Except.bind, pure, Except.pure]

/-- So is that of a new health status. -/
theorem decodes_healthChanged (previous : OperationalState) :
    Decodes (run.row (F := F) newId 3 "HealthChanged"
        [("previous_health_status", .str previous.healthStatus.value),
          ("new_health_status", .str run.newState.healthStatus.value),
          ("health_score", .int run.newState.healthScore)] run.now run.now)
      (.healthChanged run.assetId run.runId previous.healthStatus.value
        run.newState.healthStatus.value run.newState.healthScore run.now) := by
  intro stored h
  have hnodup : ["asset_id", "run_id", "previous_health_status", "new_health_status",
    "health_score", "timestamp"].Nodup := by decide
  have hasset := h.textItem "asset_id" hnodup rfl
  have hrun := h.textItem "run_id" hnodup rfl
  have hprevious := h.textItem "previous_health_status" hnodup rfl
  have hnew := h.textItem "new_health_status" hnodup rfl
  have hscore := h.intItem "health_score" hnodup rfl
  have htimestamp := h.datetimeItem "timestamp" hnodup run.now.property rfl
  simp [deserializeDomainEvent, ReasoningOutcome.row, hasset, hrun, hprevious, hnew, hscore,
    htimestamp, bind, Except.bind, pure, Except.pure]

/-- So is that of a new risk level. -/
theorem decodes_riskChanged (previous : OperationalState) :
    Decodes (run.row (F := F) newId 4 "RiskChanged"
        [("previous_risk_level", .str previous.riskLevel.value),
          ("new_risk_level", .str run.newState.riskLevel.value),
          ("health_score", .int run.newState.healthScore)] run.now run.now)
      (.riskChanged run.assetId run.runId previous.riskLevel.value run.newState.riskLevel.value
        run.newState.healthScore run.now) := by
  intro stored h
  have hnodup : ["asset_id", "run_id", "previous_risk_level", "new_risk_level", "health_score",
    "timestamp"].Nodup := by decide
  have hasset := h.textItem "asset_id" hnodup rfl
  have hrun := h.textItem "run_id" hnodup rfl
  have hprevious := h.textItem "previous_risk_level" hnodup rfl
  have hnew := h.textItem "new_risk_level" hnodup rfl
  have hscore := h.intItem "health_score" hnodup rfl
  have htimestamp := h.datetimeItem "timestamp" hnodup run.now.property rfl
  simp [deserializeDomainEvent, ReasoningOutcome.row, hasset, hrun, hprevious, hnew, hscore,
    htimestamp, bind, Except.bind, pure, Except.pure]

/-- So is that of a notification. -/
theorem decodes_notificationCreated (notification : Notification) :
    Decodes (run.row (F := F) newId 5 "NotificationCreated"
        [("notification_id", .str notification.id),
          ("recommendation_id", .str notification.recommendationId),
          ("severity", .str notification.severity.value),
          ("status", .str notification.status.value), ("title", .str notification.title),
          ("message", .str notification.message),
          ("created_at", .str notification.createdAt.val.isoformat)] run.now run.now)
      (.notificationCreated run.assetId run.runId notification.id notification.recommendationId
        notification.severity.value notification.status.value notification.title
        notification.message notification.createdAt run.now) := by
  intro stored h
  have hnodup : ["asset_id", "run_id", "notification_id", "recommendation_id", "severity",
    "status", "title", "message", "created_at", "timestamp"].Nodup := by decide
  -- each field is read back by its name, whatever the order in which it was stored
  have hasset := h.textItem "asset_id" hnodup rfl
  have hrun := h.textItem "run_id" hnodup rfl
  have hid := h.textItem "notification_id" hnodup rfl
  have hrecommendation := h.textItem "recommendation_id" hnodup rfl
  have hseverity := h.textItem "severity" hnodup rfl
  have hstatus := h.textItem "status" hnodup rfl
  have htitle := h.textItem "title" hnodup rfl
  have hmessage := h.textItem "message" hnodup rfl
  have hcreated := h.datetimeItem "created_at" hnodup notification.createdAt.property rfl
  have htimestamp := h.datetimeItem "timestamp" hnodup run.now.property rfl
  simp [deserializeDomainEvent, ReasoningOutcome.row, hasset, hrun, hid, hrecommendation,
    hseverity, hstatus, htitle, hmessage, hcreated, htimestamp, bind, Except.bind, pure,
    Except.pure]

/-- The rows of a reasoning run are read back, one by one, as what they announce. -/
theorem decodes_rows :
    List.Forall₂ Decodes (run.rows (F := F) newId) run.events := by
  -- a row that is added under a condition
  have hoption : ∀ {α : Type} {o : Option α} {row : α → OutboxEvent F} {event : α → DomainEvent},
      (∀ a, Decodes (row a) (event a)) →
        List.Forall₂ Decodes (o.map row).toList (o.map event).toList := by
    intro α o row event h
    cases o with
    | none => exact .nil
    | some a => exact .cons (h a) .nil
  rw [ReasoningOutcome.rows, ReasoningOutcome.events]
  refine List.rel_append (List.rel_append (List.rel_append (List.rel_append (List.rel_append
    (List.rel_append ?_ ?_) ?_) ?_) ?_) ?_) ?_
  · exact .cons (decodes_reasoningStarted run newId) .nil
  · exact hoption fun (previous, new) => decodes_trendChanged run newId previous new
  · exact hoption (decodes_recommendationUpdated run newId)
  · exact hoption (decodes_healthChanged run newId)
  · exact hoption (decodes_riskChanged run newId)
  · exact hoption (decodes_notificationCreated run newId)
  · exact .cons (decodes_reasoningCompleted run newId) .nil

/-- So is that of a transition of an investigation. -/
theorem decodes_transition {transition : Investigation.InvestigationEvent}
    {minted : Investigation.Minted} (hoccurred : transition.occurredAt.InRange)
    (htimestamp : minted.timestamp.InRange) :
    Decodes (Investigation.outboxEvent (F := F) transition minted)
      (.investigationTransitionRecorded transition.assetId transition.recommendationId
        transition.id transition.status.value transition.actorId transition.actorDisplayName
        transition.occurredAt transition.notes minted.timestamp) := by
  intro stored h
  have hnodup : ["asset_id", "recommendation_id", "transition_id", "status", "actor_id",
    "actor_display_name", "occurred_at", "notes", "timestamp"].Nodup := by decide
  have hasset := h.textItem "asset_id" hnodup rfl
  have hrecommendation := h.textItem "recommendation_id" hnodup rfl
  have hid := h.textItem "transition_id" hnodup rfl
  have hstatus := h.textItem "status" hnodup rfl
  have hactor := h.textItem "actor_id" hnodup rfl
  have hname := h.textItem "actor_display_name" hnodup rfl
  have hoccurred := h.datetimeItem "occurred_at" hnodup hoccurred rfl
  have hnotes := h.optionalTextItem "notes" hnodup (s := transition.notes) rfl
  have htimestamp := h.datetimeItem "timestamp" hnodup htimestamp rfl
  simp [deserializeDomainEvent, Investigation.outboxEvent, hasset, hrecommendation, hid, hstatus,
    hactor, hname, hoccurred, hnotes, htimestamp, bind, Except.bind, pure, Except.pure]

/-- An outbox row whose payload is made of texts. -/
def ofTexts (row : ReasoningBridge.OutboxRow) : OutboxEvent F where
  id := row.id
  eventType := row.eventType
  payload := row.payload.map fun (name, text) => (name, .str text)
  createdAt := row.createdAt
  dispatchedAt := none

variable [PyFloat F]

/-- So is that of an investigation of an alert. -/
theorem decodes_investigationUpdated (id : String)
    (evidence : ReasoningBridge.AiFaultEvidence F J) (timestamp : Timestamp)
    (createdAt : Datetime) :
    Decodes (F := F)
      (ofTexts (ReasoningBridge.investigationUpdated id evidence timestamp createdAt))
      (.aiFaultInvestigationUpdated evidence.assetId evidence.investigationId
        evidence.diagnosedFaultClass evidence.investigationStatus.value
        evidence.alertTransitionType.value timestamp) := by
  intro stored h
  have hnodup : ["asset_id", "investigation_id", "diagnosed_fault_class", "investigation_status",
    "alert_transition_type", "timestamp"].Nodup := by decide
  have hasset := h.textItem "asset_id" hnodup rfl
  have hinvestigation := h.textItem "investigation_id" hnodup rfl
  have hclass := h.textItem "diagnosed_fault_class" hnodup rfl
  have hstatus := h.textItem "investigation_status" hnodup rfl
  have htype := h.textItem "alert_transition_type" hnodup rfl
  have htimestamp := h.datetimeItem "timestamp" hnodup timestamp.property rfl
  simp [deserializeDomainEvent, ofTexts, ReasoningBridge.investigationUpdated, hasset,
    hinvestigation, hclass, hstatus, htype, htimestamp, bind, Except.bind, pure, Except.pure]

end Decoding

/-! ## Productions -/

/-- What a service puts into the outbox in one call. -/
inductive Production (F J : Type) [PyFloat F] where
  /-- `ObservationService.create`. -/
  | create (observation : Inference.Observation F) (id : String) (timestamp : Timestamp)
      (createdAt : Datetime)
  /-- `ObservationService.run_reasoning_for_asset`. -/
  | runReasoning (run : ReasoningOutcome) (newId : ℕ → String)
  /-- `InvestigationService.record_transition`. -/
  | recordTransition (transition : Investigation.InvestigationEvent)
      (minted : Investigation.Minted) (occurredAt_inRange : transition.occurredAt.InRange)
      (timestamp_inRange : minted.timestamp.InRange)
  /-- `ReasoningBridgeService.process_alert_transition`. -/
  | processAlertTransition (evidence : ReasoningBridge.AiFaultEvidence F J) (id : String)
      (timestamp : Timestamp) (createdAt : Datetime)

variable [PyFloat F]

/-- The rows of a production. -/
def Production.rows : Production F J → List (OutboxEvent F)
  | create observation id timestamp createdAt =>
      [observationCreatedRow id observation timestamp createdAt]
  | runReasoning run newId => run.rows newId
  | recordTransition transition minted _ _ => [Investigation.outboxEvent transition minted]
  | processAlertTransition evidence id timestamp createdAt =>
      [ofTexts (ReasoningBridge.investigationUpdated id evidence timestamp createdAt)]

/-- The events of a production, with the values that its rows are written with. -/
def Production.events : Production F J → List DomainEvent
  | create observation _ timestamp _ =>
      [.observationCreated observation.assetId observation.id timestamp]
  | runReasoning run _ => run.events
  | recordTransition transition minted _ _ =>
      [.investigationTransitionRecorded transition.assetId transition.recommendationId
        transition.id transition.status.value transition.actorId transition.actorDisplayName
        transition.occurredAt transition.notes minted.timestamp]
  | processAlertTransition evidence _ timestamp _ =>
      [.aiFaultInvestigationUpdated evidence.assetId evidence.investigationId
        evidence.diagnosedFaultClass evidence.investigationStatus.value
        evidence.alertTransitionType.value timestamp]

/-- Each row that a producer adds is read back, however its payload was stored, as the event that
it was written for. -/
theorem rows_decode [JsonText F] (production : Production F J) :
    List.Forall₂ Decodes production.rows production.events := by
  cases production with
  | create observation id timestamp createdAt =>
      exact .cons (decodes_observationCreated id observation timestamp createdAt) .nil
  | runReasoning run newId => exact decodes_rows run newId
  | recordTransition transition minted hoccurred htimestamp =>
      exact .cons (decodes_transition hoccurred htimestamp) .nil
  | processAlertTransition evidence id timestamp createdAt =>
      exact .cons (decodes_investigationUpdated id evidence timestamp createdAt) .nil

end Odis.Outbox
