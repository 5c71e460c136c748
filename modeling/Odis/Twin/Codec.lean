import Odis.Python.Decoding
import Odis.Twin.Domain

/-!
# The payload of a cached twin

`serialize` and `deserialize` of `redis_digital_twin_cache.py` spell out the fields of a twin in
both directions. A payload is taken as the JSON value that its text stands for, with the keys
sorted. 
* `deserialize_serialize`: what comes back is the twin without its forecasts.
* `roundTrip_iff`: a twin comes back if it has none.
-/

namespace Odis.Twin

open Exceptions Investigation Json Operations

variable {F : Type}

/-! ## Fields -/

/-- How a reader ends without a value: it raises, or what it makes is none of the declared type. -/
inductive DecodeFailure where
  | raised (exception : PyException)
  | undeclared
  deriving DecidableEq, Repr

/-- `v[name]`. -/
def entry (v : Json F) (name : String) : Except DecodeFailure (Json F) :=
  (v.subscript name).mapError .raised

/-- A text, which is taken as it is. -/
def readText : Json F → Except DecodeFailure String
  | .str s => .ok s
  | _ => .error .undeclared

/-- An integer, which is taken as it is. -/
def readInt : Json F → Except DecodeFailure ℤ
  | .int n => .ok n
  | _ => .error .undeclared

/-- A text or `None`, which is taken as it is. -/
def readOptionalText : Json F → Except DecodeFailure (Option String)
  | .null => .ok none
  | .str s => .ok (some s)
  | _ => .error .undeclared

/-- `_dt_from_str`. -/
def dtFromStr : Json F → Except DecodeFailure Timestamp
  | .str s =>
      match h : Datetime.fromIsoformat? s with
      | some read =>
          if read.utcOffset.isSome then
            .ok ⟨read.aware, (Datetime.inRange_of_fromIsoformat? h).aware⟩
          else .error .undeclared
      | none => .error (.raised .valueError)
  | _ => .error (.raised .typeError)

/-- `_dt_to_str`. -/
def dtToStr (t : Timestamp) : Json F := .str t.val.isoformat

/-- A value of a literal type, checked by the constructor that it is passed to. -/
def readLiteral {α : Type} (all : List α) (value : α → String) :
    Json F → Except DecodeFailure α
  | .str s =>
      match all.find? fun a => value a = s with
      | some a => .ok a
      | none => .error (.raised .valueError)
  | _ => .error (.raised .valueError)

/-- A constructor that checks its fields. -/
def construct {α : Type} (valid : Prop) [Decidable valid] (build : valid → α) :
    Except DecodeFailure α :=
  if h : valid then .ok (build h) else .error (.raised .valueError)

/-- `json.loads(…)` of a value that is not `None`. -/
def readUnlessNull {α : Type} (decode : Json F → Except DecodeFailure α) :
    Json F → Except DecodeFailure (Option α)
  | .null => .ok none
  | v => (decode v).map some

/-- `tuple(v)` of texts, which are taken as they are. -/
def readTexts (v : Json F) : Except DecodeFailure (List String) := do
  let items ← v.iterate.mapError .raised
  items.mapM readText

/-- A part that may be `None`. -/
def optionalPart {α : Type} (encode : α → Json F) : Option α → Json F
  | none => .null
  | some a => encode a

section Fields

variable {v : Json F} {fields : List (String × Json F)} {name : String}

/-- A field is found in the sorted text, with its own value sorted. -/
theorem entry_reloaded {i : ℕ} (hnodup : (fields.map Prod.fst).Nodup)
    (h : fields[i]? = some (name, v)) :
    entry ((obj fields).reloaded true) name = .ok (v.reloaded true) := by
  rw [entry, subscript_reloaded hnodup h]
  rfl

/-- A text is read back. -/
@[simp]
theorem readText_str (s : String) : readText (.str s : Json F) = .ok s := rfl

/-- So is an integer. -/
@[simp]
theorem readInt_int (n : ℤ) : readInt (.int n : Json F) = .ok n := rfl

/-- A list of texts is read back in its order. -/
theorem readTexts_texts (texts : List String) :
    readTexts ((arr (texts.map .str) : Json F).reloaded true) = .ok texts := by
  rw [readTexts, iterate_reloaded]
  exact mapM_reloaded fun text _ => by rw [reloaded_str, readText_str]

/-- A text or null is read back. -/
theorem readOptionalText_optional (text : Option String) :
    readOptionalText ((optionalPart .str text : Json F).reloaded true) = .ok text := by
  cases text with
  | none => rfl
  | some s => rfl

/-- An instant is read back from its text. -/
@[simp]
theorem dtFromStr_dtToStr (t : Timestamp) : dtFromStr (dtToStr t : Json F) = .ok t := by
  have hread := Datetime.fromIsoformat?_isoformat t.property
  rw [dtToStr, dtFromStr]
  split
  next read hsome =>
    obtain rfl := Option.some.inj (hread.symm.trans hsome)
    rw [if_pos Option.isSome_some]
    refine congrArg Except.ok (Subtype.ext ?_)
    simp [Datetime.IsoDatetime.aware]
  next hnone => cases hread.symm.trans hnone

/-- Sorting the keys does not touch an instant. -/
@[simp]
theorem dtToStr_reloaded (t : Timestamp) : (dtToStr t : Json F).reloaded true = dtToStr t :=
  reloaded_str _

/-- A value of an enumeration is read back from its name, if no earlier one has that name. -/
theorem readLiteral_value {α : Type} {all : List α} {value : α → String} (a : α)
    (hall : all.find? (fun b => value b = value a) = some a) :
    readLiteral all value (.str (value a) : Json F) = .ok a := by
  rw [readLiteral, hall]

/-- A valid value is constructed. -/
theorem construct_eq_ok {α : Type} {valid : Prop} [Decidable valid] {build : valid → α}
    (h : valid) : construct valid build = .ok (build h) :=
  dif_pos h

/-- An optional part is read back, if what is read back is never null itself. -/
theorem readUnlessNull_optionalPart {α : Type} {encode : α → Json F}
    {decode : Json F → Except DecodeFailure α} {a : Option α}
    (hdecode : ∀ a, decode ((encode a).reloaded true) = .ok a)
    (hnull : ∀ a, (encode a).reloaded true ≠ .null) :
    readUnlessNull decode ((optionalPart encode a).reloaded true) = .ok a := by
  cases a with
  | none => rfl
  | some a =>
      have hmap : readUnlessNull decode ((encode a).reloaded true) =
          (decode ((encode a).reloaded true)).map some := by
        have hne := hnull a
        unfold readUnlessNull
        split
        next heq => exact absurd heq hne
        · rfl
      rw [optionalPart, hmap, hdecode]
      rfl

/-- An object is not null. -/
theorem obj_reloaded_ne_null : (obj fields).reloaded true ≠ (.null : Json F) := by
  intro h
  cases h

end Fields

/-! ## Parts -/

section Parts

/-- The payload of a location. -/
def Location.payload (location : Location) : List (String × Json F) :=
  [("identifier", .str location.identifier)]

/-- A location is read. -/
def readLocation (v : Json F) : Except DecodeFailure Location := do
  let identifier ← readText (← entry v "identifier")
  construct (identifier ≠ "") fun h => ⟨identifier, h⟩

/-- A location is read back. -/
theorem readLocation_payload (location : Location) :
    readLocation ((obj location.payload).reloaded true : Json F) = .ok location := by
  have hnodup : ((location.payload : List (String × Json F)).map Prod.fst).Nodup := by
    simp [Location.payload]
  rw [readLocation, entry_reloaded hnodup (rfl : location.payload[0]? = some (_, _))]
  simp only [ok_bind, reloaded_str, readText_str]
  exact construct_eq_ok location.identifier_ne

/-- The payload of an operational state. -/
def statePayload (state : OperationalState) : List (String × Json F) :=
  [("asset_id", .str state.assetId), ("health_score", .int state.healthScore),
    ("health_status", .str state.healthStatus.value), ("risk_level", .str state.riskLevel.value),
    ("confidence", .int state.confidence), ("primary_driver", .str state.primaryDriver),
    ("recommended_action", .str state.recommendedAction),
    ("last_updated", dtToStr state.lastUpdated)]

/-- An operational state is read. -/
def readState (v : Json F) : Except DecodeFailure OperationalState := do
  let assetId ← readText (← entry v "asset_id")
  let healthScore ← readInt (← entry v "health_score")
  let healthStatus ←
    readLiteral [.normal, .warning, .critical] HealthStatus.value (← entry v "health_status")
  let riskLevel ← readLiteral [.low, .medium, .high] RiskLevel.value (← entry v "risk_level")
  let confidence ← readInt (← entry v "confidence")
  let primaryDriver ← readText (← entry v "primary_driver")
  let recommendedAction ← readText (← entry v "recommended_action")
  let lastUpdated ← dtFromStr (← entry v "last_updated")
  construct
    (assetId ≠ "" ∧ (0 ≤ healthScore ∧ healthScore ≤ 100) ∧ (0 ≤ confidence ∧ confidence ≤ 100) ∧
      primaryDriver ≠ "" ∧ recommendedAction ≠ "")
    fun h => ⟨assetId, healthScore, healthStatus, riskLevel, confidence, primaryDriver,
      recommendedAction, lastUpdated, h.1, h.2.1, h.2.2.1, h.2.2.2.1, h.2.2.2.2⟩

/-- An operational state is read back. -/
theorem readState_payload (state : OperationalState) :
    readState ((obj (statePayload state)).reloaded true : Json F) = .ok state := by
  have hnodup : ((statePayload state : List (String × Json F)).map Prod.fst).Nodup := by
    simp [statePayload]
  have hstatus : readLiteral [.normal, .warning, .critical] HealthStatus.value
      (.str state.healthStatus.value : Json F) = .ok state.healthStatus :=
    readLiteral_value _ (by cases state.healthStatus <;> decide)
  have hrisk : readLiteral [.low, .medium, .high] RiskLevel.value
      (.str state.riskLevel.value : Json F) = .ok state.riskLevel :=
    readLiteral_value _ (by cases state.riskLevel <;> decide)
  have hfields (i : ℕ) {name : String} {w : Json F}
      (h : (statePayload state)[i]? = some (name, w)) :
      entry ((obj (statePayload state)).reloaded true) name = .ok (w.reloaded true) :=
    entry_reloaded hnodup h
  rw [readState, hfields 0 rfl, hfields 1 rfl, hfields 2 rfl, hfields 3 rfl, hfields 4 rfl,
    hfields 5 rfl, hfields 6 rfl, hfields 7 rfl]
  simp only [ok_bind, reloaded_str, reloaded_int, readText_str, readInt_int, dtToStr_reloaded,
    dtFromStr_dtToStr, hstatus, hrisk]
  exact construct_eq_ok ⟨state.assetId_ne, state.healthScore_range, state.confidence_range,
    state.primaryDriver_ne, state.recommendedAction_ne⟩

/-- The payload of a recommendation. -/
def recommendationPayload (recommendation : Recommendation) : List (String × Json F) :=
  [("id", .str recommendation.id), ("asset_id", .str recommendation.assetId),
    ("category", .str recommendation.category.value),
    ("priority", .str recommendation.priority.value),
    ("urgency", .str recommendation.urgency.value), ("title", .str recommendation.title),
    ("description", .str recommendation.description),
    ("recommended_steps", .arr (recommendation.recommendedSteps.map .str)),
    ("estimated_impact", .str recommendation.estimatedImpact),
    ("created_at", dtToStr recommendation.createdAt)]

/-- A recommendation is read. -/
def readRecommendation (v : Json F) : Except DecodeFailure Recommendation := do
  let id ← readText (← entry v "id")
  let assetId ← readText (← entry v "asset_id")
  let category ← readLiteral [.investigate, .mitigate, .monitor] RecommendationCategory.value
    (← entry v "category")
  let priority ← readLiteral [.p0, .p1, .p2, .p3] RecommendationPriority.value
    (← entry v "priority")
  let urgency ← readLiteral [.immediate, .soon, .scheduled] RecommendationUrgency.value
    (← entry v "urgency")
  let title ← readText (← entry v "title")
  let description ← readText (← entry v "description")
  let recommendedSteps ← readTexts (← entry v "recommended_steps")
  let estimatedImpact ← readText (← entry v "estimated_impact")
  let createdAt ← dtFromStr (← entry v "created_at")
  construct
    (id ≠ "" ∧ assetId ≠ "" ∧ title ≠ "" ∧ description ≠ "" ∧ recommendedSteps ≠ [] ∧
      (∀ step ∈ recommendedSteps, step ≠ "") ∧ estimatedImpact ≠ "")
    fun h => ⟨id, assetId, category, priority, urgency, title, description, recommendedSteps,
      estimatedImpact, createdAt, h.1, h.2.1, h.2.2.1, h.2.2.2.1, h.2.2.2.2.1, h.2.2.2.2.2.1,
      h.2.2.2.2.2.2⟩

/-- A recommendation is read back. -/
theorem readRecommendation_payload (recommendation : Recommendation) :
    readRecommendation ((obj (recommendationPayload recommendation)).reloaded true : Json F) =
      .ok recommendation := by
  have hnodup :
      ((recommendationPayload recommendation : List (String × Json F)).map Prod.fst).Nodup := by
    simp [recommendationPayload]
  -- the names of the three enumerations differ
  have hcategory : readLiteral [.investigate, .mitigate, .monitor] RecommendationCategory.value
      (.str recommendation.category.value : Json F) = .ok recommendation.category :=
    readLiteral_value _ (by cases recommendation.category <;> decide)
  have hpriority : readLiteral [.p0, .p1, .p2, .p3] RecommendationPriority.value
      (.str recommendation.priority.value : Json F) = .ok recommendation.priority :=
    readLiteral_value _ (by cases recommendation.priority <;> decide)
  have hurgency : readLiteral [.immediate, .soon, .scheduled] RecommendationUrgency.value
      (.str recommendation.urgency.value : Json F) = .ok recommendation.urgency :=
    readLiteral_value _ (by cases recommendation.urgency <;> decide)
  -- the fields are found by name though the keys were sorted
  have hfields (i : ℕ) {name : String} {w : Json F}
      (h : (recommendationPayload recommendation)[i]? = some (name, w)) :
      entry ((obj (recommendationPayload recommendation)).reloaded true) name =
        .ok (w.reloaded true) := entry_reloaded hnodup h
  rw [readRecommendation, hfields 0 rfl, hfields 1 rfl, hfields 2 rfl, hfields 3 rfl,
    hfields 4 rfl, hfields 5 rfl, hfields 6 rfl, hfields 7 rfl, hfields 8 rfl, hfields 9 rfl]
  simp only [ok_bind, reloaded_str, readText_str, dtToStr_reloaded, dtFromStr_dtToStr, hcategory,
    hpriority, hurgency, readTexts_texts]
  -- the checks of the constructor hold, they held of the recommendation that was written
  exact construct_eq_ok ⟨recommendation.id_ne, recommendation.assetId_ne, recommendation.title_ne,
    recommendation.description_ne, recommendation.recommendedSteps_ne, recommendation.steps_ne,
    recommendation.estimatedImpact_ne⟩

/-- The payload of a notification. -/
def notificationPayload (notification : Notification) : List (String × Json F) :=
  [("id", .str notification.id), ("asset_id", .str notification.assetId),
    ("recommendation_id", .str notification.recommendationId),
    ("severity", .str notification.severity.value), ("status", .str notification.status.value),
    ("title", .str notification.title), ("message", .str notification.message),
    ("created_at", dtToStr notification.createdAt)]

/-- A notification is read. -/
def readNotification (v : Json F) : Except DecodeFailure Notification := do
  let id ← readText (← entry v "id")
  let assetId ← readText (← entry v "asset_id")
  let recommendationId ← readText (← entry v "recommendation_id")
  let severity ← readLiteral [.info, .warning, .critical] NotificationSeverity.value
    (← entry v "severity")
  let status ← readLiteral [.opened, .acknowledged, .resolved] NotificationStatus.value
    (← entry v "status")
  let title ← readText (← entry v "title")
  let message ← readText (← entry v "message")
  let createdAt ← dtFromStr (← entry v "created_at")
  construct
    (id ≠ "" ∧ assetId ≠ "" ∧ recommendationId ≠ "" ∧ title ≠ "" ∧ message ≠ "")
    fun h => ⟨id, assetId, recommendationId, severity, status, title, message, createdAt, h.1,
      h.2.1, h.2.2.1, h.2.2.2.1, h.2.2.2.2⟩

/-- A notification is read back. -/
theorem readNotification_payload (notification : Notification) :
    readNotification ((obj (notificationPayload notification)).reloaded true : Json F) =
      .ok notification := by
  have hnodup :
      ((notificationPayload notification : List (String × Json F)).map Prod.fst).Nodup := by
    simp [notificationPayload]
  have hseverity : readLiteral [.info, .warning, .critical] NotificationSeverity.value
      (.str notification.severity.value : Json F) = .ok notification.severity :=
    readLiteral_value _ (by cases notification.severity <;> decide)
  have hstatus : readLiteral [.opened, .acknowledged, .resolved] NotificationStatus.value
      (.str notification.status.value : Json F) = .ok notification.status :=
    readLiteral_value _ (by cases notification.status <;> decide)
  have hfields (i : ℕ) {name : String} {w : Json F}
      (h : (notificationPayload notification)[i]? = some (name, w)) :
      entry ((obj (notificationPayload notification)).reloaded true) name =
        .ok (w.reloaded true) := entry_reloaded hnodup h
  rw [readNotification, hfields 0 rfl, hfields 1 rfl, hfields 2 rfl, hfields 3 rfl,
    hfields 4 rfl, hfields 5 rfl, hfields 6 rfl, hfields 7 rfl]
  simp only [ok_bind, reloaded_str, readText_str, dtToStr_reloaded, dtFromStr_dtToStr, hseverity,
    hstatus]
  exact construct_eq_ok ⟨notification.id_ne, notification.assetId_ne,
    notification.recommendationId_ne, notification.title_ne, notification.message_ne⟩

/-- The payload of an investigation. -/
def investigationPayload (event : { event : InvestigationEvent // event.occurredAt.InRange }) :
    List (String × Json F) :=
  [("id", .str event.val.id), ("asset_id", .str event.val.assetId),
    ("recommendation_id", .str event.val.recommendationId),
    ("status", .str event.val.status.value), ("actor_id", .str event.val.actorId),
    ("actor_display_name", .str event.val.actorDisplayName),
    ("occurred_at", dtToStr ⟨event.val.occurredAt, event.property⟩),
    ("notes", optionalPart .str event.val.notes)]

/-- An investigation is read. -/
def readInvestigation (v : Json F) :
    Except DecodeFailure { event : InvestigationEvent // event.occurredAt.InRange } := do
  let id ← readText (← entry v "id")
  let assetId ← readText (← entry v "asset_id")
  let recommendationId ← readText (← entry v "recommendation_id")
  let status ← readLiteral [.acknowledged, .investigating, .resolved] InvestigationStatus.value
    (← entry v "status")
  let actorId ← readText (← entry v "actor_id")
  let actorDisplayName ← readText (← entry v "actor_display_name")
  let occurredAt ← dtFromStr (← entry v "occurred_at")
  let notes ← readOptionalText (← entry v "notes")
  construct
    (id ≠ "" ∧ assetId ≠ "" ∧ recommendationId ≠ "" ∧ actorId ≠ "" ∧ actorDisplayName ≠ "")
    fun h => ⟨⟨id, assetId, recommendationId, status, actorId, actorDisplayName, occurredAt.val,
      notes, h.1, h.2.1, h.2.2.1, h.2.2.2.1, h.2.2.2.2⟩, occurredAt.property⟩

/-- A transition of an investigation is read back. -/
theorem readInvestigation_payload
    (event : { event : InvestigationEvent // event.occurredAt.InRange }) :
    readInvestigation ((obj (investigationPayload event)).reloaded true : Json F) = .ok event := by
  have hnodup : ((investigationPayload event : List (String × Json F)).map Prod.fst).Nodup := by
    simp [investigationPayload]
  have hstatus : readLiteral [.acknowledged, .investigating, .resolved] InvestigationStatus.value
      (.str event.val.status.value : Json F) = .ok event.val.status :=
    readLiteral_value _ (by cases event.val.status <;> decide)
  have hfields (i : ℕ) {name : String} {w : Json F}
      (h : (investigationPayload event)[i]? = some (name, w)) :
      entry ((obj (investigationPayload event)).reloaded true) name = .ok (w.reloaded true) :=
    entry_reloaded hnodup h
  rw [readInvestigation, hfields 0 rfl, hfields 1 rfl, hfields 2 rfl, hfields 3 rfl,
    hfields 4 rfl, hfields 5 rfl, hfields 6 rfl, hfields 7 rfl]
  simp only [ok_bind, reloaded_str, readText_str, dtToStr_reloaded, dtFromStr_dtToStr, hstatus,
    readOptionalText_optional]
  exact construct_eq_ok ⟨event.val.id_ne, event.val.assetId_ne, event.val.recommendationId_ne,
    event.val.actorId_ne, event.val.actorDisplayName_ne⟩

/-- The payload of a timeline entry. -/
def timelinePayload (event : TimelineEvent F) : List (String × Json F) :=
  [("id", .str event.id), ("asset_id", .str event.assetId),
    ("timestamp", dtToStr event.timestamp), ("event_type", .str event.eventType),
    ("title", .str event.title), ("description", .str event.description),
    ("metadata", .obj event.metadata.fields)]

/-- A dict, which is taken as it is. -/
def readMetadata (v : Json F) : Except DecodeFailure (Metadata F) :=
  match v with
  | .obj fields => .ok (Metadata.ofFields fields)
  | _ => .error .undeclared

/-- The metadata of an event are read back. -/
theorem readMetadata_fields (metadata : Metadata F) :
    readMetadata ((obj metadata.fields).reloaded true) = .ok metadata := by
  have hreloaded : (obj metadata.fields).reloaded true = obj metadata.fields := metadata.sorted
  rw [hreloaded, readMetadata, Metadata.ofFields_fields]

/-- A timeline entry is read. -/
def readTimelineEvent (v : Json F) : Except DecodeFailure (TimelineEvent F) := do
  let id ← readText (← entry v "id")
  let assetId ← readText (← entry v "asset_id")
  let timestamp ← dtFromStr (← entry v "timestamp")
  let eventType ← readText (← entry v "event_type")
  let title ← readText (← entry v "title")
  let description ← readText (← entry v "description")
  let metadata ← readMetadata (← entry v "metadata")
  construct
    (id ≠ "" ∧ assetId ≠ "" ∧ title ≠ "" ∧ description ≠ "")
    fun h => ⟨id, assetId, timestamp, eventType, title, description, metadata, h.1, h.2.1, h.2.2.1,
      h.2.2.2⟩

/-- An event of the timeline is read back. -/
theorem readTimelineEvent_payload (event : TimelineEvent F) :
    readTimelineEvent ((obj (timelinePayload event)).reloaded true) = .ok event := by
  have hnodup : ((timelinePayload event).map Prod.fst).Nodup := by simp [timelinePayload]
  have hfields (i : ℕ) {name : String} {w : Json F}
      (h : (timelinePayload event)[i]? = some (name, w)) :
      entry ((obj (timelinePayload event)).reloaded true) name = .ok (w.reloaded true) :=
    entry_reloaded hnodup h
  rw [readTimelineEvent, hfields 0 rfl, hfields 1 rfl, hfields 2 rfl, hfields 3 rfl,
    hfields 4 rfl, hfields 5 rfl, hfields 6 rfl]
  simp only [ok_bind, reloaded_str, readText_str, dtToStr_reloaded, dtFromStr_dtToStr,
    readMetadata_fields]
  exact construct_eq_ok ⟨event.id_ne, event.assetId_ne, event.title_ne, event.description_ne⟩

end Parts

/-! ## Twins -/

section Twins

/-- The payload of a twin. -/
def payload (twin : DigitalTwin F) : List (String × Json F) :=
  [("asset_id", .str twin.assetId), ("asset_name", .str twin.assetName),
    ("asset_type", .str twin.assetType), ("location", .obj twin.location.payload),
    ("operational_state", .obj (statePayload twin.operationalState)),
    ("recommendation", .obj (recommendationPayload twin.recommendation)),
    ("notification", optionalPart (fun part => .obj (notificationPayload part)) twin.notification),
    ("investigation",
      optionalPart (fun part => .obj (investigationPayload part)) twin.investigation),
    ("latest_reasoning_run_id", .str twin.latestReasoningRunId),
    ("timeline_preview", .arr (twin.timelinePreview.map fun event => .obj (timelinePayload event))),
    ("last_updated", dtToStr twin.lastUpdated)]

/-- `serialize`. -/
def serialize (twin : DigitalTwin F) : Json F := (Json.obj (payload twin)).reloaded true

/-- `deserialize`. The forecasts are not in the payload. -/
def deserialize (raw : Json F) : Except DecodeFailure (DigitalTwin F) := do
  let location ← readLocation (← entry raw "location")
  let operationalState ← readState (← entry raw "operational_state")
  let recommendation ← readRecommendation (← entry raw "recommendation")
  let notification ← readUnlessNull readNotification (← entry raw "notification")
  let investigation ← readUnlessNull readInvestigation
    (← (raw.get "investigation" .null).mapError .raised)
  let events ← (iterate (← entry raw "timeline_preview")).mapError .raised
  let timelinePreview ← events.mapM readTimelineEvent
  let assetId ← readText (← entry raw "asset_id")
  let assetName ← readText (← entry raw "asset_name")
  let assetType ← readText (← entry raw "asset_type")
  let latestReasoningRunId ← readText (← entry raw "latest_reasoning_run_id")
  let lastUpdated ← dtFromStr (← entry raw "last_updated")
  construct
    (assetId ≠ "" ∧ assetName ≠ "" ∧ assetType ≠ "" ∧ latestReasoningRunId ≠ "")
    fun h => ⟨assetId, assetName, assetType, location, operationalState, recommendation,
      notification, investigation, latestReasoningRunId, timelinePreview, [], lastUpdated, h.1,
      h.2.1, h.2.2.1, h.2.2.2⟩

/-- The twin without its forecasts. -/
def DigitalTwin.withoutForecasts (twin : DigitalTwin F) : DigitalTwin F :=
  { twin with telemetryForecasts := [] }

/-- What comes back from a payload is the twin without its forecasts. -/
theorem deserialize_serialize (twin : DigitalTwin F) :
    deserialize (serialize twin) = .ok twin.withoutForecasts := by
  have hnodup : ((payload twin).map Prod.fst).Nodup := by simp [payload]
  have hfields (i : ℕ) {name : String} {w : Json F} (h : (payload twin)[i]? = some (name, w)) :
      entry ((obj (payload twin)).reloaded true) name = .ok (w.reloaded true) :=
    entry_reloaded hnodup h
  have hnotification := readUnlessNull_optionalPart (a := twin.notification)
    (readNotification_payload (F := F)) fun _ => obj_reloaded_ne_null
  have hinvestigation := readUnlessNull_optionalPart (a := twin.investigation)
    (readInvestigation_payload (F := F)) fun _ => obj_reloaded_ne_null
  -- the entries of the preview are read one by one
  have htimeline : (twin.timelinePreview.map fun event =>
      (obj (timelinePayload event)).reloaded true).mapM readTimelineEvent =
        .ok twin.timelinePreview :=
    mapM_reloaded fun event _ => readTimelineEvent_payload event
  rw [serialize, deserialize, hfields 3 rfl, hfields 4 rfl, hfields 5 rfl, hfields 6 rfl,
    get_reloaded hnodup (rfl : (payload twin)[7]? = some (_, _)), hfields 9 rfl, hfields 0 rfl,
    hfields 1 rfl, hfields 2 rfl, hfields 8 rfl, hfields 10 rfl]
  simp only [ok_bind, reloaded_str, readText_str, dtToStr_reloaded, dtFromStr_dtToStr,
    readLocation_payload, readState_payload, readRecommendation_payload, hnotification,
    hinvestigation, iterate_reloaded, Except.mapError, htimeline]
  exact construct_eq_ok ⟨twin.assetId_ne, twin.assetName_ne, twin.assetType_ne,
    twin.latestReasoningRunId_ne⟩

/-- A twin comes back if it has no forecasts. -/
theorem roundTrip_iff (twin : DigitalTwin F) :
    deserialize (serialize twin) = .ok twin ↔ twin.telemetryForecasts = [] := by
  rw [deserialize_serialize, Except.ok.injEq]
  constructor
  · intro h
    rw [← h]
    rfl
  · intro h
    rw [DigitalTwin.withoutForecasts, ← h]

end Twins

end Odis.Twin
