import Mathlib.Data.List.Sort
import Odis.Outbox.Producers
import Odis.Twin.Cache
import Odis.Twin.RecommendationEngine

/-!
# What a twin is read from

The tables that `MonitoringService` reads (`application/monitoring_service.py`), and the handlers of
domain events (`register_domain_event_handlers` of `application/bootstrap.py`) that write to them or
drop twins from the cache.

The artifacts of a run are committed with its index row and never change, so the operational state
that the engine computes from them is taken as a part of the run.

* `assemble_congr`: a twin is determined by what `reads` reads.
-/

namespace Odis.Twin

open Exceptions Investigation Json Operations Outbox

variable {F : Type}

/-! ## Tables -/

/-- An index row with its run, and what `OperationalStateEngine` computes from its artifacts. -/
structure StoredRun where
  runId : String
  assetId : String
  startedAt : Timestamp
  operationalState : OperationalState
  runId_ne : runId ≠ ""
  operationalState_assetId : operationalState.assetId = assetId

/-- The tables that a twin is assembled from. -/
structure Records (F : Type) where
  /-- The assets of the observations. -/
  observed : List String
  runs : List StoredRun
  transitions : List { event : InvestigationEvent // event.occurredAt.InRange }
  timeline : List (TimelineEvent F)

/-! ## Reading -/

/-- The order `(started_at, run_id)`, the newest first. -/
def StartedAfterOrWith (a b : StoredRun) : Prop :=
  b.startedAt.val.instant < a.startedAt.val.instant ∨
    (a.startedAt.val.instant = b.startedAt.val.instant ∧ b.runId ≤ a.runId)

instance : DecidableRel StartedAfterOrWith := fun a b => by
  unfold StartedAfterOrWith
  infer_instance

/-- `_EVENT_TYPE_ORDER.get(event_type, 99)`. -/
def eventTypeOrder (eventType : String) : ℕ :=
  (([("observation_received", 0), ("reasoning_started", 1), ("trend_changed", 2),
    ("recommendation_updated", 3), ("notification_created", 4), ("health_changed", 5),
    ("risk_changed", 6), ("reasoning_completed", 7)] : List (String × ℕ)).lookup eventType).getD 99

/-- The order of a timeline. -/
def ListedBeforeOrWith (a b : TimelineEvent F) : Prop :=
  a.timestamp.val.instant < b.timestamp.val.instant ∨
    (a.timestamp.val.instant = b.timestamp.val.instant ∧
      (eventTypeOrder a.eventType < eventTypeOrder b.eventType ∨
        (eventTypeOrder a.eventType = eventTypeOrder b.eventType ∧ a.id ≤ b.id)))

instance : DecidableRel (ListedBeforeOrWith (F := F)) := fun a b => by
  unfold ListedBeforeOrWith
  infer_instance

namespace Records

variable (records : Records F)

/-- `asset_exists`. -/
def assetExists (assetId : String) : Bool := records.observed.contains assetId

/-- The run of `get_latest_for_asset`. -/
def getLatestForAsset (assetId : String) : Option StoredRun :=
  if records.assetExists assetId then
    ((records.runs.filter fun run => run.assetId = assetId).insertionSort StartedAfterOrWith).head?
  else none

/-- `list_by_asset` of the timeline repository. -/
def listTimeline (assetId : String) : List (TimelineEvent F) :=
  (records.timeline.filter fun event => event.assetId = assetId).insertionSort ListedBeforeOrWith

/-- `get_timeline_for_asset`. -/
def getTimelineForAsset (assetId : String) : Option (List (TimelineEvent F)) :=
  if records.assetExists assetId then some (records.listTimeline assetId) else none

/-- `get_latest_investigation_transition`. -/
def getLatestInvestigationTransition (recommendationId : String) :
    Option { event : InvestigationEvent // event.occurredAt.InRange } :=
  ((records.transitions.filter fun event =>
    event.val.recommendationId = recommendationId).insertionSort
      fun a b => StampedBeforeOrAt a.val b.val).getLast?

/-- The notification that a timeline entry was written for. -/
def notificationOf [JsonText F] (assetId : String) (latest : TimelineEvent F) :
    Except PyException Notification := do
  let createdAtRaw :=
    (lookup latest.metadata.fields "created_at").elim latest.timestamp.val.isoformat Json.text
  match h : Datetime.fromIsoformat? createdAtRaw with
  | none => throw .valueError
  | some read => do
      let id ← textItem latest.metadata.fields "notification_id"
      let recommendationId ← textItem latest.metadata.fields "recommendation_id"
      let severity ← textItem latest.metadata.fields "severity"
      let status ← textItem latest.metadata.fields "status"
      let title ← textItem latest.metadata.fields "title"
      let message ← textItem latest.metadata.fields "message"
      let severities : List NotificationSeverity := [.info, .warning, .critical]
      let statuses : List NotificationStatus := [.opened, .acknowledged, .resolved]
      match severities.find? fun known => known.value = severity,
        statuses.find? fun known => known.value = status with
      | some severity, some status =>
          if hvalid : id ≠ "" ∧ assetId ≠ "" ∧ recommendationId ≠ "" ∧ title ≠ "" ∧ message ≠ ""
          then return ⟨id, assetId, recommendationId, severity, status, title, message,
            ⟨read.aware, (Datetime.inRange_of_fromIsoformat? h).aware⟩, hvalid.1, hvalid.2.1,
            hvalid.2.2.1, hvalid.2.2.2.1, hvalid.2.2.2.2⟩
          else throw .valueError
      | _, _ => throw .valueError

/-- `get_latest_notification`. -/
def getLatestNotification [JsonText F] (assetId : String) :
    Except PyException (Option Notification) :=
  if records.assetExists assetId then
    match ((records.listTimeline assetId).filter fun event =>
      event.eventType = "notification_created").getLast? with
    | none => .ok none
    | some latest => (notificationOf assetId latest).map some
  else .ok none

end Records

/-- The latest run of an asset is determined by its own runs. -/
theorem getLatestForAsset_congr {records records' : Records F} {assetId : String}
    (hexists : records.assetExists assetId = records'.assetExists assetId)
    (hruns : (records.runs.filter fun run => run.assetId = assetId) =
      records'.runs.filter fun run => run.assetId = assetId) :
    records.getLatestForAsset assetId = records'.getLatestForAsset assetId := by
  unfold Records.getLatestForAsset
  rw [hexists, hruns]

/-- The run that is read is one of the asset. -/
theorem assetId_of_getLatestForAsset {records : Records F} {assetId : String} {run : StoredRun}
    (h : records.getLatestForAsset assetId = some run) : run.assetId = assetId := by
  unfold Records.getLatestForAsset at h
  split_ifs at h
  have hmem := (List.mem_insertionSort _).mp (List.mem_of_head? h)
  simpa using (List.mem_filter.mp hmem).2

/-! ## The service -/

/-- What a `DigitalTwinService` is built with, but for its cache and the tables. -/
structure System (F : Type) where
  sha256 : Sha256
  forecastInference : Option (Records F → Timestamp → ForecastInferenceService F)
  assetCatalog : String → Option Asset
  timelinePreviewLimit : ℤ
  assetCatalog_id : ∀ assetId asset, assetCatalog assetId = some asset → asset.id = assetId
  /-- `unit_of_work_factory is not None`. -/
  hasUnitOfWorkFactory : Bool

namespace System

variable [JsonText F] (system : System F) (records : Records F)

/-- `MonitoringService`. -/
def monitoring : MonitoringService F where
  assetExists := records.assetExists
  latestRunId assetId :=
    (records.getLatestForAsset assetId).map fun run => ⟨run.runId, run.runId_ne⟩
  operationalState assetId := (records.getLatestForAsset assetId).map StoredRun.operationalState
  recommendation assetId := (records.getLatestForAsset assetId).map fun run =>
    computeRecommendation system.sha256 run.operationalState
  latestNotification := records.getLatestNotification
  latestInvestigationTransition := records.getLatestInvestigationTransition
  timeline := records.getTimelineForAsset

/-- What is shown as the latest run is the latest one that is stored. -/
@[simp]
theorem monitoring_latestRunId (assetId : String) :
    (system.monitoring records).latestRunId assetId =
      (records.getLatestForAsset assetId).map fun run => ⟨run.runId, run.runId_ne⟩ :=
  rfl

/-- The state is the one of that run. -/
@[simp]
theorem monitoring_operationalState (assetId : String) :
    (system.monitoring records).operationalState assetId =
      (records.getLatestForAsset assetId).map StoredRun.operationalState :=
  rfl

/-- The recommendation is computed from that state. -/
@[simp]
theorem monitoring_recommendation (assetId : String) :
    (system.monitoring records).recommendation assetId =
      (records.getLatestForAsset assetId).map fun run =>
        computeRecommendation system.sha256 run.operationalState :=
  rfl

/-- `DigitalTwinService` at a time, over the tables. -/
def service (now : Timestamp) : DigitalTwinService F where
  monitoring := system.monitoring records
  forecastInference := system.forecastInference.map fun forecasts => forecasts records now
  assetCatalog := system.assetCatalog
  timelinePreviewLimit := system.timelinePreviewLimit
  assetCatalog_id := system.assetCatalog_id

/-- The service without forecasts. -/
def withoutForecasts : DigitalTwinService F where
  monitoring := system.monitoring records
  forecastInference := none
  assetCatalog := system.assetCatalog
  timelinePreviewLimit := system.timelinePreviewLimit
  assetCatalog_id := system.assetCatalog_id

end System

/-- What is read of an asset for its twin, other than forecasts. -/
structure Reads (F : Type) where
  assetExists : Bool
  run : Option StoredRun
  latestNotification : Except PyException (Option Notification)
  latestInvestigationTransition : Option { event : InvestigationEvent // event.occurredAt.InRange }
  timelinePreview : List (TimelineEvent F)

/-- What is read of an asset for its twin, other than forecasts. -/
def System.reads [JsonText F] (system : System F) (records : Records F) (assetId : String) :
    Reads F where
  assetExists := records.assetExists assetId
  run := records.getLatestForAsset assetId
  latestNotification := records.getLatestNotification assetId
  latestInvestigationTransition := (records.getLatestForAsset assetId).bind fun run =>
    records.getLatestInvestigationTransition
      (computeRecommendation system.sha256 run.operationalState).id
  timelinePreview :=
    (system.withoutForecasts records).previewTimeline
      ((records.getTimelineForAsset assetId).getD [])

/-- The asset in the catalog, or one derived from its id. -/
def System.assetOf (system : System F) (assetId : String) : Except TwinError Asset :=
  match system.assetCatalog assetId with
  | some asset => .ok asset
  | none => deriveUnknownAsset assetId

/-- `_assemble` without forecasts, from what was read. -/
def System.assembleFrom (system : System F) (assetId : String) (reads : Reads F) :
    Except TwinError (DigitalTwin F) :=
  if !reads.assetExists then .error (.assetNotFound assetId)
  else
    match reads.run with
    | none => .error (.noReasoningHistory assetId)
    | some run => do
        let notification ← reads.latestNotification.mapError TwinError.raised
        let asset ← system.assetOf assetId
        return {
          assetId := asset.id
          assetName := asset.name
          assetType := asset.type
          location := asset.location
          operationalState := run.operationalState
          recommendation := computeRecommendation system.sha256 run.operationalState
          notification := notification
          investigation := reads.latestInvestigationTransition
          latestReasoningRunId := run.runId
          timelinePreview := reads.timelinePreview
          telemetryForecasts := []
          lastUpdated := run.operationalState.lastUpdated
          assetId_ne := asset.id_ne
          assetName_ne := asset.name_ne
          assetType_ne := asset.type_ne
          latestReasoningRunId_ne := run.runId_ne }

section Reading

/-! ## Assembling -/

variable [JsonText F] {system : System F} {records records' : Records F} {assetId : String}

/-- A twin without forecasts is made of what is read for it. -/
theorem assemble_eq_assembleFrom : (system.withoutForecasts records).assemble assetId =
    system.assembleFrom assetId (system.reads records assetId) := by
  unfold DigitalTwinService.assemble System.assembleFrom
  dsimp only [System.reads, System.withoutForecasts, System.monitoring]
  cases records.getLatestForAsset assetId with
  | none => rfl
  | some run => rfl

/-- What is read for an asset determines its twin. -/
theorem assemble_congr (h : system.reads records assetId = system.reads records' assetId) :
    (system.withoutForecasts records).assemble assetId =
      (system.withoutForecasts records').assemble assetId := by
  rw [assemble_eq_assembleFrom, assemble_eq_assembleFrom, h]

/-- The twin that is assembled is, but for its forecasts, the one without forecasts. -/
theorem assemble_withoutForecasts {now : Timestamp} {twin : DigitalTwin F}
    (h : (system.service records now).assemble assetId = .ok twin) :
    (system.withoutForecasts records).assemble assetId = .ok twin.withoutForecasts := by
  rw [assemble_eq_assembleFrom]
  unfold DigitalTwinService.assemble at h
  unfold System.assembleFrom
  have hmonitoring : (system.service records now).monitoring = system.monitoring records := rfl
  rw [hmonitoring] at h
  cases hexists : records.assetExists assetId with
  | false =>
      have hmissing : (system.monitoring records).assetExists assetId = false := hexists
      rw [hmissing] at h
      cases h
  | true =>
      have hknown : (system.monitoring records).assetExists assetId = true := hexists
      have hread : (system.reads records assetId).assetExists = true := hexists
      rw [hknown] at h
      rw [hread]
      rw [System.monitoring_latestRunId, System.monitoring_operationalState,
        System.monitoring_recommendation] at h
      cases hrun : records.getLatestForAsset assetId with
      | none =>
          rw [hrun] at h
          cases h
      | some run =>
          rw [hrun] at h
          obtain ⟨notification, hnotification, h⟩ := bind_eq_ok.mp h
          obtain ⟨asset, hasset, h⟩ := bind_eq_ok.mp h
          obtain ⟨forecasts, -, h⟩ := bind_eq_ok.mp h
          obtain rfl := Except.ok.inj h
          have hfound : system.assetOf assetId = .ok asset := hasset
          -- each part that the assembly reads is one of what is read of the asset
          have hreadRun : (system.reads records assetId).run = some run := hrun
          have hreadNotification :
              (system.reads records assetId).latestNotification.mapError TwinError.raised =
                .ok notification := hnotification
          have hinvestigation : (system.reads records assetId).latestInvestigationTransition =
              records.getLatestInvestigationTransition
                (computeRecommendation system.sha256 run.operationalState).id := by
            dsimp only [System.reads]
            rw [hrun]
            rfl
          dsimp only
          rw [hreadRun]
          dsimp only
          rw [hreadNotification, ok_bind, hfound, ok_bind, hinvestigation]
          rfl

/-- Where there are no forecasts. -/
theorem assemble_eq_of_loadTelemetryForecasts {now : Timestamp}
    (h : (system.service records now).loadTelemetryForecasts assetId = .ok []) :
    (system.service records now).assemble assetId =
      (system.withoutForecasts records).assemble assetId := by
  unfold DigitalTwinService.assemble
  rw [h]
  rfl

/-! ## What is read when the tables change -/

/-- What is read is determined by the rows of the asset. -/
theorem reads_congr (hexists : records.assetExists assetId = records'.assetExists assetId)
    (hruns : (records.runs.filter fun run => run.assetId = assetId) =
      records'.runs.filter fun run => run.assetId = assetId)
    (htransitions : ∀ run, records'.getLatestForAsset assetId = some run →
      records.getLatestInvestigationTransition
          (computeRecommendation system.sha256 run.operationalState).id =
        records'.getLatestInvestigationTransition
          (computeRecommendation system.sha256 run.operationalState).id)
    (htimeline : (records.timeline.filter fun event => event.assetId = assetId) =
      records'.timeline.filter fun event => event.assetId = assetId) :
    system.reads records assetId = system.reads records' assetId := by
  have hlatest := getLatestForAsset_congr hexists hruns
  -- the notification and the preview are of the timeline of the asset
  have hlist : records.listTimeline assetId = records'.listTimeline assetId := by
    unfold Records.listTimeline
    rw [htimeline]
  have hnotification : records.getLatestNotification assetId =
      records'.getLatestNotification assetId := by
    unfold Records.getLatestNotification
    rw [hexists, hlist]
  have hpreview : records.getTimelineForAsset assetId = records'.getTimelineForAsset assetId := by
    unfold Records.getTimelineForAsset
    rw [hexists, hlist]
  -- the transition is looked up by the recommendation of the latest run
  have htransition : ((records'.getLatestForAsset assetId).bind fun run =>
      records.getLatestInvestigationTransition
        (computeRecommendation system.sha256 run.operationalState).id) =
      (records'.getLatestForAsset assetId).bind fun run =>
        records'.getLatestInvestigationTransition
          (computeRecommendation system.sha256 run.operationalState).id := by
    cases hrun : records'.getLatestForAsset assetId with
    | none => rfl
    | some run => exact htransitions run hrun
  unfold System.reads
  rw [hexists, hlatest, hnotification, hpreview, htransition]
  rfl

/-- A new run changes what is read for its asset only. -/
theorem reads_addRun {run : StoredRun} (hne : run.assetId ≠ assetId) :
    system.reads { records with runs := records.runs ++ [run] } assetId =
      system.reads records assetId := by
  refine reads_congr rfl ?_ (fun _ _ => rfl) rfl
  dsimp only
  rw [List.filter_append, List.filter_singleton, decide_eq_false hne]
  exact List.append_nil _

/-- A new entry changes what is read for its asset only. -/
theorem reads_addEntry {event : TimelineEvent F} (hne : event.assetId ≠ assetId) :
    system.reads { records with timeline := records.timeline ++ [event] } assetId =
      system.reads records assetId := by
  refine reads_congr rfl rfl (fun _ _ => rfl) ?_
  dsimp only
  rw [List.filter_append, List.filter_singleton, decide_eq_false hne]
  exact List.append_nil _

/-- A new transition changes what is read for the asset whose recommendation it is about. -/
theorem reads_addTransition {event : { event : InvestigationEvent // event.occurredAt.InRange }}
    {shown : OperationalState}
    (hshown : (computeRecommendation system.sha256 shown).id = event.val.recommendationId)
    (hne : shown.assetId ≠ assetId) :
    system.reads { records with transitions := records.transitions ++ [event] } assetId =
      system.reads records assetId := by
  refine reads_congr rfl rfl ?_ rfl
  intro run hrun
  have hother : event.val.recommendationId ≠
      (computeRecommendation system.sha256 run.operationalState).id := by
    intro hid
    have hsame := assetId_eq_of_id_eq (hshown.trans hid)
    rw [run.operationalState_assetId, assetId_of_getLatestForAsset hrun] at hsame
    exact hne hsame
  unfold Records.getLatestInvestigationTransition
  dsimp only
  rw [List.filter_append, List.filter_singleton, decide_eq_false hother]
  exact congrArg _ (congrArg _ (List.append_nil _))

/-- A new observation changes nothing for an asset that is known. -/
theorem reads_observe {observed : String} (hne : observed ≠ assetId ∨ records.assetExists assetId) :
    system.reads { records with observed := records.observed ++ [observed] } assetId =
      system.reads records assetId := by
  refine reads_congr ?_ rfl (fun _ _ => rfl) rfl
  unfold Records.assetExists
  rcases hne with hne | hknown
  · simp [Ne.symm hne]
  · unfold Records.assetExists at hknown
    simp only [List.contains_iff_mem] at hknown 
    simp [hknown]

end Reading

end Odis.Twin
