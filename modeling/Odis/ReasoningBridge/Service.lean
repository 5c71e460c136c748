import Odis.Library.Exceptions
import Odis.ReasoningBridge.Corroboration
import Odis.ReasoningBridge.EvidenceRepository

/-!
# Processing an alert transition

`ReasoningBridgeService.process_alert_transition` (`reasoning_bridge_service.py`) is one
transaction: the event is looked up by its id, its investigation decided
(`investigation_lifecycle.py`), the alert corroborated, and one evidence record saved with its
timeline entries. The updates it announces are dispatched after the commit.

`transact_effect` says what the transaction can do to the store; later results use it alone.
-/

namespace Odis.ReasoningBridge

open Inference Reasoning

variable {F J : Type} [PyFloat F]

/-- `ValidatedAlertTransition`, with what `validate_alert_transition` checks. -/
structure ValidatedAlertTransition (F J : Type) [PyFloat F] where
  eventId : String
  assetId : String
  sourceTimestamp : Datetime
  transitionType : AlertTransitionType
  fromState : String
  toState : String
  faultClass : String
  diagnosedClass : String
  evidenceItems : List J
  modelSystemVersion : String
  modelHash : String
  policyHash : String
  featureSchemaVersion : String
  classScores : List (String × F)
  maximumScore : F
  assetId_ne : assetId ≠ ""
  /-- The class is read off the state that the transition is about. -/
  state_eq : (if transitionType = .cleared then fromState else toState) = "confirmed_" ++ faultClass
  faultClass_ne : faultClass ≠ ""
  faultClass_ne_healthy : faultClass ≠ "healthy"
  classScores_ne : classScores ≠ []
  classScores_finite : ∀ score ∈ classScores, PyFloat.isfinite score.2 = true
  maximumScore_finite : PyFloat.isfinite maximumScore = true
  maximumScore_range : InUnitInterval maximumScore

/-! ## The investigation -/

/-- `InvestigationDecision`. -/
structure InvestigationDecision where
  investigationId : String
  investigationStatus : InvestigationStatus
  previousDiagnosedFaultClass : Option String
  isNewInvestigation : Bool

/-- The status of a transition's investigation after it. -/
def statusAfter (transitionType : AlertTransitionType) : InvestigationStatus :=
  if transitionType = .cleared then .cleared else .opened

/-- `decide_investigation`, with the id of the investigation it may open. -/
def decideInvestigation (newId : String) (transitionType : AlertTransitionType)
    (faultClass : String) (active : Option (AiFaultEvidence F J)) : InvestigationDecision :=
  match active with
  | some row =>
      if row.investigationStatus = .opened then
        if transitionType = .cleared then
          ⟨row.investigationId, .cleared, some row.diagnosedFaultClass, false⟩
        else
          ⟨row.investigationId, .opened,
            if row.diagnosedFaultClass ≠ faultClass then some row.diagnosedFaultClass else none,
            false⟩
      else ⟨newId, statusAfter transitionType, none, true⟩
  -- a cleared transition of an asset without rows is recorded, too, as cleared at once
  | none => ⟨newId, statusAfter transitionType, none, true⟩

/-! ## Corroboration -/

/-- The settings of the bridge, and what it meets: the UUIDs, whether the broker accepts the
attempt after `n` others, and the clock at that attempt. -/
structure BridgeEnvironment where
  /-- `corroboration_window_seconds`, in microseconds. -/
  corroborationWindow : ℕ
  corroborationSampleLimit : ℕ
  hasEventBus : Bool
  hasOutboxDispatcher : Bool
  publishMaxRetries : ℕ
  uuid4 : ℕ → String
  uuid4_injective : Function.Injective uuid4
  uuid4_ne : ∀ n, uuid4 n ≠ ""
  uuid5 : String → String
  accepts : ℕ → Bool
  utcNow : ℕ → Datetime

/-- What the store or the dispatch raises during a call. -/
inductive Interruption where
  | transaction
  | dispatch
  deriving DecidableEq, Repr

/-- An event given to the service, with the observations stored then, the readings of the clock
during the call, and what interrupts it. -/
structure Delivery (F J : Type) [PyFloat F] where
  event : ValidatedAlertTransition F J
  observations : List (Observation F)
  clock : ℕ → Datetime
  interruption : Option Interruption

/-- The exceptions of the transaction, and of the dispatch after it. -/
inductive ServiceFailure where
  | overflowError
  | trend (error : TrendError)
  | evidence (error : EvidenceError)
  | timeline
  | conflict
  | database
  | dispatch
  deriving DecidableEq, Repr

/-- The exceptions of `process_alert_transition`: `UnsupportedFaultClassError`, and the others. -/
inductive ProcessError where
  | unsupportedFaultClass (faultClass : String)
  | failed (failure : ServiceFailure)
  deriving DecidableEq, Repr

/-- The order of `timestamp, id`. -/
def observedBefore (a b : Observation F) : Bool :=
  a.timestamp.instant < b.timestamp.instant ∨
    (a.timestamp.instant = b.timestamp.instant ∧ a.id ≤ b.id)

/-- `list_by_asset_in_time_range`. -/
def listByAssetInTimeRange (observations : List (Observation F)) (assetId : String)
    (start finish : Datetime) (measurementType : String) (limit : ℕ) (newestFirst : Bool) :
    List (Observation F) :=
  let matching := observations.filter fun o =>
    o.assetId = assetId ∧ start.instant ≤ o.timestamp.instant ∧
      o.timestamp.instant ≤ finish.instant ∧ o.measurementType = measurementType
  let ordered := matching.mergeSort fun a b =>
    if newestFirst then observedBefore b a else observedBefore a b
  ordered.take limit

/-- `_corroborate`. -/
def corroborate (env : BridgeEnvironment) (delivery : Delivery F J) (faultClass : FaultClass) :
    Except ServiceFailure CorroborationOutcome :=
  let finish := delivery.event.sourceTimestamp
  match finish.sub? env.corroborationWindow with
  | none => .error .overflowError
  | some start =>
      let fetch (measurementType : String) : List (Observation F) :=
        listByAssetInTimeRange delivery.observations delivery.event.assetId start finish
          measurementType env.corroborationSampleLimit false
      let outcome := match faultClass with
        | .coolingDegradation =>
            corroborateCoolingDegradation (fetch "stack_temperature") (fetch "coolant_flow")
        | .hydrogenSupplyIssue =>
            corroborateHydrogenSupplyIssue (fetch "fuel_flow") (fetch "voltage")
        | .sensorAnomaly =>
            corroborateSensorAnomaly (fetch "stack_temperature") (fetch "current")
              (fetch "voltage") (fetch "fuel_flow")
      outcome.mapError .trend

/-- `fetch`: the series of a measurement that is corroborated on. -/
def fetchSeries (env : BridgeEnvironment) (delivery : Delivery F J) (start : Datetime)
    (measurementType : String) : List (Observation F) :=
  listByAssetInTimeRange delivery.observations delivery.event.assetId start
    delivery.event.sourceTimestamp measurementType env.corroborationSampleLimit false

/-- The rules on the class of an alert are applied to the series that are fetched. -/
theorem corroborate_eq (env : BridgeEnvironment) (delivery : Delivery F J)
    (faultClass : FaultClass) :
    corroborate env delivery faultClass =
      match delivery.event.sourceTimestamp.sub? env.corroborationWindow with
      | none => .error .overflowError
      | some start =>
          (applyRules faultClass (fetchSeries env delivery start)).mapError .trend := by
  cases faultClass <;> rfl

/-- The outcome for a cleared transition, which is not corroborated. -/
def clearedOutcome : CorroborationOutcome :=
  ⟨.notApplicable, [],
    "Alert cleared; clearing does not diagnose a fault, so no corroboration is run.", []⟩

/-- The corroboration of an event, and the recommendation on it. -/
def concludeAlert (env : BridgeEnvironment) (delivery : Delivery F J) (faultClass : FaultClass)
    (decision : InvestigationDecision) :
    Except ServiceFailure (CorroborationOutcome × Option FaultRecommendation) :=
  if delivery.event.transitionType = .cleared then .ok (clearedOutcome, none)
  else do
    let corroboration ← corroborate env delivery faultClass
    let recommendation ← (buildRecommendation
      ("ai-fault-rec-" ++ decision.investigationId ++ "-" ++ delivery.event.eventId)
      faultClass corroboration).mapError .evidence
    return (corroboration, some recommendation)

/-! ## The records -/

/-- The record of an event. -/
def evidenceFields (event : ValidatedAlertTransition F J) (decision : InvestigationDecision)
    (corroboration : CorroborationOutcome) (recommendation : Option FaultRecommendation)
    (recordedAt : Datetime) : EvidenceFields F J where
  id := event.eventId
  sourceEventId := event.eventId
  assetId := event.assetId
  observedAt := event.sourceTimestamp
  alertTransitionType := event.transitionType
  diagnosedFaultClass := event.faultClass
  fromState := event.fromState
  toState := event.toState
  modelSystemVersion := event.modelSystemVersion
  modelHash := event.modelHash
  policyHash := event.policyHash
  featureSchemaVersion := event.featureSchemaVersion
  classScores := event.classScores
  maximumScore := event.maximumScore
  evidenceItems := event.evidenceItems
  investigationId := decision.investigationId
  investigationStatus := decision.investigationStatus
  previousDiagnosedFaultClass := decision.previousDiagnosedFaultClass
  corroborationResult := corroboration.result
  corroborationRuleIds := corroboration.ruleIds
  corroborationNotes := corroboration.notes
  recommendation := recommendation
  recordedAt := recordedAt

/-- A value of a timeline entry's metadata. -/
inductive MetadataValue where
  | text (value : String)
  | texts (values : List String)
  | flag (value : Bool)
  | null
  deriving DecidableEq, Repr

/-- `TimelineEvent`. -/
structure TimelineEvent where
  id : String
  assetId : String
  timestamp : Datetime
  eventType : String
  title : String
  description : String
  metadata : List (String × MetadataValue)
  deriving DecidableEq, Repr

/-- The checks of `TimelineEvent.__post_init__`. -/
def TimelineEvent.isValid (entry : TimelineEvent) : Bool :=
  entry.id ≠ "" ∧ entry.assetId ≠ "" ∧ entry.title ≠ "" ∧ entry.description ≠ ""

/-- `_write_timeline_entries`: the entries of an event, with the ids `newId 0`, `newId 1`, … -/
def timelineEntries (newId : ℕ → String) (now : Datetime) (event : ValidatedAlertTransition F J)
    (decision : InvestigationDecision) (corroboration : CorroborationOutcome)
    (recommendation : Option FaultRecommendation) : List TimelineEvent :=
  let received : TimelineEvent :=
    { id := newId 0
      assetId := event.assetId
      timestamp := event.sourceTimestamp
      eventType := "ai_fault_alert_received"
      title := "AI fault alert received: " ++ event.faultClass
      description := event.transitionType.value ++ " alert for " ++ event.faultClass ++
        " (source event " ++ event.eventId ++ ")."
      metadata :=
        [("source_event_id", .text event.eventId),
          ("transition_type", .text event.transitionType.value),
          ("diagnosed_fault_class", .text event.faultClass),
          ("model_system_version", .text event.modelSystemVersion),
          ("model_hash", .text event.modelHash),
          ("investigation_id", .text decision.investigationId)] }
  if event.transitionType = .cleared then
    [received,
      { id := newId 1
        assetId := event.assetId
        timestamp := now
        eventType := "ai_fault_alert_cleared"
        title := "AI fault alert cleared"
        description := event.faultClass ++ " alert cleared; investigation " ++
          decision.investigationId ++ " marked resolved."
        metadata :=
          [("investigation_id", .text decision.investigationId),
            ("diagnosed_fault_class", .text event.faultClass)] }]
  else
    [received,
      { id := newId 1
        assetId := event.assetId
        timestamp := now
        eventType := "ai_fault_corroboration_completed"
        title := "Deterministic corroboration: " ++ corroboration.result.value
        description := corroboration.notes
        metadata :=
          [("corroboration_result", .text corroboration.result.value),
            ("rule_ids", .texts corroboration.ruleIds),
            ("investigation_id", .text decision.investigationId)] },
      { id := newId 2
        assetId := event.assetId
        timestamp := now
        eventType := "ai_fault_investigation_updated"
        title := if decision.isNewInvestigation then "AI fault investigation opened"
          else "AI fault investigation updated"
        description := "Investigation " ++ decision.investigationId ++ " now concerns " ++
          event.faultClass ++
          match decision.previousDiagnosedFaultClass with
          | some previous => if previous = "" then "." else " (previously " ++ previous ++ ")."
          | none => "."
        metadata :=
          [("investigation_id", .text decision.investigationId),
            ("is_new_investigation", .flag decision.isNewInvestigation),
            ("previous_diagnosed_fault_class",
              (decision.previousDiagnosedFaultClass.map MetadataValue.text).getD .null)] }] ++
      (recommendation.map fun recommendation =>
        { id := newId 3
          assetId := event.assetId
          timestamp := now
          eventType := "ai_fault_recommendation_recorded"
          title := "Recommendation " ++ recommendation.status.value
          description := recommendation.actionSummary
          metadata :=
            [("recommendation_id", .text recommendation.id),
              ("status", .text recommendation.status.value),
              ("urgency", .text recommendation.urgency.value),
              ("investigation_id", .text decision.investigationId)] }).toList

/-- An outbox row not dispatched yet. -/
structure OutboxRow where
  id : String
  eventType : String
  payload : List (String × String)
  createdAt : Datetime
  deriving DecidableEq, Repr

/-- The announcement of a saved record. -/
def investigationUpdated (id : String) (evidence : AiFaultEvidence F J)
    (timestamp createdAt : Datetime) : OutboxRow where
  id := id
  eventType := "AiFaultInvestigationUpdated"
  payload :=
    [("asset_id", evidence.assetId), ("investigation_id", evidence.investigationId),
      ("diagnosed_fault_class", evidence.diagnosedFaultClass),
      ("investigation_status", evidence.investigationStatus.value),
      ("alert_transition_type", evidence.alertTransitionType.value),
      ("timestamp", timestamp.isoformat)]
  createdAt := createdAt

/-! ## The transaction -/

/-- What the bridge keeps: the evidence records, the timeline, the outbox rows it adds, and how
many UUIDs were set aside. -/
structure BridgeStore (F J : Type) [PyFloat F] where
  evidence : EvidenceTable F J
  timeline : List TimelineEvent
  outbox : List OutboxRow
  minted : ℕ

/-- A store without records. -/
def BridgeStore.fresh : BridgeStore F J := ⟨.empty, [], [], 0⟩

/-- `ProcessingOutcome`. -/
structure ProcessingOutcome (F J : Type) [PyFloat F] where
  evidence : AiFaultEvidence F J
  isDuplicate : Bool
  isNewInvestigation : Bool

/-- The store as it was, after a call that set UUIDs aside. -/
def BridgeStore.rolledBack (store : BridgeStore F J) : BridgeStore F J :=
  { store with minted := store.minted + 6 }

/-- What a transaction writes. -/
structure Prepared (F J : Type) [PyFloat F] where
  decision : InvestigationDecision
  evidence : AiFaultEvidence F J
  entries : List TimelineEvent

variable (env : BridgeEnvironment)

/-- The records of an event that was not met before. The UUIDs set aside for a call are those of its
investigation, of four timeline entries and of its outbox row, in this order. -/
def prepare (store : BridgeStore F J) (delivery : Delivery F J) (faultClass : FaultClass) :
    Except ServiceFailure (Prepared F J) := do
  let event := delivery.event
  let decision := decideInvestigation (env.uuid4 store.minted) event.transitionType
    event.faultClass (store.evidence.getLatestForAsset event.assetId)
  let (corroboration, recommendation) ← concludeAlert env delivery faultClass decision
  let evidence ← (AiFaultEvidence.create
    (evidenceFields event decision corroboration recommendation (delivery.clock 0))).mapError
      .evidence
  let entries := timelineEntries (fun k => env.uuid4 (store.minted + 1 + k)) (delivery.clock 1)
    event decision corroboration recommendation
  if entries.all TimelineEvent.isValid then return ⟨decision, evidence, entries⟩
  else throw .timeline

/-- The store after the commit. -/
def BridgeStore.committed (store : BridgeStore F J) (table : EvidenceTable F J)
    (prepared : Prepared F J) (delivery : Delivery F J) : BridgeStore F J where
  evidence := table
  timeline := store.timeline ++ prepared.entries
  outbox := store.outbox ++
    if env.hasEventBus then
      [investigationUpdated (env.uuid4 (store.minted + 5)) prepared.evidence (delivery.clock 2)
        (delivery.clock 3)]
    else []
  minted := store.minted + 6

/-- What the transaction of a supported event does, unless the store raises. -/
def transact (store : BridgeStore F J) (delivery : Delivery F J) (faultClass : FaultClass) :
    BridgeStore F J × Except ServiceFailure (ProcessingOutcome F J) :=
  match store.evidence.get delivery.event.eventId with
  | some existing => (store, .ok ⟨existing, true, false⟩)
  | none =>
      match prepare env store delivery faultClass with
      | .error error => (store.rolledBack, .error error)
      | .ok prepared =>
          match store.evidence.save prepared.evidence with
          | .error _ => (store.rolledBack, .error .conflict)
          | .ok table =>
              -- the dispatch follows the commit: what it raises leaves the records saved
              if env.hasEventBus ∧ env.hasOutboxDispatcher ∧
                  delivery.interruption = some .dispatch then
                (store.committed env table prepared delivery, .error .dispatch)
              else
                (store.committed env table prepared delivery,
                  .ok ⟨prepared.evidence, false, prepared.decision.isNewInvestigation⟩)

/-- `process_alert_transition`. -/
def processAlertTransition (store : BridgeStore F J) (delivery : Delivery F J) :
    BridgeStore F J × Except ProcessError (ProcessingOutcome F J) :=
  match FaultClass.ofName? delivery.event.faultClass with
  | none => (store, .error (.unsupportedFaultClass delivery.event.faultClass))
  | some faultClass =>
      if delivery.interruption = some .transaction then
        (store.rolledBack, .error (.failed .database))
      else
        let transacted := transact env store delivery faultClass
        (transacted.1, transacted.2.mapError .failed)

/-! ## What a call does -/

/-- The decision on an event, from the store before it. -/
def decisionFor (store : BridgeStore F J) (event : ValidatedAlertTransition F J) :
    InvestigationDecision :=
  decideInvestigation (env.uuid4 store.minted) event.transitionType event.faultClass
    (store.evidence.getLatestForAsset event.assetId)

/-- The record is the one of the event, under the decision on it. -/
structure RecordOf (event : ValidatedAlertTransition F J) (decision : InvestigationDecision)
    (evidence : AiFaultEvidence F J) : Prop where
  id : evidence.id = event.eventId
  sourceEventId : evidence.sourceEventId = event.eventId
  assetId : evidence.assetId = event.assetId
  observedAt : evidence.observedAt = event.sourceTimestamp
  alertTransitionType : evidence.alertTransitionType = event.transitionType
  investigationId : evidence.investigationId = decision.investigationId
  investigationStatus : evidence.investigationStatus = decision.investigationStatus

/-- What the transaction of an event can do: it fails and leaves the records; the event was met
before; or its record is added, whatever the dispatch raises then. -/
inductive TransactEffect (store : BridgeStore F J) (event : ValidatedAlertTransition F J) :
    BridgeStore F J × Except ServiceFailure (ProcessingOutcome F J) → Prop
  | failed (failure : ServiceFailure) (unmet : store.evidence.get event.eventId = none) :
      TransactEffect store event (store.rolledBack, .error failure)
  | duplicate (existing : AiFaultEvidence F J)
      (found : store.evidence.get event.eventId = some existing) :
      TransactEffect store event (store, .ok ⟨existing, true, false⟩)
  | stored (evidence : AiFaultEvidence F J) (after : BridgeStore F J)
      (result : Except ServiceFailure (ProcessingOutcome F J))
      (unmet : store.evidence.get event.eventId = none)
      (record : RecordOf event (decisionFor env store event) evidence)
      (rows : after.evidence.rows = store.evidence.rows ++ [evidence])
      (minted : after.minted = store.minted + 6)
      (returned : result = .error .dispatch ∨
        result = .ok ⟨evidence, false, (decisionFor env store event).isNewInvestigation⟩) :
      TransactEffect store event (after, result)

section Effect

variable {env} {store : BridgeStore F J} {delivery : Delivery F J} {faultClass : FaultClass}

/-- What is prepared has the decision, and the record of the event. -/
theorem prepare_eq_ok {prepared : Prepared F J}
    (h : prepare env store delivery faultClass = .ok prepared) :
    prepared.decision = decisionFor env store delivery.event ∧
      RecordOf delivery.event (decisionFor env store delivery.event) prepared.evidence := by
  rw [prepare] at h
  obtain ⟨⟨corroboration, recommendation⟩, _, h⟩ := Exceptions.bind_eq_ok.mp h
  obtain ⟨evidence, hevidence, h⟩ := Exceptions.bind_eq_ok.mp h
  have hfields := AiFaultEvidence.of_create (Exceptions.mapError_eq_ok.mp hevidence)
  dsimp only at h
  split_ifs at h
  cases h
  refine ⟨rfl, ?_⟩
  -- the fields of the record are those it was created with
  constructor <;> simp only [hfields] <;> rfl

/-- The transaction of an event does one of the three. -/
theorem transact_effect (env : BridgeEnvironment) (store : BridgeStore F J)
    (delivery : Delivery F J) (faultClass : FaultClass) :
    TransactEffect env store delivery.event (transact env store delivery faultClass) := by
  rw [transact]
  cases hget : store.evidence.get delivery.event.eventId with
  | some existing => exact .duplicate existing hget
  | none =>
      cases hprepare : prepare env store delivery faultClass with
      | error error => exact .failed error hget
      | ok prepared =>
          obtain ⟨hdecision, hrecord⟩ := prepare_eq_ok hprepare
          obtain ⟨table, hsave, hrows⟩ := save_of_new store.evidence prepared.evidence
            (by rw [hrecord.id]; exact hget)
          simp only [hsave]
          split_ifs
          · exact .stored _ _ _ hget hrecord hrows rfl (Or.inl rfl)
          · exact .stored _ _ _ hget hrecord hrows rfl (Or.inr (by rw [hdecision]))

end Effect

/-! ## Alerts of one asset -/

section Alerts

theorem isfinite_one : PyFloat.isfinite (1 : Rat) = true := rfl

/-- An alert of `stack-1` on its cooling. -/
def alert (eventId : String) (transitionType : AlertTransitionType) (second : ℤ) :
    ValidatedAlertTransition Rat Unit where
  eventId := eventId
  assetId := "stack-1"
  sourceTimestamp := .utc (1000000 * second)
  transitionType := transitionType
  fromState := if transitionType = .cleared then "confirmed_cooling_degradation" else "healthy"
  toState := if transitionType = .cleared then "healthy" else "confirmed_cooling_degradation"
  faultClass := "cooling_degradation"
  diagnosedClass := "cooling_degradation"
  evidenceItems := []
  modelSystemVersion := "1.0"
  modelHash := "model"
  policyHash := "policy"
  featureSchemaVersion := "1"
  classScores := [("cooling_degradation", 1)]
  maximumScore := 1
  assetId_ne := stack1_ne_empty
  state_eq := by split_ifs <;> rfl
  faultClass_ne := by decide
  faultClass_ne_healthy := by decide
  classScores_ne := by decide
  classScores_finite _ _ := rfl
  maximumScore_finite := isfinite_one
  maximumScore_range := by decide +kernel

/-- A delivery that nothing interrupts, without observations. -/
def delivered (event : ValidatedAlertTransition Rat Unit) : Delivery Rat Unit where
  event := event
  observations := []
  clock _ := .utc 0
  interruption := none

/-- A broker that refuses the first `n` attempts and accepts the others. -/
def refusingBridge (n : ℕ) : BridgeEnvironment where
  corroborationWindow := 900000000
  corroborationSampleLimit := 20
  hasEventBus := true
  hasOutboxDispatcher := true
  publishMaxRetries := 3
  uuid4 k := String.ofList (List.replicate (k + 1) 'i')
  uuid4_injective := by
    intro i j h
    have hlength := congrArg (fun s => s.toList.length) h
    simpa using hlength
  uuid4_ne k h := by
    have hlength := congrArg (fun s => s.toList.length) h
    simp at hlength
  uuid5 := id
  accepts attempts := n ≤ attempts
  utcNow attempts := .utc attempts

end Alerts

end Odis.ReasoningBridge
