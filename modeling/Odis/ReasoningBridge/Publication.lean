import Odis.Library.RetryPublisher
import Odis.Library.Transducer
import Odis.ReasoningBridge.Service

/-!
# Publishing reasoning results

`ReasoningBridgeWorker` (`reasoning_bridge/worker.py`) processes an alert transition and publishes
its result (`output_events.py`). The record of the event is saved before the result is published,
and an event whose record exists is answered without a publish, so a result that was refused once is
not published when the event is delivered again.

* `redelivery_not_published`: a run in which a redelivered event is answered, and never published.
* `answered_published_iff`: the runs in which every event that is answered was published.
-/

namespace Odis.ReasoningBridge

open RetryPublisher

variable {F J : Type} [PyFloat F]

/-- `REASONING_RULE_VERSION`. -/
def reasoningRuleVersion : String := "1.0"

/-- `FaultReasoningResultEventV1`. -/
structure FaultReasoningResultEvent where
  eventId : String
  eventVersion : String
  occurredAt : Datetime
  sourceAlertEventId : String
  assetId : String
  diagnosedClass : String
  corroborationResult : CorroborationResult
  investigationId : String
  operationalSituationId : Option String
  recommendationStatus : Option FaultRecommendationStatus
  recommendationActionSummary : Option String
  urgency : Option FaultUrgency
  supportingRuleIds : List String
  supportingObservationIds : List String
  modelSystemVersion : String
  modelHash : String
  reasoningRuleVersion : String
  deriving DecidableEq, Repr

/-- `build_reasoning_result_event`. -/
def buildReasoningResultEvent (uuid5 : String → String) (evidence : AiFaultEvidence F J)
    (now : Datetime) : FaultReasoningResultEvent where
  eventId := uuid5 ("|".intercalate
    ["fault_reasoning_result.v1", evidence.sourceEventId, evidence.investigationId])
  eventVersion := "v1"
  occurredAt := now
  sourceAlertEventId := evidence.sourceEventId
  assetId := evidence.assetId
  diagnosedClass := evidence.diagnosedFaultClass
  corroborationResult := evidence.corroborationResult
  investigationId := evidence.investigationId
  operationalSituationId := none
  recommendationStatus := evidence.recommendation.map FaultRecommendation.status
  recommendationActionSummary := evidence.recommendation.map FaultRecommendation.actionSummary
  urgency := evidence.recommendation.map FaultRecommendation.urgency
  supportingRuleIds := (evidence.recommendation.map FaultRecommendation.supportingRuleIds).getD []
  supportingObservationIds :=
    (evidence.recommendation.map FaultRecommendation.supportingObservationIds).getD []
  modelSystemVersion := evidence.modelSystemVersion
  modelHash := evidence.modelHash
  reasoningRuleVersion := ReasoningBridge.reasoningRuleVersion

/-- The state of a worker: its store, and the broker with the keys and results it has accepted. -/
structure ReasoningBridgeWorker (F J : Type) [PyFloat F] where
  store : BridgeStore F J
  broker : Broker (String × FaultReasoningResultEvent)

namespace ReasoningBridgeWorker

/-- A worker that was just started, on an empty store. -/
def fresh : ReasoningBridgeWorker F J := ⟨.fresh, .fresh⟩

variable (env : BridgeEnvironment)

/-- The result of a record is published, with retries. -/
def publishResult (worker : ReasoningBridgeWorker F J) (evidence : AiFaultEvidence F J) :
    ReasoningBridgeWorker F J × Bool :=
  let event := buildReasoningResultEvent env.uuid5 evidence (env.utcNow worker.broker.attempts)
  let published := publish env.accepts (event.assetId, event) env.publishMaxRetries worker.broker
  ({ worker with broker := published.1 }, published.2)

/-- What `_handle_message` does with a valid event. -/
def handleEvent (worker : ReasoningBridgeWorker F J) (delivery : Delivery F J) :
    ReasoningBridgeWorker F J × Bool :=
  let processed := processAlertTransition env worker.store delivery
  let worker := { worker with store := processed.1 }
  match processed.2 with
  | .error (.unsupportedFaultClass _) => (worker, true)
  | .error (.failed _) => (worker, false)
  | .ok outcome =>
      -- a duplicate is answered here, before the publish
      if outcome.isDuplicate then (worker, true) else publishResult env worker outcome.evidence

end ReasoningBridgeWorker

/-! ## Answered and published events -/

/-- The result of a record was published. -/
def ResultPublished (uuid5 : String → String) (log : List (String × FaultReasoningResultEvent))
    (evidence : AiFaultEvidence F J) : Prop :=
  ∃ now, (evidence.assetId, buildReasoningResultEvent uuid5 evidence now) ∈ log

/-- The event has a record, whose result was published. -/
def EventPublished (env : BridgeEnvironment) (worker : ReasoningBridgeWorker F J)
    (event : ValidatedAlertTransition F J) : Prop :=
  ∃ evidence, worker.store.evidence.get event.eventId = some evidence ∧
    ResultPublished env.uuid5 worker.broker.log evidence

/-- If the delivery is answered with `True`, the result of its event was published. -/
def AnsweredPublished (env : BridgeEnvironment) (worker : ReasoningBridgeWorker F J)
    (delivery : Delivery F J) : Prop :=
  (worker.handleEvent env delivery).2 = true →
    EventPublished env (worker.handleEvent env delivery).1 delivery.event

/-- Unless the store raises, the event has no record yet or its result was published. -/
def NoUnpublishedRecord (env : BridgeEnvironment) (worker : ReasoningBridgeWorker F J)
    (delivery : Delivery F J) : Prop :=
  delivery.interruption ≠ some .transaction →
    ∀ evidence ∈ worker.store.evidence.get delivery.event.eventId,
      ResultPublished env.uuid5 worker.broker.log evidence

section Publication

variable {env : BridgeEnvironment} {worker : ReasoningBridgeWorker F J} {delivery : Delivery F J}

/-- A result is published exactly if an attempt of it is accepted. -/
theorem resultPublished_publishResult (evidence : AiFaultEvidence F J)
    (h : (worker.publishResult env evidence).2 = true) :
    ResultPublished env.uuid5 (worker.publishResult env evidence).1.broker.log evidence := by
  refine ⟨env.utcNow worker.broker.attempts, ?_⟩
  simp only [ReasoningBridgeWorker.publishResult] at h ⊢
  rw [log_publish, h, if_pos rfl]
  exact List.mem_append_right _ (List.mem_singleton_self _)

/-- The record that a transaction adds is found under the id of its event. -/
theorem get_stored {table : EvidenceTable F J} {event : ValidatedAlertTransition F J}
    {evidence : AiFaultEvidence F J} (hid : evidence.id = event.eventId)
    (hmem : evidence ∈ table.rows) : table.get event.eventId = some evidence := by
  rw [← hid]
  exact get_of_mem hmem

/-- What a delivery of a supported event comes to, unless the store raises. -/
theorem handleEvent_of_supported {faultClass : FaultClass}
    (hclass : FaultClass.ofName? delivery.event.faultClass = some faultClass)
    (hstore : delivery.interruption ≠ some .transaction) :
    worker.handleEvent env delivery =
      match transact env worker.store delivery faultClass with
      | (store, .error _) => ({ worker with store }, false)
      | (store, .ok outcome) =>
          if outcome.isDuplicate then ({ worker with store }, true)
          else ({ worker with store } : ReasoningBridgeWorker F J).publishResult env
            outcome.evidence := by
  simp only [ReasoningBridgeWorker.handleEvent, processAlertTransition, hclass, if_neg hstore]
  rcases transact env worker.store delivery faultClass with ⟨store, failure | outcome⟩ <;> rfl

/-- A delivery of a supported event is answered only if its event is published, exactly if it meets
no unpublished record. -/
theorem answeredPublished_iff (hsupported : isSupportedFaultClass delivery.event.faultClass) :
    AnsweredPublished env worker delivery ↔ NoUnpublishedRecord env worker delivery := by
  obtain ⟨faultClass, hclass⟩ := Option.isSome_iff_exists.mp hsupported
  rw [AnsweredPublished, NoUnpublishedRecord]
  by_cases hstore : delivery.interruption = some .transaction
  · -- the store raises: the delivery is not answered
    have hfalse : (worker.handleEvent env delivery).2 = false := by
      simp only [ReasoningBridgeWorker.handleEvent, processAlertTransition, hclass, if_pos hstore]
    simp [hfalse, hstore]
  rw [forall_prop_of_true hstore, handleEvent_of_supported hclass hstore]
  have heffect := transact_effect env worker.store delivery faultClass
  generalize transact env worker.store delivery faultClass = transacted at heffect ⊢
  cases heffect with
  | failed failure unmet => simp [unmet]
  -- a duplicate is answered without publishing anything
  | duplicate existing found => simp [found, EventPublished]
  | stored evidence after result unmet record rows minted returned =>
      have hstored : after.evidence.get delivery.event.eventId = some evidence :=
        get_stored record.id (by
          rw [rows]
          exact List.mem_append_right _ (List.mem_singleton_self _))
      refine iff_of_true (fun hanswered => ?_) (by simp [unmet])
      rcases returned with rfl | rfl
      · -- the dispatch raised: the event is not answered
        cases hanswered
      · exact ⟨evidence, hstored, resultPublished_publishResult evidence hanswered⟩

/-- In a run of supported events, every event that is answered was published, exactly if no delivery
meets a record whose result was not published. -/
theorem answered_published_iff (env : BridgeEnvironment) (worker : ReasoningBridgeWorker F J)
    (deliveries : List (Delivery F J))
    (hsupported : ∀ delivery ∈ deliveries, isSupportedFaultClass delivery.event.faultClass) :
    Transducer.Along (ReasoningBridgeWorker.handleEvent env) (AnsweredPublished env) worker
        deliveries ↔
      Transducer.Along (ReasoningBridgeWorker.handleEvent env) (NoUnpublishedRecord env) worker
        deliveries := by
  induction deliveries generalizing worker with
  | nil => exact Iff.rfl
  | cons delivery rest ih =>
      rw [Transducer.Along, Transducer.Along,
        answeredPublished_iff (hsupported delivery List.mem_cons_self)]
      exact and_congr_right fun _ => ih _ fun d hd => hsupported d (List.mem_cons_of_mem _ hd)

end Publication

/-! ## The defect -/

section Redelivery

/-- An alert, and the same alert again. -/
def alertTwice : List (Delivery Rat Unit) :=
  [delivered (alert "alert-1" .confirmed 10), delivered (alert "alert-1" .confirmed 10)]

/-- Three attempts to publish the result are refused, and the fourth is accepted. -/
theorem answered_published_retries :
    Transducer.Along (ReasoningBridgeWorker.handleEvent (refusingBridge 3))
      (AnsweredPublished (refusingBridge 3)) .fresh alertTwice := by
  refine (answered_published_iff (refusingBridge 3) .fresh alertTwice (by decide)).mpr ⟨?_, ?_, ?_⟩
  · exact fun _ evidence hevidence => absurd hevidence (by simp [ReasoningBridgeWorker.fresh,
      BridgeStore.fresh, EvidenceTable.get])
  · have hpublished : ∀ evidence ∈ (ReasoningBridgeWorker.handleEvent (refusingBridge 3) .fresh
        (delivered (alert "alert-1" .confirmed 10))).1.store.evidence.get "alert-1",
        (evidence.assetId, buildReasoningResultEvent id evidence (.utc 0)) ∈
          (ReasoningBridgeWorker.handleEvent (refusingBridge 3) .fresh
            (delivered (alert "alert-1" .confirmed 10))).1.broker.log := by
      decide +kernel
    exact fun _ evidence hevidence => ⟨.utc 0, hpublished evidence hevidence⟩
  · trivial

/-- All four attempts to publish the result are refused. The alert is delivered again and answered
as a duplicate; its result is never published. -/
theorem redelivery_not_published :
    (∀ delivery ∈ alertTwice, isSupportedFaultClass delivery.event.faultClass) ∧
      ¬ Transducer.Along (ReasoningBridgeWorker.handleEvent (refusingBridge 4))
        (AnsweredPublished (refusingBridge 4)) .fresh alertTwice := by
  refine ⟨by decide, ?_⟩
  rintro ⟨_, hsecond, _⟩
  obtain ⟨evidence, _, now, hmem⟩ := hsecond (by decide +kernel)
  have hlog : (Transducer.after (ReasoningBridgeWorker.handleEvent (refusingBridge 4)) .fresh
      alertTwice).broker.log = [] := by
    decide +kernel
  exact List.not_mem_nil (hlog ▸ hmem)

end Redelivery

end Odis.ReasoningBridge
