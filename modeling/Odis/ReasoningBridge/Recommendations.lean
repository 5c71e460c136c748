import Odis.ReasoningBridge.Contract

/-!
# What recommendations rest on

The path from an alert to its recommendation, from the series that are fetched over the rules on
their trends to the policy (`corroboration.py`, `recommendation_policy.py`). The scores of the model
take no part in it.

* `definingTrends_of_applyRules`: the trends behind a class that is corroborated.
* `restsOnEvidence`: what holds of every alert that is recorded, and of another one that differs
  from it in the output of the model only.
-/

namespace Odis.ReasoningBridge

open Inference Reasoning Exceptions

variable {F J : Type} [PyFloat F]

/-! ## The rules -/

section Rules

/-- The signals that a thermal event would move, too. -/
def relatedSignals : List String := ["current", "voltage", "fuel_flow"]

/-- The trends that define a class, as those of a series of each measurement. -/
def DefiningTrends (series : String → List (Observation F)) : FaultClass → Prop
  | .coolingDegradation =>
      trend (series "stack_temperature") = .ok (some .increasing) ∧
        trend (series "coolant_flow") = .ok (some .decreasing)
  | .hydrogenSupplyIssue =>
      trend (series "fuel_flow") = .ok (some .decreasing) ∧
        trend (series "voltage") = .ok (some .decreasing)
  | .sensorAnomaly =>
      (∃ direction, trend (series "stack_temperature") = .ok (some direction) ∧
        direction ≠ .stable) ∧
      ∀ signal ∈ relatedSignals, ∀ direction, trend (series signal) = .ok (some direction) →
        direction = .stable

variable {ids : List String} {series : String → List (Observation F)}

/-- A cooling degradation is corroborated by a rising temperature and a falling flow of coolant
only. -/
theorem judgeCoolingDegradation_corroborated {temperature coolant : Option TrendDirection}
    (h : (judgeCoolingDegradation ids temperature coolant).result = .corroborated) :
    temperature = some .increasing ∧ coolant = some .decreasing := by
  unfold judgeCoolingDegradation at h
  split at h <;> simp_all

/-- A hydrogen supply issue is corroborated by falling fuel flow and voltage only. -/
theorem judgeHydrogenSupplyIssue_corroborated {fuelFlow voltage : Option TrendDirection}
    (h : (judgeHydrogenSupplyIssue ids fuelFlow voltage).result = .corroborated) :
    fuelFlow = some .decreasing ∧ voltage = some .decreasing := by
  unfold judgeHydrogenSupplyIssue at h
  split at h <;> simp_all

/-- Related signals corroborate an anomaly if none of them has moved. -/
theorem judgeRelatedSignals_corroborated {known : List TrendDirection}
    (h : (judgeRelatedSignals ids known).result = .corroborated) :
    ∀ direction ∈ known, direction = .stable := by
  unfold judgeRelatedSignals at h
  dsimp only at h
  split_ifs at h with hnil hmoved
  intro direction hmem
  have hstable := List.countP_eq_zero.mp hmoved direction hmem
  simpa using hstable

/-- A class is corroborated on its defining trends only. -/
theorem definingTrends_of_applyRules {faultClass : FaultClass} {outcome : CorroborationOutcome}
    (happly : applyRules faultClass series = .ok outcome)
    (hcorroborated : outcome.result = .corroborated) : DefiningTrends series faultClass := by
  cases faultClass with
  | coolingDegradation =>
      obtain ⟨temperature, htemperature, hrest⟩ := bind_eq_ok.mp happly
      obtain ⟨coolant, hcoolant, hjudged⟩ := bind_eq_ok.mp hrest
      rw [← Except.ok.inj hjudged] at hcorroborated
      obtain ⟨rfl, rfl⟩ := judgeCoolingDegradation_corroborated hcorroborated
      exact ⟨htemperature, hcoolant⟩
  | hydrogenSupplyIssue =>
      obtain ⟨fuelFlow, hfuelFlow, hrest⟩ := bind_eq_ok.mp happly
      obtain ⟨voltage, hvoltage, hjudged⟩ := bind_eq_ok.mp hrest
      rw [← Except.ok.inj hjudged] at hcorroborated
      obtain ⟨rfl, rfl⟩ := judgeHydrogenSupplyIssue_corroborated hcorroborated
      exact ⟨hfuelFlow, hvoltage⟩
  -- the temperature must move while none of the related signals does
  | sensorAnomaly =>
      obtain ⟨temperature, htemperature, hrest⟩ := bind_eq_ok.mp happly
      split at hrest
      · rw [← Except.ok.inj hrest] at hcorroborated
        cases hcorroborated
      · rw [← Except.ok.inj hrest] at hcorroborated
        cases hcorroborated
      next direction hunstable =>
        obtain ⟨related, hrelated, hjudged⟩ := bind_eq_ok.mp hrest
        rw [← Except.ok.inj hjudged] at hcorroborated
        refine ⟨⟨direction, htemperature, hunstable⟩, ?_⟩
        intro signal hsignal direction hdirection
        refine judgeRelatedSignals_corroborated hcorroborated direction ?_
        -- the trend of the signal is among those that are judged
        have hmapped : (relatedSignals.map series).mapM trend = .ok related := hrelated
        have hknown : some direction ∈ related :=
          (mem_of_mapM hmapped).mpr ⟨_, List.mem_map_of_mem hsignal, hdirection⟩
        exact List.mem_filterMap.mpr ⟨some direction, hknown, rfl⟩

end Rules

/-! ## The policy -/

section Policy

/-- A recommendation has the status that it was made with. -/
theorem status_of_create {id actionSummary reason limitations : String}
    {status : FaultRecommendationStatus} {category : FaultRecommendationCategory}
    {urgency : FaultUrgency} {ruleIds observationIds steps : List String}
    {recommendation : FaultRecommendation}
    (h : FaultRecommendation.create id status category urgency actionSummary reason ruleIds
      observationIds steps limitations = .ok recommendation) : recommendation.status = status := by
  unfold FaultRecommendation.create at h
  split_ifs at h
  rw [← Except.ok.inj h]

/-- A recommendation is produced for a class that is corroborated, if only in part. -/
theorem status_buildRecommendation {recommendationId : String} {faultClass : FaultClass}
    {outcome : CorroborationOutcome} {recommendation : FaultRecommendation}
    (h : buildRecommendation recommendationId faultClass outcome = .ok recommendation) :
    recommendation.status = .produced ↔
      outcome.result = .corroborated ∨ outcome.result = .partiallyCorroborated := by
  unfold buildRecommendation at h
  split at h
  next hresult => simp [status_of_create h, hresult]
  next hresult => simp [status_of_create h, hresult]
  next hresult => simp [status_of_create h, hresult]
  next hcorroborated hpartially _ =>
    rw [status_of_create h]
    refine iff_of_false (by decide) ?_
    rintro (hresult | hresult)
    · exact hcorroborated hresult
    · exact hpartially hresult

end Policy

/-! ## Records -/

section Records

/-- The record that the bridge makes of an alert. -/
def Records (env : BridgeEnvironment) (store : BridgeStore F J) (delivery : Delivery F J)
    (evidence : AiFaultEvidence F J) : Prop :=
  (processAlertTransition env store delivery).1.evidence.rows = store.evidence.rows ++ [evidence]

variable {env : BridgeEnvironment} {store : BridgeStore F J} {delivery : Delivery F J}
  {evidence : AiFaultEvidence F J}

/-- What is concluded on an alert, in two steps. -/
theorem concludeAlert_opened {faultClass : FaultClass} {decision : InvestigationDecision}
    {conclusion : CorroborationOutcome × Option FaultRecommendation}
    (hopened : delivery.event.transitionType ≠ .cleared)
    (hconclude : concludeAlert env delivery faultClass decision = .ok conclusion) :
    corroborate env delivery faultClass = .ok conclusion.1 ∧
      ∃ recommendation, buildRecommendation
        ("ai-fault-rec-" ++ decision.investigationId ++ "-" ++ delivery.event.eventId) faultClass
        conclusion.1 = .ok recommendation ∧ conclusion.2 = some recommendation := by
  unfold concludeAlert at hconclude
  rw [if_neg hopened] at hconclude
  obtain ⟨outcome, houtcome, hrest⟩ := bind_eq_ok.mp hconclude
  obtain ⟨recommendation, hbuilt, hrest⟩ := bind_eq_ok.mp hrest
  obtain rfl := Except.ok.inj hrest
  exact ⟨houtcome, recommendation, mapError_eq_ok.mp hbuilt, rfl⟩

/-- What is recorded has been prepared. -/
theorem records_iff : Records env store delivery evidence ↔
    ∃ faultClass prepared, FaultClass.ofName? delivery.event.faultClass = some faultClass ∧
      delivery.interruption ≠ some .transaction ∧
      store.evidence.get delivery.event.eventId = none ∧
      prepare env store delivery faultClass = .ok prepared ∧ prepared.evidence = evidence := by
  unfold Records processAlertTransition
  cases hclass : FaultClass.ofName? delivery.event.faultClass with
  | none => simp
  | some faultClass =>
      dsimp only
      split_ifs with hinterrupted
      · simp [hinterrupted, BridgeStore.rolledBack]
      · cases hget : store.evidence.get delivery.event.eventId with
        | some existing => simp [transact, hget]
        | none =>
            cases hprepare : prepare env store delivery faultClass with
            | error failure => simp [transact, hget, hprepare, BridgeStore.rolledBack]
            | ok prepared =>
                -- the id is new, so the evidence can be saved, and what follows does not take it
                -- back
                obtain ⟨table, hsave, hrows⟩ := save_of_new store.evidence prepared.evidence
                  (by rw [(prepare_eq_ok hprepare).2.id]; exact hget)
                have hafter : (transact env store delivery faultClass).1.evidence.rows =
                    store.evidence.rows ++ [prepared.evidence] := by
                  simp only [transact, hget, hprepare, hsave]
                  split_ifs <;> exact hrows
                simp [hafter, hinterrupted, hprepare]

/-- The conclusion on an alert, as it is in its record. -/
structure RecordsConclusion (evidence : AiFaultEvidence F J)
    (conclusion : CorroborationOutcome × Option FaultRecommendation) : Prop where
  corroborationResult : evidence.corroborationResult = conclusion.1.result
  corroborationRuleIds : evidence.corroborationRuleIds = conclusion.1.ruleIds
  corroborationNotes : evidence.corroborationNotes = conclusion.1.notes
  recommendation : evidence.recommendation = conclusion.2

/-- What is prepared for an alert, from the conclusion on it. -/
theorem exists_concluded_of_prepare {faultClass : FaultClass} {prepared : Prepared F J}
    (h : prepare env store delivery faultClass = .ok prepared) :
    ∃ conclusion, concludeAlert env delivery faultClass (decisionFor env store delivery.event) =
      .ok conclusion ∧
      prepared.evidence.toEvidenceFields = evidenceFields delivery.event
        (decisionFor env store delivery.event) conclusion.1 conclusion.2 (delivery.clock 0) ∧
      prepared.entries = timelineEntries (fun k => env.uuid4 (store.minted + 1 + k))
        (delivery.clock 1) delivery.event (decisionFor env store delivery.event) conclusion.1
        conclusion.2 := by
  obtain ⟨conclusion, hconclude, hrest⟩ := bind_eq_ok.mp h
  refine ⟨conclusion, hconclude, ?_⟩
  obtain ⟨evidence, hevidence, hrest⟩ := bind_eq_ok.mp hrest
  have hfields := AiFaultEvidence.of_create (mapError_eq_ok.mp hevidence)
  dsimp only at hrest
  split_ifs at hrest
  rw [← Except.ok.inj hrest]
  exact ⟨hfields, rfl⟩

/-- What is prepared records the conclusion of the alert. -/
theorem exists_conclusion_of_prepare {faultClass : FaultClass} {prepared : Prepared F J}
    (h : prepare env store delivery faultClass = .ok prepared) :
    ∃ conclusion, concludeAlert env delivery faultClass (decisionFor env store delivery.event) =
      .ok conclusion ∧ RecordsConclusion prepared.evidence conclusion := by
  obtain ⟨conclusion, hconclude, hfields, -⟩ := exists_concluded_of_prepare h
  refine ⟨conclusion, hconclude, ?_⟩
  constructor <;> rw [hfields] <;> rfl

end Records

/-! ## Two alerts -/

section Independence

/-- Two alerts that differ in the output of the model only: in the scores, the class that it
diagnosed or the items of evidence. -/
structure SameAlert (event event' : ValidatedAlertTransition F J) : Prop where
  eventId : event'.eventId = event.eventId
  assetId : event'.assetId = event.assetId
  sourceTimestamp : event'.sourceTimestamp = event.sourceTimestamp
  transitionType : event'.transitionType = event.transitionType
  fromState : event'.fromState = event.fromState
  toState : event'.toState = event.toState
  faultClass : event'.faultClass = event.faultClass
  modelSystemVersion : event'.modelSystemVersion = event.modelSystemVersion
  modelHash : event'.modelHash = event.modelHash
  policyHash : event'.policyHash = event.policyHash
  featureSchemaVersion : event'.featureSchemaVersion = event.featureSchemaVersion

/-- Two such alerts are delivered alike, at whatever times. -/
structure SameDelivery (delivery delivery' : Delivery F J) : Prop where
  event : SameAlert delivery.event delivery'.event
  observations : delivery'.observations = delivery.observations
  interruption : delivery'.interruption = delivery.interruption

/-- The corroboration, and the whole recommendation with its urgency, status, steps and the
observations it cites. -/
structure SameConclusion (evidence evidence' : AiFaultEvidence F J) : Prop where
  corroborationResult : evidence'.corroborationResult = evidence.corroborationResult
  corroborationRuleIds : evidence'.corroborationRuleIds = evidence.corroborationRuleIds
  corroborationNotes : evidence'.corroborationNotes = evidence.corroborationNotes
  recommendation : evidence'.recommendation = evidence.recommendation

variable {env : BridgeEnvironment} {store : BridgeStore F J} {delivery delivery' : Delivery F J}

/-- The decision depends on the event and the records only. -/
theorem SameDelivery.decisionFor_eq (h : SameDelivery delivery delivery') :
    decisionFor env store delivery'.event = decisionFor env store delivery.event := by
  unfold decisionFor
  rw [h.event.assetId, h.event.transitionType, h.event.faultClass]

/-- The output of the model takes no part in the conclusion. -/
theorem SameDelivery.concludeAlert_eq (h : SameDelivery delivery delivery')
    (faultClass : FaultClass) (decision : InvestigationDecision) :
    concludeAlert env delivery' faultClass decision =
      concludeAlert env delivery faultClass decision := by
  have hcorroborate :
      corroborate env delivery' faultClass = corroborate env delivery faultClass := by
    unfold corroborate
    rw [h.event.sourceTimestamp, h.event.assetId, h.observations]
  unfold concludeAlert
  rw [hcorroborate, h.event.transitionType, h.event.eventId]

/-- An alert is prepared if one that differs in the output of the model is. -/
theorem SameDelivery.exists_prepare (h : SameDelivery delivery delivery') {faultClass : FaultClass}
    {prepared : Prepared F J} (hprepare : prepare env store delivery faultClass = .ok prepared) :
    ∃ prepared', prepare env store delivery' faultClass = .ok prepared' := by
  obtain ⟨-, htexts⟩ := of_prepare hprepare
  obtain ⟨conclusion, hconclude, -⟩ := exists_conclusion_of_prepare hprepare
  cases hprepare' : prepare env store delivery' faultClass with
  | ok prepared' => exact ⟨prepared', rfl⟩
  | error failure =>
      rcases of_prepare_eq_error hprepare' with hfailed | hempty
      · rw [h.decisionFor_eq, h.concludeAlert_eq, hconclude] at hfailed
        cases hfailed
      · have hsame : delivery'.event.persistedTexts = delivery.event.persistedTexts := by
          unfold ValidatedAlertTransition.persistedTexts
          rw [h.event.eventId, h.event.modelSystemVersion, h.event.modelHash, h.event.policyHash,
            h.event.featureSchemaVersion]
        rw [hsame] at hempty
        exact absurd htexts hempty

/-- Alerts that are delivered alike lead to the same conclusion. -/
theorem SameDelivery.exists_records (h : SameDelivery delivery delivery')
    {evidence : AiFaultEvidence F J} (hrecords : Records env store delivery evidence) :
    ∃ evidence', Records env store delivery' evidence' ∧ SameConclusion evidence evidence' := by
  obtain ⟨faultClass, prepared, hclass, hcalm, hget, hprepare, rfl⟩ := records_iff.mp hrecords
  obtain ⟨prepared', hprepare'⟩ := h.exists_prepare hprepare
  refine ⟨prepared'.evidence,
    records_iff.mpr ⟨faultClass, prepared', ?_, ?_, ?_, hprepare', rfl⟩, ?_⟩
  · rw [h.event.faultClass]
    exact hclass
  · rw [h.interruption]
    exact hcalm
  · rw [h.event.eventId]
    exact hget
  · obtain ⟨conclusion, hconclude, hrecorded⟩ := exists_conclusion_of_prepare hprepare
    obtain ⟨conclusion', hconclude', hrecorded'⟩ := exists_conclusion_of_prepare hprepare'
    -- both conclude from the same decision and the same observations
    rw [h.decisionFor_eq, h.concludeAlert_eq, hconclude] at hconclude'
    obtain rfl := Except.ok.inj hconclude'
    exact
      { corroborationResult :=
          hrecorded'.corroborationResult.trans hrecorded.corroborationResult.symm
        corroborationRuleIds :=
          hrecorded'.corroborationRuleIds.trans hrecorded.corroborationRuleIds.symm
        corroborationNotes :=
          hrecorded'.corroborationNotes.trans hrecorded.corroborationNotes.symm
        recommendation := hrecorded'.recommendation.trans hrecorded.recommendation.symm }

end Independence

/-! ## Recommendations -/

section Recommendations

/-- What the bridge records of an alert rests on deterministic evidence. -/
structure RestsOnEvidence (env : BridgeEnvironment) (store : BridgeStore F J)
    (delivery : Delivery F J) : Prop where
  produced : delivery.event.transitionType ≠ .cleared →
    ∀ evidence, Records env store delivery evidence →
      ∃ recommendation, evidence.recommendation = some recommendation ∧
        (recommendation.status = .produced ↔
          evidence.corroborationResult = .corroborated ∨
            evidence.corroborationResult = .partiallyCorroborated)
  corroborated : ∀ evidence, Records env store delivery evidence →
    evidence.corroborationResult = .corroborated →
      ∃ faultClass start, FaultClass.ofName? delivery.event.faultClass = some faultClass ∧
        delivery.event.sourceTimestamp.sub? env.corroborationWindow = some start ∧
        DefiningTrends (fetchSeries env delivery start) faultClass
  independent : ∀ delivery', SameDelivery delivery delivery' →
    ∀ evidence, Records env store delivery evidence →
      ∃ evidence', Records env store delivery' evidence' ∧ SameConclusion evidence evidence'

/-- Recommendations rest on deterministic evidence, in every state of the store. -/
theorem restsOnEvidence (env : BridgeEnvironment) (store : BridgeStore F J)
    (delivery : Delivery F J) : RestsOnEvidence env store delivery := by
  refine ⟨?_, ?_, ?_⟩
  · intro hopened evidence hrecords
    obtain ⟨faultClass, prepared, -, -, -, hprepare, rfl⟩ := records_iff.mp hrecords
    obtain ⟨conclusion, hconclude, hrecorded⟩ := exists_conclusion_of_prepare hprepare
    obtain ⟨-, recommendation, hbuilt, hsome⟩ := concludeAlert_opened hopened hconclude
    refine ⟨recommendation, hrecorded.recommendation.trans hsome, ?_⟩
    rw [hrecorded.corroborationResult]
    exact status_buildRecommendation hbuilt
  · intro evidence hrecords hcorroborated
    obtain ⟨faultClass, prepared, hclass, -, -, hprepare, rfl⟩ := records_iff.mp hrecords
    obtain ⟨conclusion, hconclude, hrecorded⟩ := exists_conclusion_of_prepare hprepare
    rw [hrecorded.corroborationResult] at hcorroborated
    -- a clearing transition is not corroborated
    by_cases hcleared : delivery.event.transitionType = .cleared
    · unfold concludeAlert at hconclude
      rw [if_pos hcleared] at hconclude
      rw [← Except.ok.inj hconclude] at hcorroborated
      cases hcorroborated
    · obtain ⟨houtcome, -⟩ := concludeAlert_opened hcleared hconclude
      rw [corroborate_eq] at houtcome
      cases hstart : delivery.event.sourceTimestamp.sub? env.corroborationWindow with
      | none =>
          rw [hstart] at houtcome
          cases houtcome
      | some start =>
          rw [hstart] at houtcome
          exact ⟨faultClass, start, hclass, rfl,
            definingTrends_of_applyRules (mapError_eq_ok.mp houtcome) hcorroborated⟩
  · intro delivery' hsame evidence hrecords
    exact hsame.exists_records hrecords

end Recommendations

end Odis.ReasoningBridge
