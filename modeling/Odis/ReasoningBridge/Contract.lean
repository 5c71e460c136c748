import Odis.ReasoningBridge.InputEvents

/-!
# Messages that can be processed

The validator of the bridge and the constructor of an evidence record were written apart: the
constructor refuses empty texts that the validator lets through, and the window before a timestamp
may start before the first year. An event that is refused so is refused on every delivery.

* `processable_iff`: the events that the service can process in every state.
* `noPoison_iff`: the messages that are rejected, or accepted as such an event.
-/

namespace Odis.ReasoningBridge

open Inference Reasoning

variable {F J : Type} [PyFloat F] (env : BridgeEnvironment)

/-! ## Events -/

/-- The texts of an event that its record must not have empty. -/
def ValidatedAlertTransition.persistedTexts (event : ValidatedAlertTransition F J) : List String :=
  [event.eventId, event.modelSystemVersion, event.modelHash, event.policyHash,
    event.featureSchemaVersion]

/-- The window that the alert is corroborated in starts at some date. -/
def WindowExists (event : ValidatedAlertTransition F J) : Prop :=
  event.transitionType = .cleared ∨
    (event.sourceTimestamp.sub? env.corroborationWindow).isSome = true

/-- The constructors of an event's records never raise, and in every state of the store some
observations have it recorded. -/
structure Processable (event : ValidatedAlertTransition F J) : Prop where
  constructs : ∀ (store : BridgeStore F J) (delivery : Delivery F J), delivery.event = event →
    ∀ error, (processAlertTransition env store delivery).2 ≠ .error (.failed (.evidence error))
  persists : ∀ store : BridgeStore F J, ∃ delivery : Delivery F J, delivery.event = event ∧
    ∃ outcome, (processAlertTransition env store delivery).2 = .ok outcome

section Events

variable {env} {store : BridgeStore F J} {delivery : Delivery F J} {faultClass : FaultClass}
  {decision : InvestigationDecision}

/-- An investigation has an id, new or not. -/
theorem decideInvestigation_investigationId_ne {newId : String} (hnew : newId ≠ "")
    (transitionType : AlertTransitionType) (name : String)
    (active : Option (AiFaultEvidence F J)) :
    (decideInvestigation newId transitionType name active).investigationId ≠ "" := by
  cases active with
  | none => exact hnew
  | some row =>
      have hrow := (EvidenceFields.check_eq_none_iff.mp row.checked).2.2
      rw [decideInvestigation]
      -- the id of the row where its investigation goes on
      split_ifs
      · exact hrow
      · exact hrow
      · exact hrow
      · exact hnew

/-- A corroboration always comes with notes. -/
theorem corroborate_notes {outcome : CorroborationOutcome}
    (h : corroborate env delivery faultClass = .ok outcome) : outcome.notes ≠ "" := by
  rw [corroborate] at h
  split at h
  · exact nomatch h
  · cases faultClass with
    | coolingDegradation =>
        exact corroborateCoolingDegradation_notes (Exceptions.mapError_eq_ok.mp h)
    | hydrogenSupplyIssue =>
        exact corroborateHydrogenSupplyIssue_notes (Exceptions.mapError_eq_ok.mp h)
    | sensorAnomaly => exact corroborateSensorAnomaly_notes (Exceptions.mapError_eq_ok.mp h)

/-- It does not fail on the evidence. -/
theorem corroborate_ne_evidence {error : EvidenceError} :
    corroborate env delivery faultClass ≠ .error (.evidence error) := by
  rw [corroborate]
  split
  · exact fun h => nomatch h
  · exact Exceptions.mapError_ne_error fun _ h => nomatch h

omit [PyFloat F] in
/-- Without observations there is nothing to corroborate with. -/
theorem listByAssetInTimeRange_nil (assetId measurementType : String) (start finish : Datetime)
    (limit : ℕ) (newestFirst : Bool) :
    listByAssetInTimeRange ([] : List (Observation F)) assetId start finish measurementType limit
      newestFirst = [] := by
  simp [listByAssetInTimeRange]

/-- Without observations there is too little to corroborate with. -/
theorem exists_corroborate (faultClass : FaultClass) (hempty : delivery.observations = [])
    (hwindow : (delivery.event.sourceTimestamp.sub? env.corroborationWindow).isSome = true) :
    ∃ outcome, corroborate env delivery faultClass = .ok outcome := by
  obtain ⟨start, hstart⟩ := Option.isSome_iff_exists.mp hwindow
  simp only [corroborate, hstart, hempty, listByAssetInTimeRange_nil]
  cases faultClass <;> exact ⟨_, rfl⟩

omit [PyFloat F] in
/-- A recommendation has an id. -/
theorem recommendationId_ne (decision : InvestigationDecision) (eventId : String) :
    "ai-fault-rec-" ++ decision.investigationId ++ "-" ++ eventId ≠ "" := by
  simp

/-- Concluding an alert does not fail on the evidence. -/
theorem concludeAlert_ne_evidence {error : EvidenceError} :
    concludeAlert env delivery faultClass decision ≠ .error (.evidence error) := by
  rw [concludeAlert]
  split_ifs
  · exact fun h => nomatch h
  · refine Exceptions.bind_ne_error corroborate_ne_evidence fun outcome houtcome => ?_
    obtain ⟨recommendation, hrecommendation⟩ :=
      exists_buildRecommendation (recommendationId_ne decision delivery.event.eventId) faultClass
        (corroborate_notes houtcome)
    rw [hrecommendation]
    exact fun h => nomatch h

/-- What is concluded has notes, and is concluded where the window exists. -/
theorem concludeAlert_eq_ok {corroboration : CorroborationOutcome}
    {recommendation : Option FaultRecommendation}
    (h : concludeAlert env delivery faultClass decision = .ok (corroboration, recommendation)) :
    corroboration.notes ≠ "" ∧ WindowExists env delivery.event := by
  rw [concludeAlert] at h
  split_ifs at h with hcleared
  · cases h
    exact ⟨by simp [clearedOutcome], Or.inl hcleared⟩
  · obtain ⟨outcome, houtcome, h⟩ := Exceptions.bind_eq_ok.mp h
    obtain ⟨recommendation, -, h⟩ := Exceptions.bind_eq_ok.mp h
    cases h
    refine ⟨corroborate_notes houtcome, Or.inr ?_⟩
    rw [corroborate] at houtcome
    cases hstart : delivery.event.sourceTimestamp.sub? env.corroborationWindow with
    | some start => rfl
    | none =>
        rw [hstart] at houtcome
        exact nomatch houtcome

/-- Without observations an alert is concluded, if its window exists. -/
theorem exists_concludeAlert (faultClass : FaultClass) (decision : InvestigationDecision)
    (hempty : delivery.observations = [])
    (hwindow : WindowExists env delivery.event) :
    ∃ concluded, concludeAlert env delivery faultClass decision = .ok concluded := by
  rw [concludeAlert]
  split_ifs with hcleared
  · exact ⟨_, rfl⟩
  · obtain ⟨outcome, houtcome⟩ :=
      exists_corroborate faultClass hempty (hwindow.resolve_left hcleared)
    obtain ⟨recommendation, hrecommendation⟩ :=
      exists_buildRecommendation (recommendationId_ne decision delivery.event.eventId) faultClass
        (corroborate_notes houtcome)
    refine ⟨(outcome, some recommendation), Exceptions.bind_eq_ok.mpr ⟨outcome, houtcome,
      Exceptions.bind_eq_ok.mpr ?_⟩⟩
    exact ⟨recommendation, Exceptions.mapError_eq_ok.mpr hrecommendation, rfl⟩

/-- The timeline accepts the entries of an event. -/
theorem timelineEntries_isValid {newId : ℕ → String} (hnew : ∀ k, newId k ≠ "") (now : Datetime)
    (event : ValidatedAlertTransition F J) {corroboration : CorroborationOutcome}
    (hnotes : corroboration.notes ≠ "") (recommendation : Option FaultRecommendation) :
    (timelineEntries newId now event decision corroboration recommendation).all
      TimelineEvent.isValid = true := by
  rw [timelineEntries]
  -- the entries of a cleared alert, and those of others with or without a recommendation
  split_ifs
  · simp [TimelineEvent.isValid, hnew, event.assetId_ne]
  all_goals
    cases recommendation with
    | none => simp [TimelineEvent.isValid, hnew, event.assetId_ne, hnotes]
    | some recommendation =>
        simp [TimelineEvent.isValid, hnew, event.assetId_ne, hnotes,
          recommendation.actionSummary_ne]

/-- The record of an event passes its checks where its texts are not empty. -/
theorem evidenceFields_check_iff {corroboration : CorroborationOutcome}
    {recommendation : Option FaultRecommendation} {recordedAt : Datetime}
    (event : ValidatedAlertTransition F J) (hdecision : decision.investigationId ≠ "") :
    (evidenceFields event decision corroboration recommendation recordedAt).check = none ↔
      ∀ text ∈ event.persistedTexts, text ≠ "" := by
  rw [EvidenceFields.check_eq_none_iff]
  simp only [evidenceFields, EvidenceFields.requiredTexts, List.forall_mem_cons,
    ValidatedAlertTransition.persistedTexts, List.not_mem_nil, false_implies, implies_true,
    and_true]
  have hasset := event.assetId_ne
  have hclass := event.faultClass_ne
  have hrange := event.maximumScore_range
  tauto

/-- The records of an event are not prepared where nothing can be concluded or a text is empty. -/
theorem of_prepare_eq_error {failure : ServiceFailure}
    (h : prepare env store delivery faultClass = .error failure) :
    concludeAlert env delivery faultClass (decisionFor env store delivery.event) =
        .error failure ∨ ¬ ∀ text ∈ delivery.event.persistedTexts, text ≠ "" := by
  rcases Exceptions.bind_eq_error.mp h with h | ⟨⟨corroboration, recommendation⟩, hconclude, h⟩
  · exact Or.inl h
  · refine Or.inr fun htexts => ?_
    rcases Exceptions.bind_eq_error.mp h with h | ⟨evidence, -, h⟩
    · obtain ⟨error, hcreate, -⟩ := Exceptions.mapError_eq_error.mp h
      rw [AiFaultEvidence.create_of_check ((evidenceFields_check_iff delivery.event
        (decideInvestigation_investigationId_ne (env.uuid4_ne _) _ _ _)).mpr htexts)] at hcreate
      exact nomatch hcreate
    · rw [if_pos (timelineEntries_isValid (fun k => env.uuid4_ne _) _ _
        (concludeAlert_eq_ok hconclude).1 _)] at h
      exact nomatch h

/-- What is prepared was concluded, and passed the checks of the record. -/
theorem of_prepare {prepared : Prepared F J}
    (h : prepare env store delivery faultClass = .ok prepared) :
    WindowExists env delivery.event ∧ ∀ text ∈ delivery.event.persistedTexts, text ≠ "" := by
  obtain ⟨⟨corroboration, recommendation⟩, hconclude, h⟩ := Exceptions.bind_eq_ok.mp h
  obtain ⟨evidence, hevidence, -⟩ := Exceptions.bind_eq_ok.mp h
  refine ⟨(concludeAlert_eq_ok hconclude).2, ?_⟩
  have hchecked := evidence.checked
  rw [AiFaultEvidence.of_create (Exceptions.mapError_eq_ok.mp hevidence)] at hchecked
  exact (evidenceFields_check_iff delivery.event
    (decideInvestigation_investigationId_ne (env.uuid4_ne _) _ _ _)).mp hchecked

/-- The transaction of an event that is prepared fails in the dispatch only. -/
theorem transact_of_prepare {prepared : Prepared F J}
    (hget : store.evidence.get delivery.event.eventId = none)
    (hprepare : prepare env store delivery faultClass = .ok prepared) :
    (transact env store delivery faultClass).2 =
      if env.hasEventBus ∧ env.hasOutboxDispatcher ∧ delivery.interruption = some .dispatch then
        .error .dispatch
      else .ok ⟨prepared.evidence, false, prepared.decision.isNewInvestigation⟩ := by
  have hid := (prepare_eq_ok hprepare).2.id
  obtain ⟨table, hsave, -⟩ := save_of_new store.evidence prepared.evidence (hid ▸ hget)
  simp only [transact, hget, hprepare, hsave]
  split_ifs <;> rfl

/-- The constructors refuse no event whose texts are not empty. -/
theorem transact_ne_evidence (htexts : ∀ text ∈ delivery.event.persistedTexts, text ≠ "")
    {error : EvidenceError} :
    (transact env store delivery faultClass).2 ≠ .error (.evidence error) := by
  cases hget : store.evidence.get delivery.event.eventId with
  | some existing =>
      rw [transact, hget]
      rintro ⟨⟩
  | none =>
      cases hprepare : prepare env store delivery faultClass with
      | error failure =>
          simp only [transact, hget, hprepare]
          rintro ⟨⟩
          rcases of_prepare_eq_error hprepare with hconclude | hempty
          · exact concludeAlert_ne_evidence hconclude
          · exact hempty htexts
      | ok prepared =>
          rw [transact_of_prepare hget hprepare]
          split_ifs <;> rintro ⟨⟩

/-- An event whose texts are not empty and whose window exists is recorded where the asset has no
observations. -/
theorem exists_transact (env : BridgeEnvironment) (store : BridgeStore F J)
    {delivery : Delivery F J} (faultClass : FaultClass) (hempty : delivery.observations = [])
    (hcalm : delivery.interruption = none) (hwindow : WindowExists env delivery.event)
    (htexts : ∀ text ∈ delivery.event.persistedTexts, text ≠ "") :
    ∃ outcome, (transact env store delivery faultClass).2 = .ok outcome := by
  cases hget : store.evidence.get delivery.event.eventId with
  | some existing =>
      rw [transact, hget]
      exact ⟨_, rfl⟩
  | none =>
      cases hprepare : prepare env store delivery faultClass with
      | error failure =>
          obtain ⟨concluded, hconcluded⟩ := exists_concludeAlert faultClass
            (decisionFor env store delivery.event) hempty hwindow
          rcases of_prepare_eq_error hprepare with hconclude | hempty
          · cases hconclude.symm.trans hconcluded
          · exact absurd htexts hempty
      | ok prepared =>
          rw [transact_of_prepare hget hprepare, if_neg (by simp [hcalm])]
          exact ⟨_, rfl⟩

/-- The events that can be processed in every state have their texts, and the window. -/
theorem processable_iff {event : ValidatedAlertTransition F J}
    (hclass : FaultClass.ofName? event.faultClass = some faultClass) :
    Processable env event ↔
      WindowExists env event ∧ ∀ text ∈ event.persistedTexts, text ≠ "" := by
  constructor
  · intro h
    -- a store without records has not met the event
    obtain ⟨delivery, rfl, outcome, houtcome⟩ := h.persists .fresh
    rw [processAlertTransition, hclass] at houtcome
    dsimp only at houtcome
    split_ifs at houtcome
    have htransact := Exceptions.mapError_eq_ok.mp houtcome
    rw [transact] at htransact
    cases hprepare : prepare env .fresh delivery faultClass with
    | ok prepared => exact of_prepare hprepare
    | error error =>
        -- a delivery that could not be prepared would not have been persisted
        rw [hprepare] at htransact
        cases htransact
  · rintro ⟨hwindow, htexts⟩
    constructor
    · rintro store delivery rfl error
      rw [processAlertTransition, hclass]
      dsimp only
      split_ifs
      · rintro ⟨⟩
      · refine Exceptions.mapError_ne_error fun failure hfailure => ?_
        cases hfailure
        exact transact_ne_evidence htexts
    · intro store
      -- conversely, the event is processed in every state when there are no observations
      let delivery : Delivery F J := ⟨event, [], fun _ => event.sourceTimestamp, none⟩
      have htransact : ∃ outcome, (transact env store delivery faultClass).2 = .ok outcome :=
        exists_transact env store faultClass rfl rfl hwindow htexts
      obtain ⟨outcome, houtcome⟩ := htransact
      refine ⟨delivery, rfl, outcome, ?_⟩
      rw [processAlertTransition, hclass]
      exact Exceptions.mapError_eq_ok.mpr houtcome

end Events

/-! ## Messages -/

/-- The fields that must not be the empty string, which the validator does not check. -/
def persistedFields : List String :=
  ["event_id", "model_system_version", "model_hash", "policy_hash", "feature_schema_version"]

/-- The message is rejected, or an event that can be processed unless its fault class is not
supported. -/
structure NoPoison [JsonText F] (raw : Json F) : Prop where
  rejects : ∀ exception, validateAlertTransition raw ≠ .error (.raised exception)
  processable : ∀ event, validateAlertTransition raw = .ok event →
    isSupportedFaultClass event.faultClass = true → Processable env event

/-- No operation of the validator meets a value that it does not expect, and the fields of an
accepted message with a supported fault class are neither empty nor before the first window. -/
structure Harmless [JsonText F] (raw : Json F) : Prop where
  foreseen : ¬ Hazard raw
  texts : ∀ subject : AlertSubject F, subject.ReadFrom raw → Scored raw →
    isSupportedFaultClass subject.faultClass = true →
    ∀ name ∈ persistedFields, raw.item name ≠ .str ""
  window : ∀ subject : AlertSubject F, subject.ReadFrom raw → Scored raw →
    isSupportedFaultClass subject.faultClass = true →
    subject.transitionType = .cleared ∨
      (subject.sourceTimestamp.sub? env.corroborationWindow).isSome = true

section Messages

variable [JsonText F] {env} {raw : Json F}

/-- The texts of a record are those of the fields that are persisted. -/
theorem persistedTexts_transition_iff (subject : AlertSubject F)
    (classScores : { scores : List (String × FiniteValue F) // scores ≠ [] })
    (maximumScore : { x : FiniteValue F // InUnitInterval x.val }) :
    (∀ text ∈ (subject.transition raw classScores maximumScore).persistedTexts, text ≠ "") ↔
      ∀ name ∈ persistedFields, raw.item name ≠ .str "" := by
  simp only [ValidatedAlertTransition.persistedTexts, AlertSubject.transition, persistedFields,
    List.forall_mem_cons, ne_eq, Json.text_eq_empty_iff, List.not_mem_nil, false_implies,
    implies_true]

/-- A message does no harm exactly where its values are those that the validator expects, and what
it accepts has the texts and the window that its record needs. -/
theorem noPoison_iff (env : BridgeEnvironment) (raw : Json F) :
    NoPoison env raw ↔ Harmless env raw := by
  constructor
  · intro h
    -- what is accepted and supported can be processed, so it has its texts and its window
    have haccepted : ∀ subject : AlertSubject F, subject.ReadFrom raw → Scored raw →
        isSupportedFaultClass subject.faultClass = true →
        (subject.transitionType = .cleared ∨
          (subject.sourceTimestamp.sub? env.corroborationWindow).isSome = true) ∧
        ∀ name ∈ persistedFields, raw.item name ≠ .str "" := by
      intro subject hread hscored hclass
      obtain ⟨classScores, maximumScore, hvalid⟩ := exists_validate_of_read hread hscored
      obtain ⟨faultClass, hfaultClass⟩ := Option.isSome_iff_exists.mp hclass
      obtain ⟨hwindow, htexts⟩ := (processable_iff hfaultClass).mp (h.processable _ hvalid hclass)
      exact ⟨hwindow, (persistedTexts_transition_iff _ _ _).mp htexts⟩
    refine ⟨fun hazard => ?_, fun subject hread hscored hclass => ?_,
      fun subject hread hscored hclass => ?_⟩
    · obtain ⟨exception, hraised⟩ := validate_raised_iff.mpr hazard
      exact h.rejects exception hraised
    · exact (haccepted subject hread hscored hclass).2
    · exact (haccepted subject hread hscored hclass).1
  · intro h
    refine ⟨fun exception hraised => h.foreseen (validate_raised_iff.mp ⟨exception, hraised⟩),
      fun event hvalid hclass => ?_⟩
    have hscored := scored_of_validate hvalid
    obtain ⟨subject, classScores, maximumScore, hread, -, -, rfl⟩ := validate_eq_ok_iff.mp hvalid
    obtain ⟨faultClass, hfaultClass⟩ := Option.isSome_iff_exists.mp hclass
    refine (processable_iff hfaultClass).mpr ⟨h.window subject hread hscored hclass, ?_⟩
    exact (persistedTexts_transition_iff _ _ _).mpr (h.texts subject hread hscored hclass)

/-- An alert of `stack-1` whose model has an empty hash. -/
def unhashedAlert : Json Rat :=
  .obj [("event_id", .str "e1"), ("event_version", .str "v1"), ("asset_id", .str "stack-1"),
    ("source_timestamp", .str "2026-01-01T00:00:00+00:00"), ("transition_type", .str "confirmed"),
    ("from_state", .str "healthy"), ("to_state", .str "confirmed_cooling_degradation"),
    ("diagnosed_class", .str "cooling_degradation"), ("evidence", .arr []),
    ("model_system_version", .str "1.0"), ("model_hash", .str ""), ("policy_hash", .str "p"),
    ("feature_schema_version", .str "1"),
    ("class_scores", .obj [("cooling_degradation", .float 1)]), ("maximum_score", .float 1)]

/-- A number is not rejected but raises, and the alert without a hash is accepted and refused on
every delivery. -/
theorem not_noPoison_unhashedAlert :
    ¬ NoPoison (refusingBridge 0) (.int 5 : Json Rat) ∧
      ¬ NoPoison (refusingBridge 0) unhashedAlert := by
  constructor
  · exact fun h => h.rejects .typeError rfl
  · intro h
    have hvalid : ((validateAlertTransition unhashedAlert).toOption.map fun event =>
        (event.faultClass, event.modelHash)) = some ("cooling_degradation", "") := by
      decide +kernel
    cases hevent : validateAlertTransition unhashedAlert with
    | error failure =>
        rw [hevent] at hvalid
        exact nomatch hvalid
    | ok event =>
        rw [hevent] at hvalid
        obtain ⟨hclass, hhash⟩ := Prod.mk.inj (Option.some.inj hvalid)
        have hprocessable := h.processable event hevent (by rw [hclass]; rfl)
        have hsupported : FaultClass.ofName? event.faultClass = some .coolingDegradation := by
          rw [hclass]
          rfl
        -- the record would need a hash that is not empty
        obtain ⟨-, htexts⟩ := (processable_iff hsupported).mp hprocessable
        exact htexts event.modelHash (by simp [ValidatedAlertTransition.persistedTexts]) hhash

end Messages

end Odis.ReasoningBridge
