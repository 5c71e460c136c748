import Odis.Inference.Alerts
import Odis.InferenceWorker.EventJson
import Odis.ReasoningBridge.InputEvents

/-!
# Producer and consumer of alert transitions

The inference worker writes the message of an alert event with `to_json_dict`, and the bridge reads
it with `validate_alert_transition`. The two are separate programs with field lists of their own.

* `validate_throughText`: a message with all its fields is accepted, and its fields come back.
* `contractKept_after`: such are the messages of every run of a session, and the class that the
  bridge reads off the states is the one that the alert machine entered or left.
-/

namespace Odis.ReasoningBridge

open AlertPolicy Inference InferenceWorker

variable {F : Type} [PyFloat F] [JsonText F]

/-! ## One message -/

/-- The transition type of the bridge with the name of one of the worker. -/
def alertTransitionType : TransitionType → AlertTransitionType
  | .confirmed => .confirmed
  | .classChanged => .classChanged
  | .cleared => .cleared

/-- Both contracts name the types of transitions alike. -/
theorem value_alertTransitionType (transitionType : TransitionType) :
    (alertTransitionType transitionType).value = transitionType.value := by
  cases transitionType <;> rfl

/-- A message whose optional fields are there, and whose states name a fault class. -/
structure Complete (message : FaultAlertTransitionEvent F) (faultClass : String) : Prop where
  eventVersion : message.eventVersion = "v1"
  assetId : message.assetId ≠ ""
  sourceTimestamp : message.sourceTimestamp.InRange
  state : (if message.transitionType = .cleared then message.fromState else message.toState) =
    confirmedState faultClass
  faultClass_ne : faultClass ≠ ""
  faultClass_ne_healthy : faultClass ≠ healthyState
  diagnosedClass : ∃ text, message.diagnosedClass = some text
  modelSystemVersion : ∃ text, message.modelSystemVersion = some text
  modelHash : ∃ text, message.modelHash = some text
  policyHash : ∃ text, message.policyHash = some text
  featureSchemaVersion : ∃ text, message.featureSchemaVersion = some text
  classScores : ∃ scores, message.classScores = some scores ∧ scores ≠ [] ∧
    ∀ score ∈ scores, PyFloat.isfinite score.2 = true
  maximumScore : ∃ x, message.maximumScore = some x ∧ PyFloat.isfinite x = true ∧ InUnitInterval x

/-- The fields of a message come back. -/
structure Returned (message : FaultAlertTransitionEvent F)
    (event : ValidatedAlertTransition F (Json F)) : Prop where
  eventId : event.eventId = message.eventId
  assetId : event.assetId = message.assetId
  sourceTimestamp : event.sourceTimestamp = message.sourceTimestamp
  transitionType : event.transitionType.value = message.transitionType.value
  fromState : event.fromState = message.fromState
  toState : event.toState = message.toState
  diagnosedClass : message.diagnosedClass = some event.diagnosedClass
  evidenceItems : event.evidenceItems =
    message.evidence.map fun item => item.toJsonDict.throughText
  modelSystemVersion : message.modelSystemVersion = some event.modelSystemVersion
  modelHash : message.modelHash = some event.modelHash
  policyHash : message.policyHash = some event.policyHash
  featureSchemaVersion : message.featureSchemaVersion = some event.featureSchemaVersion
  /-- A dict keeps its entries, in whatever order. -/
  classScores : ∃ scores, message.classScores = some scores ∧ event.classScores.Perm scores
  maximumScore : message.maximumScore = some event.maximumScore

section Message

omit [PyFloat F] [JsonText F] in
/-- The fields of the scores tell them apart. -/
theorem scoreFields_injective :
    Function.Injective fun score : String × F => (score.1, (Json.float score.2 : Json F)) := by
  rintro ⟨name, x⟩ ⟨name', x'⟩ h
  obtain ⟨rfl, h⟩ := Prod.mk.inj h
  cases h
  rfl

omit [JsonText F] in
/-- The scores of the dict are read back. -/
theorem perm_of_requireClassScores {scores : List (String × F)}
    {read : { scores : List (String × FiniteValue F) // scores ≠ [] }}
    (h : requireClassScores (.obj (Json.sortFields (scoreFields scores))) = .ok read) :
    (read.val.map fun score => (score.1, score.2.val)).Perm scores := by
  obtain ⟨fields, hfields, hread⟩ := requireClassScores_eq_ok_iff.mp h
  cases hfields
  have hsorted := Json.sortFields_perm (scoreFields scores)
  have hfloat : ∀ field ∈ Json.sortFields (scoreFields scores), ∃ x, field.2 = .float x := by
    intro field hfield
    obtain ⟨score, -, rfl⟩ := List.mem_map.mp (hsorted.mem_iff.mp hfield)
    exact ⟨score.2, rfl⟩
  -- the scores that are read, written again, are the sorted fields
  have hback : scoreFields (read.val.map fun score => (score.1, score.2.val)) =
      Json.sortFields (scoreFields scores) := by
    clear h hsorted
    generalize Json.sortFields (scoreFields scores) = fields at hread hfloat
    generalize read.val = read at hread
    induction hread with
    | nil => rfl
    | @cons field score fields read hscore _ ih =>
        obtain ⟨x, hx⟩ := hfloat field List.mem_cons_self
        obtain ⟨hname, hvalue⟩ := hscore
        rw [hx] at hvalue
        cases hvalue
        have hhead : (score.1, Json.float score.2.val) = field := Prod.ext hname.symm hx.symm
        have htail := ih fun field hfield => hfloat field (List.mem_cons_of_mem _ hfield)
        simp only [scoreFields, List.map_cons, hhead] at htail ⊢
        rw [htail]
  apply (List.map_perm_map_iff scoreFields_injective).mp
  change (scoreFields _).Perm (scoreFields scores)
  rw [hback]
  exact hsorted

variable {message : FaultAlertTransitionEvent F} {faultClass : String}

/-- What the checks before those of the scores read of a complete message. -/
def subjectOf (h : Complete message faultClass) : AlertSubject F where
  transitionType := alertTransitionType message.transitionType
  assetId := message.assetId
  sourceTimestamp := message.sourceTimestamp
  fromState := message.fromState
  toState := message.toState
  faultClass := faultClass
  evidenceItems := message.evidence.map fun item => item.toJsonDict.throughText
  assetId_ne := h.assetId
  state_eq := by
    rw [← confirmedState, ← h.state]
    cases message.transitionType <;> rfl
  faultClass_ne := h.faultClass_ne
  faultClass_ne_healthy := h.faultClass_ne_healthy

omit [JsonText F] in
/-- None of the fields is `None`. -/
theorem ne_null_of_mem_jsonFields (h : Complete message faultClass) :
    ∀ field ∈ message.jsonFields, field.2 ≠ .null := by
  obtain ⟨diagnosedClass, hdiagnosed⟩ := h.diagnosedClass
  obtain ⟨version, hversion⟩ := h.modelSystemVersion
  obtain ⟨modelHash, hmodel⟩ := h.modelHash
  obtain ⟨policyHash, hpolicy⟩ := h.policyHash
  obtain ⟨schema, hschema⟩ := h.featureSchemaVersion
  obtain ⟨scores, hscores, -⟩ := h.classScores
  obtain ⟨x, hmaximum, -⟩ := h.maximumScore
  simp [FaultAlertTransitionEvent.jsonFields, optionalText, optionalScores, optionalScore,
    hdiagnosed, hversion, hmodel, hpolicy, hschema, hscores, hmaximum]

omit [PyFloat F] [JsonText F] in
/-- The required fields are among those of the message. -/
theorem mem_of_mem_requiredFields {name : String} (h : name ∈ requiredFields) :
    ∃ v, (name, v) ∈ message.jsonFields := by
  have hnames : ∀ name ∈ requiredFields, name ∈ transitionFieldNames := by decide
  have hmem : name ∈ message.jsonFields.map Prod.fst := hnames name h
  obtain ⟨⟨_, v⟩, hfield, rfl⟩ := List.mem_map.mp hmem
  exact ⟨v, hfield⟩

/-- The fields of a complete message are what the checks look for. -/
theorem readFrom_subjectOf (h : Complete message faultClass) :
    (subjectOf h).ReadFrom message.toJsonDict.throughText where
  isObj := ⟨_, rfl⟩
  -- no required field of a complete message is null
  fields name hname := by
    obtain ⟨v, hmem⟩ := mem_of_mem_requiredFields hname
    rw [message.item_throughText hmem]
    exact fun hnull => ne_null_of_mem_jsonFields h _ hmem (Json.throughText_eq_null_iff.mp hnull)
  eventVersion := by
    rw [message.item_throughText (v := .str message.eventVersion)
      (by simp [FaultAlertTransitionEvent.jsonFields]), h.eventVersion]
    rfl
  transitionType := by
    rw [message.item_throughText (v := .str message.transitionType.value)
      (by simp [FaultAlertTransitionEvent.jsonFields])]
    exact congrArg Json.str (value_alertTransitionType message.transitionType).symm
  assetId := message.item_throughText (v := .str message.assetId)
    (by simp [FaultAlertTransitionEvent.jsonFields])
  sourceTimestamp := by
    rw [message.item_throughText (v := .str message.sourceTimestamp.isoformat)
      (by simp [FaultAlertTransitionEvent.jsonFields])]
    exact Json.parseTimestamp?_isoformat h.sourceTimestamp
  fromState := by
    rw [message.item_throughText (v := .str message.fromState)
      (by simp [FaultAlertTransitionEvent.jsonFields])]
    rfl
  toState := by
    rw [message.item_throughText (v := .str message.toState)
      (by simp [FaultAlertTransitionEvent.jsonFields])]
    rfl
  evidence := by
    rw [message.item_throughText (v := .arr (message.evidence.map EvidenceItem.toJsonDict))
      (by simp [FaultAlertTransitionEvent.jsonFields]), Json.throughText, Json.itemsThroughText_eq,
      List.map_map]
    rfl

omit [PyFloat F] in
/-- What the bridge finds under the name of an optional text. -/
theorem text_optionalText {name : String} {text : Option String}
    (hmem : (name, optionalText text) ∈ message.jsonFields) (h : ∃ s, text = some s) :
    text = some (message.toJsonDict.throughText.item name).text := by
  obtain ⟨s, rfl⟩ := h
  rw [message.item_throughText hmem]
  rfl

/-- A complete message is accepted, and its fields come back. -/
theorem validate_throughText (h : Complete message faultClass) :
    ∃ event, validateAlertTransition message.toJsonDict.throughText = .ok event ∧
      event.faultClass = faultClass ∧ Returned message event := by
  obtain ⟨scores, hscores, hne, hfinite⟩ := h.classScores
  obtain ⟨x, hmaximum, hxfinite, hxrange⟩ := h.maximumScore
  -- the scores come back in the order of their names
  have hscoresItem : message.toJsonDict.throughText.item "class_scores" =
      .obj (Json.sortFields (scoreFields scores)) := by
    rw [message.item_throughText (v := .obj (scoreFields scores))
      (by simp [FaultAlertTransitionEvent.jsonFields, optionalScores, hscores])]
    refine Json.obj_throughText fun field hfield => ?_
    obtain ⟨score, -, rfl⟩ := List.mem_map.mp hfield
    exact trivial
  have hmaximumItem : message.toJsonDict.throughText.item "maximum_score" = .float x :=
    message.item_throughText (v := .float x)
      (by simp [FaultAlertTransitionEvent.jsonFields, optionalScore, hmaximum])
  have hread : ∃ read, requireClassScores (message.toJsonDict.throughText.item "class_scores") =
      .ok read := by
    refine exists_requireClassScores_iff.mpr ⟨_, hscoresItem, ?_, fun field hfield => ?_⟩
    · intro hnil
      have hperm := Json.sortFields_perm (scoreFields scores)
      rw [hnil, List.nil_perm, scoreFields, List.map_eq_nil_iff] at hperm
      exact hne hperm
    · obtain ⟨score, hscore, rfl⟩ :=
        List.mem_map.mp ((Json.sortFields_perm (scoreFields scores)).mem_iff.mp hfield)
      exact ⟨score.2, rfl, hfinite score hscore⟩
  obtain ⟨read, hread⟩ := hread
  have hvalid := validate_eq_ok_iff.mpr ⟨subjectOf h, read, ⟨⟨x, hxfinite⟩, hxrange⟩,
    readFrom_subjectOf h, hread, requireMaximumScore_eq_ok_iff.mpr (by rw [hmaximumItem]; rfl), rfl⟩
  refine ⟨_, hvalid, rfl, ?_⟩
  rw [hscoresItem] at hread
  exact {
    eventId := by
      change (message.toJsonDict.throughText.item "event_id").text = message.eventId
      rw [message.item_throughText (v := .str message.eventId)
        (by simp [FaultAlertTransitionEvent.jsonFields])]
      rfl
    assetId := rfl
    sourceTimestamp := rfl
    transitionType := value_alertTransitionType message.transitionType
    fromState := rfl
    toState := rfl
    evidenceItems := rfl
    modelSystemVersion := text_optionalText
      (by simp [FaultAlertTransitionEvent.jsonFields]) h.modelSystemVersion
    modelHash := text_optionalText (by simp [FaultAlertTransitionEvent.jsonFields]) h.modelHash
    diagnosedClass :=
      text_optionalText (by simp [FaultAlertTransitionEvent.jsonFields]) h.diagnosedClass
    policyHash := text_optionalText (by simp [FaultAlertTransitionEvent.jsonFields]) h.policyHash
    featureSchemaVersion := text_optionalText
      (by simp [FaultAlertTransitionEvent.jsonFields]) h.featureSchemaVersion
    classScores := ⟨scores, hscores, perm_of_requireClassScores hread⟩
    maximumScore := hmaximum }

end Message

/-! ## Runs -/

section Runs

variable (system : PromotedFaultSystem F)

/-- The rows of the classifier are probabilities, and its labels, `healthy` and the fault types it
was trained on, are not empty. -/
structure Probabilistic : Prop where
  labels_ne : ∀ label ∈ system.classes.labels, label ≠ ""
  finite : ∀ vector, ∀ p ∈ (system.predictProba vector).val, PyFloat.isfinite p = true
  range : ∀ vector, ∀ p ∈ (system.predictProba vector).val, InUnitInterval p

/-- What the bridge reads of an alert event, met between two states of the alert machine. -/
structure ReadAs (before after : FaultInferenceSession F) (sample : TelemetrySample F)
    (result : InferenceResult F) (alert : AlertEvent F)
    (event : ValidatedAlertTransition F (Json F)) : Prop where
  assetId : event.assetId = before.assetId
  sourceTimestamp : event.sourceTimestamp = sample.timestamp
  transitionType : event.transitionType.value = (transitionTypeOf alert.eventType).value
  fromState : event.fromState = alert.fromState
  toState : event.toState = alert.toState
  faultClass : alert.faultClass = some event.faultClass
  faultClass_ne_healthy : event.faultClass ≠ healthyState
  entered : alert.eventType ≠ .cleared →
    after.machineState.confirmedClass = some event.faultClass
  left : alert.eventType = .cleared → before.machineState.confirmedClass = some event.faultClass
  classScores : ∃ scores, result.classProbabilities = some scores ∧ event.classScores.Perm scores
  maximumScore : result.maximumProbability = some event.maximumScore
  modelSystemVersion : event.modelSystemVersion = system.systemVersion
  modelHash : event.modelHash = system.modelHash
  policyHash : event.policyHash = system.policyHash
  featureSchemaVersion : event.featureSchemaVersion = system.featureSchemaVersion

/-- The message of every alert event of a run is accepted by the bridge, and read as the event. -/
def ContractKept {assetId : String} (hne : assetId ≠ "") (samples : List (TelemetrySample F)) :
    Prop :=
  ∀ past sample, past ++ [sample] <+: samples →
    let before := Transducer.after (FaultInferenceSession.ingest system) (.fresh assetId hne) past
    let called := before.ingest system sample
    ∀ result alert, called.2 = .ok result → result.alertEvent = some alert →
      ∀ (uuid5 : String → String) (now : Datetime), ∃ message event,
        buildTransitionEvent uuid5 result now = some message ∧
          validateAlertTransition message.toJsonDict.throughText = .ok event ∧
          ReadAs system before called.1 sample result alert event

variable {system} {before after : FaultInferenceSession F} {sample : TelemetrySample F}
  {result : InferenceResult F} {alert : AlertEvent F}

omit [JsonText F] in
/-- The class of an event is not empty, nor `healthy`, and the bridge finds it in the states. -/
theorem exists_class_of_announces {m m' : AlertMachineState}
    (hsystem : Probabilistic system) (h : Announces system.classes m m' alert) :
    ∃ c, c ≠ "" ∧ c ≠ healthyState ∧ alert.faultClass = some c ∧
      (if transitionTypeOf alert.eventType = .cleared then alert.fromState else alert.toState) =
        confirmedState c ∧
      (alert.eventType ≠ .cleared → m'.confirmedClass = some c) ∧
      (alert.eventType = .cleared → m.confirmedClass = some c) := by
  cases h with
  | newAlert elapsed fault free entered =>
      refine ⟨_, hsystem.labels_ne _ fault.1, fault.2, rfl, rfl, fun _ => entered, ?_⟩
      rintro ⟨⟩
  | classChange elapsed fault left entered =>
      refine ⟨_, hsystem.labels_ne _ fault.1, fault.2, rfl, rfl, fun _ => entered, ?_⟩
      rintro ⟨⟩
  | cleared elapsed fault left free =>
      exact ⟨_, hsystem.labels_ne _ fault.1, fault.2, rfl, rfl, fun h => absurd rfl h,
        fun _ => left⟩

omit [JsonText F] in
/-- The scores of a diagnosis are those of a row, and there are some. -/
theorem classProbabilities_ne_nil (proba : ProbaRow F system.classes) :
    FaultInferenceSession.classProbabilities system proba ≠ [] := by
  have hlength : (FaultInferenceSession.classProbabilities system proba).length =
      system.classes.labels.length := by
    rw [FaultInferenceSession.classProbabilities, List.length_zip, proba.property, Nat.min_self]
  intro hnil
  rw [hnil] at hlength
  exact absurd hlength (Nat.ne_of_lt system.classes.length_pos)

/-- The message of a reported event is accepted, and read as the event. -/
theorem exists_readAs (hsystem : Probabilistic system) (htime : sample.timestamp.InRange)
    (h : FaultInferenceSession.AlertReported system before after sample result alert)
    (uuid5 : String → String) (now : Datetime) :
    ∃ message event, buildTransitionEvent uuid5 result now = some message ∧
      validateAlertTransition message.toJsonDict.throughText = .ok event ∧
      ReadAs system before after sample result alert event := by
  obtain ⟨⟨vector, hresult⟩, hasset, hannounced⟩ := h
  obtain ⟨c, hne, hhealthy, hclass, hstate, hentered, hleft⟩ :=
    exists_class_of_announces hsystem hannounced
  obtain ⟨message, hmessage⟩ : ∃ message, buildTransitionEvent uuid5 result now = some message := by
    rw [hresult]
    exact ⟨_, rfl⟩
  -- the message is built from the result, whose scores are the probabilities of the model
  have hcomplete : Complete message c := by
    rw [hresult] at hmessage
    cases hmessage
    let proba := system.predictProba vector
    exact {
      eventVersion := rfl
      assetId := after.assetId_ne
      sourceTimestamp := htime
      state := hstate
      faultClass_ne := hne
      faultClass_ne_healthy := hhealthy
      diagnosedClass := ⟨_, rfl⟩
      modelSystemVersion := ⟨_, rfl⟩
      modelHash := ⟨_, rfl⟩
      policyHash := ⟨_, rfl⟩
      featureSchemaVersion := ⟨_, rfl⟩
      classScores := ⟨_, rfl, classProbabilities_ne_nil proba, fun score hscore =>
        hsystem.finite vector _ (List.of_mem_zip hscore).2⟩
      maximumScore := ⟨_, rfl, hsystem.finite vector _ (List.get_mem _ _),
        hsystem.range vector _ (List.get_mem _ _)⟩ }
  obtain ⟨event, hvalid, hfault, hreturned⟩ := validate_throughText hcomplete
  refine ⟨message, event, hmessage, hvalid, ?_⟩
  rw [hresult] at hmessage ⊢
  cases hmessage
  exact {
    assetId := hreturned.assetId.trans hasset
    sourceTimestamp := hreturned.sourceTimestamp
    transitionType := hreturned.transitionType
    fromState := hreturned.fromState
    toState := hreturned.toState
    faultClass := hclass.trans (congrArg some hfault.symm)
    faultClass_ne_healthy := by rwa [hfault]
    entered := by rwa [hfault]
    left := by rwa [hfault]
    classScores := hreturned.classScores
    maximumScore := hreturned.maximumScore
    modelSystemVersion := (Option.some.inj hreturned.modelSystemVersion).symm
    modelHash := (Option.some.inj hreturned.modelHash).symm
    policyHash := (Option.some.inj hreturned.policyHash).symm
    featureSchemaVersion := (Option.some.inj hreturned.featureSchemaVersion).symm }

/-- Every run of a session keeps to the contract of the bridge. -/
theorem contractKept_after (hsystem : Probabilistic system) {assetId : String} (hne : assetId ≠ "")
    {samples : List (TelemetrySample F)}
    (htimes : ∀ sample ∈ samples, sample.timestamp.InRange) :
    ContractKept system hne samples := by
  intro past sample hprefix before called result alert hresult halert uuid5 now
  have hmem : sample ∈ samples := hprefix.subset (List.mem_append_right _ List.mem_cons_self)
  have hreported := FaultInferenceSession.alert_announced hne past sample hresult halert
  rw [Transducer.after_append] at hreported
  exact exists_readAs hsystem (htimes sample hmem) hreported uuid5 now

end Runs

section Cooling

/-- A system that finds every row to be of a cooling degradation. -/
def coolingSystem : PromotedFaultSystem Rat :=
  { healthySystem with predictProba := fun _ => ⟨[3 / 4, 1 / 4, 0, 0], rfl⟩ }

/-- The model of the example gives probabilities. -/
theorem probabilistic_coolingSystem : Probabilistic coolingSystem where
  labels_ne := by decide
  finite _ _ _ := rfl
  range vector p hp := by
    have hrow : ∀ p ∈ ([3 / 4, 1 / 4, 0, 0] : List Rat), InUnitInterval p := by decide +kernel
    exact hrow p hp

/-- The contract in a run whose last sample confirms the class. -/
theorem contractKept_after_confirmed :
    let samples := (List.range 14).map steadySample
    let fresh : FaultInferenceSession Rat := .fresh "stack-1" (by decide)
    ContractKept coolingSystem fresh.assetId_ne samples ∧
      (Transducer.outputs (FaultInferenceSession.ingest coolingSystem) fresh samples).map
        (fun output => (output.toOption.bind InferenceResult.alertEvent).isSome) =
        List.replicate 13 false ++ [true] :=
  ⟨contractKept_after probabilistic_coolingSystem _ (by decide +kernel), by decide +kernel⟩

end Cooling

end Odis.ReasoningBridge
