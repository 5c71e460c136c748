import Odis.ReasoningBridge.Recommendations

/-!
# Replayed alerts

The bridge meets an alert again when its message is delivered again. What it keeps is described by a
history of alerts without the ids and the readings of the clock that are generated afresh; the store
is such a history written out, and an alert that is in the history adds nothing to it.

* `Keeps.process`: a call writes out what `recordAlert` adds to the history.
* `replay_leavesSame`: two sequences of deliveries, one of which delivers alerts again, leave the
  same history.
-/

namespace Odis.ReasoningBridge

open Inference Reasoning Exceptions

variable {F J : Type} [PyFloat F]

/-! ## The history -/

section History

/-- An alert on record. Its investigation is told by the place in the history of the alert that
opened it. -/
structure RecordedAlert (F J : Type) [PyFloat F] where
  event : ValidatedAlertTransition F J
  investigation : ℕ
  previousDiagnosedFaultClass : Option String
  isNewInvestigation : Bool
  corroboration : CorroborationOutcome

/-- An alert is observed before the other one, or at the same time and has no greater id. -/
def NotObservedAfter (event other : ValidatedAlertTransition F J) : Prop :=
  event.sourceTimestamp.instant < other.sourceTimestamp.instant ∨
    (event.sourceTimestamp.instant = other.sourceTimestamp.instant ∧
      event.eventId ≤ other.eventId)

instance (event other : ValidatedAlertTransition F J) : Decidable (NotObservedAfter event other) :=
  inferInstanceAs (Decidable (_ ∨ _))

/-- The alert is the latest of its asset. -/
def IsLatest (history : List (RecordedAlert F J)) (assetId : String) (alert : RecordedAlert F J) :
    Prop :=
  alert.event.assetId = assetId ∧
    ∀ other ∈ history, other.event.assetId = assetId → NotObservedAfter other.event alert.event

instance (history : List (RecordedAlert F J)) (assetId : String) (alert : RecordedAlert F J) :
    Decidable (IsLatest history assetId alert) :=
  inferInstanceAs (Decidable (_ ∧ _))

/-- The latest alert of an asset. -/
def latestAlert (history : List (RecordedAlert F J)) (assetId : String) :
    Option (RecordedAlert F J) :=
  history.find? fun alert => IsLatest history assetId alert

/-- What the rules conclude on an alert, if it can be recorded. -/
def corroborationOf (env : BridgeEnvironment) (observations : List (Observation F))
    (event : ValidatedAlertTransition F J) : Option CorroborationOutcome :=
  match FaultClass.ofName? event.faultClass with
  | none => none
  | some faultClass =>
      if event.persistedTexts.all (· ≠ "") then
        if event.transitionType = .cleared then some clearedOutcome
        else (corroborate env ⟨event, observations, fun _ => event.sourceTimestamp, none⟩
          faultClass).toOption
      else none

/-- An alert as it comes to the history: it goes on with the investigation of the latest alert of
its asset, unless that one cleared it. -/
def placeAlert (history : List (RecordedAlert F J)) (event : ValidatedAlertTransition F J)
    (corroboration : CorroborationOutcome) : RecordedAlert F J :=
  match latestAlert history event.assetId with
  | some latest =>
      if latest.event.transitionType = .cleared then
        ⟨event, history.length, none, true, corroboration⟩
      else
        ⟨event, latest.investigation,
          if event.transitionType = .cleared ∨ latest.event.faultClass ≠ event.faultClass then
            some latest.event.faultClass
          else none,
          false, corroboration⟩
  | none => ⟨event, history.length, none, true, corroboration⟩

/-- The alert is on record. -/
def OnRecord (history : List (RecordedAlert F J)) (event : ValidatedAlertTransition F J) : Prop :=
  ∃ alert ∈ history, alert.event.eventId = event.eventId

instance (history : List (RecordedAlert F J)) (event : ValidatedAlertTransition F J) :
    Decidable (OnRecord history event) :=
  inferInstanceAs (Decidable (∃ alert ∈ history, _))

/-- What an alert adds to the history. -/
def recordAlert (env : BridgeEnvironment) (observations : List (Observation F))
    (history : List (RecordedAlert F J)) (event : ValidatedAlertTransition F J) :
    List (RecordedAlert F J) :=
  if OnRecord history event then history
  else
    match corroborationOf env observations event with
    | none => history
    | some corroboration => history ++ [placeAlert history event corroboration]

variable {env : BridgeEnvironment} {observations : List (Observation F)}
  {history : List (RecordedAlert F J)} {event other : ValidatedAlertTransition F J}

/-- What is found as the latest alert of an asset is the latest of the history. -/
theorem isLatest_of_latestAlert {assetId : String} {alert : RecordedAlert F J}
    (h : latestAlert history assetId = some alert) :
    alert ∈ history ∧ IsLatest history assetId alert := by
  have hfound := List.find?_some h
  exact ⟨List.mem_of_find?_eq_some h, by simpa using hfound⟩

/-- Placing an alert does not change its event. -/
@[simp] theorem event_placeAlert (corroboration : CorroborationOutcome) :
    (placeAlert history event corroboration).event = event := by
  unfold placeAlert
  split
  · split_ifs <;> rfl
  · rfl

/-- Nor does it change its corroboration. -/
@[simp] theorem corroboration_placeAlert (corroboration : CorroborationOutcome) :
    (placeAlert history event corroboration).corroboration = corroboration := by
  unfold placeAlert
  split
  · split_ifs <;> rfl
  · rfl

/-- What is on record stays there. -/
theorem onRecord_recordAlert (h : OnRecord history other) :
    OnRecord (recordAlert env observations history event) other := by
  obtain ⟨alert, hmem, hid⟩ := h
  unfold recordAlert
  split_ifs
  · exact ⟨alert, hmem, hid⟩
  · split
    · exact ⟨alert, hmem, hid⟩
    · exact ⟨alert, List.mem_append_left _ hmem, hid⟩

/-- An alert that the history does not change with any more: it is on record, or cannot be. -/
def Settled (env : BridgeEnvironment) (observations : List (Observation F))
    (history : List (RecordedAlert F J)) (event : ValidatedAlertTransition F J) : Prop :=
  OnRecord history event ∨ corroborationOf env observations event = none

/-- An alert that is settled changes nothing when it comes again. -/
theorem Settled.recordAlert_eq (h : Settled env observations history event) :
    recordAlert env observations history event = history := by
  unfold recordAlert
  split_ifs with hrecord
  · rfl
  · rw [h.resolve_left hrecord]

/-- After it was recorded an alert is settled, on record or not. -/
theorem settled_recordAlert_self (env : BridgeEnvironment) (observations : List (Observation F))
    (history : List (RecordedAlert F J)) (event : ValidatedAlertTransition F J) :
    Settled env observations (recordAlert env observations history event) event := by
  unfold recordAlert
  split_ifs with hrecord
  · exact Or.inl hrecord
  · cases hcorroboration : corroborationOf env observations event with
    | none => exact Or.inr hcorroboration
    | some corroboration =>
        refine Or.inl ⟨_, List.mem_append_right _ (List.mem_singleton_self _), ?_⟩
        rw [event_placeAlert]

/-- It stays so, whatever else is recorded. -/
theorem Settled.recordAlert (h : Settled env observations history other)
    (event : ValidatedAlertTransition F J) :
    Settled env observations (recordAlert env observations history event) other := by
  rcases h with hrecord | hnone
  · exact Or.inl (onRecord_recordAlert hrecord)
  · exact Or.inr hnone

/-- A sequence of alerts, and one in which further deliveries of alerts are inserted after their
first. -/
inductive Replay {E : Type*} : List E → List E → List E → Prop
  | nil (seen : List E) : Replay seen [] []
  | first {seen events replayed : List E} (event : E)
      (rest : Replay (event :: seen) events replayed) :
      Replay seen (event :: events) (event :: replayed)
  | again {seen events replayed : List E} {event : E} (met : event ∈ seen)
      (rest : Replay seen events replayed) : Replay seen events (event :: replayed)

/-- Further deliveries leave the history as it is without them. -/
theorem Replay.foldl_recordAlert {seen events replayed : List (ValidatedAlertTransition F J)}
    (hreplay : Replay seen events replayed)
    (hseen : ∀ event ∈ seen, Settled env observations history event) :
    replayed.foldl (recordAlert env observations) history =
      events.foldl (recordAlert env observations) history := by
  induction hreplay generalizing history with
  | nil => rfl
  | first event rest ih =>
      rw [List.foldl_cons, List.foldl_cons]
      refine ih fun other hother => ?_
      rcases List.mem_cons.mp hother with rfl | hmet
      · exact settled_recordAlert_self env observations history other
      · exact (hseen other hmet).recordAlert event
  | again met rest ih =>
      rw [List.foldl_cons, (hseen _ met).recordAlert_eq]
      exact ih hseen

end History

/-! ## The history written out -/

section Written

/-- The decision on an alert, with the id of its investigation. -/
def RecordedAlert.decision (alert : RecordedAlert F J) (investigationId : String) :
    InvestigationDecision :=
  ⟨investigationId, statusAfter alert.event.transitionType, alert.previousDiagnosedFaultClass,
    alert.isNewInvestigation⟩

/-- The recommendation on an alert, with the id of its investigation. -/
def RecordedAlert.recommendation (alert : RecordedAlert F J) (investigationId : String) :
    Option FaultRecommendation :=
  if alert.event.transitionType = .cleared then none
  else
    (FaultClass.ofName? alert.event.faultClass).bind fun faultClass =>
      (buildRecommendation ("ai-fault-rec-" ++ investigationId ++ "-" ++ alert.event.eventId)
        faultClass alert.corroboration).toOption

/-- The row of an alert, written at some time. -/
def RowOf (alert : RecordedAlert F J) (investigationId : String) (row : AiFaultEvidence F J) :
    Prop :=
  ∃ recordedAt, row.toEvidenceFields = evidenceFields alert.event (alert.decision investigationId)
    alert.corroboration (alert.recommendation investigationId) recordedAt

/-- The timeline entries of an alert, with some ids and written at some time. -/
def EntriesOf (alert : RecordedAlert F J) (investigationId : String)
    (entries : List TimelineEvent) : Prop :=
  ∃ newId now, entries = timelineEntries newId now alert.event (alert.decision investigationId)
    alert.corroboration (alert.recommendation investigationId)

/-- The announcement of a row, if rows are announced, with some id and written at some time. -/
def UpdatesOf (hasEventBus : Bool) (row : AiFaultEvidence F J) (updates : List OutboxRow) : Prop :=
  ∃ id timestamp createdAt,
    updates = if hasEventBus then [investigationUpdated id row timestamp createdAt] else []

/-- A history written out: its rows, timeline and announcements, where the investigation that the
`k`-th alert opened has the id `names k`. -/
inductive Written (hasEventBus : Bool) (names : ℕ → String) :
    List (RecordedAlert F J) → List (AiFaultEvidence F J) → List TimelineEvent →
      List OutboxRow → Prop
  | nil : Written hasEventBus names [] [] [] []
  | concat {history : List (RecordedAlert F J)} {rows : List (AiFaultEvidence F J)}
      {timeline entries : List TimelineEvent} {outbox updates : List OutboxRow}
      {alert : RecordedAlert F J} {row : AiFaultEvidence F J}
      (written : Written hasEventBus names history rows timeline outbox)
      (rowOf : RowOf alert (names alert.investigation) row)
      (entriesOf : EntriesOf alert (names alert.investigation) entries)
      (updatesOf : UpdatesOf hasEventBus row updates) :
      Written hasEventBus names (history ++ [alert]) (rows ++ [row]) (timeline ++ entries)
        (outbox ++ updates)

/-- The two stores hold the same records, up to ids that were generated afresh and readings of the
clock: both are one history written out, in which the investigations have ids of their own. -/
def SameUpToFresh (hasEventBus : Bool) (store store' : BridgeStore F J) : Prop :=
  ∃ (history : List (RecordedAlert F J)) (names names' : ℕ → String),
    Set.InjOn names {k | ∃ alert ∈ history, alert.investigation = k} ∧
      Set.InjOn names' {k | ∃ alert ∈ history, alert.investigation = k} ∧
      Written hasEventBus names history store.evidence.rows store.timeline store.outbox ∧
      Written hasEventBus names' history store'.evidence.rows store'.timeline store'.outbox

variable {hasEventBus : Bool} {names names' : ℕ → String} {history : List (RecordedAlert F J)}
  {rows : List (AiFaultEvidence F J)} {timeline : List TimelineEvent} {outbox : List OutboxRow}
  {alert : RecordedAlert F J} {row : AiFaultEvidence F J} {investigationId : String}

/-- The row of an alert has the id of its event. -/
theorem RowOf.id_eq (h : RowOf alert investigationId row) : row.id = alert.event.eventId := by
  obtain ⟨recordedAt, hfields⟩ := h
  rw [hfields]
  rfl

/-- It has the asset of its event. -/
theorem RowOf.assetId_eq (h : RowOf alert investigationId row) :
    row.assetId = alert.event.assetId := by
  obtain ⟨recordedAt, hfields⟩ := h
  rw [hfields]
  rfl

/-- It was observed when the event was. -/
theorem RowOf.observedAt_eq (h : RowOf alert investigationId row) :
    row.observedAt = alert.event.sourceTimestamp := by
  obtain ⟨recordedAt, hfields⟩ := h
  rw [hfields]
  rfl

/-- It has the fault class of its event. -/
theorem RowOf.diagnosedFaultClass_eq (h : RowOf alert investigationId row) :
    row.diagnosedFaultClass = alert.event.faultClass := by
  obtain ⟨recordedAt, hfields⟩ := h
  rw [hfields]
  rfl

/-- It belongs to the investigation of the alert. -/
theorem RowOf.investigationId_eq (h : RowOf alert investigationId row) :
    row.investigationId = investigationId := by
  obtain ⟨recordedAt, hfields⟩ := h
  rw [hfields]
  rfl

/-- It has the status that the transition leads to. -/
theorem RowOf.investigationStatus_eq (h : RowOf alert investigationId row) :
    row.investigationStatus = statusAfter alert.event.transitionType := by
  obtain ⟨recordedAt, hfields⟩ := h
  rw [hfields]
  rfl

/-- Rows are ordered as their alerts are. -/
theorem RowOf.notAfter_iff {alert' : RecordedAlert F J} {row' : AiFaultEvidence F J}
    {investigationId' : String} (h : RowOf alert investigationId row)
    (h' : RowOf alert' investigationId' row') :
    NotAfter row row' ↔ NotObservedAfter alert.event alert'.event := by
  unfold NotAfter NotObservedAfter
  rw [h.id_eq, h'.id_eq, h.observedAt_eq, h'.observedAt_eq]

/-- Every row is that of an alert of the history. -/
theorem Written.exists_alert (h : Written hasEventBus names history rows timeline outbox)
    (hrow : row ∈ rows) : ∃ alert ∈ history, RowOf alert (names alert.investigation) row := by
  induction h with
  | nil => exact absurd hrow List.not_mem_nil
  | concat written rowOf entriesOf updatesOf ih =>
      rcases List.mem_append.mp hrow with hold | hnew
      · obtain ⟨alert, hmem, hof⟩ := ih hold
        exact ⟨alert, List.mem_append_left _ hmem, hof⟩
      · rw [List.mem_singleton.mp hnew]
        exact ⟨_, List.mem_append_right _ (List.mem_singleton_self _), rowOf⟩

/-- Every alert of the history has its row. -/
theorem Written.exists_row (h : Written hasEventBus names history rows timeline outbox)
    (halert : alert ∈ history) : ∃ row ∈ rows, RowOf alert (names alert.investigation) row := by
  induction h with
  | nil => exact absurd halert List.not_mem_nil
  | concat written rowOf entriesOf updatesOf ih =>
      rcases List.mem_append.mp halert with hold | hnew
      · obtain ⟨row, hmem, hof⟩ := ih hold
        exact ⟨row, List.mem_append_left _ hmem, hof⟩
      · rw [List.mem_singleton.mp hnew]
        exact ⟨_, List.mem_append_right _ (List.mem_singleton_self _), rowOf⟩

/-- Only the ids of investigations that occur matter. -/
theorem Written.congr (h : Written hasEventBus names history rows timeline outbox)
    (hnames : ∀ alert ∈ history, names' alert.investigation = names alert.investigation) :
    Written hasEventBus names' history rows timeline outbox := by
  induction h with
  | nil => exact .nil
  | concat written rowOf entriesOf updatesOf ih =>
      have hlast := hnames _ (List.mem_append_right _ (List.mem_singleton_self _))
      rw [← hlast] at rowOf entriesOf
      exact (ih fun alert hmem => hnames alert (List.mem_append_left _ hmem)).concat rowOf
        entriesOf updatesOf

end Written

/-! ## What the store keeps -/

section Keeps

/-- The store is the history written out, and the ids of the investigations are UUIDs of its past:
that of the investigation of the `k`-th alert is the `births k`-th. -/
structure Keeps (env : BridgeEnvironment) (births : ℕ → ℕ) (history : List (RecordedAlert F J))
    (store : BridgeStore F J) : Prop where
  written : Written env.hasEventBus (fun k => env.uuid4 (births k)) history store.evidence.rows
    store.timeline store.outbox
  ids : (history.map fun alert => alert.event.eventId).Nodup
  investigations : ∀ alert ∈ history, alert.investigation < history.length
  minted : ∀ k < history.length, births k < store.minted
  distinct : Set.InjOn births {k | k < history.length}

variable {env : BridgeEnvironment} {births : ℕ → ℕ} {history : List (RecordedAlert F J)}
  {store : BridgeStore F J} {delivery : Delivery F J}

/-- An alert is on record exactly if there is a row with its id. -/
theorem Keeps.onRecord_iff (h : Keeps env births history store)
    (event : ValidatedAlertTransition F J) :
    OnRecord history event ↔ store.evidence.get event.eventId ≠ none := by
  rw [ne_eq, get_eq_none_iff]
  push Not
  constructor
  · rintro ⟨alert, halert, hid⟩
    obtain ⟨row, hrow, hof⟩ := h.written.exists_row halert
    exact ⟨row, hrow, hof.id_eq.trans hid⟩
  · rintro ⟨row, hrow, hid⟩
    obtain ⟨alert, halert, hof⟩ := h.written.exists_alert hrow
    exact ⟨alert, halert, hof.id_eq.symm.trans hid⟩

/-- The latest row of an asset is that of its latest alert. -/
theorem Keeps.exists_latestAlert (h : Keeps env births history store) {assetId : String}
    {row : AiFaultEvidence F J} (hlatest : store.evidence.getLatestForAsset assetId = some row) :
    ∃ alert, latestAlert history assetId = some alert ∧
      RowOf alert (env.uuid4 (births alert.investigation)) row := by
  obtain ⟨hrow, hasset, hlast⟩ := getLatestForAsset_eq_some_iff.mp hlatest
  obtain ⟨alert, halert, hof⟩ := h.written.exists_alert hrow
  -- rows are ordered as the alerts are, so this one is the latest of the history
  have hown : IsLatest history assetId alert := by
    refine ⟨hof.assetId_eq.symm.trans hasset, fun other hother hassetOther => ?_⟩
    obtain ⟨rowOther, hrowOther, hofOther⟩ := h.written.exists_row hother
    exact (hofOther.notAfter_iff hof).mp
      (hlast rowOther hrowOther (hofOther.assetId_eq.trans hassetOther))
  refine ⟨alert, ?_, hof⟩
  cases hfound : latestAlert history assetId with
  | none =>
      have hnone := List.find?_eq_none.mp hfound alert halert
      exact absurd (decide_eq_true hown) hnone
  | some found =>
      -- another latest alert would have the same id
      obtain ⟨hmem, hfoundLatest⟩ := isLatest_of_latestAlert hfound
      obtain ⟨rowFound, hrowFound, hofFound⟩ := h.written.exists_row hmem
      have hafter := hlast rowFound hrowFound (hofFound.assetId_eq.trans hfoundLatest.1)
      have hbefore := (hof.notAfter_iff hofFound).mpr
        (hfoundLatest.2 alert halert (hof.assetId_eq.symm.trans hasset))
      have hid : found.event.eventId = alert.event.eventId := by
        rw [← hofFound.id_eq, ← hof.id_eq]
        exact hafter.id_eq hbefore
      rw [List.inj_on_of_nodup_map h.ids hmem halert hid]

/-- An asset without rows has no alert in the history. -/
theorem Keeps.latestAlert_eq_none (h : Keeps env births history store) {assetId : String}
    (hlatest : store.evidence.getLatestForAsset assetId = none) :
    latestAlert history assetId = none := by
  refine List.find?_eq_none.mpr fun alert halert hfound => ?_
  obtain ⟨row, hrow, hof⟩ := h.written.exists_row halert
  have hasset : alert.event.assetId = assetId := (of_decide_eq_true hfound).1
  exact getLatestForAsset_eq_none_iff.mp hlatest row hrow (hof.assetId_eq.trans hasset)

/-- The births after an alert: that of its own investigation would be the next UUID. -/
def birthsAfter (births : ℕ → ℕ) (history : List (RecordedAlert F J)) (store : BridgeStore F J) :
    ℕ → ℕ :=
  Function.update births history.length store.minted

/-- The ids of older investigations stay. -/
theorem birthsAfter_of_lt {k : ℕ} (hk : k < history.length) :
    birthsAfter births history store k = births k :=
  Function.update_of_ne hk.ne _ _

/-- A new investigation has the next id that is minted. -/
theorem birthsAfter_length :
    birthsAfter births history store history.length = store.minted :=
  Function.update_self _ _ _

/-- The bridge decides on an alert as the history has it. -/
theorem Keeps.decisionFor_eq (h : Keeps env births history store)
    (event : ValidatedAlertTransition F J) (corroboration : CorroborationOutcome) :
    decisionFor env store event = (placeAlert history event corroboration).decision
      (env.uuid4 (birthsAfter births history store
        (placeAlert history event corroboration).investigation)) := by
  unfold decisionFor placeAlert
  cases hlatest : store.evidence.getLatestForAsset event.assetId with
  | none =>
      rw [h.latestAlert_eq_none hlatest]
      unfold decideInvestigation RecordedAlert.decision
      dsimp only
      rw [birthsAfter_length]
  | some row =>
      obtain ⟨alert, halert, hof⟩ := h.exists_latestAlert hlatest
      have hknown := h.investigations alert (isLatest_of_latestAlert halert).1
      rw [halert]
      unfold decideInvestigation RecordedAlert.decision
      dsimp only
      rw [hof.investigationStatus_eq, hof.investigationId_eq, hof.diagnosedFaultClass_eq]
      unfold statusAfter
      by_cases hclearedBefore : alert.event.transitionType = .cleared
      · -- the last investigation is over
        rw [if_pos hclearedBefore, if_pos hclearedBefore, if_neg (by decide)]
        dsimp only
        rw [birthsAfter_length]
      · rw [if_neg hclearedBefore, if_neg hclearedBefore, if_pos rfl]
        dsimp only
        rw [birthsAfter_of_lt hknown]
        by_cases hcleared : event.transitionType = .cleared
        · rw [if_pos hcleared, if_pos hcleared, if_pos (Or.inl hcleared)]
        · rw [if_neg hcleared, if_neg hcleared]
          -- the investigation goes on, if the fault is still the same
          by_cases hclass : alert.event.faultClass = event.faultClass
          · simp [hcleared, hclass]
          · simp [hcleared, hclass]

end Keeps

/-! ## Conclusions without ids -/

section Conclusions

variable {env : BridgeEnvironment} {delivery : Delivery F J} {faultClass : FaultClass}
  {decision : InvestigationDecision}
  {conclusion : CorroborationOutcome × Option FaultRecommendation}

/-- An alert that was concluded has the corroboration of the conclusion. -/
theorem corroborationOf_of_concluded
    (hclass : FaultClass.ofName? delivery.event.faultClass = some faultClass)
    (htexts : ∀ text ∈ delivery.event.persistedTexts, text ≠ "")
    (hconclude : concludeAlert env delivery faultClass decision = .ok conclusion) :
    corroborationOf env delivery.observations delivery.event = some conclusion.1 := by
  have hall : delivery.event.persistedTexts.all (· ≠ "") = true := by simpa using htexts
  unfold corroborationOf
  rw [hclass]
  dsimp only
  rw [if_pos hall]
  split_ifs with hcleared
  · unfold concludeAlert at hconclude
    rw [if_pos hcleared] at hconclude
    rw [← Except.ok.inj hconclude]
  · have hcorroborate : corroborate env ⟨delivery.event, delivery.observations,
        fun _ => delivery.event.sourceTimestamp, none⟩ faultClass = .ok conclusion.1 :=
      (concludeAlert_opened hcleared hconclude).1
    rw [hcorroborate]
    rfl

/-- One that could not be concluded has none. -/
theorem corroborationOf_of_failed {failure : ServiceFailure}
    (hclass : FaultClass.ofName? delivery.event.faultClass = some faultClass)
    (hconclude : concludeAlert env delivery faultClass decision = .error failure) :
    corroborationOf env delivery.observations delivery.event = none := by
  unfold corroborationOf
  rw [hclass]
  dsimp only
  unfold concludeAlert at hconclude
  split_ifs at hconclude ⊢ with htexts hcleared
  · cases hcorroborate : corroborate env delivery faultClass with
    | error error =>
        have hsame : corroborate env ⟨delivery.event, delivery.observations,
            fun _ => delivery.event.sourceTimestamp, none⟩ faultClass = .error error :=
          hcorroborate
        rw [hsame]
        rfl
    | ok outcome =>
        -- a recommendation on what was corroborated can always be written
        obtain ⟨recommendation, hbuilt⟩ := exists_buildRecommendation
          (recommendationId_ne decision delivery.event.eventId) faultClass
          (corroborate_notes hcorroborate)
        rw [hcorroborate, ok_bind, hbuilt] at hconclude
        cases hconclude
  · rfl

/-- Nor has one with an empty text. -/
theorem corroborationOf_of_empty
    (htexts : ¬ ∀ text ∈ delivery.event.persistedTexts, text ≠ "") :
    corroborationOf env delivery.observations delivery.event = none := by
  have hall : ¬ delivery.event.persistedTexts.all (· ≠ "") = true := by
    intro hall
    exact htexts (by simpa using hall)
  unfold corroborationOf
  split
  · rfl
  · rw [if_neg hall]

/-- Its recommendation is that of the conclusion. -/
theorem recommendation_of_concluded {alert : RecordedAlert F J}
    (hclass : FaultClass.ofName? delivery.event.faultClass = some faultClass)
    (hconclude : concludeAlert env delivery faultClass decision = .ok conclusion)
    (hevent : alert.event = delivery.event) (hcorroboration : alert.corroboration = conclusion.1) :
    alert.recommendation decision.investigationId = conclusion.2 := by
  unfold RecordedAlert.recommendation
  rw [hevent, hcorroboration]
  split_ifs with hcleared
  · unfold concludeAlert at hconclude
    rw [if_pos hcleared] at hconclude
    rw [← Except.ok.inj hconclude]
  · obtain ⟨-, recommendation, hbuilt, hsome⟩ := concludeAlert_opened hcleared hconclude
    rw [hclass, Option.bind_some, hbuilt, hsome]
    rfl

end Conclusions

/-! ## Calls -/

section Calls

variable {env env' : BridgeEnvironment} {births : ℕ → ℕ} {history : List (RecordedAlert F J)}
  {store : BridgeStore F J} {delivery : Delivery F J} {observations : List (Observation F)}

/-- The empty store keeps the empty history. -/
theorem Keeps.fresh : Keeps env births [] (BridgeStore.fresh : BridgeStore F J) where
  written := .nil
  ids := List.nodup_nil
  investigations _ hmem := absurd hmem List.not_mem_nil
  minted _ hlt := absurd hlt (Nat.not_lt_zero _)
  distinct _ hlt := absurd hlt (Nat.not_lt_zero _)

/-- A store that is rolled back keeps what it kept. -/
theorem Keeps.rolledBack (h : Keeps env births history store) :
    Keeps env births history store.rolledBack :=
  ⟨h.written, h.ids, h.investigations, fun k hk => Nat.lt_add_right 6 (h.minted k hk), h.distinct⟩

/-- An alert belongs to an earlier investigation, or to the next one. -/
theorem investigation_placeAlert_le
    (hknown : ∀ alert ∈ history, alert.investigation < history.length)
    (event : ValidatedAlertTransition F J) (corroboration : CorroborationOutcome) :
    (placeAlert history event corroboration).investigation ≤ history.length := by
  unfold placeAlert
  cases hlatest : latestAlert history event.assetId with
  | none => exact le_rfl
  | some latest =>
      dsimp only
      split_ifs
      · exact le_rfl
      · exact (hknown latest (isLatest_of_latestAlert hlatest).1).le
      · exact (hknown latest (isLatest_of_latestAlert hlatest).1).le

/-- Different investigations have different ids. -/
theorem birthsAfter_injOn (hminted : ∀ k < history.length, births k < store.minted)
    (hdistinct : Set.InjOn births {k | k < history.length}) :
    Set.InjOn (birthsAfter births history store) {k | k < history.length + 1} := by
  intro j hj k hk heq
  rcases Nat.lt_succ_iff_lt_or_eq.mp hj with hj | rfl
  · rcases Nat.lt_succ_iff_lt_or_eq.mp hk with hk | rfl
    · rw [birthsAfter_of_lt hj, birthsAfter_of_lt hk] at heq
      exact hdistinct hj hk heq
    · rw [birthsAfter_of_lt hj, birthsAfter_length] at heq
      exact absurd heq (hminted j hj).ne
  · rcases Nat.lt_succ_iff_lt_or_eq.mp hk with hk | rfl
    · rw [birthsAfter_of_lt hk, birthsAfter_length] at heq
      exact absurd heq.symm (hminted k hk).ne
    · rfl

/-- The commit of an alert writes it out at the end of the history. -/
theorem Keeps.committed (h : Keeps env births history store) {faultClass : FaultClass}
    (hclass : FaultClass.ofName? delivery.event.faultClass = some faultClass)
    (hget : store.evidence.get delivery.event.eventId = none) {prepared : Prepared F J}
    (hprepare : prepare env store delivery faultClass = .ok prepared)
    {table : EvidenceTable F J} (hrows : table.rows = store.evidence.rows ++ [prepared.evidence]) :
    Keeps env (birthsAfter births history store)
      (recordAlert env delivery.observations history delivery.event)
      (store.committed env table prepared delivery) := by
  obtain ⟨conclusion, hconclude, hfields, hentries⟩ := exists_concluded_of_prepare hprepare
  have hnew : ¬ OnRecord history delivery.event := by
    rw [h.onRecord_iff, hget]
    exact fun hne => hne rfl
  have hcorroboration :=
    corroborationOf_of_concluded hclass (of_prepare hprepare).2 hconclude
  have hhistory : recordAlert env delivery.observations history delivery.event =
      history ++ [placeAlert history delivery.event conclusion.1] := by
    unfold recordAlert
    rw [if_neg hnew, hcorroboration]
  -- the row is that of the decision that the history has it make
  have hdecision := h.decisionFor_eq delivery.event conclusion.1
  have hevent : (placeAlert history delivery.event conclusion.1).event = delivery.event :=
    event_placeAlert _
  have hrecommendation := recommendation_of_concluded hclass hconclude hevent
    (corroboration_placeAlert _)
  rw [hdecision] at hfields hentries hrecommendation
  rw [hhistory]
  refine ⟨?_, ?_, ?_, ?_, ?_⟩
  · -- the ids of older investigations stay
    have holder : Written env.hasEventBus
        (fun k => env.uuid4 (birthsAfter births history store k)) history store.evidence.rows
        store.timeline store.outbox :=
      h.written.congr fun alert hmem => by
        rw [birthsAfter_of_lt (h.investigations alert hmem)]
    have hrow : RowOf (placeAlert history delivery.event conclusion.1)
        (env.uuid4 (birthsAfter births history store
          (placeAlert history delivery.event conclusion.1).investigation)) prepared.evidence := by
      refine ⟨delivery.clock 0, ?_⟩
      rw [hfields, ← hrecommendation, event_placeAlert, corroboration_placeAlert]
      rfl
    have hof : EntriesOf (placeAlert history delivery.event conclusion.1)
        (env.uuid4 (birthsAfter births history store
          (placeAlert history delivery.event conclusion.1).investigation)) prepared.entries := by
      refine ⟨fun k => env.uuid4 (store.minted + 1 + k), delivery.clock 1, ?_⟩
      rw [hentries, ← hrecommendation, event_placeAlert, corroboration_placeAlert]
      rfl
    have hafter := holder.concat hrow hof
      ⟨env.uuid4 (store.minted + 5), delivery.clock 2, delivery.clock 3, rfl⟩
    rw [← hrows] at hafter
    exact hafter
  -- the new event is not on record, so no two alerts have one id
  · rw [List.map_append, List.map_singleton, event_placeAlert]
    refine List.nodup_append.mpr ⟨h.ids, List.nodup_singleton _, ?_⟩
    intro id hid id' hid' heq
    obtain ⟨alert, hmem, rfl⟩ := List.mem_map.mp hid
    rw [List.mem_singleton.mp hid'] at heq
    exact hnew ⟨alert, hmem, heq⟩
  · intro alert hmem
    rw [List.length_append, List.length_singleton]
    rcases List.mem_append.mp hmem with hold | hadded
    · exact Nat.lt_succ_of_lt (h.investigations alert hold)
    · rw [List.mem_singleton.mp hadded]
      exact Nat.lt_succ_of_le (investigation_placeAlert_le h.investigations _ _)
  · intro k hk
    rw [List.length_append, List.length_singleton] at hk
    show birthsAfter births history store k < store.minted + 6
    rcases Nat.lt_succ_iff_lt_or_eq.mp hk with hk | rfl
    · rw [birthsAfter_of_lt hk]
      exact Nat.lt_add_right 6 (h.minted k hk)
    · rw [birthsAfter_length]
      omega
  · rw [List.length_append, List.length_singleton]
    exact birthsAfter_injOn h.minted h.distinct

/-- A call writes out what the alert adds to the history. -/
theorem Keeps.process (h : Keeps env births history store)
    (hcalm : delivery.interruption ≠ some .transaction) :
    ∃ births', Keeps env births' (recordAlert env delivery.observations history delivery.event)
      (processAlertTransition env store delivery).1 := by
  have hrecord := h.onRecord_iff delivery.event
  cases hget : store.evidence.get delivery.event.eventId with
  | some existing =>
      -- a duplicate is found before anything is written
      have hmet : OnRecord history delivery.event := by
        rw [hrecord, hget]
        exact Option.some_ne_none existing
      have hstore : (processAlertTransition env store delivery).1 = store := by
        unfold processAlertTransition
        split
        · rfl
        · rw [if_neg hcalm, transact, hget]
      have hhistory : recordAlert env delivery.observations history delivery.event = history :=
        if_pos hmet
      rw [hstore, hhistory]
      exact ⟨births, h⟩
  | none =>
      have hnew : ¬ OnRecord history delivery.event := by
        rw [hrecord, hget]
        exact fun hne => hne rfl
      unfold processAlertTransition
      cases hclass : FaultClass.ofName? delivery.event.faultClass with
      | none =>
          have hnone : corroborationOf env delivery.observations delivery.event = none := by
            unfold corroborationOf
            rw [hclass]
          -- a fault class that is not supported leaves the history as it is
          have hsettled : Settled env delivery.observations history delivery.event := Or.inr hnone
          rw [hsettled.recordAlert_eq]
          exact ⟨births, h⟩
      | some faultClass =>
          dsimp only
          rw [if_neg hcalm]
          cases hprepare : prepare env store delivery faultClass with
          | error failure =>
              have hnone : corroborationOf env delivery.observations delivery.event = none := by
                -- so does an alert that cannot be concluded, or has an empty text
                rcases of_prepare_eq_error hprepare with hconclude | hempty
                · exact corroborationOf_of_failed hclass hconclude
                · exact corroborationOf_of_empty hempty
              have hsettled : Settled env delivery.observations history delivery.event :=
                Or.inr hnone
              have hstore : (transact env store delivery faultClass).1 = store.rolledBack := by
                simp only [transact, hget, hprepare]
              rw [hsettled.recordAlert_eq, hstore]
              exact ⟨births, h.rolledBack⟩
          | ok prepared =>
              obtain ⟨table, hsave, hrows⟩ := save_of_new store.evidence prepared.evidence
                (by rw [(prepare_eq_ok hprepare).2.id]; exact hget)
              have hstore : (transact env store delivery faultClass).1 =
                  store.committed env table prepared delivery := by
                simp only [transact, hget, hprepare, hsave]
                split_ifs <;> rfl
              rw [hstore]
              exact ⟨_, h.committed hclass hget hprepare hrows⟩

/-- The calls of some deliveries, one after another. -/
def processAll (env : BridgeEnvironment) (store : BridgeStore F J)
    (deliveries : List (Delivery F J)) : BridgeStore F J :=
  deliveries.foldl (fun store delivery => (processAlertTransition env store delivery).1) store

/-- The calls write out what their alerts add to the history. -/
theorem Keeps.processAll {deliveries : List (Delivery F J)} (h : Keeps env births history store)
    (hcalm : ∀ delivery ∈ deliveries, delivery.observations = observations ∧
      delivery.interruption ≠ some .transaction) :
    ∃ births', Keeps env births'
      ((deliveries.map Delivery.event).foldl (recordAlert env observations) history)
      (processAll env store deliveries) := by
  induction deliveries generalizing births history store with
  | nil => exact ⟨births, h⟩
  | cons delivery deliveries ih =>
      obtain ⟨hfirst, hrest⟩ := List.forall_mem_cons.mp hcalm
      obtain ⟨births', hstep⟩ := h.process hfirst.2
      rw [hfirst.1] at hstep
      exact ih hstep hrest

/-- Two bridges with the same settings, whatever UUIDs they draw. -/
structure SameSettings (env env' : BridgeEnvironment) : Prop where
  corroborationWindow : env'.corroborationWindow = env.corroborationWindow
  corroborationSampleLimit : env'.corroborationSampleLimit = env.corroborationSampleLimit
  hasEventBus : env'.hasEventBus = env.hasEventBus

/-- The history depends on the settings only, and not on the ids that are minted. -/
theorem SameSettings.recordAlert_eq (h : SameSettings env env') :
    recordAlert env' observations =
      (recordAlert env observations : List (RecordedAlert F J) → _) := by
  have hcorroboration (event : ValidatedAlertTransition F J) :
      corroborationOf env' observations event = corroborationOf env observations event := by
    unfold corroborationOf corroborate
    rw [h.corroborationWindow, h.corroborationSampleLimit]
  funext history event
  unfold recordAlert
  rw [hcorroboration]

/-- Different investigations of the history have different ids. -/
theorem Keeps.names_injOn (h : Keeps env births history store) :
    Set.InjOn (fun k => env.uuid4 (births k))
      {k | ∃ alert ∈ history, alert.investigation = k} := by
  rintro j ⟨alert, hmem, rfl⟩ k ⟨other, hother, rfl⟩ heq
  exact h.distinct (h.investigations alert hmem) (h.investigations other hother)
    (env.uuid4_injective heq)

/-- Further deliveries of alerts leave no trace: the same rows, timeline, announcements and
investigations are there without them, whatever fails in the dispatch. -/
theorem replay_leavesSame (observations : List (Observation F))
    (hsettings : SameSettings env env') {deliveries replayed : List (Delivery F J)}
    (hreplay : Replay [] (deliveries.map Delivery.event) (replayed.map Delivery.event))
    (hcalm : ∀ delivery ∈ deliveries ++ replayed, delivery.observations = observations ∧
      delivery.interruption ≠ some .transaction) :
    SameUpToFresh env.hasEventBus (processAll env .fresh deliveries)
      (processAll env' .fresh replayed) := by
  have hfresh : Keeps env id [] (BridgeStore.fresh : BridgeStore F J) := .fresh
  have hfresh' : Keeps env' id [] (BridgeStore.fresh : BridgeStore F J) := .fresh
  obtain ⟨births, hkeeps⟩ := hfresh.processAll
    fun delivery hmem => hcalm delivery (List.mem_append_left _ hmem)
  obtain ⟨births', hkeeps'⟩ := hfresh'.processAll
    fun delivery hmem => hcalm delivery (List.mem_append_right _ hmem)
  rw [hsettings.recordAlert_eq, hreplay.foldl_recordAlert
    fun event hmem => absurd hmem List.not_mem_nil] at hkeeps'
  refine ⟨_, _, _, hkeeps.names_injOn, hkeeps'.names_injOn, hkeeps.written, ?_⟩
  rw [← hsettings.hasEventBus]
  exact hkeeps'.written

/-- An alert and its clearance, the alert delivered again in between and after. -/
theorem replay_leavesSame_clearedAlert :
    SameUpToFresh true
      (processAll (refusingBridge 0) .fresh
        [delivered (alert "event-1" .confirmed 1), delivered (alert "event-2" .cleared 2)])
      (processAll (refusingBridge 1) .fresh
        [delivered (alert "event-1" .confirmed 1), delivered (alert "event-1" .confirmed 1),
          delivered (alert "event-2" .cleared 2), delivered (alert "event-1" .confirmed 1)]) := by
  have hsettings : SameSettings (refusingBridge 0) (refusingBridge 1) := ⟨rfl, rfl, rfl⟩
  refine replay_leavesSame [] hsettings
    (.first _ (.again (List.mem_singleton_self _)
      (.first _ (.again (List.mem_cons_of_mem _ (List.mem_singleton_self _)) (.nil _)))))
    fun delivery hmem => ?_
  have hcalm : delivery.observations = [] ∧ delivery.interruption = none := by
    simp only [List.cons_append, List.nil_append, List.mem_cons, List.not_mem_nil,
      or_false] at hmem
    rcases hmem with rfl | rfl | rfl | rfl | rfl | rfl <;> exact ⟨rfl, rfl⟩
  exact ⟨hcalm.1, by simp [hcalm.2]⟩

end Calls

end Odis.ReasoningBridge
