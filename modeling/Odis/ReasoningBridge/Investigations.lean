import Odis.Library.Transducer
import Odis.ReasoningBridge.Service

/-!
# Open investigations

The bridge opens an investigation at the first alert of an asset and closes it when the alert is
cleared. It reads off the latest record of the asset, by the timestamp of the observation, whether
one is open; events that arrive late are not the latest record, and are then not accounted for.

* `late_alerts_not_kept`: runs with one late alert, that reopen a cleared investigation or open a
  second one.
* `lifecycleKept_iff`: the runs that keep at most one investigation open for each asset and reopen
  none, by what the latest record of an asset says of its investigations; those in order are some.
-/

namespace Odis.ReasoningBridge

variable {F J : Type} [PyFloat F]

/-- A cleared event was attached to the investigation. -/
def Closed (rows : List (AiFaultEvidence F J)) (investigationId : String) : Prop :=
  ∃ row ∈ rows, row.investigationId = investigationId ∧ row.alertTransitionType = .cleared

/-- The asset has the investigation, and it is not closed. -/
def OpenFor (rows : List (AiFaultEvidence F J)) (assetId investigationId : String) : Prop :=
  (∃ row ∈ rows, row.assetId = assetId ∧ row.investigationId = investigationId) ∧
    ¬ Closed rows investigationId

/-- At most one investigation of an asset is open. -/
def AtMostOneOpen (rows : List (AiFaultEvidence F J)) : Prop :=
  ∀ assetId i j, OpenFor rows assetId i → OpenFor rows assetId j → i = j

/-- After a step, at most one investigation of an asset is open, and no record that is new was
attached to an investigation that was closed before. -/
structure LifecycleKept (before after : EvidenceTable F J) : Prop where
  atMostOneOpen : AtMostOneOpen after.rows
  notReopened : ∀ row ∈ after.rows, before.get row.id = none →
    ¬ Closed before.rows row.investigationId

/-- If the status of the asset's latest record is open, its investigation is not closed. -/
def OpenMirrored (table : EvidenceTable F J) (assetId : String) : Prop :=
  ∀ latest ∈ table.getLatestForAsset assetId, latest.investigationStatus = .opened →
    ¬ Closed table.rows latest.investigationId

/-- If it is not, no investigation of the asset is open. -/
def ClosedMirrored (table : EvidenceTable F J) (assetId : String) : Prop :=
  (∀ latest ∈ table.getLatestForAsset assetId, latest.investigationStatus ≠ .opened) →
    ∀ i, ¬ OpenFor table.rows assetId i

/-- The latest record of the event's asset tells what the event has to know of the investigations of
the asset: a cleared event opens none, and needs only the open one. -/
def LatestMirrors (table : EvidenceTable F J) (event : ValidatedAlertTransition F J) : Prop :=
  OpenMirrored table event.assetId ∧
    (event.transitionType ≠ .cleared → ClosedMirrored table event.assetId)

/-- The event sorts after the latest record of its asset, or is cleared exactly if that is. -/
def InOrder (store : BridgeStore F J) (delivery : Delivery F J) : Prop :=
  ∀ latest ∈ store.evidence.getLatestForAsset delivery.event.assetId,
    (latest.observedAt.instant < delivery.event.sourceTimestamp.instant ∨
      (latest.observedAt.instant = delivery.event.sourceTimestamp.instant ∧
        latest.id ≤ delivery.event.eventId)) ∨
    (delivery.event.transitionType = .cleared ↔ latest.alertTransitionType = .cleared)

section Decidable

instance (rows : List (AiFaultEvidence F J)) : DecidablePred (Closed rows) := fun _ =>
  inferInstanceAs (Decidable (∃ row ∈ rows, _))

/-- Only the investigations of records are open. -/
theorem atMostOneOpen_iff {rows : List (AiFaultEvidence F J)} :
    AtMostOneOpen rows ↔ ∀ row ∈ rows, ∀ row' ∈ rows, row.assetId = row'.assetId →
      ¬ Closed rows row.investigationId → ¬ Closed rows row'.investigationId →
        row.investigationId = row'.investigationId := by
  constructor
  · intro h row hrow row' hrow' hasset hopen hopen'
    exact h row.assetId _ _ ⟨⟨row, hrow, rfl, rfl⟩, hopen⟩ ⟨⟨row', hrow', hasset.symm, rfl⟩, hopen'⟩
  · rintro h a i j ⟨⟨row, hrow, hasset, rfl⟩, hopen⟩ ⟨⟨row', hrow', hasset', rfl⟩, hopen'⟩
    exact h row hrow row' hrow' (hasset.trans hasset'.symm) hopen hopen'

instance (rows : List (AiFaultEvidence F J)) : Decidable (AtMostOneOpen rows) :=
  decidable_of_iff _ atMostOneOpen_iff.symm

instance (before after : EvidenceTable F J) : Decidable (LifecycleKept before after) :=
  decidable_of_iff (AtMostOneOpen after.rows ∧ ∀ row ∈ after.rows, before.get row.id = none →
      ¬ Closed before.rows row.investigationId)
    ⟨fun h => ⟨h.1, h.2⟩, fun h => ⟨h.atMostOneOpen, h.notReopened⟩⟩

instance (store : BridgeStore F J) : DecidablePred (InOrder store) := fun delivery => by
  unfold InOrder
  infer_instance

end Decidable

/-! ## The decision -/

/-- A decision gives the investigation of the active record, if that is open, and a new one
otherwise. -/
theorem decideInvestigation_cases (newId : String) (transitionType : AlertTransitionType)
    (faultClass : String) (active : Option (AiFaultEvidence F J)) :
    (decideInvestigation newId transitionType faultClass active).investigationStatus =
        statusAfter transitionType ∧
      ((∃ row, active = some row ∧ row.investigationStatus = .opened ∧
          (decideInvestigation newId transitionType faultClass active).investigationId =
            row.investigationId) ∨
        (∀ row, active = some row → row.investigationStatus ≠ .opened) ∧
          (decideInvestigation newId transitionType faultClass active).investigationId =
            newId) := by
  cases active with
  | none => simp [decideInvestigation]
  | some row =>
      by_cases hopened : row.investigationStatus = .opened
      · by_cases hcleared : transitionType = .cleared <;>
          simp [decideInvestigation, statusAfter, hopened, hcleared]
      · simp [decideInvestigation, hopened]

/-- What the records of a store satisfy whatever the order of the events: their investigations have
ids that were set aside, each of one asset, and their status follows from the transition. -/
structure Recorded (env : BridgeEnvironment) (store : BridgeStore F J) : Prop where
  minted : ∀ row ∈ store.evidence.rows, ∃ k < store.minted, row.investigationId = env.uuid4 k
  oneAsset : ∀ row ∈ store.evidence.rows, ∀ row' ∈ store.evidence.rows,
    row.investigationId = row'.investigationId → row.assetId = row'.assetId
  status : ∀ row ∈ store.evidence.rows,
    row.investigationStatus = statusAfter row.alertTransitionType

/-- An event's record added to a store: it belongs to the open investigation of the latest record
of its asset, or to a new one. -/
structure Added (env : BridgeEnvironment) (store : BridgeStore F J)
    (event : ValidatedAlertTransition F J) (new : AiFaultEvidence F J)
    (after : BridgeStore F J) : Prop where
  rows : after.evidence.rows = store.evidence.rows ++ [new]
  minted : store.minted < after.minted
  unmet : store.evidence.get new.id = none
  assetId : new.assetId = event.assetId
  alertTransitionType : new.alertTransitionType = event.transitionType
  status : new.investigationStatus = statusAfter event.transitionType
  id : new.id = event.eventId
  observedAt : new.observedAt = event.sourceTimestamp
  investigation :
    (∃ latest, store.evidence.getLatestForAsset event.assetId = some latest ∧
      latest.investigationStatus = .opened ∧ new.investigationId = latest.investigationId) ∨
    ((∀ latest, store.evidence.getLatestForAsset event.assetId = some latest →
      latest.investigationStatus ≠ .opened) ∧ new.investigationId = env.uuid4 store.minted)

section Step

variable {env : BridgeEnvironment} {store after : BridgeStore F J} {delivery : Delivery F J}
  {event : ValidatedAlertTransition F J} {new : AiFaultEvidence F J}

/-- A call adds the record of its event, or leaves the records. -/
theorem processAlertTransition_cases (env : BridgeEnvironment) (store : BridgeStore F J)
    (delivery : Delivery F J) :
    ((processAlertTransition env store delivery).1.evidence = store.evidence ∧
      store.minted ≤ (processAlertTransition env store delivery).1.minted) ∨
    ∃ new, Added env store delivery.event new (processAlertTransition env store delivery).1 := by
  rw [processAlertTransition]
  cases FaultClass.ofName? delivery.event.faultClass with
  | none => exact Or.inl ⟨rfl, Nat.le_refl _⟩
  | some faultClass =>
      simp only
      split_ifs
      · exact Or.inl ⟨rfl, Nat.le_add_right _ _⟩
      -- a failed transaction is rolled back, and a duplicate stores nothing
      have heffect := transact_effect env store delivery faultClass
      generalize transact env store delivery faultClass = transacted at heffect ⊢
      cases heffect with
      | failed failure unmet => exact Or.inl ⟨rfl, Nat.le_add_right _ _⟩
      | duplicate existing found => exact Or.inl ⟨rfl, Nat.le_refl _⟩
      | stored evidence after result unmet record rows minted returned =>
          obtain ⟨hstatus, hinvestigation⟩ := decideInvestigation_cases (env.uuid4 store.minted)
            delivery.event.transitionType delivery.event.faultClass
            (store.evidence.getLatestForAsset delivery.event.assetId)
          refine Or.inr ⟨evidence, ?_⟩
          exact
            { rows := rows
              minted := by rw [minted]; exact Nat.lt_add_of_pos_right (Nat.succ_pos 5)
              unmet := by rw [record.id]; exact unmet
              assetId := record.assetId
              alertTransitionType := record.alertTransitionType
              status := record.investigationStatus.trans hstatus
              id := record.id
              observedAt := record.observedAt
              investigation := by
                rw [record.investigationId]
                exact hinvestigation }

/-- A record belongs to no investigation whose id is still to be minted. -/
theorem Recorded.ne_minted (h : Recorded env store) {row : AiFaultEvidence F J}
    (hrow : row ∈ store.evidence.rows) : row.investigationId ≠ env.uuid4 store.minted := by
  obtain ⟨k, hk, hid⟩ := h.minted row hrow
  rw [hid]
  exact fun heq => Nat.ne_of_lt hk (env.uuid4_injective heq)

/-- A new record shares its investigation with records of its asset only. -/
theorem Recorded.assetId_of_added (h : Recorded env store)
    (hadded : Added env store event new after) {row : AiFaultEvidence F J}
    (hrow : row ∈ store.evidence.rows)
    (hsame : row.investigationId = new.investigationId) : row.assetId = new.assetId := by
  rcases hadded.investigation with ⟨latest, hlatest, _, hid⟩ | ⟨_, hid⟩
  · obtain ⟨hmem, hasset, _⟩ := getLatestForAsset_eq_some_iff.mp hlatest
    rw [h.oneAsset row hrow latest hmem (hsame.trans hid), hasset, hadded.assetId]
  · exact absurd (hsame.trans hid) (h.ne_minted hrow)

/-- Adding a record keeps what holds of the records: it continues the investigation of its asset, or
one with a new id. -/
theorem Recorded.added (h : Recorded env store) (hadded : Added env store event new after) :
    Recorded env after where
  minted row hrow := by
    rw [hadded.rows] at hrow
    -- the ids of the old records were minted before
    have hold : ∀ row ∈ store.evidence.rows,
        ∃ k < after.minted, row.investigationId = env.uuid4 k := by
      intro row hrow
      obtain ⟨k, hk, hid⟩ := h.minted row hrow
      exact ⟨k, Nat.lt_trans hk hadded.minted, hid⟩
    rcases List.mem_append.mp hrow with hrow | hnew
    · exact hold row hrow
    · rw [List.mem_singleton.mp hnew]
      -- the new record has the id of the latest one of its asset, or the one just minted
      rcases hadded.investigation with ⟨latest, hlatest, _, hid⟩ | ⟨_, hid⟩
      · rw [hid]
        exact hold latest (getLatestForAsset_eq_some_iff.mp hlatest).1
      · exact ⟨store.minted, hadded.minted, hid⟩
  oneAsset row hrow row' hrow' hsame := by
    rw [hadded.rows] at hrow hrow'
    rcases List.mem_append.mp hrow with hold | hnew <;>
      rcases List.mem_append.mp hrow' with hold' | hnew'
    · exact h.oneAsset row hold row' hold' hsame
    · rw [List.mem_singleton.mp hnew'] at hsame ⊢
      exact h.assetId_of_added hadded hold hsame
    · rw [List.mem_singleton.mp hnew] at hsame ⊢
      exact (h.assetId_of_added hadded hold' hsame.symm).symm
    · rw [List.mem_singleton.mp hnew, List.mem_singleton.mp hnew']
  status row hrow := by
    rw [hadded.rows] at hrow
    rcases List.mem_append.mp hrow with hold | hnew
    · exact h.status row hold
    · rw [List.mem_singleton.mp hnew, hadded.status, hadded.alertTransitionType]

/-- What one record closes. -/
theorem closed_append {rows : List (AiFaultEvidence F J)} {i : String} :
    Closed (rows ++ [new]) i ↔
      Closed rows i ∨ (new.investigationId = i ∧ new.alertTransitionType = .cleared) := by
  simp [Closed, or_and_right, exists_or]

/-- What is open after a record was open before, or is the investigation of the record. -/
theorem openFor_append {rows : List (AiFaultEvidence F J)} {a i : String} :
    OpenFor (rows ++ [new]) a i ↔
      (OpenFor rows a i ∨ (¬ Closed rows i ∧ new.assetId = a ∧ new.investigationId = i)) ∧
        ¬ (new.investigationId = i ∧ new.alertTransitionType = .cleared) := by
  have howned : (∃ row ∈ rows ++ [new], row.assetId = a ∧ row.investigationId = i) ↔
      (∃ row ∈ rows, row.assetId = a ∧ row.investigationId = i) ∨
        (new.assetId = a ∧ new.investigationId = i) := by
    simp [or_and_right, exists_or]
  rw [OpenFor, OpenFor, closed_append, howned, not_or]
  constructor
  · rintro ⟨hold | hown, hclosed, hopened⟩
    · exact ⟨Or.inl ⟨hold, hclosed⟩, hopened⟩
    · exact ⟨Or.inr ⟨hclosed, hown⟩, hopened⟩
  · rintro ⟨⟨hold, hclosed⟩ | ⟨hclosed, hown⟩, hopened⟩
    · exact ⟨Or.inl hold, hclosed, hopened⟩
    · exact ⟨Or.inr hown, hclosed, hopened⟩

/-- No record belongs to the investigation whose id is set aside next. -/
theorem Recorded.not_closed_minted (h : Recorded env store) :
    ¬ Closed store.evidence.rows (env.uuid4 store.minted) := by
  rintro ⟨row, hrow, hid, _⟩
  exact h.ne_minted hrow hid

/-- A record that belongs to the open investigation of the latest one keeps the lifecycle exactly if
that investigation is not closed. -/
theorem lifecycleKept_continued_iff (hopen : AtMostOneOpen store.evidence.rows)
    (hadded : Added env store event new after) {latest : AiFaultEvidence F J}
    (hlatest : store.evidence.getLatestForAsset event.assetId = some latest)
    (hid : new.investigationId = latest.investigationId) :
    LifecycleKept store.evidence after.evidence ↔
      ¬ Closed store.evidence.rows latest.investigationId := by
  constructor
  · intro hkept
    rw [← hid]
    exact hkept.notReopened new (by simp [hadded.rows]) hadded.unmet
  · intro hclosed
    obtain ⟨hmem, hasset, _⟩ := getLatestForAsset_eq_some_iff.mp hlatest
    -- what is open after was open before
    have hbefore : ∀ a i, OpenFor after.evidence.rows a i → OpenFor store.evidence.rows a i := by
      intro a i hafter
      rw [hadded.rows, openFor_append] at hafter
      rcases hafter.1 with hold | ⟨_, rfl, rfl⟩
      · exact hold
      · rw [hid]
        exact ⟨⟨latest, hmem, hasset.trans hadded.assetId.symm, rfl⟩, hclosed⟩
    refine ⟨fun a i j hi hj => hopen a i j (hbefore a i hi) (hbefore a j hj), ?_⟩
    intro row hrow hunmet
    rw [hadded.rows] at hrow
    rcases List.mem_append.mp hrow with hold | hnew
    · exact absurd rfl (get_eq_none_iff.mp hunmet row hold)
    · rw [List.mem_singleton.mp hnew, hid]
      exact hclosed

/-- A record that belongs to a new investigation keeps the lifecycle exactly if it closes that, or
no investigation of its asset was open. -/
theorem lifecycleKept_new_iff (h : Recorded env store) (hopen : AtMostOneOpen store.evidence.rows)
    (hadded : Added env store event new after)
    (hid : new.investigationId = env.uuid4 store.minted) :
    LifecycleKept store.evidence after.evidence ↔
      (event.transitionType ≠ .cleared → ∀ i, ¬ OpenFor store.evidence.rows event.assetId i) := by
  have hunused := h.not_closed_minted
  constructor
  · intro hkept hcleared i hbefore
    obtain ⟨⟨row, hrow, hasset, rfl⟩, hclosed⟩ := hbefore
    -- the investigation stays open, and the new one is
    have hfirst : OpenFor after.evidence.rows event.assetId row.investigationId := by
      rw [hadded.rows, openFor_append]
      exact ⟨Or.inl ⟨⟨row, hrow, hasset, rfl⟩, hclosed⟩,
        fun hsame => h.ne_minted hrow (hsame.1.symm.trans hid)⟩
    have hsecond : OpenFor after.evidence.rows event.assetId (env.uuid4 store.minted) := by
      rw [hadded.rows, openFor_append, hadded.alertTransitionType]
      exact ⟨Or.inr ⟨hunused, hadded.assetId, hid⟩, fun hsame => hcleared hsame.2⟩
    exact h.ne_minted hrow (hkept.atMostOneOpen _ _ _ hfirst hsecond)
  · intro hnone
    refine ⟨fun a i j hi hj => ?_, fun row hrow hunmet => ?_⟩
    · rw [hadded.rows, openFor_append, hadded.alertTransitionType, hadded.assetId] at hi hj
      -- an investigation is open as it was, or it is the new one
      rcases hi with ⟨hi | ⟨_, rfl, hi⟩, hopened⟩ <;>
        rcases hj with ⟨hj | ⟨_, hasset, hj⟩, hopened'⟩
      · exact hopen a i j hi hj
      · subst hasset
        exact absurd hi (hnone (fun hcleared => hopened' ⟨hj, hcleared⟩) i)
      · exact absurd hj (hnone (fun hcleared => hopened ⟨hi, hcleared⟩) j)
      · exact hi.symm.trans hj
    · rw [hadded.rows] at hrow
      rcases List.mem_append.mp hrow with hold | hnew
      · exact absurd rfl (get_eq_none_iff.mp hunmet row hold)
      · rw [List.mem_singleton.mp hnew, hid]
        exact hunused

/-- A step that adds a record keeps the lifecycle exactly if the latest record of the asset mirrors
it. -/
theorem lifecycleKept_added_iff (h : Recorded env store)
    (hopen : AtMostOneOpen store.evidence.rows) (hadded : Added env store event new after) :
    LifecycleKept store.evidence after.evidence ↔ LatestMirrors store.evidence event := by
  -- the record goes on with the investigation of the latest one, or begins one of its own
  rcases hadded.investigation with ⟨latest, hlatest, hstatus, hid⟩ | ⟨hnone, hid⟩
  · rw [lifecycleKept_continued_iff hopen hadded hlatest hid, LatestMirrors]
    constructor
    · intro hclosed
      refine ⟨fun row hrow _ => ?_, fun _ hnone => absurd hstatus (hnone latest hlatest)⟩
      rw [← Option.some.inj (hlatest.symm.trans hrow)]
      exact hclosed
    · intro hmirrors
      exact hmirrors.1 latest hlatest hstatus
  · rw [lifecycleKept_new_iff h hopen hadded hid, LatestMirrors]
    constructor
    · intro hopenNone
      exact ⟨fun row hrow hstatus => absurd hstatus (hnone row hrow), fun hcleared _ =>
        hopenNone hcleared⟩
    · intro hmirrors hcleared
      exact hmirrors.2 hcleared hnone

/-! ## In order -/

/-- The latest record of every asset tells what is open of it. -/
def Mirrored (table : EvidenceTable F J) : Prop :=
  ∀ assetId, OpenMirrored table assetId ∧ ClosedMirrored table assetId

/-- An event that does not clear leaves its investigation open. -/
theorem not_closed_of_mirrored (h : Recorded env store)
    (hmirrored : OpenMirrored store.evidence event.assetId)
    (hadded : Added env store event new after) (hcleared : event.transitionType ≠ .cleared) :
    ¬ Closed after.evidence.rows new.investigationId := by
  rw [hadded.rows, closed_append, hadded.alertTransitionType]
  rintro (hclosed | ⟨_, hclear⟩)
  · rcases hadded.investigation with ⟨latest, hlatest, hstatus, hid⟩ | ⟨_, hid⟩
    · exact hmirrored latest hlatest hstatus (hid ▸ hclosed)
    · exact h.not_closed_minted (hid ▸ hclosed)
  · exact hcleared hclear

/-- An event that clears leaves no investigation of its asset open. -/
theorem not_openFor_of_mirrored (hopen : AtMostOneOpen store.evidence.rows)
    (hmirrored : OpenMirrored store.evidence event.assetId)
    (hmirrored' : ClosedMirrored store.evidence event.assetId)
    (hadded : Added env store event new after) (hcleared : event.transitionType = .cleared)
    (i : String) : ¬ OpenFor after.evidence.rows event.assetId i := by
  rw [hadded.rows, openFor_append, hadded.alertTransitionType]
  rintro ⟨hold | ⟨_, _, hnew⟩, hclear⟩
  · rcases hadded.investigation with ⟨latest, hlatest, hstatus, hid⟩ | ⟨hnone, _⟩
    · -- what was open is the investigation of the latest record, which the event closed
      obtain ⟨hmem, hasset, _⟩ := getLatestForAsset_eq_some_iff.mp hlatest
      have hlast : OpenFor store.evidence.rows event.assetId latest.investigationId :=
        ⟨⟨latest, hmem, hasset, rfl⟩, hmirrored latest hlatest hstatus⟩
      exact hclear ⟨hid.trans (hopen _ _ _ hlast hold), hcleared⟩
    · exact hmirrored' hnone i hold
  · exact hclear ⟨hnew, hcleared⟩

/-- The records of other assets tell what they told before. -/
theorem mirrored_of_ne (h : Recorded env store) (hadded : Added env store event new after)
    {assetId : String} (hne : new.assetId ≠ assetId)
    (hmirrored : OpenMirrored store.evidence assetId ∧ ClosedMirrored store.evidence assetId) :
    OpenMirrored after.evidence assetId ∧ ClosedMirrored after.evidence assetId := by
  have hlatest := getLatestForAsset_append_of_ne hadded.rows hne
  rw [OpenMirrored, ClosedMirrored, hlatest, hadded.rows]
  refine ⟨fun latest hmem hstatus => ?_, fun hnone i => ?_⟩
  · rw [closed_append]
    rintro (hclosed | ⟨hid, _⟩)
    · exact hmirrored.1 latest hmem hstatus hclosed
    · obtain ⟨hrow, hasset, _⟩ := getLatestForAsset_eq_some_iff.mp hmem
      exact hne ((h.assetId_of_added hadded hrow hid.symm).symm.trans hasset)
  · rw [openFor_append]
    rintro ⟨hold | ⟨_, hown, _⟩, _⟩
    · exact hmirrored.2 hnone i hold
    · exact hne hown

/-- An investigation is opened by every transition but a clearing one. -/
theorem statusAfter_eq_opened_iff {transitionType : AlertTransitionType} :
    statusAfter transitionType = .opened ↔ transitionType ≠ .cleared := by
  by_cases hcleared : transitionType = .cleared <;> simp [statusAfter, hcleared]

/-- After an event in order, the latest record of its asset has the status of the event, and its
investigation if that is open. -/
theorem latest_of_inOrder (h : Recorded env store)
    (hadded : Added env store delivery.event new after) (horder : InOrder store delivery) :
    ∃ latest, after.evidence.getLatestForAsset new.assetId = some latest ∧
      (latest.investigationStatus = .opened ↔ delivery.event.transitionType ≠ .cleared) ∧
      (latest.investigationStatus = .opened → latest.investigationId = new.investigationId) := by
  by_cases hafter : ∀ latest, store.evidence.getLatestForAsset new.assetId = some latest →
      NotAfter latest new
  · refine ⟨new, getLatestForAsset_append_of_after hadded.rows hafter, ?_, fun _ => rfl⟩
    rw [hadded.status, statusAfter_eq_opened_iff]
  · push Not at hafter
    obtain ⟨latest, hlatest, hlate⟩ := hafter
    refine ⟨latest, getLatestForAsset_append_of_late hadded.rows hlatest hlate, ?_,
      fun hstatus => ?_⟩
    · rw [NotAfter, hadded.observedAt, hadded.id] at hlate
      rw [hadded.assetId] at hlatest
      -- the event is late, so that it does what the latest record did
      have hcleared := (horder latest hlatest).resolve_left hlate
      rw [h.status latest (getLatestForAsset_eq_some_iff.mp hlatest).1, statusAfter_eq_opened_iff,
        ne_eq, ne_eq, hcleared]
    · rw [hadded.assetId] at hlatest
      rcases hadded.investigation with ⟨row, hrow, _, hid⟩ | ⟨hnone, _⟩
      · rw [hid, Option.some.inj (hlatest.symm.trans hrow)]
      · exact absurd hstatus (hnone latest hlatest)

/-- An event in order leaves the latest records telling what is open. -/
theorem mirrored_added (h : Recorded env store) (hopen : AtMostOneOpen store.evidence.rows)
    (hmirrored : Mirrored store.evidence)
    (hadded : Added env store delivery.event new after) (horder : InOrder store delivery) :
    Mirrored after.evidence := by
  intro assetId
  by_cases hasset : new.assetId = assetId
  · rw [← hasset]
    obtain ⟨hopened, hclosed⟩ := hmirrored delivery.event.assetId
    obtain ⟨latest, hlatest, hstatus, hid⟩ := latest_of_inOrder h hadded horder
    refine ⟨fun row hrow hrowStatus => ?_, fun hnone i => ?_⟩
    · rw [← Option.some.inj (hlatest.symm.trans hrow)] at hrowStatus ⊢
      rw [hid hrowStatus]
      exact not_closed_of_mirrored h hopened hadded (hstatus.mp hrowStatus)
    · have hcleared : delivery.event.transitionType = .cleared := by
        by_contra hne
        exact hnone latest hlatest (hstatus.mpr hne)
      rw [hadded.assetId]
      exact not_openFor_of_mirrored hopen hopened hclosed hadded hcleared i
  · exact mirrored_of_ne h hadded hasset (hmirrored assetId)

end Step

/-! ## Runs -/

section Run

variable (env : BridgeEnvironment)

/-- The call keeps the lifecycle, whether it adds a record or not. -/
def KeepsLifecycle (store : BridgeStore F J) (delivery : Delivery F J) : Prop :=
  LifecycleKept store.evidence (processAlertTransition env store delivery).1.evidence

instance (store : BridgeStore F J) : DecidablePred (KeepsLifecycle env store) := fun _ =>
  inferInstanceAs (Decidable (LifecycleKept _ _))

/-- If the record of the event is stored, the latest record of its asset mirrors the lifecycle. -/
def MirroredIfStored (store : BridgeStore F J) (delivery : Delivery F J) : Prop :=
  (processAlertTransition env store delivery).1.evidence ≠ store.evidence →
    LatestMirrors store.evidence delivery.event

variable {env}

/-- A call that leaves the records keeps the lifecycle. -/
theorem lifecycleKept_refl {table : EvidenceTable F J} (hopen : AtMostOneOpen table.rows) :
    LifecycleKept table table where
  atMostOneOpen := hopen
  notReopened row hrow hunmet := absurd rfl (get_eq_none_iff.mp hunmet row hrow)

/-- Every call keeps what holds of the records. -/
theorem recorded_step {store : BridgeStore F J} (h : Recorded env store)
    (delivery : Delivery F J) : Recorded env (processAlertTransition env store delivery).1 := by
  rcases processAlertTransition_cases env store delivery with ⟨hsame, hminted⟩ | ⟨new, hadded⟩
  · refine ⟨fun row hrow => ?_, by rw [hsame]; exact h.oneAsset, by rw [hsame]; exact h.status⟩
    rw [hsame] at hrow
    obtain ⟨k, hk, hid⟩ := h.minted row hrow
    exact ⟨k, Nat.lt_of_lt_of_le hk hminted, hid⟩
  · exact h.added hadded

/-- A call keeps the lifecycle exactly if the latest record mirrors it. -/
theorem keepsLifecycle_iff {store : BridgeStore F J} (h : Recorded env store)
    (hopen : AtMostOneOpen store.evidence.rows) (delivery : Delivery F J) :
    KeepsLifecycle env store delivery ↔ MirroredIfStored env store delivery := by
  rw [KeepsLifecycle, MirroredIfStored]
  rcases processAlertTransition_cases env store delivery with ⟨hsame, _⟩ | ⟨new, hadded⟩
  · rw [hsame]
    exact iff_of_true (lifecycleKept_refl hopen) fun hne => absurd rfl hne
  · have hstored : (processAlertTransition env store delivery).1.evidence ≠ store.evidence := by
      intro hsame
      have hrows := hadded.rows
      rw [hsame] at hrows
      simp at hrows
    rw [lifecycleKept_added_iff h hopen hadded]
    exact ⟨fun hmirrors _ => hmirrors, fun hmirrors => hmirrors hstored⟩

/-- A transition that comes in order keeps the lifecycle. -/
theorem keepsLifecycle_of_inOrder {store : BridgeStore F J} (h : Recorded env store)
    (hopen : AtMostOneOpen store.evidence.rows) (hmirrored : Mirrored store.evidence)
    (delivery : Delivery F J) : KeepsLifecycle env store delivery := by
  rw [keepsLifecycle_iff h hopen]
  intro _
  exact ⟨(hmirrored _).1, fun _ => (hmirrored _).2⟩

/-- It leaves the latest record of each asset to tell what is open of it. -/
theorem mirrored_step {store : BridgeStore F J} (h : Recorded env store)
    (hopen : AtMostOneOpen store.evidence.rows) (hmirrored : Mirrored store.evidence)
    {delivery : Delivery F J} (horder : InOrder store delivery) :
    Mirrored (processAlertTransition env store delivery).1.evidence := by
  rcases processAlertTransition_cases env store delivery with ⟨hsame, _⟩ | ⟨new, hadded⟩
  · rw [hsame]
    exact hmirrored
  · exact mirrored_added h hopen hmirrored hadded horder

/-- The runs from a store that keep the lifecycle. -/
theorem along_keepsLifecycle_iff (deliveries : List (Delivery F J)) {store : BridgeStore F J}
    (h : Recorded env store) (hopen : AtMostOneOpen store.evidence.rows) :
    Transducer.Along (processAlertTransition env) (KeepsLifecycle env) store deliveries ↔
      Transducer.Along (processAlertTransition env) (MirroredIfStored env) store deliveries := by
  induction deliveries generalizing store with
  | nil => rfl
  | cons delivery deliveries ih =>
      rw [Transducer.Along, Transducer.Along, ← keepsLifecycle_iff h hopen]
      exact and_congr_right fun hkept => ih (recorded_step h delivery) hkept.atMostOneOpen

/-- So a run in order keeps the lifecycle at every step. -/
theorem along_keepsLifecycle_of_inOrder {deliveries : List (Delivery F J)}
    {store : BridgeStore F J} (h : Recorded env store) (hopen : AtMostOneOpen store.evidence.rows)
    (hmirrored : Mirrored store.evidence)
    (horder : Transducer.Along (processAlertTransition env) InOrder store deliveries) :
    Transducer.Along (processAlertTransition env) (KeepsLifecycle env) store deliveries := by
  induction deliveries generalizing store with
  | nil => trivial
  | cons delivery deliveries ih =>
      obtain ⟨hfirst, hrest⟩ := horder
      have hkept := keepsLifecycle_of_inOrder h hopen hmirrored delivery
      exact ⟨hkept, ih (recorded_step h delivery) hkept.atMostOneOpen
        (mirrored_step h hopen hmirrored hfirst) hrest⟩

/-- There are no records at the start. -/
theorem recorded_fresh : Recorded env (.fresh : BridgeStore F J) where
  minted row hrow := by cases hrow
  oneAsset row hrow := by cases hrow
  status row hrow := by cases hrow

/-- Without records no investigation is open. -/
theorem not_openFor_nil (a i : String) : ¬ OpenFor ([] : List (AiFaultEvidence F J)) a i := by
  intro hopen
  obtain ⟨row, hrow, _⟩ := hopen.1
  cases hrow

/-- With no records nothing is open, and none tells otherwise. -/
theorem mirrored_fresh : Mirrored (BridgeStore.fresh : BridgeStore F J).evidence :=
  fun assetId => ⟨fun _ hlatest =>
    absurd (getLatestForAsset_eq_some_iff.mp hlatest).1 List.not_mem_nil,
      fun _ i => not_openFor_nil assetId i⟩

variable (env)

/-- The runs in which every event keeps at most one investigation of each asset open, and attaches
to none that is closed: those in which the latest record of the asset tells each stored event what
it has to know; in particular those in which each event is in order. -/
theorem lifecycleKept_iff (deliveries : List (Delivery F J)) :
    (Transducer.Along (processAlertTransition env) (KeepsLifecycle env) .fresh deliveries ↔
      Transducer.Along (processAlertTransition env) (MirroredIfStored env) .fresh deliveries) ∧
    (Transducer.Along (processAlertTransition env) InOrder .fresh deliveries →
      Transducer.Along (processAlertTransition env) (KeepsLifecycle env) .fresh deliveries) := by
  have hopen : AtMostOneOpen (BridgeStore.fresh : BridgeStore F J).evidence.rows :=
    fun a i _ hi => absurd hi (not_openFor_nil a i)
  exact ⟨along_keepsLifecycle_iff deliveries recorded_fresh hopen,
    along_keepsLifecycle_of_inOrder recorded_fresh hopen mirrored_fresh⟩

end Run

/-! ## The defect -/

section Late

/-- An alert confirmed, one changed to another class, and the alert cleared. -/
def inOrderAlerts : List (Delivery Rat Unit) :=
  [delivered (alert "alert-1" .confirmed 10), delivered (alert "alert-2" .classChanged 20),
    delivered (alert "alert-3" .cleared 30), delivered (alert "alert-4" .confirmed 40)]

/-- A cleared alert that arrives late. -/
def lateCleared : List (Delivery Rat Unit) :=
  [delivered (alert "alert-1" .confirmed 10), delivered (alert "alert-2" .cleared 5),
    delivered (alert "alert-3" .confirmed 20)]

/-- A confirmed alert that arrives late. -/
def lateConfirmed : List (Delivery Rat Unit) :=
  [delivered (alert "alert-1" .confirmed 10), delivered (alert "alert-2" .cleared 20),
    delivered (alert "alert-3" .confirmed 15), delivered (alert "alert-4" .confirmed 30)]

/-- Alerts in the order of their instants keep the lifecycle. -/
theorem lifecycleKept_inOrder :
    Transducer.Along (processAlertTransition (refusingBridge 0))
      (KeepsLifecycle (refusingBridge 0)) .fresh inOrderAlerts :=
  (lifecycleKept_iff (refusingBridge 0) inOrderAlerts).2 (by decide +kernel)

/-- The late cleared alert closes the investigation of the latest record, which stays the latest
record; the next alert is attached to that investigation. After the late confirmed alert, the latest
record is the cleared one, and the next alert opens a second investigation. -/
theorem late_alerts_not_kept :
    ¬ Transducer.Along (processAlertTransition (refusingBridge 0))
        (KeepsLifecycle (refusingBridge 0)) .fresh lateCleared ∧
      ¬ Transducer.Along (processAlertTransition (refusingBridge 0))
        (KeepsLifecycle (refusingBridge 0)) .fresh lateConfirmed := by
  decide +kernel

end Late

end Odis.ReasoningBridge
