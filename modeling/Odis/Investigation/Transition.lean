import Mathlib.Data.List.Nodup
import Mathlib.Data.List.Sort
import Odis.Outbox.Events

/-!
# Investigation transitions

What operators do about a recommendation (`domain/investigation.py`), as an append-only table of
transitions with its repository (`infrastructure/repositories/investigation_repository.py`), and
`InvestigationService.record_transition` of one call that runs alone.

The table keeps the order of the commits. The repository does not read it: it lists the transitions
of a recommendation by the stamps their services gave them.
-/

namespace Odis.Investigation

open Outbox

/-- `InvestigationStatus`. -/
inductive InvestigationStatus where
  | acknowledged
  | investigating
  | resolved
  deriving DecidableEq, Repr

namespace InvestigationStatus

/-- The text of a status. -/
def value : InvestigationStatus → String
  | acknowledged => "ACKNOWLEDGED"
  | investigating => "INVESTIGATING"
  | resolved => "RESOLVED"

/-- `_status_rank`: the place of a status in `INVESTIGATION_STATUS_ORDER`. -/
def rank : InvestigationStatus → ℕ
  | acknowledged => 0
  | investigating => 1
  | resolved => 2

end InvestigationStatus

/-- `InvestigationEvent`. The fields that must not be empty are so by construction. -/
structure InvestigationEvent where
  id : String
  assetId : String
  recommendationId : String
  status : InvestigationStatus
  actorId : String
  actorDisplayName : String
  occurredAt : Datetime
  notes : Option String
  id_ne : id ≠ ""
  assetId_ne : assetId ≠ ""
  recommendationId_ne : recommendationId ≠ ""
  actorId_ne : actorId ≠ ""
  actorDisplayName_ne : actorDisplayName ≠ ""
  deriving DecidableEq

/-- The arguments of `record_transition`. -/
structure TransitionRequest where
  assetId : String
  recommendationId : String
  status : InvestigationStatus
  actorId : String
  actorDisplayName : String
  notes : Option String

/-- What a call draws for itself: the ids of its two rows and the readings of the clock. -/
structure Minted where
  id : String
  occurredAt : Datetime
  outboxId : String
  timestamp : Datetime
  createdAt : Datetime

/-- The exceptions of `record_transition`, other than those of the dispatcher. -/
inductive TransitionError where
  /-- `ValueError` of `InvestigationEvent.__post_init__`, with the field it names. -/
  | emptyField (name : String)
  /-- `InvestigationTransitionRejectedError`, with what its message names. -/
  | rejected (recommendationId currentLabel : String) (status : InvestigationStatus)
  /-- `ValueError` of `save`. -/
  | alreadyExists
  deriving DecidableEq, Repr

/-- The constructor of the transition of a call, with its checks. -/
def TransitionRequest.transition (request : TransitionRequest) (minted : Minted) :
    Except TransitionError InvestigationEvent :=
  if hid : minted.id = "" then .error (.emptyField "id")
  else if hasset : request.assetId = "" then .error (.emptyField "asset_id")
  else if hrecommendation : request.recommendationId = "" then
    .error (.emptyField "recommendation_id")
  else if hactor : request.actorId = "" then .error (.emptyField "actor_id")
  else if hname : request.actorDisplayName = "" then .error (.emptyField "actor_display_name")
  else .ok ⟨minted.id, request.assetId, request.recommendationId, request.status, request.actorId,
    request.actorDisplayName, minted.occurredAt, request.notes, hid, hasset, hrecommendation,
    hactor, hname⟩

/-- A transition has the id that was drawn for it, and is what its request asks for. -/
theorem TransitionRequest.transition_eq_ok {request : TransitionRequest} {minted : Minted}
    {transition : InvestigationEvent} (h : request.transition minted = .ok transition) :
    transition.id = minted.id ∧ transition.occurredAt = minted.occurredAt ∧
      transition.recommendationId = request.recommendationId ∧
        transition.status = request.status := by
  unfold TransitionRequest.transition at h
  split_ifs at h
  obtain rfl := Except.ok.inj h
  exact ⟨rfl, rfl, rfl, rfl⟩

/-! ## The repository -/

/-- The order `(occurred_at, id)`. -/
def StampedBeforeOrAt (a b : InvestigationEvent) : Prop :=
  a.occurredAt.instant < b.occurredAt.instant ∨
    (a.occurredAt.instant = b.occurredAt.instant ∧ a.id ≤ b.id)

instance : DecidableRel StampedBeforeOrAt := fun a b => by
  unfold StampedBeforeOrAt
  infer_instance

/-- `list_for_recommendation`. -/
def listForRecommendation (rows : List InvestigationEvent) (recommendationId : String) :
    List InvestigationEvent :=
  (rows.filter fun row => row.recommendationId = recommendationId).insertionSort StampedBeforeOrAt

/-- `get_latest_for_recommendation`. -/
def getLatestForRecommendation (rows : List InvestigationEvent) (recommendationId : String) :
    Option InvestigationEvent :=
  (listForRecommendation rows recommendationId).getLast?

/-- `save`. -/
def save (rows : List InvestigationEvent) (transition : InvestigationEvent) :
    Except TransitionError (List InvestigationEvent) :=
  if transition.id ∈ rows.map InvestigationEvent.id then .error .alreadyExists
  else .ok (rows ++ [transition])

/-- The transitions read for a recommendation are its committed ones. -/
theorem mem_listForRecommendation {rows : List InvestigationEvent} {recommendationId : String}
    {row : InvestigationEvent} :
    row ∈ listForRecommendation rows recommendationId ↔
      row ∈ rows ∧ row.recommendationId = recommendationId := by
  rw [listForRecommendation, List.mem_insertionSort, List.mem_filter, decide_eq_true_eq]

/-! ## The service -/

section Service

variable {F : Type}

/-- `record_transition` rejects what is not a move forward from `current`. -/
def checkForward (current : Option InvestigationEvent) (request : TransitionRequest) :
    Except TransitionError Unit :=
  let currentRank : ℤ := (current.map fun current => (current.status.rank : ℤ)).getD (-1)
  if (request.status.rank : ℤ) ≤ currentRank then
    let currentLabel := (current.map fun current => current.status.value).getD "NEW"
    .error (.rejected request.recommendationId currentLabel request.status)
  else .ok ()

/-- The outbox row of a transition. -/
def outboxEvent (transition : InvestigationEvent) (minted : Minted) : OutboxEvent F where
  id := minted.outboxId
  eventType := "InvestigationTransitionRecorded"
  payload :=
    [("asset_id", .str transition.assetId), ("recommendation_id", .str transition.recommendationId),
      ("transition_id", .str transition.id), ("status", .str transition.status.value),
      ("actor_id", .str transition.actorId),
      ("actor_display_name", .str transition.actorDisplayName),
      ("occurred_at", .str transition.occurredAt.isoformat),
      ("notes", optionalText transition.notes),
      ("timestamp", .str minted.timestamp.isoformat)]
  createdAt := minted.createdAt
  dispatchedAt := none

/-- What the calls share: the committed transitions, in the order of their commits, and the outbox
rows committed with them. -/
structure Store (F : Type) where
  rows : List InvestigationEvent
  outbox : List (OutboxEvent F)

/-- The transition is saved with its outbox row, in one transaction. -/
def saveAndCommit (hasEventBus : Bool) (store : Store F) (request : TransitionRequest)
    (minted : Minted) : Except TransitionError (Store F × InvestigationEvent) := do
  let transition ← request.transition minted
  let rows ← save store.rows transition
  let added := if hasEventBus then [outboxEvent transition minted] else []
  return (⟨rows, store.outbox ++ added⟩, transition)

/-- `InvestigationService.record_transition` up to its commit, when no other call runs. -/
def recordTransition (hasEventBus : Bool) (store : Store F) (request : TransitionRequest)
    (minted : Minted) : Except TransitionError (Store F × InvestigationEvent) := do
  let current := getLatestForRecommendation store.rows request.recommendationId
  checkForward current request
  saveAndCommit hasEventBus store request minted

/-- A call gets past the check exactly if the status it asks for comes after the current one. -/
theorem checkForward_eq_ok_iff {current : Option InvestigationEvent} {request : TransitionRequest} :
    checkForward current request = .ok () ↔
      ∀ latest, current = some latest → latest.status.rank < request.status.rank := by
  cases current with
  | none =>
      have hnew : ¬ (request.status.rank : ℤ) ≤ -1 := by omega
      simp [checkForward, hnew]
  | some latest =>
      simp only [checkForward, Option.map_some, Option.getD_some, Option.some.injEq,
        forall_eq']
      split_ifs with h
      · exact iff_of_false (fun h => nomatch h) (by omega)
      · exact iff_of_true rfl (by omega)

/-- What `saveAndCommit` does to the table. -/
theorem saveAndCommit_eq_ok {hasEventBus : Bool} {store store' : Store F}
    {request : TransitionRequest} {minted : Minted} {transition : InvestigationEvent}
    (h : saveAndCommit hasEventBus store request minted = .ok (store', transition)) :
    request.transition minted = .ok transition ∧
      transition.id ∉ store.rows.map InvestigationEvent.id ∧
        store'.rows = store.rows ++ [transition] := by
  unfold saveAndCommit at h
  cases htransition : request.transition minted with
  | error error => simp [htransition, bind, Except.bind] at h
  | ok built =>
      by_cases hid : built.id ∈ store.rows.map InvestigationEvent.id
      · simp only [htransition, save, if_pos hid, bind, Except.bind] at h
        cases h
      · simp only [htransition, save, if_neg hid, bind, Except.bind] at h
        obtain ⟨rfl, rfl⟩ := Prod.mk.inj (Except.ok.inj h)
        exact ⟨rfl, hid, rfl⟩

/-- The outbox row of a transition is read back as its event. -/
theorem deserialize_outboxEvent [JsonText F] {transition : InvestigationEvent} {minted : Minted}
    (hoccurred : transition.occurredAt.InRange) (htimestamp : minted.timestamp.InRange) :
    deserializeDomainEvent (outboxEvent (F := F) transition minted).eventType
        (outboxEvent (F := F) transition minted).payload =
      .ok (some (.investigationTransitionRecorded transition.assetId transition.recommendationId
        transition.id transition.status.value transition.actorId transition.actorDisplayName
        transition.occurredAt transition.notes minted.timestamp)) := by
  have hoccurred' : datetimeItem (outboxEvent (F := F) transition minted).payload "occurred_at" =
      .ok transition.occurredAt := datetimeItem_isoformat hoccurred rfl
  have htimestamp' : datetimeItem (outboxEvent (F := F) transition minted).payload "timestamp" =
      .ok minted.timestamp := datetimeItem_isoformat htimestamp rfl
  have hnotes : optionalTextItem (outboxEvent (F := F) transition minted).payload "notes" =
      transition.notes := by
    simp only [optionalTextItem, outboxEvent, Json.lookup]
    cases transition.notes <;> rfl
  simp only [deserializeDomainEvent, outboxEvent] at hoccurred' htimestamp' hnotes ⊢
  simp [hoccurred', htimestamp', hnotes, textItem, Json.getItem, Json.lookup, Json.text, bind,
    Except.bind, pure, Except.pure]

end Service

end Odis.Investigation
