import Odis.Monitoring.StateEngine
import Odis.Outbox.Producers
import Odis.ReasoningHistory.Runs

/-!
# Reasoning runs of an asset

`ObservationService` (`application/observation_service.py`) stores observations and runs the
reasoning of an asset over all that is stored of it. What a run announces is computed from its
result and from all observations of the asset; what operators are shown of it later
(`MonitoringService`, `application/monitoring_service.py`) is computed from the rows that the run
has left, and the run reasons over a window of the observations.
-/

namespace Odis.Monitoring

open Exceptions Inference Operations Outbox Reasoning ReasoningHistory Twin WriteLog

variable {F : Type}

/-! ## Tables -/

/-- The tables that a reasoning run reads and writes. -/
structure Store (F : Type) where
  repositories : Repositories F := {}
  structuredAssessments : List (String × StructuredAssessment) := []
  outbox : List (OutboxEvent F) := []

namespace Store

variable (store : Store F)

/-- `get` of the repository of observations. -/
def getObservation (id : String) : Option (Observation F) :=
  store.repositories.observations.find? fun observation => observation.id = id

/-- `get` of the repository of runs. -/
def getRun (id : String) : Option ReasoningRun :=
  store.repositories.runs.find? fun run => run.id = id

/-- `get` of the repository of index rows. -/
def getIndex (runId : String) : Option ReasoningRunIndex :=
  store.repositories.indexes.find? fun index => index.runId = runId

/-- `get` of the repository of plans. -/
def getPlan (id : String) : Option DecisionPlan :=
  store.repositories.plans.find? fun plan => plan.id = id

/-- `list_by_asset` of the repository of observations. -/
def listByAsset (assetId : String) : List (Observation F) :=
  Reasoning.sortedByTimestampAndId
    (store.repositories.observations.filter fun observation => observation.assetId = assetId)

/-- `list` of the repository of index rows. -/
def listIndexes : List ReasoningRunIndex :=
  store.repositories.indexes.insertionSort fun a b => a.runId ≤ b.runId

/-- The body of the loop of `_latest_run_id_for_asset` and `_latest_recommendation_for_asset`. -/
def laterIndex (assetObservationIds : List String)
    (latest : Option (Timestamp × ReasoningRunIndex)) (index : ReasoningRunIndex) :
    Option (Timestamp × ReasoningRunIndex) :=
  if index.observationIds.any fun id => id ∈ assetObservationIds then
    match store.getRun index.runId with
    | none => latest
    | some run =>
        if latest.all fun (startedAt, _) => startedAt.val.instant < run.startedAt.val.instant then
          some (run.startedAt, index)
        else latest
  else latest

/-- The index row of the run that started last among those over an observation of the asset. -/
def latestIndexForAsset (assetId : String) : Option ReasoningRunIndex :=
  let assetObservationIds := (store.listByAsset assetId).map Observation.id
  (store.listIndexes.foldl (store.laterIndex assetObservationIds) none).map Prod.snd

/-- `_latest_run_id_for_asset`. -/
def latestRunIdForAsset (assetId : String) : Option String :=
  (store.latestIndexForAsset assetId).map ReasoningRunIndex.runId

/-- `_latest_recommendation_for_asset`. -/
def latestRecommendationForAsset (assetId : String) : Option String := do
  let index ← store.latestIndexForAsset assetId
  let plan ← store.getPlan index.planId
  return plan.recommendation

/-- The observations of an index row, by timestamp and id. -/
def loadObservations (observationIds : List String) : List (Observation F) :=
  TimeSeries.sortedByTimestampAndId (observationIds.filterMap store.getObservation)

variable [PyMath F]

/-- `_compute_operational_state_for_run`. -/
def computeOperationalStateForRun (assetId runId : String) :
    Except EngineError (Option OperationalState) :=
  match store.getIndex runId, store.getRun runId with
  | some index, some run =>
      match store.getPlan index.planId with
      | none => .ok none
      | some plan =>
          (compute assetId run.startedAt (store.loadObservations index.observationIds) plan
            (store.structuredAssessments.lookup runId)).map some
  | _, _ => .ok none

/-- `_latest_operational_state_for_asset`. -/
def latestOperationalStateForAsset (assetId : String) :
    Except EngineError (Option OperationalState) :=
  match store.latestRunIdForAsset assetId with
  | none => .ok none
  | some runId => store.computeOperationalStateForRun assetId runId

end Store

/-! ## Services -/

/-- What a run draws, and when it looks at the clock. -/
structure ServiceDraws where
  run : RunDraws
  now : Timestamp
  completedAt : Timestamp
  createdAt : Datetime
  newId : ℕ → String

/-- The exceptions of a run. -/
inductive ServiceError where
  | session (error : SessionError Empty)
  | engine (error : EngineError)
  /-- `ValueError` of the repository of structured assessments. -/
  | assessmentExists

/-- A program over the tables. -/
abbrev ServiceM (F α : Type) : Type := EStateM ServiceError (Store F) α

/-- The collaborators of an `ObservationService`, as `create_observation_service` chooses them. -/
structure ObservationService (F : Type) where
  operationalGoal : OperationalGoal
  texts : ValueTexts F
  sha256 : Sha256

/-- The repositories of the session of `create_observation_service`. -/
def platformConfiguration : Configuration where
  runs := true
  registry := false
  observations := false
  situations := true
  contexts := true
  plans := true
  indexes := true

/-- The program of a session. -/
def onRepositories {α : Type} (program : SessionM F Empty α) : ServiceM F α := fun store =>
  match program store.repositories with
  | .ok a repositories => .ok a { store with repositories := repositories }
  | .error e repositories => .error (.session e) { store with repositories := repositories }

/-- A call of the engine. -/
def ofEngine {α : Type} (result : Except EngineError α) : ServiceM F α :=
  match result with
  | .ok a => pure a
  | .error e => throw (.engine e)

/-- `save` of the repository of structured assessments. -/
def saveStructuredAssessment (runId : String) (assessment : StructuredAssessment) :
    ServiceM F Unit := fun store =>
  if (store.structuredAssessments.lookup runId).isSome then .error .assessmentExists store
  else
    .ok () { store with
      structuredAssessments := store.structuredAssessments ++ [(runId, assessment)] }

/-- Rows are added to the outbox. -/
def addToOutbox (rows : List (OutboxEvent F)) : ServiceM F Unit :=
  modify fun store => { store with outbox := store.outbox ++ rows }

/-- The rows of a run and its assessment. The first row is added before the assessment is saved, the
others after it. -/
def record (rows : List (OutboxEvent F)) (runId : String) (assessment : StructuredAssessment) :
    ServiceM F Unit := do
  addToOutbox (rows.take 1)
  saveStructuredAssessment runId assessment
  addToOutbox (rows.drop 1)

/-- What is announced of the diagnostics of a trend. -/
def announcedTrend (diagnostics : TimeSeries.TrendDiagnostics F) : Operations.TrendDiagnostics where
  direction :=
    match diagnostics.direction with
    | .rising => .rising
    | .falling => .falling
    | .stable => .stable
  stabilityScore := diagnostics.stabilityScore
  volatilityScore := diagnostics.volatilityScore

namespace ObservationService

variable [PyMath F] (service : ObservationService F)

/-- The session of `create_observation_service`. -/
def session : ReasoningSession F Empty where
  profile := .fuelCell
  observationWindow := some configuredWindow
  configuration := platformConfiguration
  publish _ := .ok ()
  texts := service.texts

/-- The id of the notification for a state. -/
def notificationOf (state : OperationalState) : Option Notification :=
  computeNotification (computeRecommendation service.sha256 state)

/-- `_run_reasoning_for_asset`. The outcome is what the rows of the outbox are made of; there is
none if the observations do not pass the gate. -/
def runReasoningForAsset (draws : ServiceDraws) (assetId : String) :
    ServiceM F (Option ReasoningOutcome) := do
  let store ← get
  if ¬ canRunReasoning (store.listByAsset assetId) then return none
  let observations := TimeSeries.sortedByTimestampAndId (store.listByAsset assetId)
  let previousState ← ofEngine (store.latestOperationalStateForAsset assetId)
  let primary := primaryMeasurementObservations observations
  -- the trend that the latest observation may have changed
  let previousPrimary := if 2 ≤ primary.length then primary.dropLast else []
  let previousTrend ← ofEngine
    ((TimeSeries.analyzeTrendDiagnostics previousPrimary 8).mapError .analysis)
  let result ← onRepositories (service.session.run draws.run service.operationalGoal observations)
  let newState ← ofEngine (compute assetId result.run.startedAt observations result.plan
    (some result.structuredAssessment))
  let newTrend ← ofEngine ((TimeSeries.analyzeTrendDiagnostics primary 8).mapError .analysis)
  let outcome : ReasoningOutcome :=
    { assetId := assetId
      runId := result.run.id
      startedAt := result.run.startedAt
      previousTrend := previousTrend.map announcedTrend
      newTrend := newTrend.map announcedTrend
      primaryCount := primary.length
      previousRecommendation := store.latestRecommendationForAsset assetId
      newRecommendation := result.plan.recommendation
      previousState := previousState
      newState := newState
      previousNotificationId := (previousState.bind service.notificationOf).map Notification.id
      notification := service.notificationOf newState
      now := draws.now
      completedAt := draws.completedAt
      createdAt := draws.createdAt }
  record (outcome.rows draws.newId) result.run.id result.structuredAssessment
  return some outcome

/-- `create`: an observation is stored unless its id is taken. -/
def create (observation : Observation F) (rowId : String) (timestamp : Timestamp)
    (createdAt : Datetime) (store : Store F) : Store F :=
  if store.repositories.isTaken (.observation observation) then store
  else
    { store with
      repositories := store.repositories.put (.observation observation)
      outbox := store.outbox ++ [observationCreatedRow rowId observation timestamp createdAt] }

end ObservationService

/-! ## Any sequence of calls -/

/-- A call of the service. -/
inductive Step (F : Type) where
  | create (observation : Observation F) (rowId : String) (timestamp : Timestamp)
      (createdAt : Datetime)
  | runReasoning (draws : ServiceDraws) (assetId : String)

/-- The tables after a call. A worker commits what a run has written before it raised. -/
def ObservationService.apply [PyMath F] (service : ObservationService F) (store : Store F) :
    Step F → Store F
  | .create observation rowId timestamp createdAt =>
      create observation rowId timestamp createdAt store
  | .runReasoning draws assetId =>
      match service.runReasoningForAsset draws assetId store with
      | .ok _ store' => store'
      | .error _ store' => store'

/-- The tables after some calls. -/
def ObservationService.applyAll [PyMath F] (service : ObservationService F) (store : Store F)
    (steps : List (Step F)) : Store F := steps.foldl service.apply store

end Odis.Monitoring
