import Odis.Monitoring.Service

/-!
# What calls of the service leave

The tables under any sequence of calls of `ObservationService`: rows are only added, and every index
row refers to rows that are found. What is shown of a run is computed from its rows, so it stays as
it is.

* `ran_runReasoningForAsset`: what a call of `_run_reasoning_for_asset` does to the tables.
* `keeps_applyAll`: what every sequence of calls keeps.
* `computeOperationalStateForRun_of_extends`: what is shown of a run does not change.
-/

namespace Odis.Monitoring

open Exceptions Inference KeyedWindow Operations Outbox Reasoning ReasoningHistory Twin WriteLog

variable {F : Type}

/-! ## Tables that grow -/

section Repositories

variable {repositories repositories' : Repositories F} {configuration : Configuration}
  {rows : List (Row F)}

/-- The records of some repositories are the first ones of others. -/
structure RepositoriesExtend (repositories repositories' : Repositories F) : Prop where
  observations : repositories.observations <+: repositories'.observations
  runs : repositories.runs <+: repositories'.runs
  situations : repositories.situations <+: repositories'.situations
  contexts : repositories.contexts <+: repositories'.contexts
  plans : repositories.plans <+: repositories'.plans
  indexes : repositories.indexes <+: repositories'.indexes

/-- Repositories extend themselves. -/
theorem RepositoriesExtend.refl (repositories : Repositories F) :
    RepositoriesExtend repositories repositories :=
  ⟨List.prefix_rfl, List.prefix_rfl, List.prefix_rfl, List.prefix_rfl, List.prefix_rfl,
    List.prefix_rfl⟩

/-- Extensions of extensions are extensions. -/
theorem RepositoriesExtend.trans {repositories'' : Repositories F}
    (h : RepositoriesExtend repositories repositories')
    (h' : RepositoriesExtend repositories' repositories'') :
    RepositoriesExtend repositories repositories'' :=
  ⟨h.observations.trans h'.observations, h.runs.trans h'.runs, h.situations.trans h'.situations,
    h.contexts.trans h'.contexts, h.plans.trans h'.plans, h.indexes.trans h'.indexes⟩

/-- A row is appended to its table. -/
theorem extend_put (repositories : Repositories F) (row : Row F) :
    RepositoriesExtend repositories (repositories.put row) := by
  cases row <;> refine ⟨?_, ?_, ?_, ?_, ?_, ?_⟩ <;>
    first | exact List.prefix_rfl | exact List.prefix_append _ _

/-- So are several rows. -/
theorem extend_addAll (configuration : Configuration) (rows : List (Row F)) :
    RepositoriesExtend repositories (configuration.log.addAll repositories rows) := by
  induction rows generalizing repositories with
  | nil => exact .refl _
  | cons row rows ih =>
      refine RepositoriesExtend.trans ?_ ih
      unfold Configuration.log Configuration.add
      dsimp only
      split_ifs
      · exact extend_put _ _
      · exact .refl _

/-- A session that is not given the observations leaves them as they are. -/
theorem observations_addAll :
    (platformConfiguration.log.addAll repositories rows).observations =
      repositories.observations := by
  induction rows generalizing repositories with
  | nil => rfl
  | cons row rows ih =>
      rw [Log.addAll_cons, ih]
      cases row <;> rfl

/-- The index rows that are added. -/
theorem indexes_addAll :
    (platformConfiguration.log.addAll repositories rows).indexes =
      repositories.indexes ++ rows.filterMap fun
        | .index index => some index
        | _ => none := by
  induction rows generalizing repositories with
  | nil => simp
  | cons row rows ih =>
      rw [Log.addAll_cons, ih]
      cases row <;> simp [Configuration.log, Configuration.add, platformConfiguration,
        Configuration.gives, Repositories.put]

end Repositories

/-- The tables later on: no row is lost, and the assessments of known runs stay as they are. -/
structure Extends (store store' : Store F) : Prop where
  repositories : RepositoriesExtend store.repositories store'.repositories
  assessed : ∀ run ∈ store.repositories.runs,
    store'.structuredAssessments.lookup run.id = store.structuredAssessments.lookup run.id

/-- Tables extend themselves. -/
theorem Extends.refl (store : Store F) : Extends store store :=
  ⟨.refl _, fun _ _ => rfl⟩

/-- Extensions of extensions are extensions. -/
theorem Extends.trans {store store' store'' : Store F} (h : Extends store store')
    (h' : Extends store' store'') : Extends store store'' :=
  ⟨h.repositories.trans h'.repositories, fun run hrun =>
    (h'.assessed run (h.repositories.runs.subset hrun)).trans (h.assessed run hrun)⟩

/-- A record that is found still is in a longer table. -/
theorem find?_of_prefix {α : Type} {records records' : List α} {p : α → Bool} {record : α}
    (h : records <+: records') (hfound : records.find? p = some record) :
    records'.find? p = some record := by
  obtain ⟨later, rfl⟩ := h
  rw [List.find?_append, hfound]
  rfl

/-- The ids of observations are distinct, and every index row refers to rows. -/
structure WellFormed (store : Store F) : Prop where
  ids_nodup : (store.repositories.observations.map Observation.id).Nodup
  runs : ∀ index ∈ store.repositories.indexes, ∃ run, store.getRun index.runId = some run
  plans : ∀ index ∈ store.repositories.indexes, ∃ plan, store.getPlan index.planId = some plan
  observations : ∀ index ∈ store.repositories.indexes, ∀ id ∈ index.observationIds,
    ∃ observation, store.getObservation id = some observation

/-- Empty tables are well formed. -/
theorem wellFormed_empty : WellFormed ({} : Store F) where
  ids_nodup := List.nodup_nil
  runs _ h := absurd h List.not_mem_nil
  plans _ h := absurd h List.not_mem_nil
  observations _ h := absurd h List.not_mem_nil

section Tables

variable {store store' : Store F}

/-- A run that is found is kept. -/
theorem mem_of_getRun {id : String} {run : ReasoningRun} (h : store.getRun id = some run) :
    run ∈ store.repositories.runs ∧ run.id = id :=
  ⟨List.mem_of_find?_eq_some h, by simpa using List.find?_some h⟩

/-- The rows of a longer table are well formed if the new index rows refer to rows. -/
theorem WellFormed.of_extends (h : WellFormed store)
    (hextends : RepositoriesExtend store.repositories store'.repositories)
    (hids : (store'.repositories.observations.map Observation.id).Nodup)
    (hnew : ∀ index ∈ store'.repositories.indexes, index ∉ store.repositories.indexes →
      (∃ run, store'.getRun index.runId = some run) ∧
      (∃ plan, store'.getPlan index.planId = some plan) ∧
      ∀ id ∈ index.observationIds, ∃ observation, store'.getObservation id = some observation) :
    WellFormed store' := by
  refine ⟨hids, fun index hindex => ?_, fun index hindex => ?_, fun index hindex id hid => ?_⟩
  · by_cases hold : index ∈ store.repositories.indexes
    · exact (h.runs index hold).imp fun _ => find?_of_prefix hextends.runs
    · exact (hnew index hindex hold).1
  · by_cases hold : index ∈ store.repositories.indexes
    · exact (h.plans index hold).imp fun _ => find?_of_prefix hextends.plans
    · exact (hnew index hindex hold).2.1
  · by_cases hold : index ∈ store.repositories.indexes
    · exact (h.observations index hold id hid).imp fun _ => find?_of_prefix hextends.observations
    · exact (hnew index hindex hold).2.2 id hid

variable [PyMath F]

/-- What is shown of a run stays as it is. -/
theorem computeOperationalStateForRun_of_extends (h : WellFormed store)
    (hextends : Extends store store') {assetId runId : String} {index : ReasoningRunIndex}
    (hindex : store.getIndex runId = some index) :
    store'.computeOperationalStateForRun assetId runId =
      store.computeOperationalStateForRun assetId runId := by
  have hmem : index ∈ store.repositories.indexes := List.mem_of_find?_eq_some hindex
  have hid : index.runId = runId := by simpa using List.find?_some hindex
  obtain ⟨run, hrun⟩ := h.runs index hmem
  obtain ⟨plan, hplan⟩ := h.plans index hmem
  -- the observations of the index are there, so later ones are not looked at
  have hobservations : index.observationIds.filterMap store'.getObservation =
      index.observationIds.filterMap store.getObservation := by
    refine List.filterMap_congr fun id hidmem => ?_
    obtain ⟨observation, hfound⟩ := h.observations index hmem id hidmem
    rw [hfound]
    exact find?_of_prefix hextends.repositories.observations hfound
  have hindex' : store'.getIndex runId = some index :=
    find?_of_prefix hextends.repositories.indexes hindex
  have hrun' : store'.getRun index.runId = some run :=
    find?_of_prefix hextends.repositories.runs hrun
  have hplan' : store'.getPlan index.planId = some plan :=
    find?_of_prefix hextends.repositories.plans hplan
  obtain ⟨hrunmem, hrunid⟩ := mem_of_getRun hrun
  -- nor has the run been assessed since
  have hassessed := hextends.assessed run hrunmem
  unfold Store.computeOperationalStateForRun
  rw [hindex, hindex', ← hid, hrun, hrun']
  dsimp only
  rw [hplan, hplan']
  dsimp only
  unfold Store.loadObservations
  rw [hobservations, ← hrunid, hassessed]

end Tables

/-! ## What a call does -/

section Calls

variable [PyMath F] {service : ObservationService F} {draws : ServiceDraws} {assetId : String}
  {store : Store F}

/-- The observations that a call reasons over. -/
def observationsOf (store : Store F) (assetId : String) : List (Observation F) :=
  TimeSeries.sortedByTimestampAndId (store.listByAsset assetId)

/-- The run of the session in a call. -/
def sessionRun (service : ObservationService F) (draws : ServiceDraws) (assetId : String)
    (store : Store F) : EStateM.Result (SessionError Empty) (Repositories F) (ReasoningResult F) :=
  service.session.run draws.run service.operationalGoal (observationsOf store assetId)
    store.repositories

/-- The tables after a call, and its outcome. -/
inductive Ran (service : ObservationService F) (draws : ServiceDraws) (assetId : String)
    (store : Store F) : Store F → Option ReasoningOutcome → Prop
  /-- The gate is closed, or something is raised before the session runs. -/
  | unchanged : Ran service draws assetId store store none
  /-- The session raises. -/
  | failed {error : SessionError Empty} {repositories : Repositories F}
      (hrun : sessionRun service draws assetId store = .error error repositories) :
      Ran service draws assetId store { store with repositories := repositories } none
  /-- Something is raised after the session has returned. -/
  | unannounced {result : ReasoningResult F} {repositories : Repositories F}
      {outbox : List (OutboxEvent F)}
      (hrun : sessionRun service draws assetId store = .ok result repositories) :
      Ran service draws assetId store
        { store with repositories := repositories, outbox := outbox } none
  /-- The call returns. -/
  | announced {result : ReasoningResult F} {repositories : Repositories F}
      {outbox : List (OutboxEvent F)} {outcome : ReasoningOutcome}
      (hrun : sessionRun service draws assetId store = .ok result repositories)
      (hassessed : store.structuredAssessments.lookup result.run.id = none)
      (hrunId : outcome.runId = result.run.id)
      (hprevious : store.latestOperationalStateForAsset assetId = .ok outcome.previousState)
      (hnew : compute assetId result.run.startedAt (observationsOf store assetId) result.plan
        (some result.structuredAssessment) = .ok outcome.newState)
      (hpreviousNotification : outcome.previousNotificationId =
        (outcome.previousState.bind service.notificationOf).map Notification.id)
      (hnotification : outcome.notification = service.notificationOf outcome.newState) :
      Ran service draws assetId store
        { store with
          repositories := repositories
          structuredAssessments := store.structuredAssessments ++
            [(result.run.id, result.structuredAssessment)]
          outbox := outbox } (some outcome)

section Programs

omit [PyMath F]

variable {α β : Type} {next : α → ServiceM F β}

/-- A call of the engine leaves the tables as they are. -/
theorem ofEngine_ok_bind {a : α} : (ofEngine (.ok a) >>= next) store = next a store := rfl

/-- After an exception of the engine nothing comes. -/
theorem ofEngine_error_bind {e : EngineError} :
    (ofEngine (.error e) >>= next) store = .error (.engine e) store := rfl

/-- A program of the session runs on the repositories and leaves the other tables. -/
theorem onRepositories_apply (program : SessionM F Empty α) (store : Store F) :
    onRepositories program store =
      match program store.repositories with
      | .ok a repositories => .ok a { store with repositories := repositories }
      | .error e repositories => .error (.session e) { store with repositories := repositories } :=
  rfl

theorem addToOutbox_eq (rows : List (OutboxEvent F)) (store : Store F) :
    addToOutbox rows store = .ok () { store with outbox := store.outbox ++ rows } := rfl

/-- A run is assessed if it has not been. -/
theorem saveStructuredAssessment_eq_ok (store : Store F) {runId : String}
    {assessment : StructuredAssessment}
    (h : ¬ (store.structuredAssessments.lookup runId).isSome = true) :
    saveStructuredAssessment runId assessment store =
      .ok () { store with
        structuredAssessments := store.structuredAssessments ++ [(runId, assessment)] } :=
  if_neg h

/-- A second assessment is refused. -/
theorem saveStructuredAssessment_eq_error (store : Store F) {runId : String}
    {assessment : StructuredAssessment}
    (h : (store.structuredAssessments.lookup runId).isSome = true) :
    saveStructuredAssessment runId assessment store = .error .assessmentExists store :=
  if_pos h

/-- The rows of the outbox and the assessment are recorded, or only the first row if there is an
assessment already. -/
theorem record_eq {rows : List (OutboxEvent F)} {runId : String}
    {assessment : StructuredAssessment} : record rows runId assessment store =
      if (store.structuredAssessments.lookup runId).isSome then
        .error .assessmentExists { store with outbox := store.outbox ++ rows.take 1 }
      else
        .ok () { store with
          structuredAssessments := store.structuredAssessments ++ [(runId, assessment)]
          outbox := store.outbox ++ rows.take 1 ++ rows.drop 1 } := by
  unfold record
  rw [bind_of_ok (addToOutbox_eq _ _)]
  let started : Store F := { store with outbox := store.outbox ++ rows.take 1 }
  split_ifs with hassessed
  · exact bind_of_error (saveStructuredAssessment_eq_error started hassessed)
  · exact bind_of_ok (saveStructuredAssessment_eq_ok started hassessed)

/-- What was recorded is an assessment of a run that had none. -/
theorem of_record_ok {rows : List (OutboxEvent F)} {runId : String}
    {assessment : StructuredAssessment} {u : Unit} {store' : Store F}
    (h : record rows runId assessment store = .ok u store') :
    store.structuredAssessments.lookup runId = none ∧ ∃ outbox, store' = { store with
      structuredAssessments := store.structuredAssessments ++ [(runId, assessment)]
      outbox := outbox } := by
  rw [record_eq] at h
  split_ifs at h with hassessed
  cases h
  exact ⟨Option.not_isSome_iff_eq_none.mp hassessed, _, rfl⟩

/-- A failed record leaves at most a row in the outbox. -/
theorem of_record_error {rows : List (OutboxEvent F)} {runId : String}
    {assessment : StructuredAssessment} {e : ServiceError} {store' : Store F}
    (h : record rows runId assessment store = .error e store') :
    ∃ outbox, store' = { store with outbox := outbox } := by
  rw [record_eq] at h
  split_ifs at h
  cases h
  exact ⟨_, rfl⟩

end Programs

/-- The tables of a result, and the outcome if there is one. -/
def Ran.Of (service : ObservationService F) (draws : ServiceDraws) (assetId : String)
    (store : Store F) : EStateM.Result ServiceError (Store F) (Option ReasoningOutcome) → Prop
  | .ok outcome store' => Ran service draws assetId store store' outcome
  | .error _ store' => Ran service draws assetId store store' none

variable (service draws assetId store) in
/-- What a call does is one of these. -/
theorem ran_runReasoningForAsset : Ran.Of service draws assetId store
    (service.runReasoningForAsset draws assetId store) := by
  unfold ObservationService.runReasoningForAsset
  rw [bind_of_ok (rfl : (get : ServiceM F (Store F)) store = .ok store store)]
  by_cases hgate : canRunReasoning (store.listByAsset assetId) = true
  swap
  · rw [if_pos hgate]
    exact .unchanged
  rw [if_neg (not_not.mpr hgate)]
  dsimp only
  -- before the session
  cases hprevious : store.latestOperationalStateForAsset assetId with
  | error e =>
      rw [ofEngine_error_bind]
      exact .unchanged
  | ok previousState =>
  rw [ofEngine_ok_bind]
  -- the trend so far is needed for the event about it
  generalize htrend : (TimeSeries.analyzeTrendDiagnostics (F := F) _ 8).mapError _ = previousTrend
  cases previousTrend with
  | error e =>
      rw [ofEngine_error_bind]
      exact .unchanged
  | ok previousTrend =>
  rw [ofEngine_ok_bind]
  -- the session
  cases hrun : sessionRun service draws assetId store with
  | error e repositories =>
      -- the session may leave rows behind
      have hraised : onRepositories (service.session.run draws.run service.operationalGoal
          (TimeSeries.sortedByTimestampAndId (store.listByAsset assetId))) store =
          .error (.session e) { store with repositories := repositories } := by
        rw [onRepositories_apply]
        unfold sessionRun observationsOf at hrun
        rw [hrun]
      rw [bind_of_error hraised]
      exact .failed hrun
  | ok result repositories =>
  have hreturned : onRepositories (service.session.run draws.run service.operationalGoal
      (TimeSeries.sortedByTimestampAndId (store.listByAsset assetId))) store =
      .ok result { store with repositories := repositories } := by
    rw [onRepositories_apply]
    unfold sessionRun observationsOf at hrun
    rw [hrun]
  rw [bind_of_ok hreturned]
  -- after the session
  cases hnew : compute assetId result.run.startedAt
      (TimeSeries.sortedByTimestampAndId (store.listByAsset assetId)) result.plan
      (some result.structuredAssessment) with
  | error e =>
      rw [ofEngine_error_bind]
      exact .unannounced hrun
  | ok newState =>
  rw [ofEngine_ok_bind]
  generalize hnewTrend : (TimeSeries.analyzeTrendDiagnostics (F := F) _ 8).mapError _ = newTrend
  cases newTrend with
  | error e =>
      rw [ofEngine_error_bind]
      exact .unannounced hrun
  | ok newTrend =>
  rw [ofEngine_ok_bind]
  -- what is recorded comes last, and may be refused
  generalize hrecorded : record (F := F) _ result.run.id result.structuredAssessment
    { store with repositories := repositories } = recorded
  rcases recorded with ⟨_, store'⟩ | ⟨e, store'⟩
  · rw [bind_of_ok hrecorded]
    obtain ⟨hassessed, outbox, rfl⟩ := of_record_ok hrecorded
    exact .announced hrun hassessed rfl hprevious hnew rfl rfl
  · rw [bind_of_error hrecorded]
    obtain ⟨outbox, rfl⟩ := of_record_error hrecorded
    exact .unannounced hrun

/-- A call that has announced an outcome has run. -/
theorem ran_of_runReasoningForAsset {store' : Store F} {outcome : Option ReasoningOutcome}
    (h : service.runReasoningForAsset draws assetId store = .ok outcome store') :
    Ran service draws assetId store store' outcome := by
  have hran := ran_runReasoningForAsset service draws assetId store
  rw [h] at hran
  exact hran

end Calls

/-! ## Runs of the session -/

section Sessions

variable [PyMath F] {service : ObservationService F} {draws : ServiceDraws} {assetId : String}
  {store : Store F} {repositories : Repositories F}

/-- The tables after a run that raised. -/
theorem of_sessionRun_error {error : SessionError Empty}
    (h : sessionRun service draws assetId store = .error error repositories) :
    RepositoriesExtend store.repositories repositories ∧
      repositories.observations = store.repositories.observations ∧
      repositories.indexes = store.repositories.indexes := by
  obtain ⟨rows, hrows, -, rfl⟩ := writes_run.of_error h
  refine ⟨extend_addAll _ _, observations_addAll, ?_⟩
  have hnone : rows.filterMap (fun
      | .index index => some index
      | _ => none) = ([] : List ReasoningRunIndex) := by
    refine List.filterMap_eq_nil_iff.mpr fun row hrow => ?_
    cases row with
    | index index => exact absurd hrow (hrows.index_not_mem index)
    | _ => rfl
  exact indexes_addAll.trans (by rw [hnone, List.append_nil])

/-- The tables after a run that returned: its index row is the only new one, and it refers to rows
that are found. -/
structure Returned (service : ObservationService F) (draws : ServiceDraws) (assetId : String)
    (store : Store F) (result : ReasoningResult F) (repositories : Repositories F) : Prop where
  kept : RepositoriesExtend store.repositories repositories
  observations : repositories.observations = store.repositories.observations
  run_eq : result.run = draws.run.run
  isNew : ∀ run ∈ store.repositories.runs, run.id ≠ result.run.id
  run : repositories.runs.find? (fun run => run.id = result.run.id) = some result.run
  plan : repositories.plans.find? (fun plan => plan.id = result.plan.id) = some result.plan
  index : ∃ index : ReasoningRunIndex,
    repositories.indexes = store.repositories.indexes ++ [index] ∧
    index.runId = result.run.id ∧ index.planId = result.plan.id ∧
    repositories.indexes.find? (fun index => index.runId = result.run.id) = some index ∧
    (repositories.situations.any fun situation => situation.id = index.situationId) = true ∧
    (repositories.contexts.any fun context => context.id = index.contextId) = true ∧
    ∃ windowed, service.session.windowed (observationsOf store assetId) = .ok windowed ∧
      index.observationIds = windowed.map Observation.id

/-- A session that returns has written its rows, under new ids. -/
theorem of_sessionRun_ok {result : ReasoningResult F}
    (h : sessionRun service draws assetId store = .ok result repositories) :
    Returned service draws assetId store result repositories := by
  obtain ⟨rows, ⟨windowed, hwindowed, hrun, rfl⟩, hadmitted, rfl⟩ := writes_run.of_ok h
  -- the run comes first among the rows, and none with its id was there
  have hnew := (Log.admitted_cons.mp hadmitted).1
  have hfinds (row : Row F) (hgives : platformConfiguration.gives row = true) :=
    fun hrow : row ∈ _ => finds_of_mem hadmitted hrow hgives
  refine ⟨extend_addAll _ _, observations_addAll, hrun, ?_, ?_, ?_, ?_⟩
  · intro run hmem hid
    exact hnew ⟨rfl, decide_eq_true (List.mem_map.mpr ⟨run, hmem, hid.trans (by rw [hrun])⟩)⟩
  · rw [hrun]
    exact hfinds (.run draws.run.run) rfl (by simp)
  · exact hfinds (.plan result.plan) rfl (by simp)
  · refine ⟨ReasoningSession.indexOf draws.run windowed result.situation result.context result.plan,
      ?_, ?_, rfl, ?_, ?_, ?_, windowed, hwindowed, rfl⟩
    · refine indexes_addAll.trans ?_
      simp [List.filterMap_map]
    · rw [hrun]
      rfl
    · rw [hrun]
      exact hfinds (.index (ReasoningSession.indexOf draws.run windowed result.situation
        result.context result.plan)) rfl (by simp)
    · have hfound := hfinds (.situation result.situation) rfl (by simp)
      exact List.any_eq_true.mpr ⟨_, List.mem_of_find?_eq_some hfound, decide_eq_true rfl⟩
    · have hfound := hfinds (.context result.context) rfl (by simp)
      exact List.any_eq_true.mpr ⟨_, List.mem_of_find?_eq_some hfound, decide_eq_true rfl⟩

end Sessions

/-! ## Observations in order -/

section Sorted

variable {observations : List (Observation F)}

/-- Observations in the order of a repository stay as they are when they are sorted. -/
theorem sortedByTimestampAndId_eq_self (h : observations.Pairwise PrecedesOrEq) :
    TimeSeries.sortedByTimestampAndId observations = observations := by
  refine OrderBy.orderBy_eq_self (h.imp fun {a b} hab => ?_)
  rw [Prod.Lex.le_iff]
  exact hab

end Sorted

/-! ## What every call keeps -/

section Keeping

variable [PyMath F] {service : ObservationService F} {draws : ServiceDraws} {assetId : String}
  {store store' : Store F} {outcome : Option ReasoningOutcome}

omit [PyMath F] in
/-- The observations of an asset, in the order of a repository. -/
theorem repositoryOrder_listByAsset (h : WellFormed store) (assetId : String) :
    RepositoryOrder (store.listByAsset assetId) :=
  repositoryOrder_sorted (h.ids_nodup.sublist (List.filter_sublist.map _))

omit [PyMath F] in
/-- The session reads the observations that the service reads. -/
theorem observationsOf_eq (h : WellFormed store) (assetId : String) :
    observationsOf store assetId = store.listByAsset assetId :=
  sortedByTimestampAndId_eq_self (repositoryOrder_listByAsset h assetId).sorted

omit [PyMath F] in
/-- The observations that a run reasons over. -/
theorem windowed_eq (h : WellFormed store) (assetId : String) :
    service.session.windowed (observationsOf store assetId) =
      .ok (recentByKey Observation.measurementType configuredWindow.toNat
        (store.listByAsset assetId)) := by
  rw [observationsOf_eq h]
  exact boundRecentObservations_eq (repositoryOrder_listByAsset h assetId) (by decide)

omit [PyMath F] in
/-- An observation of a window is found by its id. -/
theorem getObservation_of_mem (h : WellFormed store) {observation : Observation F}
    (hmem : observation ∈ recentByKey Observation.measurementType configuredWindow.toNat
      (store.listByAsset assetId)) : store.getObservation observation.id = some observation := by
  have hlisted := sublist_recentByKey.subset hmem
  have hstored : observation ∈ store.repositories.observations :=
    (List.mem_filter.mp ((perm_sortedByTimestampAndId _).mem_iff.mp hlisted)).1
  unfold Store.getObservation
  cases hfind : store.repositories.observations.find?
      (fun other => other.id = observation.id) with
  | none => simpa using List.find?_eq_none.mp hfind observation hstored
  | some found =>
      have hid : found.id = observation.id := by simpa using List.find?_some hfind
      rw [List.inj_on_of_nodup_map h.ids_nodup (List.mem_of_find?_eq_some hfind) hstored hid]

omit [PyMath F] in
/-- After a run that returned the tables are well formed. -/
theorem Returned.wellFormed {result : ReasoningResult F} {repositories : Repositories F}
    (hreturned : Returned service draws assetId store result repositories) (h : WellFormed store)
    (hstore' : store'.repositories = repositories) : WellFormed store' := by
  subst hstore'
  refine h.of_extends hreturned.kept (by rw [hreturned.observations]; exact h.ids_nodup) ?_
  intro index hindex hold
  obtain ⟨added, hadded, hrunId, hplanId, -, -, -, windowed, hwindowed, hids⟩ := hreturned.index
  rw [hadded] at hindex
  -- the only new index is the one of the run, and its rows were added before it
  obtain rfl : index = added := by
    simpa using (List.mem_append.mp hindex).resolve_left hold
  refine ⟨⟨_, by rw [hrunId]; exact hreturned.run⟩, ⟨_, by rw [hplanId]; exact hreturned.plan⟩, ?_⟩
  intro id hid
  rw [windowed_eq h] at hwindowed
  -- the observations of the window are stored
  obtain rfl := Except.ok.inj hwindowed
  rw [hids] at hid
  obtain ⟨observation, hmem, rfl⟩ := List.mem_map.mp hid
  refine ⟨observation, ?_⟩
  unfold Store.getObservation
  rw [hreturned.observations]
  exact getObservation_of_mem h hmem

/-- A call keeps the tables well formed, and their rows. -/
theorem Ran.keeps (hran : Ran service draws assetId store store' outcome) (h : WellFormed store) :
    WellFormed store' ∧ Extends store store' := by
  cases hran with
  | unchanged => exact ⟨h, .refl _⟩
  | failed hrun =>
      -- a run that raises has kept a part of its rows, but no index
      obtain ⟨hkept, hobservations, hindexes⟩ := of_sessionRun_error hrun
      refine ⟨h.of_extends hkept ?_ fun index hindex hold => ?_, hkept, fun _ _ => rfl⟩
      · dsimp only
        rw [hobservations]
        exact h.ids_nodup
      · dsimp only at hindex
        rw [hindexes] at hindex
        exact absurd hindex hold
  | unannounced hrun =>
      have hreturned := of_sessionRun_ok hrun
      exact ⟨hreturned.wellFormed h rfl, hreturned.kept, fun _ _ => rfl⟩
  | announced hrun =>
      have hreturned := of_sessionRun_ok hrun
      -- the assessment is stored under the new id, so the older ones are still found
      refine ⟨hreturned.wellFormed h rfl, hreturned.kept, fun run hmem => ?_⟩
      dsimp only
      rw [List.lookup_append]
      have hne : (run.id == _) = false := beq_eq_false_iff_ne.mpr (hreturned.isNew run hmem)
      simp [List.lookup_cons, hne]

variable (service) in
/-- Every step keeps the tables well formed, and their rows. -/
theorem keeps_apply (h : WellFormed store) (step : Step F) :
    WellFormed (service.apply store step) ∧ Extends store (service.apply store step) := by
  cases step with
  | runReasoning draws assetId =>
      have hran := ran_runReasoningForAsset service draws assetId store
      unfold ObservationService.apply
      dsimp only
      cases hresult : service.runReasoningForAsset draws assetId store with
      | ok outcome store' =>
          rw [hresult] at hran
          exact Ran.keeps hran h
      | error e store' =>
          rw [hresult] at hran
          exact Ran.keeps hran h
  | create observation rowId timestamp createdAt =>
      unfold ObservationService.apply ObservationService.create
      dsimp only
      split_ifs with htaken
      · exact ⟨h, .refl _⟩
      -- an observation is stored only under a new id
      have hkept := extend_put store.repositories (.observation observation)
      refine ⟨h.of_extends hkept ?_ fun index hindex hold => absurd hindex hold, hkept,
        fun _ _ => rfl⟩
      have hnew : observation.id ∉ store.repositories.observations.map Observation.id := by
        simpa [Repositories.isTaken] using htaken
      show ((store.repositories.observations ++ [observation]).map Observation.id).Nodup
      rw [List.map_append, List.nodup_append]
      refine ⟨h.ids_nodup, List.nodup_singleton _, ?_⟩
      rintro id hid id' hid' rfl
      obtain rfl := List.mem_singleton.mp hid'
      exact hnew hid

variable (service) in
/-- Any steps keep the tables well formed, and their rows. -/
theorem keeps_applyAll (h : WellFormed store) (steps : List (Step F)) :
    WellFormed (service.applyAll store steps) ∧ Extends store (service.applyAll store steps) := by
  induction steps generalizing store with
  | nil => exact ⟨h, .refl _⟩
  | cons step steps ih =>
      obtain ⟨hwell, hextends⟩ := keeps_apply service h step
      obtain ⟨hwell', hextends'⟩ := ih hwell
      exact ⟨hwell', hextends.trans hextends'⟩

end Keeping

end Odis.Monitoring
