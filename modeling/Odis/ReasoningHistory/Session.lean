import Odis.Library.WriteLog
import Odis.Operations.Domain
import Odis.Reasoning.DecisionLaw

/-!
# Reasoning runs and their records

`ReasoningSession.run` (`application/reasoning_session.py`) over the repositories it is given. Each
of them keeps records under ids in memory, and refuses an id that is taken. A run writes as it goes:
itself first, its index row last.

* `writes_run`: what a run has written when it returns, and when it raises.
-/

namespace Odis.ReasoningHistory

open Exceptions Inference Reasoning WriteLog

variable {F : Type}

/-! ## Repositories -/

/-- `ReasoningRun`. -/
structure ReasoningRun where
  id : String
  startedAt : Operations.Timestamp
  deriving DecidableEq

/-- `ReasoningRunRegistryEntry`. -/
structure ReasoningRunRegistryEntry where
  runId : String
  startedAt : Operations.Timestamp
  deriving DecidableEq

/-- `ReasoningRunIndex`. -/
structure ReasoningRunIndex where
  runId : String
  observationIds : List String
  situationId : String
  contextId : String
  planId : String
  actionId : String
  outcomeId : String
  assetId : String
  deriving DecidableEq

/-- The records of the repositories, in the order they were saved. -/
structure Repositories (F : Type) where
  runs : List ReasoningRun := []
  registry : List ReasoningRunRegistryEntry := []
  observations : List (Observation F) := []
  situations : List OperationalSituation := []
  contexts : List DecisionContext := []
  plans : List DecisionPlan := []
  indexes : List ReasoningRunIndex := []

/-- A record that a run saves. -/
inductive Row (F : Type) where
  | run (run : ReasoningRun)
  | registry (entry : ReasoningRunRegistryEntry)
  | observation (observation : Observation F)
  | situation (situation : OperationalSituation)
  | context (context : DecisionContext)
  | plan (plan : DecisionPlan)
  | index (index : ReasoningRunIndex)

/-- Which repositories a session is given. -/
structure Configuration where
  runs : Bool
  registry : Bool
  observations : Bool
  situations : Bool
  contexts : Bool
  plans : Bool
  indexes : Bool
  deriving DecidableEq

/-- A session that is given all repositories. -/
def Configuration.all : Configuration := ⟨true, true, true, true, true, true, true⟩

/-- Whether the repository of a record is given. -/
def Configuration.gives (configuration : Configuration) : Row F → Bool
  | .run _ => configuration.runs
  | .registry _ => configuration.registry
  | .observation _ => configuration.observations
  | .situation _ => configuration.situations
  | .context _ => configuration.contexts
  | .plan _ => configuration.plans
  | .index _ => configuration.indexes

/-- Whether the id of a record is taken. -/
def Repositories.isTaken (repositories : Repositories F) : Row F → Bool
  | .run run => run.id ∈ repositories.runs.map ReasoningRun.id
  | .registry entry => entry.runId ∈ repositories.registry.map ReasoningRunRegistryEntry.runId
  | .observation observation => observation.id ∈ repositories.observations.map Observation.id
  | .situation situation => situation.id ∈ repositories.situations.map OperationalSituation.id
  | .context context => context.id ∈ repositories.contexts.map DecisionContext.id
  | .plan plan => plan.id ∈ repositories.plans.map DecisionPlan.id
  | .index index => index.runId ∈ repositories.indexes.map ReasoningRunIndex.runId

/-- A record is put where it belongs. -/
def Repositories.put (repositories : Repositories F) : Row F → Repositories F
  | .run run => { repositories with runs := repositories.runs ++ [run] }
  | .registry entry => { repositories with registry := repositories.registry ++ [entry] }
  | .observation observation =>
      { repositories with observations := repositories.observations ++ [observation] }
  | .situation situation =>
      { repositories with situations := repositories.situations ++ [situation] }
  | .context context => { repositories with contexts := repositories.contexts ++ [context] }
  | .plan plan => { repositories with plans := repositories.plans ++ [plan] }
  | .index index => { repositories with indexes := repositories.indexes ++ [index] }

/-- A record is put where it belongs, if the session is given that repository. -/
def Configuration.add (configuration : Configuration) (repositories : Repositories F)
    (row : Row F) : Repositories F :=
  if configuration.gives row then repositories.put row else repositories

/-- The records of the repositories that are given, where no id is taken twice. -/
def Configuration.log (configuration : Configuration) : Log (Repositories F) (Row F) where
  add := configuration.add
  allowed repositories row := ¬ (configuration.gives row ∧ repositories.isTaken row)

/-! ## Sessions -/

/-- The events that a run publishes. -/
inductive SessionEvent where
  | observationRecorded (observationId : String) (recordedAt : Datetime)
  | operationalSituationCreated (situationId : String) (createdAt : Datetime)
  | decisionContextCreated (contextId : String) (createdAt : Datetime)
  | decisionPlanGenerated (planId : String) (generatedAt : Datetime)

/-- The exceptions of a run. -/
inductive SessionError (E : Type) where
  /-- `ValueError` of a repository. -/
  | alreadyExists
  | window (error : WindowError)
  | stage (error : PipelineError StageError)
  /-- `RuntimeError("explicit reasoning pipeline did not populate required artifacts")`. -/
  | notPopulated
  /-- An exception of the event publisher. -/
  | publisher (error : E)

/-- A program over the repositories. What was saved before an exception stays saved. -/
abbrev SessionM (F E α : Type) : Type := EStateM (SessionError E) (Repositories F) α

/-- `ReasoningSession`: the profile and the settings that its runs share, the repositories that it
was given, and the publisher. -/
structure ReasoningSession (F E : Type) where
  profile : StageProfile
  /-- `ReasoningSessionConfig.observation_window`. -/
  observationWindow : Option ℤ
  configuration : Configuration
  /-- `EventPublisher.publish`, which does nothing where no publisher is given. -/
  publish : SessionEvent → Except E Unit
  texts : ValueTexts F

/-- What a run draws for itself, and when it looks at the clock. -/
structure RunDraws where
  run : ReasoningRun
  drawn : Drawn
  situationAnnouncedAt : Datetime
  actionId : String
  outcomeId : String

/-- `ReasoningResult`, but for what its reasoning context repeats and for the trace. -/
structure ReasoningResult (F : Type) where
  run : ReasoningRun
  situation : OperationalSituation
  structuredAssessment : StructuredAssessment
  context : DecisionContext
  plan : DecisionPlan
  actionId : String
  outcomeId : String
  reasoningContext : ReasoningContext F

namespace ReasoningSession

variable {E : Type} (session : ReasoningSession F E)

/-- `save`, or `add`, of the repository of a record. -/
def save (row : Row F) : SessionM F E Unit := fun repositories =>
  if session.configuration.gives row ∧ repositories.isTaken row then
    .error .alreadyExists repositories
  else .ok () (session.configuration.add repositories row)

/-- An exception of a call that changes no repository. -/
def raising {α : Type} (result : Except (SessionError E) α) : SessionM F E α :=
  match result with
  | .ok a => pure a
  | .error e => throw e

/-- An event is published. -/
def announce (event : SessionEvent) : SessionM F E Unit :=
  raising ((session.publish event).mapError .publisher)

/-- The observations that are reasoned over. -/
def windowed (observations : List (Observation F)) :
    Except WindowError (List (Observation F)) :=
  match session.observationWindow with
  | none => .ok observations
  | some window => boundRecentObservations observations window

/-- The loop over the observations. -/
def recordObservations (observations : List (Observation F)) : SessionM F E Unit :=
  observations.forM fun observation => do
    session.announce (.observationRecorded observation.id observation.timestamp)
    session.save (.observation observation)

/-- What the stages must have left. -/
structure Populated where
  situation : OperationalSituation
  structuredAssessment : StructuredAssessment
  context : DecisionContext
  plan : DecisionPlan

/-- The check of the artifacts. -/
def populated (artifacts : ReasoningArtifacts F) : Except (SessionError E) Populated :=
  match artifacts.signals, artifacts.assessmentSummary.bind AssessmentSummary.situation,
    artifacts.structuredAssessment, artifacts.planningContext, artifacts.decisionContext,
    artifacts.decisionPlan with
  | some _, some situation, some structuredAssessment, some _, some context, some plan =>
      .ok ⟨situation, structuredAssessment, context, plan⟩
  | _, _, _, _, _, _ => .error .notPopulated

/-- The index row of a run. -/
def indexOf (draws : RunDraws) (observations : List (Observation F))
    (situation : OperationalSituation) (context : DecisionContext) (plan : DecisionPlan) :
    ReasoningRunIndex where
  runId := draws.run.id
  observationIds := observations.map Observation.id
  situationId := situation.id
  contextId := context.id
  planId := plan.id
  actionId := draws.actionId
  outcomeId := draws.outcomeId
  assetId := (observations.head?.map Observation.assetId).getD ""

/-- What is saved of the artifacts of a run, and announced. -/
def recordArtifacts (draws : RunDraws) (observations : List (Observation F))
    (situation : OperationalSituation) (context : DecisionContext) (plan : DecisionPlan) :
    SessionM F E Unit := do
  session.announce (.operationalSituationCreated situation.id draws.situationAnnouncedAt)
  session.save (.situation situation)
  session.announce (.decisionContextCreated context.id context.createdAt)
  session.save (.context context)
  session.announce (.decisionPlanGenerated plan.id plan.createdAt)
  session.save (.plan plan)
  session.save (.index (indexOf draws observations situation context plan))

/-- `ReasoningSession.run`. -/
def run [PyFloat F] (draws : RunDraws) (goal : OperationalGoal)
    (observations : List (Observation F)) : SessionM F E (ReasoningResult F) := do
  session.save (.run draws.run)
  session.save (.registry ⟨draws.run.id, draws.run.startedAt⟩)
  let observations ← raising ((session.windowed observations).mapError .window)
  session.recordObservations observations
  let reasoningContext ← raising ((runStages session.texts draws.drawn
    { goal := goal, observations := observations, profile := session.profile }).mapError .stage)
  let ⟨situation, structuredAssessment, context, plan⟩ ←
    raising (populated reasoningContext.artifacts)
  session.recordArtifacts draws observations situation context plan
  return ⟨draws.run, situation, structuredAssessment, context, plan, draws.actionId,
    draws.outcomeId, reasoningContext⟩

end ReasoningSession

/-! ## What the stages leave -/

section Stages

variable {E : Type} [PyFloat F] {texts : ValueTexts F} {drawn : Drawn}
  {goal : OperationalGoal} {profile : StageProfile} {observations : List (Observation F)}

/-- After the last stage there is all that the check asks for. -/
theorem exists_populated {context : ReasoningContext F}
    (h : runStages texts drawn ⟨goal, observations, profile, {}⟩ = .ok context) :
    ∃ found, (ReasoningSession.populated context.artifacts :
      Except (SessionError E) ReasoningSession.Populated) = .ok found := by
  unfold runStages stages at h
  simp only [List.foldlM_cons, List.foldlM_nil] at h
  obtain ⟨extracted, -, h⟩ := bind_eq_ok.mp h
  obtain ⟨evidenced, -, h⟩ := bind_eq_ok.mp h
  obtain ⟨hypothesized, -, h⟩ := bind_eq_ok.mp h
  obtain ⟨assessed, -, h⟩ := bind_eq_ok.mp h
  obtain ⟨scored, hscored, h⟩ := bind_eq_ok.mp h
  obtain ⟨explained, hexplained, h⟩ := bind_eq_ok.mp h
  obtain ⟨planned, hplanned, h⟩ := bind_eq_ok.mp h
  cases h
  -- the signals are there when the confidence is scored
  obtain ⟨_, -, hscored⟩ := bind_eq_ok.mp hscored
  obtain ⟨_, -, hscored⟩ := bind_eq_ok.mp hscored
  obtain ⟨signals, hsignals, hscored⟩ := bind_eq_ok.mp hscored
  obtain ⟨_, -, hscored⟩ := bind_eq_ok.mp hscored
  cases hscored
  obtain ⟨_, -, hexplained⟩ := bind_eq_ok.mp hexplained
  obtain ⟨_, -, hexplained⟩ := bind_eq_ok.mp hexplained
  obtain ⟨_, -, hexplained⟩ := bind_eq_ok.mp hexplained
  cases hexplained
  -- the last stage looks for the rest, and adds the plan
  obtain ⟨summary, hsummary, hplanned⟩ := bind_eq_ok.mp hplanned
  obtain ⟨situation, hsituation, hplanned⟩ := bind_eq_ok.mp hplanned
  obtain ⟨structured, hstructured, hplanned⟩ := bind_eq_ok.mp hplanned
  obtain ⟨_, -, hplanned⟩ := bind_eq_ok.mp hplanned
  obtain ⟨_, -, hplanned⟩ := bind_eq_ok.mp hplanned
  cases hplanned
  unfold ReasoningSession.populated
  have hsignals' := eq_some_of_needed hsignals
  have hsummary' := eq_some_of_needed hsummary
  have hstructured' := eq_some_of_needed hstructured
  dsimp only at hsignals' hsummary' hstructured' ⊢
  -- each artifact that a later stage needed is there at the end
  rw [hsignals', hsummary', Option.bind_some, eq_some_of_needed hsituation, hstructured']
  exact ⟨_, rfl⟩

omit [PyFloat F] in
/-- The assessor gives the situation the id that was drawn for it. -/
theorem id_assessmentStage {context context' : ReasoningContext F}
    (h : (assessmentStage F drawn).run context = .ok context') :
    ∃ situation, context'.situation? = some situation ∧ situation.id = drawn.situationId := by
  obtain ⟨signals, -, h⟩ := bind_eq_ok.mp h
  obtain ⟨result, hresult, h⟩ := bind_eq_ok.mp h
  cases h
  refine ⟨result.situation, rfl, ?_⟩
  obtain ⟨_, -, hresult⟩ := bind_eq_ok.mp (mapError_eq_ok.mp hresult)
  obtain ⟨_, -, hresult⟩ := bind_eq_ok.mp hresult
  obtain ⟨_, -, hresult⟩ := bind_eq_ok.mp hresult
  obtain ⟨_, -, hresult⟩ := bind_eq_ok.mp hresult
  obtain ⟨situation, hsituation, hresult⟩ := bind_eq_ok.mp hresult
  cases hresult
  unfold OperationalSituation.create at hsituation
  split_ifs at hsituation
  cases hsituation
  rfl

omit [PyFloat F] in
/-- So does the planner with the decision context and the plan. -/
theorem ids_planningStage {context context' : ReasoningContext F}
    (h : (planningStage F drawn).run context = .ok context') :
    context'.situation? = context.situation? ∧
      (∃ decisionContext, context'.artifacts.decisionContext = some decisionContext ∧
        decisionContext.id = drawn.contextId) ∧
      ∃ decisionPlan, context'.artifacts.decisionPlan = some decisionPlan ∧
        decisionPlan.id = drawn.planId := by
  obtain ⟨_, -, h⟩ := bind_eq_ok.mp h
  obtain ⟨_, -, h⟩ := bind_eq_ok.mp h
  obtain ⟨_, -, h⟩ := bind_eq_ok.mp h
  obtain ⟨decisionContext, hcontext, h⟩ := bind_eq_ok.mp h
  obtain ⟨decisionPlan, hplan, h⟩ := bind_eq_ok.mp h
  cases h
  -- the constructors keep the ids that they are given
  refine ⟨rfl, ⟨decisionContext, rfl, ?_⟩, decisionPlan, rfl, ?_⟩
  · obtain ⟨_, -, hcontext⟩ := bind_eq_ok.mp (mapError_eq_ok.mp hcontext)
    unfold DecisionContext.create at hcontext
    split_ifs at hcontext
    cases hcontext
    rfl
  · obtain ⟨⟨priority, recommendation, justification⟩, -, hplan⟩ :=
      bind_eq_ok.mp (mapError_eq_ok.mp hplan)
    dsimp only at hplan
    unfold DecisionPlan.create at hplan
    split_ifs at hplan
    cases hplan
    rfl

/-- The artifacts of a run have the ids that were drawn for them. -/
theorem ids_populated {context : ReasoningContext F} {found : ReasoningSession.Populated}
    (h : runStages texts drawn ⟨goal, observations, profile, {}⟩ = .ok context)
    (hfound : (ReasoningSession.populated context.artifacts :
      Except (SessionError E) ReasoningSession.Populated) = .ok found) :
    found.situation.id = drawn.situationId ∧ found.context.id = drawn.contextId ∧
      found.plan.id = drawn.planId := by
  unfold runStages stages at h
  simp only [List.foldlM_cons, List.foldlM_nil] at h
  obtain ⟨_, -, h⟩ := bind_eq_ok.mp h
  obtain ⟨_, -, h⟩ := bind_eq_ok.mp h
  obtain ⟨_, -, h⟩ := bind_eq_ok.mp h
  obtain ⟨_, hassessed, h⟩ := bind_eq_ok.mp h
  obtain ⟨_, hscored, h⟩ := bind_eq_ok.mp h
  obtain ⟨_, hexplained, h⟩ := bind_eq_ok.mp h
  obtain ⟨_, hplanned, h⟩ := bind_eq_ok.mp h
  cases h
  obtain ⟨situation, hassessment, hsituation⟩ := id_assessmentStage hassessed
  obtain ⟨hkept, ⟨decisionContext, hcontext, hcontextId⟩, decisionPlan, hplan, hplanId⟩ :=
    ids_planningStage hplanned
  -- the stages after the assessor keep its situation
  have hlast : context.situation? = some situation := by
    rw [hkept, run_explanationStage hexplained, run_confidenceStage hscored, hassessment]
  unfold ReasoningContext.situation? at hlast
  unfold ReasoningSession.populated at hfound
  rw [hlast, hcontext, hplan] at hfound
  split at hfound
  next hfirst _ _ hsecond hthird =>
    cases hfound
    -- what the check finds is what the assessor and the planner have left
    cases hfirst
    cases hsecond
    cases hthird
    exact ⟨hsituation, hcontextId, hplanId⟩
  next => cases hfound
end Stages

/-! ## What a run writes -/

section Writing

variable {E : Type} {session : ReasoningSession F E}

/-- Saving a record writes this one, or none. -/
theorem writes_save (row : Row F) :
    Writes session.configuration.log (session.save row) (fun _ rows => rows = [row])
      fun rows => rows = [] := by
  intro repositories
  unfold ReasoningSession.save
  by_cases htaken : session.configuration.gives row ∧ repositories.isTaken row
  · rw [if_pos htaken]
    exact ⟨[], rfl, trivial, rfl⟩
  · rw [if_neg htaken]
    exact ⟨[row], rfl, ⟨htaken, trivial⟩, rfl⟩

/-- Raising writes nothing. -/
theorem writes_raising {α : Type} (result : Except (SessionError E) α) :
    Writes session.configuration.log
      (ReasoningSession.raising result : SessionM F E α) (fun a rows => result = .ok a ∧ rows = [])
      fun rows => rows = [] := by
  cases result with
  | ok a => exact writes_pure ⟨rfl, rfl⟩
  | error e => exact writes_throw rfl

/-- An event, and a record that is saved after it. -/
theorem writes_announce_save (event : SessionEvent) (row : Row F) :
    Writes session.configuration.log
      (do session.announce event; session.save row : SessionM F E Unit)
      (fun _ rows => rows = [row]) fun rows => rows = [] := by
  exact (writes_raising _).bind_nil rfl fun _ _ => writes_save row

/-- The observations are written in their order, and those up to the first that is refused. -/
theorem writes_recordObservations (observations : List (Observation F)) :
    Writes session.configuration.log (session.recordObservations observations)
      (fun _ rows => rows = observations.map Row.observation)
      fun rows => rows <+: observations.map Row.observation :=
  writes_forM fun _ _ => writes_announce_save _ _

/-- The artifacts are saved one by one, and the index row last. -/
theorem writes_recordArtifacts {draws : RunDraws} {observations : List (Observation F)}
    {situation : OperationalSituation} {context : DecisionContext} {plan : DecisionPlan} :
    Writes session.configuration.log
      (session.recordArtifacts draws observations situation context plan)
      (fun _ rows => rows = [.situation situation, .context context, .plan plan,
        .index (ReasoningSession.indexOf draws observations situation context plan)])
      fun rows => rows <+: [.situation situation, .context context, .plan plan] := by
  unfold ReasoningSession.recordArtifacts
  -- an event before each row but the last: what is written is a prefix wherever it stops
  refine (writes_raising _).bind_nil List.nil_prefix fun _ _ => ?_
  refine (writes_save _).bind_singleton List.nil_prefix fun _ => ?_
  refine (writes_raising _).bind_nil ?_ fun _ _ => ?_
  · exact List.prefix_append [_] _
  refine (writes_save _).bind_singleton ?_ fun _ => ?_
  · exact List.prefix_append [_] _
  refine (writes_raising _).bind_nil ?_ fun _ _ => ?_
  · exact List.prefix_append [_, _] _
  refine (writes_save _).bind_singleton ?_ fun _ => ?_
  · exact List.prefix_append [_, _] _
  refine (writes_save _).mono ?_ ?_
  · rintro _ rows rfl
    rfl
  · rintro rows rfl
    exact List.prefix_refl _

/-- What is saved of the artifacts that the stages leave, before the index row. -/
def LeftByStages [PyFloat F] (session : ReasoningSession F E) (draws : RunDraws)
    (goal : OperationalGoal) (windowed : List (Observation F)) (artifacts : List (Row F)) : Prop :=
  ∃ reasoningContext situation structuredAssessment context plan,
    runStages session.texts draws.drawn
      { goal := goal, observations := windowed, profile := session.profile } =
        .ok reasoningContext ∧
    (ReasoningSession.populated reasoningContext.artifacts :
      Except (SessionError E) ReasoningSession.Populated) =
        .ok ⟨situation, structuredAssessment, context, plan⟩ ∧
    artifacts = [.situation situation, .context context, .plan plan]

/-- The rows of a run that does not return: a prefix of its own row, its entry, the observations it
reasons over and the artifacts of the stages. There are no observations before the window is
drawn, and no artifacts before the stages are done. -/
def Unfinished [PyFloat F] (session : ReasoningSession F E) (draws : RunDraws)
    (goal : OperationalGoal) (observations : List (Observation F)) (rows : List (Row F)) : Prop :=
  ∃ windowed artifacts,
    (windowed = [] ∧ artifacts = [] ∨ session.windowed observations = .ok windowed ∧
      (artifacts = [] ∨ LeftByStages session draws goal windowed artifacts)) ∧
    rows <+: .run draws.run :: .registry ⟨draws.run.id, draws.run.startedAt⟩ ::
      (windowed.map Row.observation ++ artifacts)

/-- The rows of a run that returns. -/
def Finished (session : ReasoningSession F E) (draws : RunDraws)
    (observations : List (Observation F)) (result : ReasoningResult F) (rows : List (Row F)) :
    Prop :=
  ∃ windowed, session.windowed observations = .ok windowed ∧ result.run = draws.run ∧
    rows = .run draws.run :: .registry ⟨draws.run.id, draws.run.startedAt⟩ ::
      (windowed.map Row.observation ++ [.situation result.situation, .context result.context,
        .plan result.plan, .index (ReasoningSession.indexOf draws windowed result.situation
          result.context result.plan)])

/-- A run that returns has written all its records, and one that raises a first part of them. -/
theorem writes_run [PyFloat F] {draws : RunDraws} {goal : OperationalGoal}
    {observations : List (Observation F)} :
    Writes session.configuration.log (session.run draws goal observations)
      (Finished session draws observations) (Unfinished session draws goal observations) := by
  unfold ReasoningSession.run
  refine (writes_save _).bind_singleton ?_ fun _ => ?_
  · exact ⟨[], [], .inl ⟨rfl, rfl⟩, List.nil_prefix⟩
  refine (writes_save _).bind_singleton ?_ fun _ => ?_
  · exact ⟨[], [], .inl ⟨rfl, rfl⟩, List.prefix_append [_] _⟩
  refine (writes_raising _).bind_nil ?_ fun windowed hwindowed => ?_
  · exact ⟨[], [], .inl ⟨rfl, rfl⟩, List.prefix_refl _⟩
  have hok : session.windowed observations = .ok windowed := mapError_eq_ok.mp hwindowed
  -- observations are written once the window is known
  refine (writes_recordObservations windowed).bind ?_ ?_
  · intro rows hrows
    refine ⟨windowed, [], .inr ⟨hok, .inl rfl⟩, ?_⟩
    rw [List.append_nil]
    exact (List.prefix_append_right_inj [_, _]).mpr hrows
  rintro _ rows rfl
  refine (writes_raising _).bind_nil ?_ fun reasoningContext hstages => ?_
  · refine ⟨windowed, [], .inr ⟨hok, .inl rfl⟩, ?_⟩
    exact List.prefix_refl _
  refine (writes_raising _).bind_nil ?_ fun populated hpopulated => ?_
  · refine ⟨windowed, [], .inr ⟨hok, .inl rfl⟩, ?_⟩
    exact List.prefix_refl _
  obtain ⟨situation, structuredAssessment, context, plan⟩ := populated
  -- and the artifacts once the stages have left them
  refine writes_recordArtifacts.bind ?_ ?_
  · intro rows hrows
    have hleft : LeftByStages session draws goal windowed
        [.situation situation, .context context, .plan plan] :=
      ⟨reasoningContext, situation, structuredAssessment, context, plan,
        mapError_eq_ok.mp hstages, hpopulated, rfl⟩
    refine ⟨windowed, _, .inr ⟨hok, .inr hleft⟩, ?_⟩
    have hlast := (List.prefix_append_right_inj (windowed.map Row.observation)).mpr hrows
    exact (List.prefix_append_right_inj [_, _]).mpr hlast
  · rintro _ rows rfl
    refine writes_pure ?_
    exact ⟨windowed, hok, rfl, by simp⟩

end Writing

end Odis.ReasoningHistory
