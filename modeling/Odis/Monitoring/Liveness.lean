import Odis.Monitoring.Runs
import Odis.Reasoning.DiagnosticsSymmetry

/-!
# Runs that announce an outcome

In exact arithmetic neither the trends nor the engine raise. A call of `_run_reasoning_for_asset`
then announces an outcome where the gate is open, the window has two observations of the measurement
that it begins with, and the ids that are drawn are new. So the calls of a history can be followed
one after the other.

* `exists_compute`: the engine returns a state for any observations.
* `exists_announced`: a call announces an outcome, and what it adds to the tables.
-/

namespace Odis.Monitoring

open Exceptions ExactReal Inference KeyedWindow Operations Outbox Reasoning ReasoningHistory Twin
open WriteLog

/-! ## Scores -/

section Scores

/-- The nearest integer to a percentage is one. -/
theorem nearestEven_range {x : ℝ} (hnonneg : 0 ≤ x) (hle : x ≤ 100) :
    0 ≤ nearestEven x ∧ nearestEven x ≤ 100 := by
  unfold nearestEven
  split_ifs
  · have hfloor : ((⌊x⌋ : ℤ) : ℝ) ≤ 100 := (Int.floor_le x).trans hle
    exact ⟨Int.floor_nonneg.mpr hnonneg, by exact_mod_cast hfloor⟩
  · have hnear := abs_le.mp (abs_sub_round x)
    have hlower : ((-1 : ℤ) : ℝ) < round x := by
      push_cast
      linarith
    have hupper : (round x : ℝ) < ((101 : ℤ) : ℝ) := by
      push_cast
      linarith
    have hlower' : -1 < round x := by exact_mod_cast hlower
    have hupper' : round x < 101 := by exact_mod_cast hupper
    omega

/-- The larger and the smaller of two numbers. -/
theorem maximum_exact (x y : ℝ) : PyFloat.maximum (F := ExactReal) x [y] = (max x y : ℝ) := by
  rcases lt_or_ge x y with hlt | hle
  · exact (if_pos hlt).trans (max_eq_right hlt.le).symm
  · exact (if_neg (not_lt.mpr hle)).trans (max_eq_left hle).symm

/-- The least of two exact reals. -/
theorem minimum_exact (x y : ℝ) : PyFloat.minimum (F := ExactReal) x [y] = (min x y : ℝ) := by
  rcases lt_or_ge y x with hlt | hle
  · exact (if_pos hlt).trans (min_eq_right hlt.le).symm
  · exact (if_neg (not_lt.mpr hle)).trans (min_eq_left hle).symm

/-- The volatility is cut to the range from 0 to 1. -/
theorem exists_volatilityNorm_range (deltas : List ExactReal) (avgDelta : ℝ) :
    ∃ volatility : ExactReal, TimeSeries.volatilityNorm deltas avgDelta = .ok volatility ∧
      (0 : ℝ) ≤ volatility ∧ volatility ≤ (1 : ℝ) := by
  by_cases hnil : deltas = []
  · refine ⟨(((0.0 : ℚ)) : ℝ), if_pos hnil, ?_, ?_⟩ <;> norm_num
  · refine ⟨_, TimeSeries.volatilityNorm_exact hnil avgDelta, ?_⟩
    rw [literal_eq, literal_eq, minimum_exact, maximum_exact]
    constructor
    · exact le_trans (by norm_num) (le_max_left (α := ℝ) _ _)
    · exact max_le (α := ℝ) (by norm_num) (le_trans (min_le_left (α := ℝ) _ _) (by norm_num))

/-- The score of a volatility is a percentage. -/
theorem percentage_range {volatility : ExactReal} (hnonneg : (0 : ℝ) ≤ volatility)
    (hle : volatility ≤ (1 : ℝ)) :
    0 ≤ nearestEven (PyFloat.ofInt 100 * volatility : ExactReal) ∧
      nearestEven (PyFloat.ofInt 100 * volatility : ExactReal) ≤ 100 := by
  have hreal : ∀ x : ℝ, 0 ≤ x → x ≤ 1 →
      0 ≤ nearestEven (((100 : ℤ) : ℝ) * x) ∧ nearestEven (((100 : ℤ) : ℝ) * x) ≤ 100 := by
    intro x hnonneg hle
    push_cast
    exact nearestEven_range (by linarith) (by linarith)
  exact hreal volatility hnonneg hle

/-- The signals of some steps, with scores from 0 to 100. -/
theorem exists_signalsFrom_range (deltas : List ExactReal) (netChange avgDelta : ℝ) :
    ∃ signals, TimeSeries.signalsFrom (F := ExactReal) deltas netChange avgDelta = .ok signals ∧
      (0 ≤ signals.stabilityScore ∧ signals.stabilityScore ≤ 100) ∧
      0 ≤ signals.volatilityScore ∧ signals.volatilityScore ≤ 100 := by
  obtain ⟨consistency, hconsistency⟩ := TimeSeries.exists_monotonicity deltas
    (TimeSeries.directionHypothesis (F := ExactReal) netChange)
  obtain ⟨overridden, hoverridden⟩ := TimeSeries.exists_monotonicity deltas .stable
  obtain ⟨volatility, hvolatility, hnonneg, hle⟩ := exists_volatilityNorm_range deltas avgDelta
  have hround : ∀ x : ExactReal, PyMath.round x = .ok (nearestEven x) := fun _ => rfl
  have hvolatilityScore := percentage_range hnonneg hle
  unfold TimeSeries.signalsFrom
  dsimp only
  rw [hconsistency, ok_bind, hvolatility, ok_bind, hround, ok_bind, hround, ok_bind, hoverridden]
  have hstability (rounded : ℤ) : 0 ≤ max 0 (min 100 rounded) ∧ max 0 (min 100 rounded) ≤ 100 := by
    omega
  split_ifs
  · exact ⟨_, rfl, hstability _, hvolatilityScore⟩
  · exact ⟨_, rfl, hstability _, hvolatilityScore⟩

end Scores

/-! ## The engine -/

section Engine

variable {observations windowed : List (Observation ExactReal)}

/-- The signals of a window that is not empty. -/
theorem exists_computeSignals_range (hne : windowed ≠ []) :
    ∃ signals, TimeSeries.computeSignals windowed = .ok signals ∧
      (0 ≤ signals.stabilityScore ∧ signals.stabilityScore ≤ 100) ∧
      0 ≤ signals.volatilityScore ∧ signals.volatilityScore ≤ 100 := by
  have hvalues : windowed.map Observation.value ≠ [] := by simpa using hne
  have hfirst := List.head?_eq_some_head hvalues
  have hlast := List.getLast?_eq_getLast_of_ne_nil hvalues
  unfold TimeSeries.computeSignals
  rw [TimeSeries.signalsOf_exact hfirst hlast]
  obtain ⟨signals, hsignals, hrange⟩ := exists_signalsFrom_range
    (TimeSeries.stepsOf (windowed.map Observation.value))
    ((windowed.map Observation.value).getLast hvalues -
      (windowed.map Observation.value).head hvalues : ExactReal)
    (TimeSeries.averageStep (windowed.map Observation.value).length
      ((windowed.map Observation.value).getLast hvalues -
        (windowed.map Observation.value).head hvalues : ExactReal))
  exact ⟨signals, congrArg (Except.mapError TimeSeries.AnalysisError.arithmetic) hsignals, hrange⟩

/-- The summary of a trend is not empty. -/
theorem buildSummary_ne {F : Type} [PyMath F] (label : String)
    (signals : TimeSeries.TrendDiagnostics F) (n : ℕ) : buildSummary label signals n ≠ "" := by
  have hlast : " across the last " ++ toString n ++ " observations." ≠ "" :=
    append_ne_empty_right (by decide)
  unfold buildSummary
  dsimp only
  split_ifs <;> exact append_ne_empty_right hlast

/-- The trend of a window. -/
theorem exists_judgeTrend (windowed : List (Observation ExactReal)) (label : Option String) :
    ∃ trend, judgeTrend windowed label = .ok trend := by
  by_cases hshort : windowed.length < TimeSeries.minSamplesForDirectionalTrend
  · exact exists_judgeTrend_of_short hshort
  have hne : windowed ≠ [] := by
    rintro rfl
    exact hshort (by decide)
  -- in exact arithmetic the signals exist and pass the checks of the constructor
  obtain ⟨signals, hsignals, hstability, hvolatility⟩ := exists_computeSignals_range hne
  unfold judgeTrend
  dsimp only
  rw [if_neg hshort, hsignals]
  refine exists_bind_eq_ok.mpr ⟨_, rfl, exists_bind_eq_ok.mpr ⟨_, rfl,
    exists_bind_eq_ok.mpr ⟨(), ?_, _, rfl⟩⟩⟩
  unfold TrendAnalysis.check
  dsimp only
  rw [if_neg (not_not.mpr hstability), if_neg (not_not.mpr hvolatility),
    if_neg (buildSummary_ne _ _ _)]
  rfl

/-- The diagnostics of a trend. -/
theorem exists_analyzeTrendDiagnostics (observations : List (Observation ExactReal)) {window : ℤ}
    (hpos : 0 < window) :
    ∃ diagnostics, TimeSeries.analyzeTrendDiagnostics observations window = .ok diagnostics := by
  unfold TimeSeries.analyzeTrendDiagnostics
  dsimp only
  rw [if_neg (not_le.mpr hpos)]
  split_ifs with hshort
  · exact ⟨_, rfl⟩
  · have hne : TimeSeries.recentWindow (TimeSeries.sortedByTimestampAndId observations)
        window.toNat ≠ [] := by
      intro hnil
      rw [hnil] at hshort
      exact hshort (by decide)
    obtain ⟨signals, hsignals, -⟩ := exists_computeSignals_range hne
    rw [hsignals]
    exact ⟨_, rfl⟩

/-- The engine returns a state for any observations. -/
theorem exists_compute {assetId : String} (hasset : assetId ≠ "") (lastUpdated : Timestamp)
    (observations : List (Observation ExactReal)) (plan : DecisionPlan)
    (assessment : Option StructuredAssessment) :
    ∃ state, compute assetId lastUpdated observations plan assessment = .ok state := by
  obtain ⟨trend, htrend⟩ : ∃ trend, analyzeTrend (primaryOf observations) configuredWindow
      ((primaryOf observations).head?.map Observation.measurementType) = .ok trend :=
    exists_judgeTrend _ _
  obtain ⟨diagnostics, hdiagnostics⟩ := exists_analyzeTrendDiagnostics (primaryOf observations)
    (by decide : 0 < configuredWindow)
  unfold compute buildExplainableDecision
  dsimp only
  rw [htrend, hdiagnostics]
  refine exists_bind_eq_ok.mpr ⟨_, rfl, ?_⟩
  dsimp only
  rw [dif_neg hasset]
  exact ⟨_, rfl⟩

/-- What is shown of the latest run of an asset can be computed. -/
theorem exists_latestOperationalState (store : Store ExactReal) {assetId : String}
    (hasset : assetId ≠ "") :
    ∃ state, store.latestOperationalStateForAsset assetId = .ok state := by
  unfold Store.latestOperationalStateForAsset
  cases store.latestRunIdForAsset assetId with
  | none => exact ⟨none, rfl⟩
  | some runId =>
      -- whatever row is missing, there is nothing to be shown then
      unfold Store.computeOperationalStateForRun
      dsimp only
      cases store.getIndex runId with
      | none => exact ⟨none, rfl⟩
      | some index =>
          cases store.getRun runId with
          | none => exact ⟨none, rfl⟩
          | some run =>
              dsimp only
              cases store.getPlan index.planId with
              | none => exact ⟨none, rfl⟩
              | some plan =>
                  dsimp only
                  obtain ⟨state, hstate⟩ := exists_compute hasset run.startedAt
                    (store.loadObservations index.observationIds) plan
                    (store.structuredAssessments.lookup runId)
                  rw [hstate]
                  exact ⟨some state, rfl⟩

end Engine

/-! ## New ids -/

section Ids

variable {F : Type} {store after : Store F} {draws draws' : RunDraws}

/-- The ids that a run draws are not in the tables. -/
structure Fresh (store : Store F) (draws : RunDraws) : Prop where
  run : draws.run.id ∉ store.repositories.runs.map ReasoningRun.id
  situation : draws.drawn.situationId ∉ store.repositories.situations.map OperationalSituation.id
  context : draws.drawn.contextId ∉ store.repositories.contexts.map DecisionContext.id
  plan : draws.drawn.planId ∉ store.repositories.plans.map DecisionPlan.id
  assessment : store.structuredAssessments.lookup draws.run.id = none

/-- A run adds a row to each of its tables, under the ids that it has drawn. -/
structure Adds (draws : RunDraws) (store after : Store F) : Prop where
  observations : after.repositories.observations = store.repositories.observations
  runs : after.repositories.runs.map ReasoningRun.id =
    store.repositories.runs.map ReasoningRun.id ++ [draws.run.id]
  situations : after.repositories.situations.map OperationalSituation.id =
    store.repositories.situations.map OperationalSituation.id ++ [draws.drawn.situationId]
  contexts : after.repositories.contexts.map DecisionContext.id =
    store.repositories.contexts.map DecisionContext.id ++ [draws.drawn.contextId]
  plans : after.repositories.plans.map DecisionPlan.id =
    store.repositories.plans.map DecisionPlan.id ++ [draws.drawn.planId]
  assessments : ∃ assessment, after.structuredAssessments =
    store.structuredAssessments ++ [(draws.run.id, assessment)]

/-- All ids are new to the empty tables. -/
theorem fresh_empty (draws : RunDraws) : Fresh ({} : Store F) draws :=
  ⟨List.not_mem_nil, List.not_mem_nil, List.not_mem_nil, List.not_mem_nil, rfl⟩

end Ids

/-! ## The session -/

section Session

variable {E : Type} {F : Type} {session : ReasoningSession F E} {repositories : Repositories F}

/-- A record under a new id is saved where its repository is given. -/
theorem save_of_new {row : Row F} (hgives : session.configuration.gives row = true)
    (hnew : repositories.isTaken row = false) :
    session.save row repositories = .ok () (repositories.put row) := by
  unfold ReasoningSession.save Configuration.add
  rw [if_neg (by simp [hnew]), if_pos hgives]

/-- A record is left out where its repository is not given. -/
theorem save_of_not_given {row : Row F} (h : session.configuration.gives row = false) :
    session.save row repositories = .ok () repositories := by
  unfold ReasoningSession.save Configuration.add
  rw [if_neg (by simp [h]), if_neg (by simp [h])]

/-- An event is announced where no publisher raises. -/
theorem announce_of_published (hpublish : ∀ event, session.publish event = .ok ())
    (event : SessionEvent) : session.announce event repositories = .ok () repositories := by
  unfold ReasoningSession.announce
  rw [hpublish]
  rfl

/-- The loop over the observations leaves the tables as they are where the repository of
observations is not given. -/
theorem recordObservations_of_not_given (hpublish : ∀ event, session.publish event = .ok ())
    (hgives : session.configuration.observations = false) (observations : List (Observation F)) :
    session.recordObservations observations repositories = .ok () repositories := by
  unfold ReasoningSession.recordObservations
  induction observations with
  | nil => rfl
  | cons observation observations ih =>
      have hannounced : session.announce (.observationRecorded observation.id
          observation.timestamp) repositories = .ok () repositories :=
        announce_of_published hpublish _
      have hsaved : session.save (.observation observation) repositories = .ok () repositories :=
        save_of_not_given hgives
      exact (bind_of_ok ((bind_of_ok hannounced).trans hsaved)).trans ih

/-- The artifacts of a run are saved, and its index row last. -/
theorem recordArtifacts_of_new (hpublish : ∀ event, session.publish event = .ok ())
    (hconfiguration : session.configuration = platformConfiguration) {draws : RunDraws}
    {observations : List (Observation F)} {situation : OperationalSituation}
    {context : DecisionContext} {plan : DecisionPlan}
    (hsituation : repositories.isTaken (.situation situation) = false)
    (hcontext : repositories.isTaken (.context context) = false)
    (hplan : repositories.isTaken (.plan plan) = false)
    (hindex : draws.run.id ∉ repositories.indexes.map ReasoningRunIndex.runId) :
    session.recordArtifacts draws observations situation context plan repositories = .ok ()
      ([.situation situation, .context context, .plan plan,
        .index (ReasoningSession.indexOf draws observations situation context plan)].foldl
          Repositories.put repositories) := by
  have hgives (row : Row F) (h : platformConfiguration.gives row = true) :
      session.configuration.gives row = true := by rw [hconfiguration, h]
  -- each record goes to a table of its own, so the next one still has a new id there
  let withSituation := repositories.put (.situation situation)
  let withContext := withSituation.put (.context context)
  let withPlan := withContext.put (.plan plan)
  have hfirst : session.save (.situation situation) repositories = .ok () withSituation :=
    save_of_new (hgives _ rfl) hsituation
  have hsecond : session.save (.context context) withSituation = .ok () withContext :=
    save_of_new (hgives _ rfl) hcontext
  have hthird : session.save (.plan plan) withContext = .ok () withPlan :=
    save_of_new (hgives _ rfl) hplan
  unfold ReasoningSession.recordArtifacts
  rw [bind_of_ok (announce_of_published hpublish _), bind_of_ok hfirst,
    bind_of_ok (announce_of_published hpublish _), bind_of_ok hsecond,
    bind_of_ok (announce_of_published hpublish _), bind_of_ok hthird]
  exact save_of_new (hgives _ rfl) (decide_eq_false hindex)

end Session

/-! ## The call -/

section Call

variable {service : ObservationService ExactReal} {draws : ServiceDraws} {assetId : String}
  {store : Store ExactReal}

/-- The window that a run of the asset reasons over. -/
abbrev windowOf (store : Store ExactReal) (assetId : String) : List (Observation ExactReal) :=
  recentByKey Observation.measurementType configuredWindow.toNat (store.listByAsset assetId)

/-- The observations of the primary measurement, in their order. -/
theorem sublist_primaryMeasurementObservations (observations : List (Observation ExactReal)) :
    (primaryMeasurementObservations observations).Sublist observations := by
  cases observations with
  | nil => exact List.Sublist.refl _
  | cons first rest => exact List.filter_sublist

/-- The session of a run returns, and adds a row to each of its tables. -/
theorem exists_sessionRun (hreading : ∀ value unit, service.texts.reading value unit ≠ "")
    (h : WellFormed store) (hfresh : Fresh store draws.run)
    (hreasonable : Reasonable (windowOf store assetId)) :
    ∃ (result : ReasoningResult ExactReal) (index : ReasoningRunIndex),
      sessionRun service draws assetId store = .ok result
        ([.run draws.run.run, .situation result.situation, .context result.context,
          .plan result.plan, .index index].foldl Repositories.put store.repositories) ∧
      result.run = draws.run.run ∧ result.situation.id = draws.run.drawn.situationId ∧
      result.context.id = draws.run.drawn.contextId ∧ result.plan.id = draws.run.drawn.planId := by
  -- no two of the observations that the stages look at have one id
  have hids : ((primaryMeasurementObservations (windowOf store assetId)).map
      Observation.id).Nodup := by
    refine (repositoryOrder_listByAsset h assetId).ids_nodup.sublist (List.Sublist.map _ ?_)
    exact (sublist_primaryMeasurementObservations _).trans sublist_recentByKey
  obtain ⟨context, hcontext⟩ := exists_runStages hreading draws.run.drawn service.operationalGoal
    service.session.profile hreasonable hids
  obtain ⟨found, hfound⟩ := exists_populated (E := Empty) hcontext
  obtain ⟨hsituation, hcontextId, hplan⟩ := ids_populated hcontext hfound
  -- an index row of the same run would refer to a run with its id
  have hindex : draws.run.run.id ∉ store.repositories.indexes.map ReasoningRunIndex.runId := by
    intro hmem
    obtain ⟨index, hmem, hid⟩ := List.mem_map.mp hmem
    obtain ⟨run, hrun⟩ := h.runs index hmem
    obtain ⟨hrunmem, hrunid⟩ := mem_of_getRun hrun
    exact hfresh.run (List.mem_map.mpr ⟨run, hrunmem, hrunid.trans hid⟩)
  refine ⟨⟨draws.run.run, found.situation, found.structuredAssessment, found.context, found.plan,
    draws.run.actionId, draws.run.outcomeId, context⟩, ReasoningSession.indexOf draws.run
      (windowOf store assetId) found.situation found.context found.plan, ?_, rfl, hsituation,
    hcontextId, hplan⟩
  -- the run is stored first, and what the stages have made after them
  have hrun : service.session.save (.run draws.run.run) store.repositories =
      .ok () (store.repositories.put (.run draws.run.run)) :=
    save_of_new rfl (decide_eq_false hfresh.run)
  have hartifacts : service.session.recordArtifacts draws.run (windowOf store assetId)
      found.situation found.context found.plan (store.repositories.put (.run draws.run.run)) =
        .ok () _ :=
    recordArtifacts_of_new (fun _ => rfl) rfl (decide_eq_false (hsituation ▸ hfresh.situation))
      (decide_eq_false (hcontextId ▸ hfresh.context)) (decide_eq_false (hplan ▸ hfresh.plan))
      hindex
  have hcontext' : runStages service.session.texts draws.run.drawn
      { goal := service.operationalGoal, observations := windowOf store assetId,
        profile := service.session.profile } = .ok context := hcontext
  unfold sessionRun ReasoningHistory.ReasoningSession.run
  rw [bind_of_ok hrun, bind_of_ok (save_of_not_given rfl), windowed_eq h]
  refine (bind_of_ok rfl).trans ?_
  rw [bind_of_ok (recordObservations_of_not_given (fun _ => rfl) rfl _), hcontext']
  refine (bind_of_ok rfl).trans ?_
  dsimp only
  rw [hfound]
  refine (bind_of_ok rfl).trans ?_
  exact (bind_of_ok hartifacts).trans rfl

/-- A call announces an outcome, and adds a row to each of its tables. -/
theorem exists_announced (hreading : ∀ value unit, service.texts.reading value unit ≠ "")
    (hasset : assetId ≠ "") (h : WellFormed store) (hfresh : Fresh store draws.run)
    (hgate : canRunReasoning (store.listByAsset assetId) = true)
    (hreasonable : Reasonable (windowOf store assetId)) :
    ∃ outcome after, service.runReasoningForAsset draws assetId store = .ok (some outcome) after ∧
      outcome.runId = draws.run.run.id ∧ Adds draws.run store after := by
  obtain ⟨result, index, hrun, hrunEq, hsituation, hcontext, hplan⟩ :=
    exists_sessionRun hreading h hfresh hreasonable
  generalize hrepositories : [Row.run draws.run.run, .situation result.situation,
    .context result.context, .plan result.plan, .index index].foldl Repositories.put
      store.repositories = repositories at hrun
  -- the session runs on the tables that it was given
  have hreturned : onRepositories (service.session.run draws.run service.operationalGoal
      (TimeSeries.sortedByTimestampAndId (store.listByAsset assetId))) store =
        .ok result { store with repositories := repositories } := by
    rw [onRepositories_apply]
    unfold sessionRun observationsOf at hrun
    rw [hrun]
  obtain ⟨previousState, hprevious⟩ := exists_latestOperationalState store hasset
  obtain ⟨newState, hnewState⟩ := exists_compute hasset result.run.startedAt
    (TimeSeries.sortedByTimestampAndId (store.listByAsset assetId)) result.plan
    (some result.structuredAssessment)
  have hdiagnostics (observations : List (Observation ExactReal)) :=
    exists_analyzeTrendDiagnostics observations (by decide : (0 : ℤ) < 8)
  let written : Store ExactReal := { store with repositories := repositories }
  -- there is no assessment of this run yet
  have hassessed : ¬ (written.structuredAssessments.lookup result.run.id).isSome = true := by
    show ¬ (store.structuredAssessments.lookup result.run.id).isSome = true
    rw [hrunEq, hfresh.assessment]
    simp
  unfold ObservationService.runReasoningForAsset
  rw [bind_of_ok (rfl : (get : ServiceM ExactReal _) store = .ok store store),
    if_neg (not_not.mpr hgate), hprevious]
  dsimp only
  rw [ofEngine_ok_bind]
  -- the trend of the primary measurement before its last observation, and with it
  obtain ⟨previousTrend, hpreviousTrend⟩ := hdiagnostics _
  obtain ⟨newTrend, hnewTrend⟩ := hdiagnostics (primaryMeasurementObservations
    (TimeSeries.sortedByTimestampAndId (store.listByAsset assetId)))
  rw [hpreviousTrend]
  dsimp only [Except.mapError]
  rw [ofEngine_ok_bind, bind_of_ok hreturned, hnewState, ofEngine_ok_bind, hnewTrend]
  dsimp only
  rw [ofEngine_ok_bind, bind_of_ok (record_eq.trans (if_neg hassessed))]
  refine ⟨_, _, rfl, congrArg ReasoningRun.id hrunEq, ?_⟩
  subst hrepositories
  constructor
  case observations => rfl
  case runs => exact List.map_append
  case situations => rw [← hsituation]; exact List.map_append
  case contexts => rw [← hcontext]; exact List.map_append
  case plans => rw [← hplan]; exact List.map_append
  case assessments => exact ⟨result.structuredAssessment, by rw [← hrunEq]⟩

end Call

/-! ## Readings of a stack -/

section Storing

variable {F : Type} [PyMath F] {service : ObservationService F} {store : Store F}
  {observations : List (Observation F)} {draws : RunDraws}

/-- The steps that store some observations. -/
def storing (observations : List (Observation F)) : List (Step F) :=
  observations.map fun observation =>
    .create observation ("row-" ++ observation.id) midnight (.utc 0)

/-- Observations under new ids are stored one after the other, and nothing else is. -/
theorem applyAll_storing (service : ObservationService F)
    (hids : ((store.repositories.observations ++ observations).map Observation.id).Nodup) :
    (service.applyAll store (storing observations)).repositories =
        { store.repositories with
          observations := store.repositories.observations ++ observations } ∧
      (service.applyAll store (storing observations)).structuredAssessments =
        store.structuredAssessments := by
  induction observations generalizing store with
  | nil => simp [storing, ObservationService.applyAll]
  | cons observation observations ih =>
      have hnew : store.repositories.isTaken (.observation observation) = false := by
        rw [List.map_append, List.nodup_append] at hids
        refine decide_eq_false fun hmem => ?_
        exact hids.2.2 _ hmem _ (List.mem_map_of_mem List.mem_cons_self) rfl
      let stored := service.apply store
        (.create observation ("row-" ++ observation.id) midnight (.utc 0))
      -- the first observation is stored, since its id is new
      have hstored : stored.repositories = store.repositories.put (.observation observation) ∧
          stored.structuredAssessments = store.structuredAssessments := by
        have heq : stored = ObservationService.create observation ("row-" ++ observation.id)
            midnight (.utc 0) store := rfl
        rw [heq, ObservationService.create, if_neg (by simp [hnew])]
        exact ⟨rfl, rfl⟩
      obtain ⟨hrepositories, hassessments⟩ := hstored
      have hids' : ((stored.repositories.observations ++ observations).map
          Observation.id).Nodup := by
        rw [hrepositories]
        simpa [Repositories.put] using hids
      have hrest := ih hids'
      have hsteps : service.applyAll store (storing (observation :: observations)) =
          service.applyAll stored (storing observations) := rfl
      rw [hsteps]
      rw [hrepositories, hassessments] at hrest
      simpa [Repositories.put] using hrest

/-- Ids that are new stay so when observations are stored. -/
theorem Fresh.stored (h : Fresh store draws) (service : ObservationService F)
    (hids : ((store.repositories.observations ++ observations).map Observation.id).Nodup) :
    Fresh (service.applyAll store (storing observations)) draws := by
  obtain ⟨hrepositories, hassessments⟩ := applyAll_storing service hids
  constructor
  · rw [hrepositories]
    exact h.run
  · rw [hrepositories]
    exact h.situation
  · rw [hrepositories]
    exact h.context
  · rw [hrepositories]
    exact h.plan
  · rw [hassessments]
    exact h.assessment

end Storing

section Readings

variable {typeOf : ℕ → String} {seconds : List ℕ}

/-- No id of a reading is empty. -/
theorem readingId_ne (second : ℕ) : "reading-" ++ toString second ≠ "" :=
  append_ne_empty_left (by decide)

/-- What is read of a stack at a second, of the measurement that `typeOf` gives. The value is always
the same. -/
noncomputable def reading (typeOf : ℕ → String) (second : ℕ) : Observation ExactReal where
  id := "reading-" ++ toString second
  assetId := "stack-1"
  timestamp := .utc (second * 1000000)
  measurementType := typeOf second
  value := PyFloat.literal 50
  unit := "kW"
  id_ne := readingId_ne second
  assetId_ne := stack_ne
  unit_ne := kilowatt_ne

variable (typeOf) in
/-- Readings can be stored in empty tables. -/
theorem nodup_readings (hids : (seconds.map fun second => "reading-" ++ toString second).Nodup) :
    ((({} : Store ExactReal).repositories.observations ++
      seconds.map (reading typeOf)).map Observation.id).Nodup := by
  show ((seconds.map (reading typeOf)).map Observation.id).Nodup
  rw [List.map_map]
  exact hids

variable (typeOf) in
/-- The readings are stored in their order. -/
theorem observations_storing_readings (service : ObservationService ExactReal)
    (hids : (seconds.map fun second => "reading-" ++ toString second).Nodup) :
    (service.applyAll {} (storing (seconds.map (reading typeOf)))).repositories.observations =
      seconds.map (reading typeOf) := by
  rw [(applyAll_storing service (nodup_readings typeOf hids)).1]
  exact List.nil_append _

/-- The seconds at which the first measurement is read. -/
def primarySeconds (typeOf : ℕ → String) : List ℕ → List ℕ
  | [] => []
  | first :: rest => ofKey typeOf (typeOf first) (first :: rest)

/-- The primary readings are those of the seconds of the primary type. -/
theorem primaryMeasurementObservations_readings :
    primaryMeasurementObservations (seconds.map (reading typeOf)) =
      (primarySeconds typeOf seconds).map (reading typeOf) := by
  cases seconds with
  | nil => rfl
  | cons first rest => exact ofKey_map

/-- The window over the readings is that over their seconds. -/
theorem recentByKey_readings (n : ℕ) :
    recentByKey Observation.measurementType n (seconds.map (reading typeOf)) =
      (recentByKey typeOf n seconds).map (reading typeOf) := recentByKey_map

/-- Readings one after the other are in order. -/
theorem pairwise_readings (h : seconds.Pairwise (· < ·)) :
    (seconds.map (reading typeOf)).Pairwise PrecedesOrEq := by
  refine List.pairwise_map.mpr (h.imp fun {a b} hlt => Or.inl ?_)
  show ((a : ℤ) * 1000000 : ℤ) < (b : ℤ) * 1000000
  omega

/-- The readings of a table that holds no other observations. -/
theorem listByAsset_readings {store : Store ExactReal}
    (hstored : store.repositories.observations = seconds.map (reading typeOf))
    (h : seconds.Pairwise (· < ·)) :
    store.listByAsset "stack-1" = seconds.map (reading typeOf) := by
  unfold Store.listByAsset
  have hall : (seconds.map (reading typeOf)).filter (fun o => o.assetId = "stack-1") =
      seconds.map (reading typeOf) := by
    rw [List.filter_eq_self]
    intro o ho
    obtain ⟨second, -, rfl⟩ := List.mem_map.mp ho
    rfl
  rw [hstored, hall, sortedByTimestampAndId_eq (pairwise_readings h)]

/-- A call over readings announces an outcome, if the first measurement of all of them is read twice
and so is that of the window. -/
theorem exists_announced_readings (draws : ServiceDraws) {service : ObservationService ExactReal}
    {store : Store ExactReal} (hreading : ∀ value unit, service.texts.reading value unit ≠ "")
    (hwell : WellFormed store) (hfresh : Fresh store draws.run)
    (hstored : store.repositories.observations = seconds.map (reading typeOf))
    (h : seconds.Pairwise (· < ·)) (hnamed : ∀ second, typeOf second ≠ "")
    (hgate : 2 ≤ (primarySeconds typeOf seconds).length)
    (hwindow : 2 ≤ (primarySeconds typeOf
      (recentByKey typeOf configuredWindow.toNat seconds)).length) :
    ∃ outcome after, service.runReasoningForAsset draws "stack-1" store =
      .ok (some outcome) after ∧ outcome.runId = draws.run.run.id ∧ Adds draws.run store after := by
  have hlist := listByAsset_readings hstored h
  refine exists_announced hreading stack_ne hwell hfresh ?_ ?_
  · rw [canRunReasoning_iff, hlist, primaryMeasurementObservations_readings, List.length_map]
    exact hgate
  · unfold windowOf
    rw [hlist, recentByKey_readings]
    refine ⟨?_, ?_, ?_⟩
    · simp [reading]
    · simp [reading, hnamed]
    · rw [primaryMeasurementObservations_readings, List.length_map]
      exact hwindow

end Readings

end Odis.Monitoring
