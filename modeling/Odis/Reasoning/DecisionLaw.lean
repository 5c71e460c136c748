import Odis.Reasoning.Totality
import Odis.Reasoning.TrendSymmetry

/-!
# The decision law of the pipeline

The plan of a run is decided by the trend and the variation of the primary measurement alone, which
is the measurement of the first observation. Other measurements change the text that the plan is
read off, the evidence and the confidence, but never the plan.

* `decision_runStages`: the plan that a run comes to, whatever its numbers are.
* `nodup_runStages`: a run that comes to an end had distinct primary observations.
* `exists_runStages`: a run over exact numbers comes to an end if they are.
* `decisionLaw`: what this means for the priority, and for runs that differ in the rest.
-/

namespace Odis.Reasoning

open Exceptions Inference KeyedWindow

section Runs

variable {F : Type} [PyFloat F] {texts : ValueTexts F} {drawn : Drawn}
  {context context' : ReasoningContext F}

/-! ## What the assessor has found -/

/-- A situation that is constructed has the ids and the text that are given. -/
theorem create_eq_ok {id goalId assessment : String} {observationIds : List String}
    {situation : OperationalSituation}
    (h : OperationalSituation.create id goalId observationIds assessment = .ok situation) :
    situation.observationIds = observationIds ∧ situation.assessment = assessment := by
  unfold OperationalSituation.create at h
  split_ifs at h
  cases h
  exact ⟨rfl, rfl⟩

omit [PyFloat F] in
/-- An assessment is of the sorted observations, and its text is that of the three signals. -/
theorem assess_eq_ok {goal : OperationalGoal} {observations : List (Observation F)}
    {trend : DetectedTrend} {variation : DetectedVariation}
    {relationshipAnalysis : RelationshipAnalysis} {expectationAnalysis : ExpectationAnalysis}
    {result : AssessmentResult}
    (h : assess drawn goal observations trend variation relationshipAnalysis
      expectationAnalysis = .ok result) :
    result.situation.observationIds = (sortedByTimestamp observations).map Observation.id ∧
      result.situation.assessment =
        assessmentText trend.direction variation.level relationshipAnalysis := by
  obtain ⟨_, -, h⟩ := bind_eq_ok.mp h
  obtain ⟨_, -, h⟩ := bind_eq_ok.mp h
  obtain ⟨_, -, h⟩ := bind_eq_ok.mp h
  obtain ⟨_, -, h⟩ := bind_eq_ok.mp h
  obtain ⟨situation, hsituation, h⟩ := bind_eq_ok.mp h
  cases h
  exact create_eq_ok hsituation

/-! ## What a stage has added -/

/-- The first stage leaves the signals of the observations. -/
theorem run_signalExtractionStage (h : (signalExtractionStage F).run context = .ok context') :
    ∃ signals : ExtractedSignals F,
      signalExtraction context.profile.toOperationalProfile context.observations =
        .ok signals.toReasoningSignals ∧
      context'.artifacts.signals = some signals := by
  obtain ⟨signals, hsignals, h⟩ := bind_eq_ok.mp h
  cases h
  exact ⟨_, hsignals, rfl⟩

/-- The evidence leaves the signals as they are. -/
theorem run_evidenceGenerationStage
    (h : (evidenceGenerationStage texts).run context = .ok context') :
    context'.artifacts.signals = context.artifacts.signals := by
  obtain ⟨signals, -, h⟩ := bind_eq_ok.mp h
  obtain ⟨_, -, h⟩ := bind_eq_ok.mp h
  cases h
  rfl

/-- So do the hypotheses. -/
theorem run_hypothesisStage (h : (hypothesisStage F).run context = .ok context') :
    context'.artifacts.signals = context.artifacts.signals := by
  obtain ⟨signals, -, h⟩ := bind_eq_ok.mp h
  obtain ⟨_, -, h⟩ := bind_eq_ok.mp h
  obtain ⟨hypotheses, -, h⟩ := bind_eq_ok.mp h
  obtain ⟨_, -, h⟩ := bind_eq_ok.mp h
  cases h
  rfl

/-- The situation of a context, once it has been assessed. -/
def ReasoningContext.situation? (context : ReasoningContext F) : Option OperationalSituation :=
  context.artifacts.assessmentSummary.bind AssessmentSummary.situation

/-- An artifact that was needed is there. -/
theorem eq_some_of_needed {α : Type} {artifact : Option α} {message : String} {value : α}
    (h : needed artifact message = .ok value) : artifact = some value := by
  cases artifact with
  | none => cases h
  | some found =>
      cases h
      rfl

omit [PyFloat F] in
/-- The situation is assessed from the signals. -/
theorem run_assessmentStage (h : (assessmentStage F drawn).run context = .ok context')
    {signals : ExtractedSignals F} (hsignals : context.artifacts.signals = some signals) :
    ∃ situation, context'.situation? = some situation ∧
      situation.observationIds =
        (sortedByTimestamp signals.primaryObservations).map Observation.id ∧
      situation.assessment = assessmentText signals.trend.direction signals.variation.level
        signals.relationshipAnalysis := by
  obtain ⟨found, hfound, h⟩ := bind_eq_ok.mp h
  obtain rfl : signals = found := Option.some.inj (hsignals.symm.trans (eq_some_of_needed hfound))
  obtain ⟨result, hresult, h⟩ := bind_eq_ok.mp h
  cases h
  exact ⟨result.situation, rfl, assess_eq_ok (mapError_eq_ok.mp hresult)⟩

/-- The confidence leaves the situation as it is. -/
theorem run_confidenceStage (h : (confidenceStage F).run context = .ok context') :
    context'.situation? = context.situation? := by
  obtain ⟨summary, hsummary, h⟩ := bind_eq_ok.mp h
  obtain ⟨structured, -, h⟩ := bind_eq_ok.mp h
  obtain ⟨signals, -, h⟩ := bind_eq_ok.mp h
  obtain ⟨confidence, -, h⟩ := bind_eq_ok.mp h
  cases h
  show summary.situation = context.situation?
  rw [ReasoningContext.situation?, eq_some_of_needed hsummary]
  rfl

omit [PyFloat F] in
/-- So does the explanation. -/
theorem run_explanationStage (h : (explanationStage F).run context = .ok context') :
    context'.situation? = context.situation? := by
  obtain ⟨summary, -, h⟩ := bind_eq_ok.mp h
  obtain ⟨confidence, -, h⟩ := bind_eq_ok.mp h
  obtain ⟨explanation, -, h⟩ := bind_eq_ok.mp h
  cases h
  rfl

/-- What a plan says. -/
def DecisionPlan.decision (plan : DecisionPlan) : Priority × String × String :=
  (plan.priority, plan.recommendation, plan.justification)

/-- The decision of a plan is the outcome for the assessment that it is made of. -/
theorem decision_plan {decisionContext : DecisionContext} {decisionPlan : DecisionPlan}
    (h : plan drawn decisionContext = .ok decisionPlan) :
    planningOutcome decisionContext.assessment = .ok decisionPlan.decision := by
  obtain ⟨⟨priority, recommendation, justification⟩, houtcome, h⟩ := bind_eq_ok.mp h
  unfold DecisionPlan.create at h
  dsimp only at h
  split_ifs at h
  cases h
  exact houtcome

/-- A decision context has the assessment of its situation. -/
theorem assessment_createDecisionContext {goal : OperationalGoal}
    {situation : OperationalSituation} {decisionContext : DecisionContext}
    (h : createDecisionContext drawn goal situation = .ok decisionContext) :
    decisionContext.assessment = situation.assessment := by
  obtain ⟨_, -, h⟩ := bind_eq_ok.mp h
  unfold DecisionContext.create at h
  split_ifs at h
  cases h
  rfl

omit [PyFloat F] in
/-- The plan decides for the assessment of the situation. -/
theorem run_planningStage (h : (planningStage F drawn).run context = .ok context')
    {situation : OperationalSituation} (hsituation : context.situation? = some situation) :
    ∃ decisionPlan, context'.artifacts.decisionPlan = some decisionPlan ∧
      planningOutcome situation.assessment = .ok decisionPlan.decision := by
  obtain ⟨summary, hsummary, h⟩ := bind_eq_ok.mp h
  obtain ⟨found, hfound, h⟩ := bind_eq_ok.mp h
  obtain ⟨structured, -, h⟩ := bind_eq_ok.mp h
  obtain ⟨decisionContext, hcontext, h⟩ := bind_eq_ok.mp h
  obtain ⟨decisionPlan, hplan, h⟩ := bind_eq_ok.mp h
  cases h
  have hsame : context.situation? = some found := by
    rw [ReasoningContext.situation?, eq_some_of_needed hsummary]
    exact eq_some_of_needed hfound
  obtain rfl : situation = found := Option.some.inj (hsituation.symm.trans hsame)
  refine ⟨decisionPlan, rfl, ?_⟩
  rw [← assessment_createDecisionContext (mapError_eq_ok.mp hcontext)]
  exact decision_plan (mapError_eq_ok.mp hplan)

/-! ## What a run has come to -/

variable {goal : OperationalGoal} {profile : StageProfile} {observations : List (Observation F)}

/-- A run that comes to an end has assessed its primary signals, and its plan is what the planner
makes of the assessment. -/
theorem exists_of_runStages
    (h : runStages texts drawn ⟨goal, observations, profile, {}⟩ = .ok context) :
    ∃ (signals : ExtractedSignals F) (situation : OperationalSituation)
      (decisionPlan : DecisionPlan),
      SignalsOf profile.toOperationalProfile observations signals.toReasoningSignals ∧
      situation.observationIds =
        (sortedByTimestamp signals.primaryObservations).map Observation.id ∧
      situation.assessment = assessmentText signals.trend.direction signals.variation.level
        signals.relationshipAnalysis ∧
      context.artifacts.decisionPlan = some decisionPlan ∧
      planningOutcome situation.assessment = .ok decisionPlan.decision := by
  unfold runStages stages at h
  simp only [List.foldlM_cons, List.foldlM_nil] at h
  -- the seven stages, each over the artifacts of those before it
  obtain ⟨extracted, hextracted, h⟩ := bind_eq_ok.mp h
  obtain ⟨evidenced, hevidenced, h⟩ := bind_eq_ok.mp h
  obtain ⟨hypothesized, hhypothesized, h⟩ := bind_eq_ok.mp h
  obtain ⟨assessed, hassessed, h⟩ := bind_eq_ok.mp h
  obtain ⟨scored, hscored, h⟩ := bind_eq_ok.mp h
  obtain ⟨explained, hexplained, h⟩ := bind_eq_ok.mp h
  obtain ⟨planned, hplanned, h⟩ := bind_eq_ok.mp h
  cases h
  obtain ⟨signals, hsignals, hadded⟩ := run_signalExtractionStage hextracted
  -- the stages in between leave the signals as they are
  have hkept := (run_hypothesisStage hhypothesized).trans (run_evidenceGenerationStage hevidenced)
  obtain ⟨situation, hsituation, hids, htext⟩ :=
    run_assessmentStage hassessed (hkept.trans hadded)
  -- and the later ones the situation
  have hsame := (run_explanationStage hexplained).trans (run_confidenceStage hscored)
  obtain ⟨decisionPlan, hplan, houtcome⟩ := run_planningStage hplanned (hsame.trans hsituation)
  exact ⟨signals, situation, decisionPlan, signalsOf_signalExtraction hsignals, hids, htext, hplan,
    houtcome⟩

/-- The plan of a run is decided by the trend and the variation of the primary measurement. -/
theorem decision_runStages
    (h : runStages texts drawn ⟨goal, observations, profile, {}⟩ = .ok context) :
    ∃ trend variation decisionPlan,
      detect (primaryMeasurementObservations observations) = .ok trend ∧
      detectVariation (primaryMeasurementObservations observations) = .ok variation ∧
      context.artifacts.decisionPlan = some decisionPlan ∧
      decisionPlan.decision = decisionOf trend.direction variation.level := by
  obtain ⟨signals, situation, decisionPlan, hsignals, -, htext, hplan, houtcome⟩ :=
    exists_of_runStages h
  refine ⟨signals.trend, signals.variation, decisionPlan, hsignals.trend, hsignals.variation,
    hplan, ?_⟩
  rw [htext, planningOutcome_assessmentText] at houtcome
  exact (Except.ok.inj houtcome).symm

/-- A situation is not made of two observations with one id. -/
theorem nodup_runStages
    (h : runStages texts drawn ⟨goal, observations, profile, {}⟩ = .ok context) :
    ((primaryMeasurementObservations observations).map Observation.id).Nodup := by
  obtain ⟨signals, situation, -, hsignals, hids, -, -, -⟩ := exists_of_runStages h
  have hnodup := situation.observationIds_nodup
  rw [hids, hsignals.primaryObservations] at hnodup
  exact (((List.mergeSort_perm _ _).map Observation.id).nodup_iff).mp hnodup

end Runs

/-! ## Runs over exact numbers -/

section Exact

variable {assetId measurementType : String} {observations : List (Observation ExactReal)}

/-- Exact arithmetic raises nothing. -/
theorem trendsTotal_exactReal : TrendsTotal ExactReal := fun _ => ⟨_, splitHalfDirection_exact rfl⟩

/-- The assessor takes a series with distinct ids, with the signals of its asset and measurement. -/
theorem exists_assess (drawn : Drawn) (goal : OperationalGoal)
    (h : IsSeries assetId measurementType observations) (hne : observations ≠ [])
    (hnodup : (observations.map Observation.id).Nodup) (direction : TrendDirection)
    (level : VariationLevel) (relationshipAnalysis : RelationshipAnalysis)
    (expectationAnalysis : ExpectationAnalysis) :
    ∃ result, assess drawn goal observations ⟨direction, assetId, measurementType⟩
        ⟨assetId, measurementType, level⟩ relationshipAnalysis expectationAnalysis = .ok result ∧
      result.situation.goalId = goal.id := by
  have hperm : (sortedByTimestamp observations).Perm observations := List.mergeSort_perm _ _
  -- every observation is of the asset and the measurement of the signals
  have hchecks : (sortedByTimestamp observations).forM (fun observation => do
      require (observation.assetId = assetId)
        "all observations must belong to the same asset as the detectors"
      require (observation.measurementType = measurementType)
        "all observations must have the same measurement type as the detectors") = .ok () := by
    rw [forM_eq_ok_iff]
    intro o ho
    rw [require_of (h.assetId o (hperm.mem_iff.mp ho)),
      require_of (h.measurementType o (hperm.mem_iff.mp ho))]
    rfl
  have hids : (sortedByTimestamp observations).map Observation.id ≠ [] := by
    intro hnil
    rw [List.map_eq_nil_iff] at hnil
    rw [hnil] at hperm
    exact hne hperm.symm.eq_nil
  have hdistinct : ¬ ¬ ((sortedByTimestamp observations).map Observation.id).Nodup :=
    not_not.mpr (((hperm.map Observation.id).nodup_iff).mpr hnodup)
  unfold assess OperationalSituation.create
  rw [require_of hne, require_of rfl, require_of rfl]
  dsimp only
  rw [hchecks, dif_neg drawn.situationId_ne, dif_neg goal.id_ne, dif_neg hids, dif_neg hdistinct,
    dif_neg (assessmentText_ne _ _ _)]
  exact ⟨_, rfl, rfl⟩

theorem pure_eq_ok {E α : Type} (a : α) : (pure a : Except E α) = .ok a := rfl

/-- The confidence is scored without raising. -/
theorem scoreAssessmentConfidence_eq {F : Type} [PyFloat F] (summary : AssessmentSummary)
    (structured : StructuredAssessment) (primaryObservations : List (Observation F)) :
    scoreAssessmentConfidence summary structured primaryObservations =
      .ok (confidenceOf structured primaryObservations.length
        (isMonotonicRecent primaryObservations)
        ((summary.situation.map OperationalSituation.assessment).getD "unknown assessment")) := by
  unfold scoreAssessmentConfidence
  dsimp only
  rw [check_confidenceOf]
  rfl

/-- The summary is not empty. -/
theorem summary_ne (assessment total : String) :
    "Assessment: " ++ assessment ++ " Confidence in assessment: " ++ total ++ "/100." ≠ "" :=
  append_ne_empty_right (by decide)

/-- The context is made if the situation is for the goal. -/
theorem exists_createDecisionContext (drawn : Drawn) {goal : OperationalGoal}
    {situation : OperationalSituation} (h : situation.goalId = goal.id) :
    ∃ decisionContext, createDecisionContext drawn goal situation = .ok decisionContext := by
  unfold createDecisionContext DecisionContext.create
  rw [require_of h, dif_neg drawn.contextId_ne, dif_neg goal.id_ne, dif_neg situation.id_ne,
    dif_neg situation.assessment_ne]
  exact ⟨_, rfl⟩

/-- Every assessment that the assessor writes has a plan. -/
theorem exists_plan (drawn : Drawn) {decisionContext : DecisionContext} {direction : TrendDirection}
    {level : VariationLevel} {relationshipAnalysis : RelationshipAnalysis}
    (h : decisionContext.assessment = assessmentText direction level relationshipAnalysis) :
    ∃ decisionPlan, plan drawn decisionContext = .ok decisionPlan := by
  obtain ⟨hrecommendation, hjustification⟩ := decisionOf_ne direction level
  have houtcome := planningOutcome_assessmentText direction level relationshipAnalysis
  rw [← h] at houtcome
  unfold plan
  rw [houtcome, ok_bind]
  generalize decisionOf direction level = decision at hrecommendation hjustification
  obtain ⟨priority, recommendation, justification⟩ := decision
  dsimp only at hrecommendation hjustification ⊢
  unfold DecisionPlan.create
  rw [dif_neg drawn.planId_ne, dif_neg decisionContext.id_ne, dif_neg hrecommendation,
    dif_neg hjustification]
  exact ⟨_, rfl⟩

end Exact

/-! ## The law -/

/-- Observations of one asset, with a name for each measurement, the first of which occurs twice. -/
structure Reasonable {F : Type} (observations : List (Observation F)) : Prop where
  oneAsset : ∀ a ∈ observations, ∀ b ∈ observations, a.assetId = b.assetId
  named : ∀ o ∈ observations, o.measurementType ≠ ""
  twice : 2 ≤ (primaryMeasurementObservations observations).length

section Law

variable {texts : ValueTexts ExactReal} {observations : List (Observation ExactReal)}

/-- The primary observations are observations. -/
theorem subset_primaryMeasurementObservations {F : Type} {observations : List (Observation F)}
    {o : Observation F} (h : o ∈ primaryMeasurementObservations observations) :
    o ∈ observations := by
  cases observations with
  | nil => exact absurd h List.not_mem_nil
  | cons first rest => exact (mem_ofKey.mp h).1

/-- Over exact numbers no stage raises, once the primary observations are distinct. -/
theorem exists_runStages (hreading : ∀ value unit, texts.reading value unit ≠ "")
    (drawn : Drawn) (goal : OperationalGoal) (profile : StageProfile) (h : Reasonable observations)
    (hids : ((primaryMeasurementObservations observations).map Observation.id).Nodup) :
    ∃ context, runStages texts drawn ⟨goal, observations, profile, {}⟩ = .ok context := by
  obtain ⟨o, ho⟩ := List.exists_mem_of_length_pos (Nat.lt_of_lt_of_le Nat.two_pos h.twice)
  have hasset : ∀ o' ∈ observations, o'.assetId = o.assetId := fun o' ho' =>
    h.oneAsset o' ho' o (subset_primaryMeasurementObservations ho)
  obtain ⟨measurementType, direction, level, analysis, unexpected, hseries, hsignals⟩ :=
    exists_signalExtraction trendsTotal_exactReal hasset profile h.twice
  -- the primary observations are a series of one asset and one measurement
  have hresult := exists_assess drawn goal hseries (List.ne_nil_of_mem ho) hids direction level
    analysis (profile.analyzeExpectations analysis)
  generalize hextracted : (⟨⟨direction, o.assetId, measurementType⟩,
    ⟨o.assetId, measurementType, level⟩, analysis, unexpected,
    primaryMeasurementObservations observations⟩ : ReasoningSignals ExactReal) = signals at hsignals
  have hprimary : signals.primaryObservations = primaryMeasurementObservations observations := by
    rw [← hextracted]
  -- every piece of evidence has a text and names its observations
  have hevidence : (generateEvidence texts signals).forM Evidence.check = .ok () := by
    refine check_generateEvidence hreading fun o ho => ?_
    rw [hprimary] at ho
    exact h.named o (subset_primaryMeasurementObservations ho)
  obtain ⟨hypotheses, hhypotheses⟩ :=
    exists_generateHypotheses trendsTotal_exactReal hasset signals (generateEvidence texts signals)
  obtain ⟨result, hresult, hgoal⟩ : ∃ result, assess drawn goal signals.primaryObservations
      signals.trend signals.variation signals.relationshipAnalysis
      (profile.analyzeExpectations signals.relationshipAnalysis) = .ok result ∧
        result.situation.goalId = goal.id := by
    rw [← hextracted]
    exact hresult
  obtain ⟨decisionContext, hcontext⟩ := exists_createDecisionContext drawn hgoal
  obtain ⟨decisionPlan, hplan⟩ := exists_plan drawn
    ((assessment_createDecisionContext hcontext).trans (assess_eq_ok hresult).2)
  -- no stage raises
  unfold runStages stages signalExtractionStage evidenceGenerationStage hypothesisStage
    assessmentStage confidenceStage explanationStage planningStage
  simp only [List.foldlM_cons, List.foldlM_nil, hsignals, ok_bind, needed, hevidence,
    Except.mapError, require_of (generateEvidence_ne_nil texts signals), hhypotheses,
    check_generateHypotheses hhypotheses, hresult, scoreAssessmentConfidence_eq, buildExplanation,
    require_of (summary_ne _ _), pure_eq_ok, hcontext, hplan]
  exact ⟨_, rfl⟩

/-- The stages raise exactly if two primary observations have one id. The plan of a run is urgent
exactly if the primary measurement rises or varies much, and every other run with the same primary
observations comes to the same decision. -/
theorem decisionLaw (hreading : ∀ value unit, texts.reading value unit ≠ "") (drawn : Drawn)
    (goal : OperationalGoal) (profile : StageProfile) (h : Reasonable observations) :
    ((∃ context, runStages texts drawn ⟨goal, observations, profile, {}⟩ = .ok context) ↔
      ((primaryMeasurementObservations observations).map Observation.id).Nodup) ∧
    ∀ context, runStages texts drawn ⟨goal, observations, profile, {}⟩ = .ok context →
      ∃ trend variation decisionPlan,
        detect (primaryMeasurementObservations observations) = .ok trend ∧
        detectVariation (primaryMeasurementObservations observations) = .ok variation ∧
        context.artifacts.decisionPlan = some decisionPlan ∧
        (decisionPlan.priority = .high ↔
          trend.direction = .increasing ∨ variation.level = .high) ∧
        (decisionPlan.priority = .low ↔
          ¬ (trend.direction = .increasing ∨ variation.level = .high)) ∧
        ∀ texts' drawn' goal' profile' observations' context',
          primaryMeasurementObservations observations' =
            primaryMeasurementObservations observations →
          runStages texts' drawn' ⟨goal', observations', profile', {}⟩ = .ok context' →
          ∃ decisionPlan', context'.artifacts.decisionPlan = some decisionPlan' ∧
            decisionPlan'.decision = decisionPlan.decision := by
  refine ⟨⟨fun ⟨context, hrun⟩ => nodup_runStages hrun,
    exists_runStages hreading drawn goal profile h⟩, fun context hrun => ?_⟩
  obtain ⟨trend, variation, decisionPlan, htrend, hvariation, hplan, hdecision⟩ :=
    decision_runStages hrun
  -- the priority is that of the decision, which the two signals determine
  have hpriority : decisionPlan.priority =
      if trend.direction = .increasing ∨ variation.level = .high then .high else .low := by
    rw [← priority_decisionOf, ← hdecision]
    rfl
  refine ⟨trend, variation, decisionPlan, htrend, hvariation, hplan, ?_, ?_, ?_⟩
  · rw [hpriority]
    split_ifs with hurgent
    · exact iff_of_true rfl hurgent
    · exact iff_of_false (by decide) hurgent
  · rw [hpriority]
    split_ifs with hurgent
    · exact iff_of_false (by decide) (not_not.mpr hurgent)
    · exact iff_of_true rfl hurgent
  · intro texts' drawn' goal' profile' observations' context' hprimary hrun'
    obtain ⟨trend', variation', decisionPlan', htrend', hvariation', hplan', hdecision'⟩ :=
      decision_runStages hrun'
    -- another run reads the same signals off the same primary observations
    rw [hprimary] at htrend' hvariation'
    obtain rfl : trend = trend' := Except.ok.inj (htrend.symm.trans htrend')
    obtain rfl : variation = variation' := Except.ok.inj (hvariation.symm.trans hvariation')
    exact ⟨decisionPlan', hplan', hdecision'.trans hdecision.symm⟩

end Law

/-! ## Two readings -/

section TwoReadings

/-- The measurement of the readings is named. -/
theorem voltage_ne_empty : ("voltage" : String) ≠ "" := by decide

/-- Two readings of a voltage of 2 V, by their ids. -/
noncomputable def twoReadings (first second : ℕ) : List (Observation ExactReal) :=
  [⟨numberedId first, "stack-1", .utc 0, "voltage", PyFloat.literal 2, "V", numberedId_ne first,
      stack1_ne_empty, by decide⟩,
    ⟨numberedId second, "stack-1", .utc 1000000, "voltage", PyFloat.literal 2, "V",
      numberedId_ne second, stack1_ne_empty, by decide⟩]

/-- How the numbers of the two readings are written. -/
def writtenReadings : ValueTexts ExactReal := ⟨fun _ unit => "2.0 " ++ unit, fun _ => "0.00"⟩

/-- What a run draws. -/
def drawnIds : Drawn :=
  ⟨"situation-1", "context-1", "plan-1", .utc 2000000, .utc 2000000, by decide, by decide,
    by decide⟩

/-- A goal. -/
def steadyGoal : OperationalGoal :=
  ⟨"goal-1", "Keep the stack steady", by decide, by decide⟩

/-- Both readings are of the primary measurement. -/
theorem primary_twoReadings (first second : ℕ) :
    primaryMeasurementObservations (twoReadings first second) = twoReadings first second := by
  simp [twoReadings, primaryMeasurementObservations, ofKey]

/-- Two readings are enough to reason about. -/
theorem reasonable_twoReadings (first second : ℕ) : Reasonable (twoReadings first second) where
  oneAsset a ha b hb := by
    simp only [twoReadings, List.mem_cons, List.not_mem_nil, or_false] at ha hb
    rcases ha with rfl | rfl <;> rcases hb with rfl | rfl <;> rfl
  named o ho := by
    simp only [twoReadings, List.mem_cons, List.not_mem_nil, or_false] at ho
    rcases ho with rfl | rfl <;> exact voltage_ne_empty
  twice := by
    rw [primary_twoReadings]
    exact le_rfl

/-- Two readings with one id make the stages raise. -/
theorem not_exists_runStages_oneId : ¬ ∀ observations : List (Observation ExactReal),
    Reasonable observations → ∃ context, runStages writtenReadings drawnIds
      ⟨steadyGoal, observations, .fuelCell, {}⟩ = .ok context := by
  intro hnever
  obtain ⟨context, hrun⟩ := hnever (twoReadings 0 0) (reasonable_twoReadings 0 0)
  have hnodup := nodup_runStages hrun
  rw [primary_twoReadings] at hnodup
  exact (List.nodup_cons.mp hnodup).1 List.mem_cons_self

/-- A short series does not vary much. -/
theorem variationLevel_short {F : Type} [PyFloat F] {values : List F}
    (h : values.length < minSamplesForVariationClassification) : variationLevel values = .low := by
  unfold variationLevel
  split
  · rfl
  · exact if_pos h

/-- The decision on two readings with an id each is not urgent. -/
theorem decisionLaw_twoReadings :
    ∃ context, runStages writtenReadings drawnIds
        ⟨steadyGoal, twoReadings 0 1, .fuelCell, {}⟩ = .ok context ∧
      ∃ decisionPlan, context.artifacts.decisionPlan = some decisionPlan ∧
        decisionPlan.priority = .low := by
  have hreading : ∀ value unit, writtenReadings.reading value unit ≠ "" := fun _ _ =>
    append_ne_empty_left (by decide)
  obtain ⟨hnever, hlaw⟩ :=
    decisionLaw hreading drawnIds steadyGoal .fuelCell (reasonable_twoReadings 0 1)
  have hids : ((primaryMeasurementObservations (twoReadings 0 1)).map Observation.id).Nodup := by
    rw [primary_twoReadings]
    show [numberedId 0, numberedId 1].Nodup
    decide
  obtain ⟨context, hrun⟩ := hnever.mpr hids
  obtain ⟨trend, variation, decisionPlan, htrend, hvariation, hplan, -, hlow, -⟩ :=
    hlaw context hrun
  refine ⟨context, hrun, decisionPlan, hplan, hlow.mpr ?_⟩
  -- two readings are too few for a direction or a high variation
  have hseries : IsSeries "stack-1" "voltage" (twoReadings 0 1) := by
    refine ⟨?_, ?_⟩ <;> simp [twoReadings]
  have hshort : (sortedByTimestamp (twoReadings 0 1)).length = 2 := List.length_mergeSort _
  rw [primary_twoReadings, detect_series hseries le_rfl,
    splitHalfDirection_short (by rw [hshort]; decide)] at htrend
  rw [primary_twoReadings, detectVariation_series hseries le_rfl,
    variationLevel_short (by rw [List.length_map, hshort]; decide)] at hvariation
  cases htrend
  cases hvariation
  decide

end TwoReadings

end Odis.Reasoning
