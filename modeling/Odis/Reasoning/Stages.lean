import Mathlib.Data.List.Infix
import Odis.Reasoning.Hypotheses

/-!
# The stages of the reasoning pipeline

A `ReasoningSession` sends a context through seven stages (`application/reasoning/`). Each reads
what the stages before it have added and adds its own. The assessor puts its findings into a text
(`operational_situation_assessor.py`), and the planner reads its plan off the words of that text
(`decision_planner.py`).

* `run_signalExtractionStage`, `run_evidenceGenerationStage` and so on: what each stage adds.
* `planningOutcome_assessmentText`: what the planner makes of every text of the assessor.
-/

namespace Odis.Reasoning

open Exceptions Inference KeyedWindow

variable {F : Type} [PyFloat F]

/-- `ValueError`, by its message. -/
inductive StageError where
  | valueError (message : String)
  deriving DecidableEq, Repr

/-- A guard of the source. -/
def require (condition : Prop) [Decidable condition] (message : String) :
    Except StageError Unit :=
  if condition then .ok () else .error (.valueError message)

/-- A requirement that is met raises nothing. -/
theorem require_of {condition : Prop} [Decidable condition] (h : condition) (message : String) :
    require condition message = .ok () := if_pos h

/-! ## Expectations -/

/-- `Expectation`. -/
structure Expectation where
  name : String
  description : String

/-- The status of an expectation. -/
inductive ExpectationStatus where
  | expected
  | unexpected
  | indeterminate
  deriving DecidableEq, Repr

/-- `ExpectationEvaluation`. -/
structure ExpectationEvaluation where
  expectation : Expectation
  status : ExpectationStatus
  explanation : String

/-- `ExpectationEvaluator.evaluate`. -/
def evaluateExpectation (expectation : Expectation) (satisfied : Option Bool) :
    ExpectationEvaluation :=
  match satisfied with
  | some true =>
      ⟨expectation, .expected, "The observed behavior matches this engineering expectation."⟩
  | some false =>
      ⟨expectation, .unexpected,
        "The observed behavior diverges from this engineering expectation."⟩
  | none =>
      ⟨expectation, .indeterminate,
        "Insufficient evidence is available to evaluate this expectation."⟩

/-- `FuelCellExpectationEvaluator.evaluate_relationship`. -/
def evaluateRelationship (expectation : Expectation) (relationships : RelationshipAnalysis) :
    ExpectationEvaluation :=
  evaluateExpectation expectation
    (if relationships.correlations ≠ [] then some true
      else if relationships.contradictions ≠ [] then some false
      else none)

/-- `ExpectationAnalysis`. -/
structure ExpectationAnalysis where
  evaluations : List ExpectationEvaluation

namespace ExpectationAnalysis

/-- `has_unexpected`. -/
def hasUnexpected (analysis : ExpectationAnalysis) : Bool :=
  0 < analysis.evaluations.countP fun evaluation => evaluation.status = .unexpected

/-- `has_indeterminate`. -/
def hasIndeterminate (analysis : ExpectationAnalysis) : Bool :=
  0 < analysis.evaluations.countP fun evaluation => evaluation.status = .indeterminate

end ExpectationAnalysis

/-- A profile that says all of its expectations, and does so of all relationships. -/
structure StageProfile extends OperationalProfile StageError where
  analyzeExpectations : RelationshipAnalysis → ExpectationAnalysis
  evaluateExpectations_eq : ∀ analysis,
    evaluateExpectations analysis = .ok (analyzeExpectations analysis).hasUnexpected

/-- `DefaultRelationshipPolicy`. -/
def defaultRelationshipPolicy : RelationshipPolicy where
  correlationRules := [⟨"temperature", "pressure"⟩]
  contradictionRules := [⟨"temperature", "pressure"⟩]

/-- `OperationalProfile.default()`. It has no expectations. -/
def StageProfile.default : StageProfile where
  relationshipPolicy := defaultRelationshipPolicy
  evaluateExpectations _ := .ok false
  analyzeExpectations _ := ⟨[]⟩
  evaluateExpectations_eq _ := rfl

/-- The expectation of `FuelCellOperationalProfile`. -/
def coupledSubsystemResponse : Expectation where
  name := "Coupled subsystem response"
  description := "Under changing load, correlated measurement trends indicate " ++
    "coherent fuel-cell subsystem response."

/-- `FuelCellOperationalProfile.evaluate_expectations`. -/
def analyzeCoupledResponse (analysis : RelationshipAnalysis) : ExpectationAnalysis :=
  ⟨[evaluateRelationship coupledSubsystemResponse analysis]⟩

/-- A coupled response is unexpected if a contradiction holds and no correlation. -/
theorem hasUnexpected_analyzeCoupledResponse (analysis : RelationshipAnalysis) :
    (analyzeCoupledResponse analysis).hasUnexpected =
      decide (analysis.correlations = [] ∧ analysis.contradictions ≠ []) := by
  unfold analyzeCoupledResponse evaluateRelationship ExpectationAnalysis.hasUnexpected
  by_cases hcorrelations : analysis.correlations = []
  · by_cases hcontradictions : analysis.contradictions = []
    · simp [hcorrelations, hcontradictions, evaluateExpectation]
    · simp [hcorrelations, hcontradictions, evaluateExpectation]
  · simp [hcorrelations, evaluateExpectation]

/-- `FuelCellOperationalProfile.default()`. -/
def StageProfile.fuelCell : StageProfile where
  toOperationalProfile := fuelCellProfile StageError
  analyzeExpectations := analyzeCoupledResponse
  evaluateExpectations_eq analysis :=
    congrArg Except.ok (hasUnexpected_analyzeCoupledResponse analysis).symm

/-! ## What the stages build -/

/-- `Evidence.__post_init__`. -/
def Evidence.check (evidence : Evidence) : Except StageError Unit := do
  require (evidence.id ≠ "") "id must not be empty"
  require (evidence.description ≠ "") "description must not be empty"
  require (evidence.measurementType ≠ "") "measurement_type must not be empty"
  require (evidence.observedValue ≠ "") "observed_value must not be empty"
  require (0 ≤ evidence.weight ∧ evidence.weight ≤ 1) "weight must be between 0 and 1"

/-- `Hypothesis.__post_init__`. -/
def Hypothesis.check (hypothesis : Hypothesis) : Except StageError Unit := do
  require (hypothesis.id ≠ "") "id must not be empty"
  require (hypothesis.rationale ≠ "") "rationale must not be empty"

/-- `OperationalGoal`: an id and a description, neither of them empty. -/
structure OperationalGoal where
  id : String
  description : String
  id_ne : id ≠ ""
  description_ne : description ≠ ""

/-- `OperationalSituation`. -/
structure OperationalSituation where
  id : String
  goalId : String
  observationIds : List String
  assessment : String
  id_ne : id ≠ ""
  goalId_ne : goalId ≠ ""
  observationIds_ne : observationIds ≠ []
  observationIds_nodup : observationIds.Nodup
  assessment_ne : assessment ≠ ""

/-- The constructor of a situation, with its checks. -/
def OperationalSituation.create (id goalId : String) (observationIds : List String)
    (assessment : String) : Except StageError OperationalSituation :=
  if hid : id = "" then .error (.valueError "id must not be empty")
  else if hgoal : goalId = "" then .error (.valueError "goal_id must not be empty")
  else if hids : observationIds = [] then .error (.valueError "observation_ids must not be empty")
  else if hnodup : ¬ observationIds.Nodup then
    .error (.valueError "observation_ids must be unique")
  else if hassessment : assessment = "" then .error (.valueError "assessment must not be empty")
  else .ok ⟨id, goalId, observationIds, assessment, hid, hgoal, hids, not_not.mp hnodup,
    hassessment⟩

/-- `DecisionContext`. -/
structure DecisionContext where
  id : String
  goalId : String
  situationId : String
  assessment : String
  createdAt : Datetime
  id_ne : id ≠ ""
  goalId_ne : goalId ≠ ""
  situationId_ne : situationId ≠ ""
  assessment_ne : assessment ≠ ""

/-- The constructor of a decision context, with its checks. -/
def DecisionContext.create (id goalId situationId assessment : String) (createdAt : Datetime) :
    Except StageError DecisionContext :=
  if hid : id = "" then .error (.valueError "id must not be empty")
  else if hgoal : goalId = "" then .error (.valueError "goal_id must not be empty")
  else if hsituation : situationId = "" then .error (.valueError "situation_id must not be empty")
  else if hassessment : assessment = "" then .error (.valueError "assessment must not be empty")
  else .ok ⟨id, goalId, situationId, assessment, createdAt, hid, hgoal, hsituation, hassessment⟩

/-- `Priority`. -/
inductive Priority where
  | low
  | medium
  | high
  | critical
  deriving DecidableEq, Repr

/-- `DecisionPlan`. -/
structure DecisionPlan where
  id : String
  contextId : String
  createdAt : Datetime
  priority : Priority
  recommendation : String
  justification : String
  id_ne : id ≠ ""
  contextId_ne : contextId ≠ ""
  recommendation_ne : recommendation ≠ ""
  justification_ne : justification ≠ ""

/-- The constructor of a plan, with its checks. -/
def DecisionPlan.create (id contextId : String) (createdAt : Datetime) (priority : Priority)
    (recommendation justification : String) : Except StageError DecisionPlan :=
  if hid : id = "" then .error (.valueError "id must not be empty")
  else if hcontext : contextId = "" then .error (.valueError "context_id must not be empty")
  else if hrecommendation : recommendation = "" then
    .error (.valueError "recommendation must not be empty")
  else if hjustification : justification = "" then
    .error (.valueError "justification must not be empty")
  else .ok ⟨id, contextId, createdAt, priority, recommendation, justification, hid, hcontext,
    hrecommendation, hjustification⟩

/-- `StructuredAssessment`. -/
structure StructuredAssessment where
  trendDirection : TrendDirection
  variationLevel : VariationLevel
  hasCorrelations : Bool
  hasContradictions : Bool
  hasUnexpectedExpectations : Bool
  hasIndeterminateExpectations : Bool

/-- `StructuredAssessment.from_reasoning`, of both analyses. -/
def StructuredAssessment.fromReasoning (trend : DetectedTrend) (variation : DetectedVariation)
    (relationshipAnalysis : RelationshipAnalysis) (expectationAnalysis : ExpectationAnalysis) :
    StructuredAssessment where
  trendDirection := trend.direction
  variationLevel := variation.level
  hasCorrelations := relationshipAnalysis.correlations ≠ []
  hasContradictions := relationshipAnalysis.contradictions ≠ []
  hasUnexpectedExpectations := expectationAnalysis.hasUnexpected
  hasIndeterminateExpectations := expectationAnalysis.hasIndeterminate

/-- `ConfidenceBreakdown`. -/
structure ConfidenceBreakdown where
  base : ℤ
  support : ℤ
  consistency : ℤ
  trendConsistency : ℤ
  sustainedBonus : ℤ
  penalties : ℤ
  total : ℤ
  rationale : String

/-- `ConfidenceBreakdown.__post_init__`. -/
def ConfidenceBreakdown.check (confidence : ConfidenceBreakdown) : Except StageError Unit := do
  require (0 ≤ confidence.total ∧ confidence.total ≤ 100) "total must be between 0 and 100"
  require (confidence.rationale ≠ "") "rationale must not be empty"

/-- `AssessmentSummary`. -/
structure AssessmentSummary where
  situation : Option OperationalSituation
  trendDirection : TrendDirection
  variationLevel : VariationLevel
  hasCorrelations : Bool
  hasContradictions : Bool
  hasUnexpectedExpectations : Bool
  hasIndeterminateExpectations : Bool
  primaryHypothesis : Option Hypothesis
  supportingEvidence : List Evidence
  confidence : Option ConfidenceBreakdown

/-- `Explanation`. -/
structure Explanation where
  summary : String
  evidence : List Evidence
  hypothesesConsidered : List Hypothesis
  caveats : List String

/-- `PlanningContext`. -/
structure PlanningContext where
  hasRelationships : Bool
  hasContradictions : Bool

/-- `PlanningContext.from_assessment`. -/
def PlanningContext.fromAssessment (assessment : StructuredAssessment) : PlanningContext where
  hasRelationships := assessment.hasCorrelations || assessment.hasContradictions
  hasContradictions := assessment.hasContradictions

/-! ## The assessor -/

/-- `_assessment_from_signals`. -/
def assessmentFromSignals (direction : TrendDirection) (level : VariationLevel) : String :=
  match direction, level with
  | .increasing, .low => "Increasing operational stress detected"
  | .increasing, .high => "Rapidly increasing unstable operational conditions detected"
  | .stable, .low => "Operational conditions stable"
  | .stable, .high => "Highly unstable operating conditions detected"
  | .decreasing, .low => "Operational conditions improving"
  | .decreasing, .high => "Operational conditions remain unstable despite improvement"

/-- The text of the assessment, with what it says of other measurements. -/
def assessmentText (direction : TrendDirection) (level : VariationLevel)
    (relationshipAnalysis : RelationshipAnalysis) : String :=
  let assessment := assessmentFromSignals direction level
  if relationshipAnalysis.contradictions ≠ [] then
    assessment ++ "\n\nCross-measurement inconsistencies detected."
  else if relationshipAnalysis.correlations ≠ [] then
    assessment ++ "\n\nCross-measurement relationships detected."
  else assessment

/-- The ids that a run draws, and the times at which it looks at the clock. -/
structure Drawn where
  situationId : String
  contextId : String
  planId : String
  contextCreatedAt : Datetime
  planCreatedAt : Datetime
  situationId_ne : situationId ≠ ""
  contextId_ne : contextId ≠ ""
  planId_ne : planId ≠ ""

/-- `AssessmentResult`. -/
structure AssessmentResult where
  situation : OperationalSituation
  structured : StructuredAssessment

/-- `OperationalSituationAssessor.assess`, of both analyses. -/
def assess (drawn : Drawn) (goal : OperationalGoal) (observations : List (Observation F))
    (trend : DetectedTrend) (variation : DetectedVariation)
    (relationshipAnalysis : RelationshipAnalysis) (expectationAnalysis : ExpectationAnalysis) :
    Except StageError AssessmentResult := do
  require (observations ≠ []) "at least one observation is required"
  require (trend.assetId = variation.assetId) "trend and variation must refer to the same asset"
  require (trend.measurementType = variation.measurementType)
    "trend and variation must have the same measurement type"
  let ordered := sortedByTimestamp observations
  ordered.forM fun observation => do
    require (observation.assetId = trend.assetId)
      "all observations must belong to the same asset as the detectors"
    require (observation.measurementType = trend.measurementType)
      "all observations must have the same measurement type as the detectors"
  let situation ← OperationalSituation.create drawn.situationId goal.id
    (ordered.map Observation.id) (assessmentText trend.direction variation.level
      relationshipAnalysis)
  return ⟨situation, .fromReasoning trend variation relationshipAnalysis expectationAnalysis⟩

/-! ## The confidence -/

/-- `_is_monotonic_recent`. -/
def isMonotonicRecent (primaryObservations : List (Observation F)) : Bool :=
  match primaryObservations.reverse with
  | third :: second :: first :: _ =>
      first.value ≤ second.value ∧ second.value ≤ third.value ∨
        second.value ≤ first.value ∧ third.value ≤ second.value
  | _ => false

/-- The components of a confidence and their sum, between 0 and 100. -/
def confidenceOf (structured : StructuredAssessment) (nSupporting : ℕ) (monotonic : Bool)
    (assessment : String) : ConfidenceBreakdown :=
  let contradictions := structured.hasContradictions
  let variationHigh := structured.variationLevel = .high
  let base : ℤ := 35
  let support : ℤ := min 25 (8 * min nSupporting 3 : ℕ)
  let stable := ¬ variationHigh ∧ ¬ contradictions
  let consistency : ℤ := if stable then 15 else 5
  let trendConsistency : ℤ :=
    match structured.trendDirection with
    | .increasing | .decreasing => if ¬ variationHigh then 12 else 4
    | .stable => 8
  let sustained := monotonic ∧ structured.trendDirection ≠ .stable
  let sustainedBonus : ℤ := if sustained then 6 else 0
  let penalties : ℤ := (if contradictions then -12 else 0) +
    (if structured.hasUnexpectedExpectations then -6 else 0)
  let raw := base + support + consistency + trendConsistency + sustainedBonus + penalties
  { base, support, consistency, trendConsistency, sustainedBonus, penalties
    total := max 0 (min 100 raw)
    rationale := "Base " ++ toString base ++ ". Support " ++ toString support ++ " from " ++
      toString nSupporting ++ " observations. Consistency " ++ toString consistency ++ " (" ++
      (if stable then "stable" else "mixed") ++ "). Trend " ++ toString trendConsistency ++
      " (direction " ++ structured.trendDirection.value ++ "). " ++
      (if sustained then "Sustained directional change observed."
        else "No sustained directional change.") ++ " " ++
      (if contradictions then "Penalty -12 for contradictions."
        else "No contradiction penalty.") ++ " " ++
      (if structured.hasUnexpectedExpectations then "Penalty -6 for unexpected expectations."
        else "No unexpected-expectation penalty.") ++ " Assessment: " ++ assessment }

/-- `score_assessment_confidence`. -/
def scoreAssessmentConfidence (summary : AssessmentSummary) (structured : StructuredAssessment)
    (primaryObservations : List (Observation F)) : Except StageError ConfidenceBreakdown := do
  let confidence := confidenceOf structured primaryObservations.length
    (isMonotonicRecent primaryObservations)
    ((summary.situation.map OperationalSituation.assessment).getD "unknown assessment")
  confidence.check
  return confidence

/-! ## The explanation -/

/-- `build_explanation`. -/
def buildExplanation (summary : AssessmentSummary) (evidence : List Evidence)
    (hypotheses : List Hypothesis) (confidence : ConfidenceBreakdown) :
    Except StageError Explanation :=
  match summary.situation with
  | none => .error (.valueError "assessment summary must include a situation")
  | some situation => do
      let explanation : Explanation :=
        { summary := "Assessment: " ++ situation.assessment ++ " Confidence in assessment: " ++
            toString confidence.total ++ "/100."
          evidence
          hypothesesConsidered := hypotheses
          caveats :=
            (if summary.hasContradictions then
              ["Cross-measurement contradictions weaken certainty."] else []) ++
            (if summary.hasUnexpectedExpectations then
              ["Unexpected expectation signals were detected."] else []) ++
            (if summary.hasIndeterminateExpectations then
              ["Some expectations remain indeterminate."] else []) ++
            (if evidence = [] then ["Limited supporting evidence is available."] else []) ++
            if hypotheses = [] then ["No alternative hypotheses were generated."] else [] }
      require (explanation.summary ≠ "") "summary must not be empty"
      return explanation

/-! ## The planner -/

/-- `word in text`. -/
def occursIn (word text : String) : Bool := word.toList <:+: text.toList

/-- `_planning_outcome`: the words are looked for one after the other, and "unstable" before
"stable", which is part of it. The texts are in ASCII, so `casefold` is the lower case. -/
def planningOutcome (assessment : String) : Except StageError (Priority × String × String) :=
  let normalized := assessment.toLower
  if occursIn "increasing" normalized then
    .ok (.high, "Investigate operational conditions",
      "Operational assessment indicates increasing stress.")
  else if occursIn "unstable" normalized then
    .ok (.high, "Investigate operational conditions",
      "Operational assessment indicates unstable conditions.")
  else if occursIn "stable" normalized then
    .ok (.low, "Continue monitoring", "Operational conditions remain stable.")
  else if occursIn "improving" normalized then
    .ok (.low, "Maintain current operations", "Operational conditions are improving.")
  else .error (.valueError "unrecognized operational assessment")

/-- `create_decision_context`. -/
def createDecisionContext (drawn : Drawn) (goal : OperationalGoal)
    (situation : OperationalSituation) : Except StageError DecisionContext := do
  require (situation.goalId = goal.id) "situation must belong to the supplied goal"
  DecisionContext.create drawn.contextId goal.id situation.id situation.assessment
    drawn.contextCreatedAt

/-- `DecisionPlanner.plan`, which does not look at its planning context. -/
def plan (drawn : Drawn) (context : DecisionContext) : Except StageError DecisionPlan := do
  let (priority, recommendation, justification) ← planningOutcome context.assessment
  DecisionPlan.create drawn.planId context.id drawn.planCreatedAt priority recommendation
    justification

/-! ## The stages -/

/-- `ReasoningSignals`, with the whole analysis of the expectations. -/
structure ExtractedSignals (F : Type) extends ReasoningSignals F where
  expectationAnalysis : ExpectationAnalysis

/-- `ReasoningArtifacts`. -/
structure ReasoningArtifacts (F : Type) where
  signals : Option (ExtractedSignals F) := none
  evidence : List Evidence := []
  hypotheses : List Hypothesis := []
  structuredAssessment : Option StructuredAssessment := none
  assessmentSummary : Option AssessmentSummary := none
  explanation : Option Explanation := none
  confidence : Option ConfidenceBreakdown := none
  planningContext : Option PlanningContext := none
  decisionContext : Option DecisionContext := none
  decisionPlan : Option DecisionPlan := none

/-- `ReasoningContext`. -/
structure ReasoningContext (F : Type) where
  goal : OperationalGoal
  observations : List (Observation F)
  profile : StageProfile
  artifacts : ReasoningArtifacts F := {}

/-- An artifact that a stage needs. -/
def needed {α : Type} (artifact : Option α) (message : String) :
    Except (PipelineError StageError) α :=
  match artifact with
  | some value => .ok value
  | none => .error (.other (.valueError message))

/-- A stage of the pipeline. -/
structure ReasoningStage (F : Type) where
  name : String
  run : ReasoningContext F → Except (PipelineError StageError) (ReasoningContext F)

/-- `SignalExtractionStage`. -/
def signalExtractionStage (F : Type) [PyFloat F] : ReasoningStage F where
  name := "Signal Extraction"
  run context := do
    let signals ← signalExtraction context.profile.toOperationalProfile context.observations
    let expectationAnalysis :=
      context.profile.analyzeExpectations signals.relationshipAnalysis
    return { context with
      artifacts := { context.artifacts with signals := some ⟨signals, expectationAnalysis⟩ } }

/-- `EvidenceGenerationStage`. -/
def evidenceGenerationStage (texts : ValueTexts F) : ReasoningStage F where
  name := "Evidence Generation"
  run context := do
    let signals ← needed context.artifacts.signals
      "signals must be extracted before evidence generation"
    let evidence := generateEvidence texts signals.toReasoningSignals
    (evidence.forM Evidence.check).mapError .other
    return { context with artifacts := { context.artifacts with evidence } }

/-- `HypothesisStage`. -/
def hypothesisStage (F : Type) [PyFloat F] : ReasoningStage F where
  name := "Hypothesis Generation"
  run context := do
    let signals ← needed context.artifacts.signals
      "signals must be extracted before hypothesis generation"
    let evidence := context.artifacts.evidence
    (require (evidence ≠ []) "evidence must be generated before hypothesis generation").mapError
      .other
    let hypotheses ← (generateHypotheses signals.toReasoningSignals evidence
      context.observations).mapError .detector
    (hypotheses.forM Hypothesis.check).mapError .other
    return { context with artifacts := { context.artifacts with hypotheses } }

/-- `AssessmentStage`. -/
def assessmentStage (F : Type) (drawn : Drawn) : ReasoningStage F where
  name := "Assessment"
  run context := do
    let signals ← needed context.artifacts.signals "signals must be extracted before assessment"
    let result ← (assess drawn context.goal signals.primaryObservations signals.trend
      signals.variation signals.relationshipAnalysis signals.expectationAnalysis).mapError .other
    let structured := result.structured
    let summary : AssessmentSummary :=
      { situation := some result.situation
        trendDirection := structured.trendDirection
        variationLevel := structured.variationLevel
        hasCorrelations := structured.hasCorrelations
        hasContradictions := structured.hasContradictions
        hasUnexpectedExpectations := structured.hasUnexpectedExpectations
        hasIndeterminateExpectations := structured.hasIndeterminateExpectations
        primaryHypothesis := context.artifacts.hypotheses.head?
        supportingEvidence := context.artifacts.evidence
        confidence := none }
    return { context with
      artifacts := { context.artifacts with
        structuredAssessment := some structured
        assessmentSummary := some summary } }

/-- `ConfidenceStage`. -/
def confidenceStage (F : Type) [PyFloat F] : ReasoningStage F where
  name := "Confidence"
  run context := do
    let message := "assessment must be completed before confidence scoring"
    let summary ← needed context.artifacts.assessmentSummary message
    let structured ← needed context.artifacts.structuredAssessment message
    let signals ← needed context.artifacts.signals message
    let confidence ← (scoreAssessmentConfidence summary structured
      signals.primaryObservations).mapError .other
    return { context with
      artifacts := { context.artifacts with
        confidence := some confidence
        assessmentSummary := some { summary with confidence := some confidence } } }

/-- `ExplanationStage`. -/
def explanationStage (F : Type) : ReasoningStage F where
  name := "Explanation"
  run context := do
    let message := "assessment and confidence must exist before explanation generation"
    let summary ← needed context.artifacts.assessmentSummary message
    let confidence ← needed context.artifacts.confidence message
    let explanation ← (buildExplanation summary context.artifacts.evidence
      context.artifacts.hypotheses confidence).mapError .other
    return { context with
      artifacts := { context.artifacts with explanation := some explanation } }

/-- `PlanningStage`. -/
def planningStage (F : Type) (drawn : Drawn) : ReasoningStage F where
  name := "Planning"
  run context := do
    let message := "assessment must be completed before planning"
    let summary ← needed context.artifacts.assessmentSummary message
    let situation ← needed summary.situation message
    let structured ← needed context.artifacts.structuredAssessment message
    let decisionContext ← (createDecisionContext drawn context.goal situation).mapError .other
    let planningContext := PlanningContext.fromAssessment structured
    let decisionPlan ← (plan drawn decisionContext).mapError .other
    return { context with
      artifacts := { context.artifacts with
        planningContext := some planningContext
        decisionContext := some decisionContext
        decisionPlan := some decisionPlan } }

/-- The stages of a `ReasoningSession`, in their order. -/
def stages (texts : ValueTexts F) (drawn : Drawn) : List (ReasoningStage F) :=
  [signalExtractionStage F, evidenceGenerationStage texts, hypothesisStage F,
    assessmentStage F drawn, confidenceStage F, explanationStage F, planningStage F drawn]

/-- The loop of `ReasoningSession.run` over the stages. -/
def runStages (texts : ValueTexts F) (drawn : Drawn) (context : ReasoningContext F) :
    Except (PipelineError StageError) (ReasoningContext F) :=
  (stages texts drawn).foldlM (fun context stage => stage.run context) context

/-! ## What is built passes its checks -/

/-- What begins with something is not empty. -/
theorem append_ne_empty_left {s t : String} (h : s ≠ "") : s ++ t ≠ "" :=
  fun heq => h (String.append_eq_empty_iff.mp heq).1

/-- Nor is what ends with something. -/
theorem append_ne_empty_right {s t : String} (h : t ≠ "") : s ++ t ≠ "" :=
  fun heq => h (String.append_eq_empty_iff.mp heq).2

/-- Evidence with all its texts and a weight up to one passes its check. -/
theorem check_evidence {id description measurementType observedValue : String}
    {sourceSignal : EvidenceSourceSignal} {role : EvidenceRole} {weight : ℚ} (hid : id ≠ "")
    (hdescription : description ≠ "") (hmeasurement : measurementType ≠ "")
    (hobserved : observedValue ≠ "") (hweight : 0 ≤ weight ∧ weight ≤ 1) :
    Evidence.check ⟨id, description, sourceSignal, measurementType, observedValue, role, weight⟩ =
      .ok () := by
  unfold Evidence.check
  rw [require_of hid, require_of hdescription, require_of hmeasurement, require_of hobserved,
    require_of hweight]
  rfl

/-- A hypothesis with an id and a rationale passes its check. -/
theorem check_hypothesis {evidence : List Evidence} {id rationale : String} {kind : HypothesisKind}
    (hid : id ≠ "") (hrationale : rationale ≠ "") :
    (hypothesis evidence id kind rationale).check = .ok () := by
  unfold Hypothesis.check hypothesis
  rw [require_of hid, require_of hrationale]
  rfl

/-- Every signal has a name. -/
theorem value_ne (signal : EvidenceSourceSignal) : signal.value ≠ "" := by
  cases signal <;> decide

/-- Every rule has a relationship to be named. -/
theorem relationship_ne (rule : RelationshipRule) : rule.relationship ≠ "" := by
  unfold RelationshipRule.relationship
  exact append_ne_empty_right (by decide)

/-- And it has a contradiction. -/
theorem contradiction_ne (rule : RelationshipRule) : rule.contradiction ≠ "" := by
  unfold RelationshipRule.contradiction
  exact append_ne_empty_right (by decide)

/-- Evidence of observations whose measurement has a name is complete, if no number is written as
nothing. -/
theorem check_generateEvidence {texts : ValueTexts F} {signals : ReasoningSignals F}
    (hreading : ∀ value unit, texts.reading value unit ≠ "")
    (hnamed : ∀ o ∈ signals.primaryObservations, o.measurementType ≠ "") :
    (generateEvidence texts signals).forM Evidence.check = .ok () := by
  have hmeasurement :
      (signals.primaryObservations.head?.map Observation.measurementType).getD "unknown" ≠ "" := by
    cases hprimary : signals.primaryObservations with
    | nil =>
        show "unknown" ≠ ""
        decide
    | cons first rest => exact hnamed first (by rw [hprimary]; exact List.mem_cons_self)
  rw [forM_eq_ok_iff]
  intro evidence hevidence
  unfold generateEvidence at hevidence
  dsimp only at hevidence
  simp only [List.mem_append] at hevidence
  -- the pieces of evidence, in the order in which they are made
  rcases hevidence with ((((hlatest | hdetected) | hdelta) | hsample) | hcorrelation) |
    hcontradiction
  · split at hlatest
    · exact absurd hlatest List.not_mem_nil
    · rw [List.mem_singleton.mp hlatest]
      exact check_evidence (value_ne _) (by decide) hmeasurement (hreading _ _)
        (by norm_num)
  · rcases List.mem_cons.mp hdetected with rfl | hvariation
    · exact check_evidence (value_ne _) (by decide) hmeasurement
        (append_ne_empty_left (by decide)) (by norm_num)
    · rw [List.mem_singleton.mp hvariation]
      exact check_evidence (value_ne _) (by decide) hmeasurement
        (append_ne_empty_left (by decide)) (by norm_num)
  · split at hdelta
    · rw [List.mem_singleton.mp hdelta]
      exact check_evidence (value_ne _) (by decide) hmeasurement
        (append_ne_empty_right (by decide)) (by norm_num)
    · exact absurd hdelta List.not_mem_nil
  · by_cases hnone : signals.primaryObservations = []
    · rw [if_pos hnone] at hsample
      exact absurd hsample List.not_mem_nil
    · rw [if_neg hnone] at hsample
      rw [List.mem_singleton.mp hsample]
      refine check_evidence (value_ne _) (by decide) hmeasurement
        (append_ne_empty_right (by decide)) ?_
      split_ifs <;> norm_num
  · obtain ⟨rule, -, rfl⟩ := List.mem_map.mp hcorrelation
    exact check_evidence (append_ne_empty_left (append_ne_empty_left (append_ne_empty_left
      (append_ne_empty_left (value_ne _))))) (by decide) hmeasurement (relationship_ne rule)
        (by norm_num)
  · obtain ⟨⟨rule, index⟩, -, rfl⟩ := List.mem_map.mp hcontradiction
    exact check_evidence (append_ne_empty_left (append_ne_empty_left (value_ne _)))
      (by decide) hmeasurement (contradiction_ne rule) (by norm_num)

/-- Every hypothesis is complete. -/
theorem check_generateHypotheses {signals : ReasoningSignals F} {evidence : List Evidence}
    {observations : List (Observation F)} {hypotheses : List Hypothesis}
    (h : generateHypotheses signals evidence observations = .ok hypotheses) :
    hypotheses.forM Hypothesis.check = .ok () := by
  obtain ⟨kind, -, h⟩ := bind_eq_ok.mp h
  cases h
  rw [forM_eq_ok_iff]
  intro hypothesis hmem
  -- the leading hypothesis by its kind, then the unresolved one
  rcases List.mem_cons.mp hmem with rfl | hunresolved
  · cases kind with
    | coolingDegradation =>
        dsimp only
        exact check_hypothesis (by decide) (append_ne_empty_left (by decide))
    | hydrogenSupply =>
        dsimp only
        exact check_hypothesis (by decide) (append_ne_empty_left (by decide))
    | neither =>
        dsimp only
        split_ifs
        · exact check_hypothesis (by decide)
            (append_ne_empty_left (append_ne_empty_left (append_ne_empty_left (by decide))))
        · exact check_hypothesis (by decide) (append_ne_empty_left (by decide))
  · split_ifs at hunresolved with hlimited
    · rw [List.mem_singleton.mp hunresolved]
      exact check_hypothesis (by decide) (append_ne_empty_left (by decide))
    · exact absurd hunresolved List.not_mem_nil

/-- The components of a confidence may add up to anything; their total is within bounds. -/
theorem check_confidenceOf (structured : StructuredAssessment) (nSupporting : ℕ)
    (monotonic : Bool) (assessment : String) :
    (confidenceOf structured nSupporting monotonic assessment).check = .ok () := by
  unfold ConfidenceBreakdown.check
  have htotal : 0 ≤ (confidenceOf structured nSupporting monotonic assessment).total ∧
      (confidenceOf structured nSupporting monotonic assessment).total ≤ 100 := by
    unfold confidenceOf
    exact ⟨le_max_left _ _, max_le (by decide) (min_le_left _ _)⟩
  have hrationale : (confidenceOf structured nSupporting monotonic assessment).rationale ≠ "" := by
    unfold confidenceOf
    repeat refine append_ne_empty_left ?_
    decide
  rw [require_of htotal, require_of hrationale]
  rfl

/-! ## The words of the assessment -/

/-- What the planner makes of the primary signals. -/
def decisionOf (direction : TrendDirection) (level : VariationLevel) : Priority × String × String :=
  match direction, level with
  | .increasing, _ =>
      (.high, "Investigate operational conditions",
        "Operational assessment indicates increasing stress.")
  | _, .high =>
      (.high, "Investigate operational conditions",
        "Operational assessment indicates unstable conditions.")
  | .stable, .low => (.low, "Continue monitoring", "Operational conditions remain stable.")
  | .decreasing, .low =>
      (.low, "Maintain current operations", "Operational conditions are improving.")

/-- A decision is urgent exactly if the measurement rises or varies much. -/
theorem priority_decisionOf (direction : TrendDirection) (level : VariationLevel) :
    (decisionOf direction level).1 =
      if direction = .increasing ∨ level = .high then .high else .low := by
  cases direction <;> cases level <;> rfl

/-- The planner finds the primary signals in every text of the assessor, and nothing else: what the
text says of other measurements has none of the words that it looks for. -/
theorem planningOutcome_assessmentText (direction : TrendDirection) (level : VariationLevel)
    (relationshipAnalysis : RelationshipAnalysis) :
    planningOutcome (assessmentText direction level relationshipAnalysis) =
      .ok (decisionOf direction level) := by
  unfold assessmentText
  dsimp only
  split_ifs
  · cases direction <;> cases level <;> decide +kernel
  · cases direction <;> cases level <;> decide +kernel
  · cases direction <;> cases level <;> decide +kernel

/-- No assessment is empty. -/
theorem assessmentText_ne (direction : TrendDirection) (level : VariationLevel)
    (relationshipAnalysis : RelationshipAnalysis) :
    assessmentText direction level relationshipAnalysis ≠ "" := by
  have hsignals : assessmentFromSignals direction level ≠ "" := by
    cases direction <;> cases level <;> decide
  unfold assessmentText
  dsimp only
  split_ifs
  · exact append_ne_empty_left hsignals
  · exact append_ne_empty_left hsignals
  · exact hsignals

/-- Every decision has its texts. -/
theorem decisionOf_ne (direction : TrendDirection) (level : VariationLevel) :
    (decisionOf direction level).2.1 ≠ "" ∧ (decisionOf direction level).2.2 ≠ "" := by
  cases direction <;> cases level <;> decide

end Odis.Reasoning
