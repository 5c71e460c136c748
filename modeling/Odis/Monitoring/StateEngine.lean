import Odis.Library.Exceptions
import Odis.Reasoning.Stages
import Odis.Reasoning.TrendDiagnostics
import Odis.Twin.RecommendationEngine

/-!
# The operational state engine

`OperationalStateEngine.compute` (`application/operational_state_engine.py`): the state that
operators are shown, of the plan and the assessment of a reasoning run and of the trend of the
primary measurement (`analyze_trend`, `build_explainable_decision`); and
`NotificationPolicyEngine.compute` (`application/notification_policy_engine.py`), which notifies
them of a recommendation.

* `healthScoreOf_eq`: the score is never clamped.
* `compute_congr`: what of the observations a state depends on.
-/

namespace Odis.Monitoring

open Exceptions Inference KeyedWindow Operations Reasoning TimeSeries Twin

variable {F : Type}

/-! ## Trends -/

/-- The exceptions of the engine. -/
inductive EngineError where
  | analysis (error : AnalysisError)
  | valueError (message : String)
  deriving DecidableEq, Repr

/-- `TrendAnalysis`. -/
structure TrendAnalysis (F : Type) where
  direction : TimeSeries.TrendDirection
  rateOfChange : F
  stabilityScore : ℤ
  volatilityScore : ℤ
  observationWindow : ℕ
  summary : String

/-- `TrendAnalysis.__post_init__`. -/
def TrendAnalysis.check (trend : TrendAnalysis F) : Except EngineError Unit := do
  if ¬ (0 ≤ trend.stabilityScore ∧ trend.stabilityScore ≤ 100) then
    throw (.valueError "stability_score must be between 0 and 100")
  if ¬ (0 ≤ trend.volatilityScore ∧ trend.volatilityScore ≤ 100) then
    throw (.valueError "volatility_score must be between 0 and 100")
  if trend.summary = "" then
    throw (.valueError "summary must not be empty")

section Engine

variable [PyMath F]

/-- `_build_summary`. -/
def buildSummary (label : String) (signals : TimeSeries.TrendDiagnostics F) (n : ℕ) : String :=
  let last := " across the last " ++ toString n ++ " observations."
  let verb := if signals.direction = .rising then "increased" else "decreased"
  if signals.direction = .stable then
    if 60 ≤ signals.volatilityScore then
      label ++ " stayed within a narrow range but was noisy" ++ last
    else label ++ " remained stable" ++ last
  else if PyFloat.literal 0.85 ≤ signals.monotonicity ∧ 70 ≤ signals.stabilityScore then
    label ++ " " ++ verb ++ " steadily" ++ last
  else
    let qualifier := if 45 ≤ signals.volatilityScore then "with variability" else "gradually"
    label ++ " " ++ verb ++ " " ++ qualifier ++ last

/-- The part of `analyze_trend` that looks at the window. -/
def judgeTrend (windowed : List (Observation F)) (measurementLabel : Option String) :
    Except EngineError (TrendAnalysis F) := do
  let label := (measurementLabel.filter fun label => label ≠ "").getD "Signal"
  let trend ←
    if windowed.length < TimeSeries.minSamplesForDirectionalTrend then
      pure (⟨.stable, PyFloat.literal 0.0, 50, 0, windowed.length,
        label ++ " has insufficient history for trend analysis."⟩ : TrendAnalysis F)
    else do
      let signals ← (computeSignals windowed).mapError .analysis
      pure ⟨signals.direction, signals.rateOfChange, signals.stabilityScore,
        signals.volatilityScore, windowed.length, buildSummary label signals windowed.length⟩
  trend.check
  return trend

/-- `analyze_trend`. -/
def analyzeTrend (observations : List (Observation F)) (observationWindow : ℤ)
    (measurementLabel : Option String) : Except EngineError (TrendAnalysis F) :=
  if observationWindow ≤ 0 then .error (.analysis .observationWindowNotPositive)
  else
    judgeTrend (recentWindow (TimeSeries.sortedByTimestampAndId observations)
      observationWindow.toNat) measurementLabel

/-! ## Decisions -/

/-- `DEFAULT_REASONING_SESSION_CONFIG.observation_window`. -/
def configuredWindow : ℤ := 20

/-- `_primary_measurement_observations`. -/
def primaryOf (observations : List (Observation F)) : List (Observation F) :=
  TimeSeries.sortedByTimestampAndId (primaryMeasurementObservations observations)

/-- The value of `_calculate_legacy_confidence`. -/
def legacyConfidence (trend : TrendAnalysis F)
    (diagnostics : Option (TimeSeries.TrendDiagnostics F)) (supporting : ℕ)
    (structuredAssessment : Option StructuredAssessment) (priority : Priority) : ℤ :=
  let contradictions := structuredAssessment.any StructuredAssessment.hasContradictions
  let variationHigh := structuredAssessment.any fun assessment =>
    assessment.variationLevel = .high
  let support : ℤ := min 25 (8 * min supporting 3 : ℕ)
  let severity : ℤ :=
    match priority with
    | .high => 25
    | .medium => 15
    | .low => 5
    | .critical => 10
  let sustained := trend.direction ≠ .stable ∧ diagnostics.any fun diagnostics =>
    PyFloat.literal 0.85 ≤ diagnostics.monotonicity ∧ 70 ≤ trend.stabilityScore
  let trendConsistency : ℤ :=
    if 75 ≤ trend.stabilityScore then 12
    else if 60 ≤ trend.stabilityScore then 8
    else if 45 ≤ trend.stabilityScore then 4
    else 0
  let sustainedBonus : ℤ := if sustained then 6 else 0
  let consistency : ℤ := if 65 ≤ trend.stabilityScore ∧ ¬ variationHigh then 15 else 5
  let penalties : ℤ := if contradictions then -12 else 0
  max 0 (min 100
    (35 + support + severity + consistency + trendConsistency + sustainedBonus + penalties))

/-- `ExplainableDecision`, as far as the engine reads it. -/
structure ExplainableDecision (F : Type) where
  trendAnalysis : TrendAnalysis F
  confidence : ℤ

/-- `build_explainable_decision`. -/
def buildExplainableDecision (observations : List (Observation F)) (decisionPlan : DecisionPlan)
    (structuredAssessment : Option StructuredAssessment) :
    Except EngineError (ExplainableDecision F) := do
  let primary := primaryOf observations
  let measurementType := primary.head?.map Observation.measurementType
  let trend ← analyzeTrend primary configuredWindow measurementType
  let diagnostics ← (analyzeTrendDiagnostics primary configuredWindow).mapError .analysis
  return ⟨trend, legacyConfidence trend diagnostics primary.length structuredAssessment
    decisionPlan.priority⟩

/-! ## States -/

/-- `priority_penalty`. -/
def priorityPenalty : Priority → ℤ
  | .high => 45
  | .medium => 25
  | .low => 10
  | .critical => 20

/-- `sustained_directional_change`. -/
def sustainedDirectionalChange (trend : TrendAnalysis F) : Bool :=
  (trend.direction = .rising ∨ trend.direction = .falling) ∧ 65 ≤ trend.stabilityScore

/-- `trend_penalty`. -/
def trendPenalty (trend : TrendAnalysis F) : ℤ :=
  (if sustainedDirectionalChange trend then 15 else 0) +
    (if 60 ≤ trend.volatilityScore then 10 else 0) +
    (if trend.direction = .stable ∧ 75 ≤ trend.stabilityScore then -5 else 0)

/-- `assessment_penalty`. -/
def assessmentPenalty (structuredAssessment : Option StructuredAssessment) : ℤ :=
  (if structuredAssessment.any StructuredAssessment.hasContradictions then 15 else 0) +
    (if structuredAssessment.any StructuredAssessment.hasUnexpectedExpectations then 10 else 0)

/-- `_clamp_int`, to the range of a score. -/
def clampScore (value : ℤ) : ℤ := max 0 (min 100 value)

/-- `health_status`. -/
def healthStatusOf (healthScore : ℤ) : HealthStatus :=
  if 75 ≤ healthScore then .normal else if 45 ≤ healthScore then .warning else .critical

/-- `risk_level`. -/
def riskLevelOf (priority : Priority) (healthStatus : HealthStatus) : RiskLevel :=
  if priority = .high ∨ healthStatus = .critical then .high
  else if priority = .medium ∨ healthStatus = .warning then .medium
  else .low

/-- `Priority.value`. -/
def priorityValue : Priority → String
  | .low => "low"
  | .medium => "medium"
  | .high => "high"
  | .critical => "critical"

/-- `primary_driver`. -/
def primaryDriver (trend : TrendAnalysis F) (structuredAssessment : Option StructuredAssessment)
    (priority : Priority) : String :=
  if structuredAssessment.any StructuredAssessment.hasContradictions then
    "Contradictory signals detected in structured assessment."
  else if structuredAssessment.any StructuredAssessment.hasUnexpectedExpectations then
    "Unexpected expectation signals detected in assessment."
  else if sustainedDirectionalChange trend then "Trend: " ++ trend.summary
  else "Decision priority: " ++ priorityValue priority

omit [PyMath F] in
/-- A clamped score is between 0 and 100. -/
theorem clampScore_range (value : ℤ) : 0 ≤ clampScore value ∧ clampScore value ≤ 100 := by
  unfold clampScore
  omega

omit [PyMath F] in
/-- There is always a primary driver to be shown. -/
theorem primaryDriver_ne (trend : TrendAnalysis F)
    (structuredAssessment : Option StructuredAssessment) (priority : Priority) :
    primaryDriver trend structuredAssessment priority ≠ "" := by
  unfold primaryDriver
  split_ifs
  · decide
  · decide
  · exact append_ne_empty_left (by decide)
  · exact append_ne_empty_left (by decide)

/-- The score of a trend, a plan and an assessment. -/
def healthScoreOf (trend : TrendAnalysis F) (priority : Priority)
    (structuredAssessment : Option StructuredAssessment) : ℤ :=
  clampScore (100 - priorityPenalty priority - trendPenalty trend -
    assessmentPenalty structuredAssessment)

/-- `OperationalStateEngine.compute`. -/
def compute (assetId : String) (lastUpdated : Timestamp) (observations : List (Observation F))
    (decisionPlan : DecisionPlan) (structuredAssessment : Option StructuredAssessment) :
    Except EngineError OperationalState := do
  let explainable ← buildExplainableDecision observations decisionPlan structuredAssessment
  let trend := explainable.trendAnalysis
  let priority := decisionPlan.priority
  let healthScore := healthScoreOf trend priority structuredAssessment
  if h : assetId = "" then throw (.valueError "asset_id must not be empty")
  else return {
    assetId := assetId
    healthScore := healthScore
    healthStatus := healthStatusOf healthScore
    riskLevel := riskLevelOf priority (healthStatusOf healthScore)
    confidence := clampScore explainable.confidence
    primaryDriver := primaryDriver trend structuredAssessment priority
    recommendedAction := decisionPlan.recommendation
    lastUpdated := lastUpdated
    assetId_ne := h
    healthScore_range := clampScore_range _
    confidence_range := clampScore_range _
    primaryDriver_ne := primaryDriver_ne _ _ _
    recommendedAction_ne := decisionPlan.recommendation_ne }

/-! ## Scores -/

section Scores

variable {trend : TrendAnalysis F} {priority : Priority}
  {structuredAssessment : Option StructuredAssessment}

/-- What a priority costs. -/
theorem priorityPenalty_range (priority : Priority) :
    10 ≤ priorityPenalty priority ∧ priorityPenalty priority ≤ 45 := by
  cases priority <;> decide

omit [PyMath F] in
/-- What a trend costs. -/
theorem trendPenalty_range (trend : TrendAnalysis F) :
    -5 ≤ trendPenalty trend ∧ trendPenalty trend ≤ 25 := by
  unfold trendPenalty
  split_ifs <;> omega

omit [PyMath F] in
/-- What an assessment costs. -/
theorem assessmentPenalty_range (structuredAssessment : Option StructuredAssessment) :
    0 ≤ assessmentPenalty structuredAssessment ∧ assessmentPenalty structuredAssessment ≤ 25 := by
  unfold assessmentPenalty
  split_ifs <;> omega

omit [PyMath F] in
/-- The penalties leave a score that is never clamped. -/
theorem healthScoreOf_eq : healthScoreOf trend priority structuredAssessment =
    100 - priorityPenalty priority - trendPenalty trend -
      assessmentPenalty structuredAssessment := by
  have hpriority := priorityPenalty_range priority
  have htrend := trendPenalty_range trend
  have hassessment := assessmentPenalty_range structuredAssessment
  unfold healthScoreOf clampScore
  omega

end Scores

/-! ## What a state depends on -/

section Dependence

variable {observations observations' : List (Observation F)} {decisionPlan : DecisionPlan}
  {structuredAssessment : Option StructuredAssessment}

omit [PyMath F] in
/-- Sorted observations stay as they are when they are sorted again. -/
theorem sorted_primaryOf : TimeSeries.sortedByTimestampAndId (primaryOf observations) =
    primaryOf observations :=
  OrderBy.orderBy_eq_self OrderBy.pairwise_le_orderBy

omit [PyMath F] in
/-- The primary observations are of one measurement. -/
theorem measurementType_of_mem_primaryOf {o o' : Observation F} (h : o ∈ primaryOf observations)
    (h' : o' ∈ primaryOf observations) : o.measurementType = o'.measurementType := by
  have hmem : ∀ {o}, o ∈ primaryOf observations → o ∈ primaryMeasurementObservations observations :=
    fun h => (OrderBy.perm_orderByBreaking _).mem_iff.mp h
  cases observations with
  | nil => cases hmem h
  | cons first rest =>
      exact (mem_ofKey.mp (hmem h)).2.trans (mem_ofKey.mp (hmem h')).2.symm

/-- The recent observations of the primary measurement. -/
def recentPrimary (observations : List (Observation F)) : List (Observation F) :=
  recentWindow (primaryOf observations) configuredWindow.toNat

omit [PyMath F] in
/-- Twenty observations are looked at, if there are as many. -/
theorem length_recentPrimary (observations : List (Observation F)) :
    (recentPrimary observations).length = min 20 (primaryOf observations).length := by
  unfold recentPrimary recentWindow configuredWindow
  rw [List.length_drop]
  omega

omit [PyMath F] in
/-- The measurement type is that of the recent observations. -/
theorem head?_primaryOf : (primaryOf observations).head?.map Observation.measurementType =
    (recentPrimary observations).head?.map Observation.measurementType := by
  cases hprimary : primaryOf observations with
  | nil =>
      unfold recentPrimary
      rw [hprimary]
      rfl
  | cons first rest =>
      cases hrecent : recentPrimary observations with
      | nil =>
          -- the recent ones are only empty if there are none
          have hlength := length_recentPrimary observations
          rw [hrecent, hprimary, List.length_nil, List.length_cons] at hlength
          omega
      | cons latest later =>
          have hlatest : latest ∈ primaryOf observations := by
            refine List.mem_of_mem_drop (i := _) (?_ : latest ∈ recentPrimary observations)
            rw [hrecent]
            exact List.mem_cons_self
          have hfirst : first ∈ primaryOf observations := by
            rw [hprimary]
            exact List.mem_cons_self
          -- the primary observations all are of one measurement
          simpa using measurementType_of_mem_primaryOf hfirst hlatest

/-- The state that is computed is that of its trend, its plan and its assessment. -/
theorem exists_of_compute {assetId : String} {lastUpdated : Timestamp} {state : OperationalState}
    (h : compute assetId lastUpdated observations decisionPlan structuredAssessment = .ok state) :
    ∃ trend, judgeTrend (recentPrimary observations)
        ((recentPrimary observations).head?.map Observation.measurementType) = .ok trend ∧
      state.assetId = assetId ∧
      state.healthScore =
        100 - priorityPenalty decisionPlan.priority - trendPenalty trend -
          assessmentPenalty structuredAssessment ∧
      state.healthStatus = healthStatusOf state.healthScore ∧
      state.riskLevel = riskLevelOf decisionPlan.priority state.healthStatus := by
  obtain ⟨explainable, hexplainable, h⟩ := bind_eq_ok.mp h
  obtain ⟨trend, htrend, hexplainable⟩ := bind_eq_ok.mp hexplainable
  obtain ⟨diagnostics, -, hexplainable⟩ := bind_eq_ok.mp hexplainable
  cases hexplainable
  dsimp only at h
  split at h
  · cases h
  cases h
  refine ⟨trend, ?_, rfl, healthScoreOf_eq, rfl, rfl⟩
  unfold analyzeTrend at htrend
  rw [sorted_primaryOf, head?_primaryOf] at htrend
  exact htrend

end Dependence

/-! ## A short history -/

section Short

variable {windowed : List (Observation F)} {label : Option String}

/-- A short window has a stable trend. -/
theorem exists_judgeTrend_of_short
    (h : windowed.length < TimeSeries.minSamplesForDirectionalTrend) :
    ∃ trend, judgeTrend windowed label = .ok trend := by
  have hsummary : (label.filter fun label => label ≠ "").getD "Signal" ++
      " has insufficient history for trend analysis." ≠ "" := append_ne_empty (by decide)
  unfold judgeTrend
  dsimp only
  rw [if_pos h]
  refine exists_bind_eq_ok.mpr ⟨_, rfl, exists_bind_eq_ok.mpr ⟨(), ?_, _, rfl⟩⟩
  unfold TrendAnalysis.check
  simp
  rfl

/-- A short window costs nothing: nothing is known of its trend. -/
theorem trendPenalty_of_short {trend : TrendAnalysis F}
    (hshort : windowed.length < TimeSeries.minSamplesForDirectionalTrend)
    (h : judgeTrend windowed label = .ok trend) : trendPenalty trend = 0 := by
  unfold judgeTrend at h
  dsimp only at h
  rw [if_pos hshort] at h
  obtain ⟨_, hread, h⟩ := bind_eq_ok.mp h
  cases hread
  obtain ⟨_, -, h⟩ := bind_eq_ok.mp h
  cases h
  rfl

end Short

end Engine

/-! ## Notifications -/

/-- `NotificationPolicyEngine.compute`. -/
def computeNotification (recommendation : Recommendation) : Option Notification :=
  let notify (severity : NotificationSeverity) : Notification :=
    { id := "notif-" ++ recommendation.id
      assetId := recommendation.assetId
      recommendationId := recommendation.id
      severity := severity
      status := .opened
      title := recommendation.title
      message := recommendation.description
      createdAt := recommendation.createdAt
      id_ne := append_ne_empty_left (by decide)
      assetId_ne := recommendation.assetId_ne
      recommendationId_ne := recommendation.id_ne
      title_ne := recommendation.title_ne
      message_ne := recommendation.description_ne }
  match recommendation.priority with
  | .p0 => some (notify .critical)
  | .p1 | .p2 => some (notify .warning)
  | .p3 => none

end Odis.Monitoring
