import Odis.Reasoning.Stages

/-!
# Runs whose arithmetic does not raise

The detectors and the first stages of the pipeline over numbers whose trends can always be judged:
what the source guards against is all that they raise.

* `exists_signalExtraction`: the signals of one asset can be extracted once its first measurement
  occurs twice.
* `exists_generateHypotheses`: there are hypotheses about any observations of one asset.
-/

namespace Odis.Reasoning

open Exceptions Inference KeyedWindow

variable {F : Type} [PyFloat F] {assetId measurementType : String}
  {observations : List (Observation F)}

/-- Every series of these numbers has a direction. -/
def TrendsTotal (F : Type) [PyFloat F] : Prop :=
  ∀ ordered : List (Observation F), ∃ direction, splitHalfDirection ordered = .ok direction

/-- The variation of a series. -/
theorem detectVariation_series
    (h : IsSeries assetId measurementType observations) (hlength : 2 ≤ observations.length) :
    detectVariation observations = .ok ⟨assetId, measurementType,
      variationLevel ((sortedByTimestamp observations).map Observation.value)⟩ := by
  match observations, hlength with
  | first :: second :: rest, _ =>
      have hasset := h.assetId first List.mem_cons_self
      have htype := h.measurementType first List.mem_cons_self
      simp only [detectVariation, h.find?_other]
      rw [hasset, htype]

/-- The signals of one asset whose trend and relationships are known. -/
theorem signalExtraction_eq {profile : StageProfile} {direction : TrendDirection}
    {analysis : RelationshipAnalysis} (hasset : ∀ o ∈ observations, o.assetId = assetId)
    (hseries : IsSeries assetId measurementType (primaryMeasurementObservations observations))
    (htwice : 2 ≤ (primaryMeasurementObservations observations).length)
    (htrend : detect (primaryMeasurementObservations observations) =
      .ok ⟨direction, assetId, measurementType⟩)
    (hanalysis : analyzeRelationships profile.relationshipPolicy observations = .ok analysis) :
    signalExtraction profile.toOperationalProfile observations =
      .ok ⟨⟨direction, assetId, measurementType⟩, ⟨assetId, measurementType,
        variationLevel ((sortedByTimestamp (primaryMeasurementObservations observations)).map
          Observation.value)⟩, analysis, (profile.analyzeExpectations analysis).hasUnexpected,
        primaryMeasurementObservations observations⟩ := by
  have hmany : ¬ observations.length < 2 := by
    have hle : (primaryMeasurementObservations observations).length ≤ observations.length := by
      cases observations with
      | nil => exact le_rfl
      | cons first rest => exact List.length_filter_le _ _
    omega
  -- all observations are of the asset, so the check for a mixture is passed
  have hgroup : (observations.any fun o =>
      some o.assetId ≠ observations.head?.map Observation.assetId) = false := by
    rw [List.any_eq_false]
    cases observations with
    | nil => exact absurd Nat.zero_lt_two hmany
    | cons first rest =>
        intro o ho
        simp [hasset o ho, hasset first List.mem_cons_self]
  unfold signalExtraction
  simp only [hmany, if_false, htrend, detectVariation_series hseries htwice, hgroup, hanalysis,
    profile.evaluateExpectations_eq]
  rfl

/-- A series has a trend. -/
theorem exists_detect (htotal : TrendsTotal F) (h : IsSeries assetId measurementType observations)
    (hlength : 2 ≤ observations.length) : ∃ direction,
      detect observations = .ok ⟨direction, assetId, measurementType⟩ := by
  obtain ⟨direction, hdirection⟩ := htotal (sortedByTimestamp observations)
  rw [detect_series h hlength, hdirection]
  exact ⟨direction, rfl⟩

variable (htotal : TrendsTotal F) (hasset : ∀ o ∈ observations, o.assetId = assetId)

omit [PyFloat F] in
include hasset in
/-- The observations of a measurement of one asset are a series. -/
theorem isSeries_ofKey (m : String) :
    IsSeries assetId m (ofKey Observation.measurementType m observations) :=
  ⟨fun o ho => hasset o (mem_ofKey.mp ho).1, fun _ ho => (mem_ofKey.mp ho).2⟩

include htotal hasset

/-- A rule can be evaluated. -/
theorem exists_ruleHolds (directionA directionB : TrendDirection) (rule : RelationshipRule) :
    ∃ holds, ruleHolds directionA directionB observations rule = .ok holds := by
  unfold ruleHolds
  dsimp only
  split_ifs with hguard
  · exact ⟨_, rfl⟩
  · obtain ⟨hA, hB⟩ := not_or.mp hguard
    obtain ⟨a, ha⟩ := exists_detect htotal (isSeries_ofKey hasset rule.measurementA) (not_lt.mp hA)
    obtain ⟨b, hb⟩ := exists_detect htotal (isSeries_ofKey hasset rule.measurementB) (not_lt.mp hB)
    rw [ha, hb]
    exact ⟨_, rfl⟩

/-- So can all rules of a policy. -/
theorem exists_rulesThatHold (directionA directionB : TrendDirection)
    (rules : List RelationshipRule) :
    ∃ held, rulesThatHold directionA directionB observations rules = .ok held := by
  induction rules with
  | nil => exact ⟨_, rfl⟩
  | cons rule rules ih =>
      obtain ⟨holds, hholds⟩ := exists_ruleHolds htotal hasset directionA directionB rule
      obtain ⟨others, hothers⟩ := ih
      rw [rulesThatHold, hholds, hothers]
      exact ⟨_, rfl⟩

/-- So the relationships can be analysed. -/
theorem exists_analyzeRelationships (policy : RelationshipPolicy) :
    ∃ analysis, analyzeRelationships policy observations = .ok analysis := by
  obtain ⟨correlations, hcorrelations⟩ :=
    exists_rulesThatHold htotal hasset .increasing .decreasing policy.correlationRules
  obtain ⟨contradictions, hcontradictions⟩ :=
    exists_rulesThatHold htotal hasset .increasing .increasing policy.contradictionRules
  rw [analyzeRelationships, hcorrelations, hcontradictions]
  exact ⟨_, rfl⟩

/-- The kind of the fault can be told. -/
theorem exists_faultKind (signals : ReasoningSignals F) :
    ∃ kind, faultKind signals observations = .ok kind := by
  have hfuelFlow : ∃ falling, fuelFlowDecreasing observations = .ok falling := by
    unfold fuelFlowDecreasing
    dsimp only
    split_ifs with hfew
    · exact ⟨_, rfl⟩
    · obtain ⟨direction, hdirection⟩ :=
        exists_detect htotal (isSeries_ofKey hasset "fuel_flow") (not_lt.mp hfew)
      rw [hdirection]
      exact ⟨_, rfl⟩
  obtain ⟨falling, hfalling⟩ := hfuelFlow
  unfold faultKind supportsHydrogenSupply
  rw [hfalling]
  cases supportsCoolingDegradation signals <;> cases falling <;>
    cases signals.hasUnexpectedExpectations <;> exact ⟨_, rfl⟩

/-- So the hypotheses can be generated. -/
theorem exists_generateHypotheses (signals : ReasoningSignals F)
    (evidence : List Evidence) :
    ∃ hypotheses, generateHypotheses signals evidence observations = .ok hypotheses := by
  obtain ⟨kind, hkind⟩ := exists_faultKind htotal hasset signals
  rw [generateHypotheses, hkind]
  exact ⟨_, rfl⟩

/-- The signals can be extracted of one asset whose first measurement occurs twice. -/
theorem exists_signalExtraction (profile : StageProfile)
    (htwice : 2 ≤ (primaryMeasurementObservations observations).length) :
    ∃ measurementType direction level relationshipAnalysis unexpected,
      IsSeries assetId measurementType (primaryMeasurementObservations observations) ∧
      signalExtraction profile.toOperationalProfile observations =
        .ok ⟨⟨direction, assetId, measurementType⟩, ⟨assetId, measurementType, level⟩,
          relationshipAnalysis, unexpected, primaryMeasurementObservations observations⟩ := by
  cases observations with
  | nil => exact absurd htwice (Nat.not_le_of_gt Nat.two_pos)
  | cons first rest =>
      have hseries : IsSeries assetId first.measurementType
          (primaryMeasurementObservations (first :: rest)) :=
        isSeries_ofKey hasset first.measurementType
      obtain ⟨direction, htrend⟩ := exists_detect htotal hseries htwice
      obtain ⟨analysis, hanalysis⟩ :=
        exists_analyzeRelationships htotal hasset profile.relationshipPolicy
      exact ⟨first.measurementType, direction, _, analysis, _, hseries,
        signalExtraction_eq hasset hseries htwice htrend hanalysis⟩

end Odis.Reasoning
