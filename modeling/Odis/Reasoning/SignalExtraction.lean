import Odis.Library.Exceptions
import Odis.Reasoning.ObservationWindow
import Odis.Reasoning.TrendDetector

/-!
# Signal extraction

The first stage of the reasoning pipeline (`application/reasoning/signal_extraction_stage.py`) with
the detectors that it calls: the trend and the variation of the primary measurement, and how the
trends of other measurements go together.

* `tooFewObservations_iff`: of all calls of the detectors, only the one on the primary measurement
  can find too few observations, because the others are guarded.
-/

namespace Odis.Reasoning

open Inference KeyedWindow

variable {F : Type} [PyFloat F]

/-- `VariationLevel`. -/
inductive VariationLevel where
  | low
  | high
  deriving DecidableEq, Repr

/-- `DetectedVariation`. -/
structure DetectedVariation where
  assetId : String
  measurementType : String
  level : VariationLevel

/-- `HIGH_VARIATION_THRESHOLD`. -/
def highVariationThreshold (F : Type) [PyFloat F] : F := PyFloat.literal 60

/-- `_MIN_SAMPLES_FOR_VARIATION_CLASSIFICATION`. -/
def minSamplesForVariationClassification : ℕ := 8

/-- The level of a series of values. -/
def variationLevel (values : List F) : VariationLevel :=
  match values with
  | [] => .low
  | value :: rest =>
      if values.length < minSamplesForVariationClassification then .low
      else if highVariationThreshold F <
          PyFloat.maximum value rest - PyFloat.minimum value rest then
        .high
      else .low

/-- `VariationDetector.detect`. Its exceptions are those of the trend detector. -/
def detectVariation (observations : List (Observation F)) :
    Except TrendError DetectedVariation :=
  match observations with
  | first :: second :: rest =>
      match (second :: rest).find? fun o =>
          o.assetId ≠ first.assetId ∨ o.measurementType ≠ first.measurementType with
      | some o =>
          if o.assetId ≠ first.assetId then .error .mixedAssets else .error .mixedMeasurementTypes
      | none =>
          let ordered := sortedByTimestamp observations
          .ok ⟨first.assetId, first.measurementType,
            variationLevel (ordered.map Observation.value)⟩
  | _ => .error .tooFewObservations

/-- `primary_measurement_observations`. -/
def primaryMeasurementObservations (observations : List (Observation F)) :
    List (Observation F) :=
  match observations with
  | [] => []
  | first :: _ => ofKey Observation.measurementType first.measurementType observations

/-- `RelationshipRule`. -/
structure RelationshipRule where
  measurementA : String
  measurementB : String
  deriving DecidableEq, Repr

/-- A round of the loops of `CorrelationDetector.detect` and `ContradictionDetector.detect`: whether
the trends of the two measurements of a rule have the given directions. -/
def ruleHolds (directionA directionB : TrendDirection) (observations : List (Observation F))
    (rule : RelationshipRule) : Except TrendError Bool := do
  let observationsA := ofKey Observation.measurementType rule.measurementA observations
  let observationsB := ofKey Observation.measurementType rule.measurementB observations
  if observationsA.length < 2 ∨ observationsB.length < 2 then return false
  let trendA ← detect observationsA
  let trendB ← detect observationsB
  return trendA.direction = directionA ∧ trendB.direction = directionB

/-- The rules that hold. -/
def rulesThatHold (directionA directionB : TrendDirection) (observations : List (Observation F)) :
    List RelationshipRule → Except TrendError (List RelationshipRule)
  | [] => .ok []
  | rule :: rules => do
      let holds ← ruleHolds directionA directionB observations rule
      let others ← rulesThatHold directionA directionB observations rules
      return if holds then rule :: others else others

/-- `RelationshipPolicy`. -/
structure RelationshipPolicy where
  correlationRules : List RelationshipRule
  contradictionRules : List RelationshipRule

/-- `RelationshipAnalysis`: the measurements that are correlated and those that contradict each
other. -/
structure RelationshipAnalysis where
  correlations : List RelationshipRule
  contradictions : List RelationshipRule

/-- `RelationshipAnalyzer.analyze`. -/
def analyzeRelationships (policy : RelationshipPolicy) (observations : List (Observation F)) :
    Except TrendError RelationshipAnalysis := do
  let correlations ← rulesThatHold .increasing .decreasing observations policy.correlationRules
  let contradictions ←
    rulesThatHold .increasing .increasing observations policy.contradictionRules
  return ⟨correlations, contradictions⟩

/-- `ReasoningSignals`, with whether an expectation was not met. -/
structure ReasoningSignals (F : Type) where
  trend : DetectedTrend
  variation : DetectedVariation
  relationshipAnalysis : RelationshipAnalysis
  hasUnexpectedExpectations : Bool
  primaryObservations : List (Observation F)

/-- The exceptions of a run of the pipeline, by where they come from: the window, a detector, the
constructor of an `ObservationGroup` and everything else. -/
inductive PipelineError (E : Type) where
  | window (error : WindowError)
  | detector (error : TrendError)
  | mixedGroup
  | other (error : E)

/-- `OperationalProfile`: its relationship rules and its expectations. -/
structure OperationalProfile (E : Type) where
  relationshipPolicy : RelationshipPolicy
  evaluateExpectations : RelationshipAnalysis → Except E Bool

/-- `SignalExtractionStage.run`. -/
def signalExtraction {E : Type} (profile : OperationalProfile E)
    (observations : List (Observation F)) : Except (PipelineError E) (ReasoningSignals F) := do
  if observations.length < 2 then
    let _ ← (detect observations).mapError .detector
  let primaryObservations := primaryMeasurementObservations observations
  let trend ← (detect primaryObservations).mapError .detector
  let variation ← (detectVariation primaryObservations).mapError .detector
  -- the constructor of the group
  if observations.any fun o => some o.assetId ≠ observations.head?.map Observation.assetId then
    throw .mixedGroup
  let relationshipAnalysis ←
    (analyzeRelationships profile.relationshipPolicy observations).mapError .detector
  let hasUnexpectedExpectations ←
    (profile.evaluateExpectations relationshipAnalysis).mapError .other
  return ⟨trend, variation, relationshipAnalysis, hasUnexpectedExpectations, primaryObservations⟩

/-! ## Too few observations -/

variable {observations : List (Observation F)}

/-- The trend detector refuses a series exactly if it has fewer than two observations. -/
theorem detect_tooFewObservations_iff :
    detect observations = .error .tooFewObservations ↔ observations.length < 2 := by
  unfold detect
  split
  next first second rest =>
    have hlength : ¬ (first :: second :: rest).length < 2 := by simp
    rw [iff_false_right hlength]
    split
    · split_ifs <;> simp
    · split <;> simp
  next hshort =>
    refine iff_of_true rfl ?_
    match observations, hshort with
    | [], _ => exact Nat.zero_lt_two
    | [o], _ => exact Nat.one_lt_two
    | first :: second :: rest, hshort => exact absurd rfl (hshort first second rest)

/-- A series that the trend detector takes is not too short for the variation detector. -/
theorem detectVariation_ne_tooFewObservations (h : ¬ observations.length < 2) :
    detectVariation observations ≠ .error .tooFewObservations := by
  unfold detectVariation
  split
  · split
    · split_ifs <;> simp
    · simp
  next hshort =>
    rcases observations with _ | ⟨first, _ | ⟨second, rest⟩⟩
    · exact absurd Nat.zero_lt_two h
    · exact absurd Nat.one_lt_two h
    · exact absurd rfl (hshort first second rest)

/-- A rule about measurements that are too few is skipped. -/
theorem ruleHolds_ne_tooFewObservations {directionA directionB : TrendDirection}
    {rule : RelationshipRule} :
    ruleHolds directionA directionB observations rule ≠ .error .tooFewObservations := by
  unfold ruleHolds
  dsimp only
  split_ifs with hguard
  · rintro ⟨⟩
  · obtain ⟨hA, hB⟩ := not_or.mp hguard
    apply Exceptions.bind_ne_error
    · exact fun h => hA (detect_tooFewObservations_iff.mp h)
    · intro trendA _
      apply Exceptions.bind_ne_error
      · exact fun h => hB (detect_tooFewObservations_iff.mp h)
      · rintro trendB - ⟨⟩

/-- So no list of rules finds too few observations. -/
theorem rulesThatHold_ne_tooFewObservations {directionA directionB : TrendDirection}
    {rules : List RelationshipRule} :
    rulesThatHold directionA directionB observations rules ≠ .error .tooFewObservations := by
  induction rules with
  | nil => exact fun h => nomatch h
  | cons rule rules ih =>
      rw [rulesThatHold]
      apply Exceptions.bind_ne_error ruleHolds_ne_tooFewObservations
      intro holds _
      apply Exceptions.bind_ne_error ih
      exact fun others _ h => nomatch h

/-- Nor does the analysis, which evaluates two such lists. -/
theorem analyzeRelationships_ne_tooFewObservations {policy : RelationshipPolicy} :
    analyzeRelationships policy observations ≠ .error .tooFewObservations := by
  rw [analyzeRelationships]
  apply Exceptions.bind_ne_error rulesThatHold_ne_tooFewObservations
  intro correlations _
  apply Exceptions.bind_ne_error rulesThatHold_ne_tooFewObservations
  exact fun contradictions _ h => nomatch h

/-- The stage finds too few observations exactly if there are too few of the primary measurement. -/
theorem signalExtraction_tooFewObservations_iff {E : Type} {profile : OperationalProfile E} :
    signalExtraction profile observations = .error (.detector .tooFewObservations) ↔
      (primaryMeasurementObservations observations).length < 2 := by
  -- the primary observations are among all of them
  have hprimary : (primaryMeasurementObservations observations).length ≤ observations.length := by
    cases observations with
    | nil => exact Nat.le_refl 0
    | cons first rest => exact List.length_filter_le _ _
  have hdetect : ∀ {os : List (Observation F)},
      (detect os).mapError PipelineError.detector =
          (.error (.detector .tooFewObservations) : Except (PipelineError E) DetectedTrend) ↔
        os.length < 2 := fun {os} => by
    rw [Exceptions.mapError_eq_error, ← detect_tooFewObservations_iff]
    constructor
    · rintro ⟨error, herror, heq⟩
      cases heq
      exact herror
    · exact fun h => ⟨_, h, rfl⟩
  rw [signalExtraction]
  by_cases hall : observations.length < 2
  · -- the source calls the detector on all observations here, which raises
    simp only [hall, if_true, hdetect.mpr hall, bind, Except.bind, true_iff]
    omega
  · simp only [hall, if_false]
    by_cases hfew : (primaryMeasurementObservations observations).length < 2
    · simp only [hfew, hdetect.mpr hfew, bind, Except.bind]
    -- with two of them, neither the detectors nor the analysis finds too few
    · rw [iff_false_right hfew]
      apply Exceptions.bind_ne_error (fun h => hfew (hdetect.mp h))
      intro trend _
      apply Exceptions.bind_ne_error
      · apply Exceptions.mapError_ne_error
        rintro error ⟨⟩
        exact detectVariation_ne_tooFewObservations hfew
      intro variation _
      split_ifs
      · exact fun h => nomatch h
      apply Exceptions.bind_ne_error
      · apply Exceptions.mapError_ne_error
        rintro error ⟨⟩
        exact analyzeRelationships_ne_tooFewObservations
      intro analysis _
      apply Exceptions.bind_ne_error
      · exact Exceptions.mapError_ne_error fun error heq => nomatch heq
      · exact fun unexpected _ h => nomatch h

end Odis.Reasoning
