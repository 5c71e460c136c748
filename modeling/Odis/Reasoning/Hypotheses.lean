import Odis.Reasoning.Directions
import Odis.Reasoning.Gate

/-!
# Hypotheses

The stages that turn the signals into evidence and the evidence into hypotheses
(`evidence_generation_stage.py`, `hypothesis_stage.py`), under the profile of the platform
(`fuel_cell_profile.py`). The correlation detector looks for a first measurement that rises and a
second one that falls; the profile has the fuel flow before the stack temperature. A stack
temperature that rises is therefore never correlated with the fuel flow.

* `coolingDegradation_never`: no observations lead to the hypothesis of a cooling degradation.
* `hydrogenSupply_of_premises`: what they lead to instead.
-/

namespace Odis.Reasoning

open Inference KeyedWindow

variable {F : Type} [PyFloat F]

/-! ## Evidence -/

/-- `EvidenceSourceSignal`. -/
inductive EvidenceSourceSignal where
  | latestReading
  | detectedTrend
  | detectedVariation
  | recentDelta
  | sampleSupport
  | relationshipCorrelation
  | relationshipContradiction
  deriving DecidableEq, Repr

/-- The text of a source. -/
def EvidenceSourceSignal.value : EvidenceSourceSignal → String
  | latestReading => "latest_reading"
  | detectedTrend => "detected_trend"
  | detectedVariation => "detected_variation"
  | recentDelta => "recent_delta"
  | sampleSupport => "sample_support"
  | relationshipCorrelation => "relationship_correlation"
  | relationshipContradiction => "relationship_contradiction"

/-- `EvidenceRole`. -/
inductive EvidenceRole where
  | primarySupport
  | corroborating
  | contradicting
  | context
  deriving DecidableEq, Repr

/-- `Evidence`. -/
structure Evidence where
  id : String
  description : String
  sourceSignal : EvidenceSourceSignal
  measurementType : String
  observedValue : String
  role : EvidenceRole
  weight : ℚ

/-- The text of a variation level. -/
def VariationLevel.value : VariationLevel → String
  | low => "low"
  | high => "high"

/-- The name of a measurement in a sentence. -/
def measurementLabel (name : String) : String := (name.replace "_" " ").toLower

/-- `MeasurementCorrelation.relationship`. -/
def RelationshipRule.relationship (rule : RelationshipRule) : String :=
  (measurementLabel rule.measurementA).capitalize ++ " increasing while " ++
    measurementLabel rule.measurementB ++ " decreasing"

/-- `OperationalContradiction.description`. -/
def RelationshipRule.contradiction (rule : RelationshipRule) : String :=
  (measurementLabel rule.measurementA).capitalize ++ " and " ++
    measurementLabel rule.measurementB ++ " are increasing simultaneously."

/-- How numbers are written in the texts of the evidence. -/
structure ValueTexts (F : Type) where
  /-- A value with its unit, stripped. -/
  reading : F → String → String
  /-- A number to two decimals. -/
  twoDecimals : F → String

/-- `generate_evidence_from_signals`. -/
def generateEvidence (texts : ValueTexts F) (signals : ReasoningSignals F) : List Evidence :=
  let primary := signals.primaryObservations
  let measurementType := (primary.head?.map Observation.measurementType).getD "unknown"
  (match primary.getLast? with
    | none => []
    | some latest =>
        [⟨EvidenceSourceSignal.latestReading.value,
          "Latest recorded reading is considered in the decision.", .latestReading, measurementType,
          texts.reading latest.value latest.unit, .primarySupport, 0.35⟩]) ++
  [⟨EvidenceSourceSignal.detectedTrend.value,
      "Directional trend derived from the primary measurement sequence.", .detectedTrend,
      measurementType, "Direction: " ++ signals.trend.direction.value, .primarySupport, 0.25⟩,
    ⟨EvidenceSourceSignal.detectedVariation.value,
      "Variability of the primary measurement sequence.", .detectedVariation, measurementType,
      "Variation: " ++ signals.variation.level.value, .context, 0.15⟩] ++
  (match primary.reverse with
    | latest :: previous :: _ =>
        [⟨EvidenceSourceSignal.recentDelta.value,
          "Change between the two most recent readings supports the assessment.", .recentDelta,
          measurementType, "Δ " ++ texts.twoDecimals (latest.value - previous.value) ++ " " ++
            latest.unit ++ " (latest - previous)", .primarySupport, 0.3⟩]
    | _ => []) ++
  (if primary = [] then []
    else
      [⟨EvidenceSourceSignal.sampleSupport.value,
        "Multiple observations reduce the chance of a one-off anomaly.", .sampleSupport,
        measurementType, toString primary.length ++ " supporting observations", .corroborating,
        if 3 ≤ primary.length then 0.2 else 0.15⟩]) ++
  (signals.relationshipAnalysis.correlations.map fun correlation =>
    ⟨EvidenceSourceSignal.relationshipCorrelation.value ++ ":" ++ correlation.measurementA ++ ":" ++
        correlation.measurementB,
      "Cross-measurement correlation supports interpretation.", .relationshipCorrelation,
      measurementType, correlation.relationship, .corroborating, 0.2⟩) ++
  signals.relationshipAnalysis.contradictions.zipIdx.map fun (contradiction, index) =>
    ⟨EvidenceSourceSignal.relationshipContradiction.value ++ ":" ++ toString index,
      "Cross-measurement contradiction weakens certainty.", .relationshipContradiction,
      measurementType, contradiction.contradiction, .contradicting, 0.2⟩

/-- There is evidence in any case, so the next stage does not refuse it. -/
theorem generateEvidence_ne_nil (texts : ValueTexts F) (signals : ReasoningSignals F) :
    generateEvidence texts signals ≠ [] := by
  simp [generateEvidence]

/-! ## Hypotheses -/

/-- `HypothesisKind`. -/
inductive HypothesisKind where
  | unknown
  | sensorDrift
  | loadChange
  | coolingDegradation
  | hydrogenSupply
  deriving DecidableEq, Repr

/-- `Hypothesis`. -/
structure Hypothesis where
  id : String
  kind : HypothesisKind
  rationale : String
  supportingEvidenceIds : List String
  deriving DecidableEq, Repr

/-- `_supporting_ids_for_kind`. -/
def supportingIdsForKind (kind : HypothesisKind) (evidence : List Evidence) : List String :=
  let ofSources (sources : List EvidenceSourceSignal) : List String :=
    (evidence.filter fun item => item.sourceSignal ∈ sources).map Evidence.id
  match kind with
  | .sensorDrift => ofSources [.relationshipContradiction, .detectedVariation]
  | .coolingDegradation | .hydrogenSupply => ofSources [.relationshipCorrelation]
  | _ => (evidence.take 2).map Evidence.id

/-- A hypothesis with its supporting evidence. -/
def hypothesis (evidence : List Evidence) (id : String) (kind : HypothesisKind)
    (rationale : String) : Hypothesis :=
  ⟨id, kind, rationale, supportingIdsForKind kind evidence⟩

/-- `generate_hypotheses_from_signals`. -/
def generateHypotheses (signals : ReasoningSignals F) (evidence : List Evidence)
    (observations : List (Observation F)) : Except TrendError (List Hypothesis) := do
  let primary := signals.primaryObservations
  let measurement := (primary.head?.map Observation.measurementType).getD "signal"
  let leading := match ← faultKind signals observations with
    | .coolingDegradation =>
        hypothesis evidence "hypothesis-cooling-degradation" .coolingDegradation
          ("Stack temperature is rising steadily with coupled fuel-flow " ++
            "behavior, consistent with cooling degradation.")
    | .hydrogenSupply =>
        hypothesis evidence "hypothesis-hydrogen-supply" .hydrogenSupply
          ("Fuel delivery or coupled subsystem signals suggest a hydrogen " ++
            "supply issue rather than isolated sensor noise.")
    | .neither =>
        if signals.variation.level = .high ∨ signals.relationshipAnalysis.contradictions ≠ [] then
          hypothesis evidence "hypothesis-sensor-drift" .sensorDrift
            ("High variability or contradictory signals can indicate " ++
              "measurement drift rather than a true change in " ++ measurement ++ ".")
        else
          hypothesis evidence "hypothesis-load-change" .loadChange
            ("A short-lived load change can create transient shifts without a " ++
              "persistent fault.")
  let unresolved :=
    if signals.trend.direction = .increasing ∧ primary.length < 4 then
      [hypothesis evidence "hypothesis-unknown" .unknown
        ("Limited observation history can reflect an unresolved operating " ++
          "mode transition rather than a confirmed degradation pattern.")]
    else []
  return leading :: unresolved

/-- The stages up to the hypotheses. -/
def hypothesesOf {E : Type} (texts : ValueTexts F) (profile : OperationalProfile E)
    (observations : List (Observation F)) : Except (PipelineError E) (List Hypothesis) := do
  let signals ← signalExtraction profile observations
  let evidence := generateEvidence texts signals
  (generateHypotheses signals evidence observations).mapError .detector

/-- Of a cooling degradation and a hydrogen supply issue, the hypotheses have the one that was told
apart by the trends. -/
theorem kinds_generateHypotheses {signals : ReasoningSignals F} {evidence : List Evidence}
    {observations : List (Observation F)} {hypotheses : List Hypothesis}
    (h : generateHypotheses signals evidence observations = .ok hypotheses) :
    ∃ kind, faultKind signals observations = .ok kind ∧
      (kind = .coolingDegradation ↔ ∃ h ∈ hypotheses, h.kind = .coolingDegradation) ∧
      (kind = .hydrogenSupply ↔ ∃ h ∈ hypotheses, h.kind = .hydrogenSupply) := by
  obtain ⟨kind, hkind, h⟩ := Exceptions.bind_eq_ok.mp h
  refine ⟨kind, hkind, ?_⟩
  cases h
  -- the second hypothesis, if there is one, is of neither kind
  cases kind <;> constructor <;> split_ifs <;> simp [hypothesis]

/-! ## The profile of the platform -/

/-- `FuelCellRelationshipPolicy`. -/
def fuelCellRelationshipPolicy : RelationshipPolicy where
  correlationRules :=
    [⟨"stack_temperature", "stack_pressure"⟩, ⟨"current", "voltage"⟩,
      ⟨"fuel_flow", "stack_temperature"⟩]
  contradictionRules := []

/-- `FuelCellOperationalProfile.default()`: its one expectation is met by a correlation, not met by
a contradiction, and indeterminate without either. -/
def fuelCellProfile (E : Type) : OperationalProfile E where
  relationshipPolicy := fuelCellRelationshipPolicy
  evaluateExpectations analysis := .ok (analysis.correlations = [] ∧ analysis.contradictions ≠ [])

/-! ## Signals and rules -/

section Signals

variable {E : Type} {profile : OperationalProfile E} {observations : List (Observation F)}

/-- The signals are what the detectors find. -/
structure SignalsOf (profile : OperationalProfile E) (observations : List (Observation F))
    (signals : ReasoningSignals F) : Prop where
  primaryObservations : signals.primaryObservations = primaryMeasurementObservations observations
  trend : detect (primaryMeasurementObservations observations) = .ok signals.trend
  variation : detectVariation (primaryMeasurementObservations observations) = .ok signals.variation
  relationshipAnalysis : analyzeRelationships profile.relationshipPolicy observations =
    .ok signals.relationshipAnalysis
  expectations : profile.evaluateExpectations signals.relationshipAnalysis =
    .ok signals.hasUnexpectedExpectations

/-- What the extraction returns are the signals of the observations. -/
theorem signalsOf_signalExtraction {signals : ReasoningSignals F}
    (h : signalExtraction profile observations = .ok signals) :
    SignalsOf profile observations signals := by
  rw [signalExtraction] at h
  -- with fewer than two observations the detector raises
  have hmany : ¬ observations.length < 2 := by
    intro hfew
    simp only [hfew, if_true, detect_tooFewObservations_iff.mpr hfew] at h
    obtain ⟨_, hdetect, -⟩ := Exceptions.bind_eq_ok.mp h
    cases hdetect
  simp only [hmany, if_false] at h
  obtain ⟨trend, htrend, h⟩ := Exceptions.bind_eq_ok.mp h
  obtain ⟨variation, hvariation, h⟩ := Exceptions.bind_eq_ok.mp h
  -- and observations of several assets are refused
  have hone : ¬ (observations.any fun o =>
      some o.assetId ≠ observations.head?.map Observation.assetId) = true := by
    intro hmixed
    simp only [hmixed, if_true] at h
    cases h
  simp only [hone] at h
  obtain ⟨analysis, hanalysis, h⟩ := Exceptions.bind_eq_ok.mp h
  obtain ⟨unexpected, hunexpected, h⟩ := Exceptions.bind_eq_ok.mp h
  cases h
  exact ⟨rfl, Exceptions.mapError_eq_ok.mp htrend, Exceptions.mapError_eq_ok.mp hvariation,
    Exceptions.mapError_eq_ok.mp hanalysis, Exceptions.mapError_eq_ok.mp hunexpected⟩

/-- The rules that hold are rules of the policy, each with a trend of its second measurement. -/
theorem of_mem_rulesThatHold {directionA directionB : TrendDirection} {rule : RelationshipRule} :
    ∀ {rules held : List RelationshipRule},
      rulesThatHold directionA directionB observations rules = .ok held → rule ∈ held →
        rule ∈ rules ∧ ruleHolds directionA directionB observations rule = .ok true
  | [], _, h, hmem => by
      cases h
      exact absurd hmem List.not_mem_nil
  | first :: rules, held, h, hmem => by
      obtain ⟨holds, hfirst, h⟩ := Exceptions.bind_eq_ok.mp h
      obtain ⟨others, hothers, h⟩ := Exceptions.bind_eq_ok.mp h
      have hrest (hmem : rule ∈ others) := of_mem_rulesThatHold hothers hmem
      cases holds with
      | false =>
          cases h
          exact (hrest hmem).imp_left fun hrule => List.mem_cons_of_mem first hrule
      | true =>
          cases h
          rcases List.mem_cons.mp hmem with rfl | hmem
          · exact ⟨List.mem_cons_self, hfirst⟩
          · exact (hrest hmem).imp_left fun hrule => List.mem_cons_of_mem first hrule

/-- The second measurement of a rule that holds goes its way. -/
theorem detect_of_ruleHolds {directionA directionB : TrendDirection} {rule : RelationshipRule}
    (h : ruleHolds directionA directionB observations rule = .ok true) :
    ∃ trend, detect (ofKey Observation.measurementType rule.measurementB observations) =
      .ok trend ∧ trend.direction = directionB := by
  rw [ruleHolds] at h
  split_ifs at h
  · cases h
  obtain ⟨trendA, -, h⟩ := Exceptions.bind_eq_ok.mp h
  obtain ⟨trendB, hB, h⟩ := Exceptions.bind_eq_ok.mp h
  exact ⟨trendB, hB, (of_decide_eq_true (Except.ok.inj h)).2⟩

end Signals

/-! ## Cooling degradation -/

section Cooling

variable {E : Type} {observations : List (Observation F)}

omit [PyFloat F] in
/-- The primary observations are those of the measurement of any of them. -/
theorem primaryMeasurementObservations_eq {o : Observation F}
    (h : o ∈ primaryMeasurementObservations observations) :
    primaryMeasurementObservations observations =
      ofKey Observation.measurementType o.measurementType observations := by
  cases observations with
  | nil => exact absurd h List.not_mem_nil
  | cons first rest =>
      rw [primaryMeasurementObservations] at h ⊢
      rw [(mem_ofKey.mp h).2]

/-- Under the profile of the platform, no signals support a cooling degradation. -/
theorem supportsCoolingDegradation_eq_false {signals : ReasoningSignals F}
    (h : SignalsOf (fuelCellProfile E) observations signals) :
    supportsCoolingDegradation signals = false := by
  rw [Bool.eq_false_iff]
  intro hsupports
  rw [supportsCoolingDegradation] at hsupports
  split at hsupports
  · cases hsupports
  next first rest hprimary =>
    obtain ⟨htype, hincreasing, -, hany⟩ := of_decide_eq_true hsupports
    obtain ⟨correlation, hmem, hpair⟩ := List.any_eq_true.mp hany
    obtain ⟨correlations, hcorrelations, hrest⟩ :=
      Exceptions.bind_eq_ok.mp h.relationshipAnalysis
    obtain ⟨contradictions, -, hanalysis⟩ := Exceptions.bind_eq_ok.mp hrest
    rw [← Except.ok.inj hanalysis] at hmem
    obtain ⟨hrule, hholds⟩ := of_mem_rulesThatHold hcorrelations hmem
    -- the only rule on this pair has the stack temperature second
    have hsecond : correlation.measurementB = "stack_temperature" := by
      have hcases : correlation = ⟨"stack_temperature", "stack_pressure"⟩ ∨
          correlation = ⟨"current", "voltage"⟩ ∨
          correlation = ⟨"fuel_flow", "stack_temperature"⟩ := by
        simpa [fuelCellProfile, fuelCellRelationshipPolicy] using hrule
      rcases hcases with rfl | rfl | rfl
      · exact absurd hpair (by decide)
      · exact absurd hpair (by decide)
      · rfl
    -- the rule holds where the stack temperature falls, and the branch asks for it to rise
    obtain ⟨trend, htrend, hdecreasing⟩ := detect_of_ruleHolds hholds
    have hfirst : first ∈ primaryMeasurementObservations observations := by
      rw [← h.primaryObservations, hprimary]
      exact List.mem_cons_self
    rw [hsecond, ← htype, ← primaryMeasurementObservations_eq hfirst, h.trend] at htrend
    obtain rfl : signals.trend = trend := Except.ok.inj htrend
    rw [hincreasing] at hdecreasing
    cases hdecreasing

/-- The series goes in a direction. -/
def HasDirection (observations : List (Observation F)) (direction : TrendDirection) : Prop :=
  ∃ trend, detect observations = .ok trend ∧ trend.direction = direction

/-- What a cooling degradation looks like: the stack temperature is the primary measurement of an
asset and rises without much variation, while the fuel flow falls. -/
structure CoolingPremises (observations : List (Observation F)) : Prop where
  oneAsset : ∀ a ∈ observations, ∀ b ∈ observations, a.assetId = b.assetId
  primary : observations.head?.map Observation.measurementType = some "stack_temperature"
  rising : HasDirection (primaryMeasurementObservations observations) .increasing
  steady : ∃ variation,
    detectVariation (primaryMeasurementObservations observations) = .ok variation ∧
      variation.level = .low
  fuelFlowFalling :
    HasDirection (ofKey Observation.measurementType "fuel_flow" observations) .decreasing

/-- The hypotheses have a cooling degradation among them. -/
def DiagnosesCoolingDegradation (E : Type) (texts : ValueTexts F)
    (observations : List (Observation F)) : Prop :=
  ∃ hypotheses, hypothesesOf texts (fuelCellProfile E) observations = .ok hypotheses ∧
    ∃ h ∈ hypotheses, h.kind = .coolingDegradation

/-- Some observations lead to signals that support a cooling degradation. -/
def CoolingBranchReachable (E F : Type) [PyFloat F] : Prop :=
  ∃ (observations : List (Observation F)) (signals : ReasoningSignals F),
    signalExtraction (fuelCellProfile E) observations = .ok signals ∧
      supportsCoolingDegradation signals = true

theorem not_coolingBranchReachable : ¬ CoolingBranchReachable E F := by
  rintro ⟨observations, signals, hsignals, hsupports⟩
  rw [supportsCoolingDegradation_eq_false (signalsOf_signalExtraction hsignals)] at hsupports
  cases hsupports

theorem not_diagnosesCoolingDegradation (texts : ValueTexts F)
    (observations : List (Observation F)) :
    ¬ DiagnosesCoolingDegradation E texts observations := by
  rintro ⟨hypotheses, h, hcooling⟩
  obtain ⟨signals, hsignals, h⟩ := Exceptions.bind_eq_ok.mp h
  obtain ⟨kind, hkind, hiff, -⟩ := kinds_generateHypotheses (Exceptions.mapError_eq_ok.mp h)
  have hnever := supportsCoolingDegradation_eq_false (signalsOf_signalExtraction hsignals)
  rw [hiff.mpr hcooling, faultKind, hnever] at hkind
  obtain ⟨supports, -, hkind⟩ := Exceptions.bind_eq_ok.mp hkind
  cases supports <;> cases hkind

/-- The diagnosis is dead: no observations lead to it, and none reach its branch. -/
theorem coolingDegradation_never (E : Type) (texts : ValueTexts F) :
    (∀ observations, ¬ DiagnosesCoolingDegradation E texts observations) ∧
      ¬ CoolingBranchReachable E F :=
  ⟨not_diagnosesCoolingDegradation texts, not_coolingBranchReachable⟩

/-- What looks like a cooling degradation is diagnosed as a hydrogen supply issue. -/
theorem hydrogenSupply_of_premises {texts : ValueTexts F} {hypotheses : List Hypothesis}
    (hpremises : CoolingPremises observations)
    (h : hypothesesOf texts (fuelCellProfile E) observations = .ok hypotheses) :
    ∃ h ∈ hypotheses, h.kind = .hydrogenSupply := by
  obtain ⟨signals, hsignals, h⟩ := Exceptions.bind_eq_ok.mp h
  obtain ⟨kind, hkind, -, hiff⟩ := kinds_generateHypotheses (Exceptions.mapError_eq_ok.mp h)
  obtain ⟨trend, htrend, hfalling⟩ := hpremises.fuelFlowFalling
  have hmany : ¬ (ofKey Observation.measurementType "fuel_flow" observations).length < 2 := by
    intro hfew
    rw [detect_tooFewObservations_iff.mpr hfew] at htrend
    cases htrend
  have hfuelFlow : fuelFlowDecreasing observations = .ok true := by
    rw [fuelFlowDecreasing]
    simp only [hmany, if_false, htrend]
    exact congrArg Except.ok (decide_eq_true hfalling)
  have hnever := supportsCoolingDegradation_eq_false (signalsOf_signalExtraction hsignals)
  rw [faultKind, hnever, supportsHydrogenSupply, hfuelFlow] at hkind
  cases hkind
  exact hiff.mp rfl

end Cooling

/-! ## A stack that is not cooled -/

/-- Eight values of a measurement, one every second, with ids from a number on. -/
def eightReadings (measurementType : String) (firstId : ℕ) (value : ℕ → ℚ) :
    List (Observation ℚ) :=
  (List.range 8).map fun i =>
    ⟨numberedId (firstId + i), "stack-1", .utc (1000000 * i), measurementType, value i, "unit",
      numberedId_ne (firstId + i), stack1_ne_empty, unit_ne_empty⟩

/-- The variation of a series of one measurement. -/
theorem detectVariation_history {assetId measurementType : String} {observations rest :
    List (Observation F)} {first second : Observation F}
    (h : IsHistory assetId measurementType observations)
    (hobservations : observations = first :: second :: rest) :
    detectVariation observations =
      .ok ⟨first.assetId, first.measurementType,
        variationLevel (observations.map Observation.value)⟩ := by
  subst hobservations
  simp only [detectVariation, h.isSeries.find?_other, sortedByTimestamp_eq h.order.sorted]

/-- A stack temperature that rises while the fuel flow falls. -/
def uncooledStack : List (Observation ℚ) :=
  eightReadings "stack_temperature" 0 (fun i => 60 + (i : ℤ)) ++
    eightReadings "fuel_flow" 8 (fun i => 30 - (i : ℤ))

/-- The readings are a history. -/
theorem isHistory_eightReadings (measurementType : String) (firstId : ℕ) (value : ℕ → ℚ) :
    IsHistory "stack-1" measurementType (eightReadings measurementType firstId value) where
  assetId := List.forall_mem_map.mpr fun _ _ => rfl
  measurementType := List.forall_mem_map.mpr fun _ _ => rfl
  order := by
    constructor
    · refine List.pairwise_map.mpr ((List.pairwise_lt_range (n := 8)).imp fun {i j} hlt => ?_)
      refine Or.inl ?_
      show (1000000 * (i : ℤ)) < 1000000 * j
      omega
    · rw [eightReadings, List.map_map]
      refine List.pairwise_map.mpr ((List.pairwise_lt_range (n := 8)).imp fun {i j} hlt heq => ?_)
      have := numberedId_injective heq
      omega

/-- They have the direction of their halves. -/
theorem hasDirection_eightReadings {measurementType : String} {firstId : ℕ} {value : ℕ → ℚ}
    {direction : TrendDirection}
    (h : splitHalfDirection (eightReadings measurementType firstId value) = .ok direction) :
    HasDirection (eightReadings measurementType firstId value) direction := by
  have hdetect := detect_history (isHistory_eightReadings measurementType firstId value)
    (by simp [eightReadings])
  rw [h] at hdetect
  cases hresult : detect (eightReadings measurementType firstId value) with
  | error error => simp [hresult, Except.map, Except.mapError] at hdetect
  | ok trend =>
      rw [hresult] at hdetect
      exact ⟨trend, hresult, Except.ok.inj hdetect⟩

/-- The readings of the temperature and of the fuel flow. -/
theorem ofKey_uncooledStack :
    ofKey Observation.measurementType "stack_temperature" uncooledStack =
        eightReadings "stack_temperature" 0 (fun i => 60 + (i : ℤ)) ∧
      ofKey Observation.measurementType "fuel_flow" uncooledStack =
        eightReadings "fuel_flow" 8 (fun i => 30 - (i : ℤ)) := by
  constructor <;> rfl

/-- A stack that gets hotter while less fuel flows meets the premises. -/
theorem coolingPremises_uncooledStack : CoolingPremises uncooledStack where
  oneAsset := by
    have hall : ∀ a ∈ uncooledStack, a.assetId = "stack-1" := by
      -- both series are of this asset
      intro a ha
      rcases List.mem_append.mp ha with ha | ha
      · exact (isHistory_eightReadings _ _ _).assetId a ha
      · exact (isHistory_eightReadings _ _ _).assetId a ha
    intro a ha b hb
    rw [hall a ha, hall b hb]
  primary := rfl
  rising := by
    show HasDirection (ofKey Observation.measurementType "stack_temperature" uncooledStack) _
    rw [ofKey_uncooledStack.1]
    apply hasDirection_eightReadings
    decide +kernel
  steady := by
    show ∃ variation, detectVariation
      (ofKey Observation.measurementType "stack_temperature" uncooledStack) = .ok variation ∧ _
    rw [ofKey_uncooledStack.1]
    have hhistory := isHistory_eightReadings "stack_temperature" 0 fun i => 60 + (i : ℤ)
    refine ⟨_, detectVariation_history hhistory rfl, ?_⟩
    decide +kernel
  fuelFlowFalling := by
    rw [ofKey_uncooledStack.2]
    apply hasDirection_eightReadings
    decide +kernel

/-- A stack that is not cooled enough is not diagnosed so. -/
theorem not_diagnosesCoolingDegradation_uncooledStack :
    ¬ ((∀ observations : List (Observation ℚ), CoolingPremises observations →
          DiagnosesCoolingDegradation Unit ⟨fun _ _ => "", fun _ => ""⟩ observations) ∧
        CoolingBranchReachable Unit ℚ) := by
  rintro ⟨h, -⟩
  exact not_diagnosesCoolingDegradation _ _ (h uncooledStack coolingPremises_uncooledStack)

end Odis.Reasoning
