import Odis.Library.Exceptions
import Odis.Reasoning.TrendDetector
import Odis.ReasoningBridge.Evidence

/-!
# Corroboration and recommendation

What the bridge concludes from an alert by fixed rules: the supported fault classes
(`fault_class_mapping.py`), whether the recent observations corroborate a class
(`corroboration.py`), and the recommendation that follows (`recommendation_policy.py`). The scores
of the model are read by none of them.
-/

namespace Odis.ReasoningBridge

open Inference Reasoning

variable {F : Type} [PyFloat F]

/-! ## Fault classes -/

/-- The keys of `FAULT_CLASS_MAPPINGS`. -/
inductive FaultClass where
  | coolingDegradation
  | hydrogenSupplyIssue
  | sensorAnomaly
  deriving DecidableEq, Repr

namespace FaultClass

/-- The name of a fault class. -/
def name : FaultClass → String
  | coolingDegradation => "cooling_degradation"
  | hydrogenSupplyIssue => "hydrogen_supply_issue"
  | sensorAnomaly => "sensor_anomaly"

/-- The fault classes, in the order of the mapping. -/
def all : List FaultClass := [coolingDegradation, hydrogenSupplyIssue, sensorAnomaly]

/-- `get_fault_class_mapping`: the supported class of a given name. -/
def ofName? (s : String) : Option FaultClass := all.find? fun c => c.name = s

/-- The steps recommended where the class is corroborated. -/
def recommendedSteps : FaultClass → List String
  | coolingDegradation =>
      ["Inspect the coolant loop for restrictions, leaks, or pump issues.",
        "Verify the coolant-flow sensor against a manual or redundant reading.",
        "Schedule a maintenance inspection of the cooling subsystem.",
        "Reduce load only if deterministic operating thresholds support it."]
  | hydrogenSupplyIssue =>
      ["Inspect the hydrogen supply path for restrictions or leaks.",
        "Check regulator/valve pressure against the expected setpoint.",
        "Verify fuel-flow instrumentation against a redundant reading.",
        "Reduce load or isolate the stack only if deterministic rules support it."]
  | sensorAnomaly =>
      ["Compare the suspect measurement against a redundant or manual " ++
          "reading before taking any other action.",
        "Inspect sensor wiring, connections, and calibration."]

/-- The steps recommended where the class is corroborated in part. -/
def verificationSteps : FaultClass → List String
  | coolingDegradation =>
      ["Cross-check stack temperature against a secondary sensor if available.",
        "Confirm coolant-flow readings are physically plausible before acting."]
  | hydrogenSupplyIssue =>
      ["Confirm the fuel-flow drop is not attributable to a commanded " ++
        "load reduction before treating it as a supply issue."]
  | sensorAnomaly =>
      ["Do not intervene in the plant based solely on the suspect sensor's own reading."]

end FaultClass

/-- `is_supported_fault_class`. -/
def isSupportedFaultClass (faultClass : String) : Bool := (FaultClass.ofName? faultClass).isSome

/-! ## Corroboration -/

/-- `MIN_OBSERVATIONS_FOR_TREND`. -/
def minObservationsForTrend : ℕ := 4

/-- `CorroborationOutcome`. -/
structure CorroborationOutcome where
  result : CorroborationResult
  ruleIds : List String
  notes : String
  supportingObservationIds : List String

/-- `_trend`: the direction of a series that is long enough. -/
def trend (observations : List (Observation F)) : Except TrendError (Option TrendDirection) :=
  if observations.length < minObservationsForTrend then .ok none
  else (detect observations).map fun detected => some detected.direction

/-- `_ids`: the ids of the observations, each at its first place. -/
def observationIds (groups : List (List (Observation F))) : List String :=
  groups.flatten.foldl (fun seen o => if o.id ∈ seen then seen else seen ++ [o.id]) []

/-- The verdict on cooling degradation, by the trends of the stack temperature and the coolant
flow. -/
def judgeCoolingDegradation (ids : List String) :
    Option TrendDirection → Option TrendDirection → CorroborationOutcome
  | none, _ =>
      ⟨.insufficientEvidence, ["cooling_degradation.insufficient_stack_temperature_history"],
        "Not enough stack_temperature history to corroborate or refute.", ids⟩
  | some .increasing, none =>
      ⟨.partiallyCorroborated, ["cooling_degradation.stack_temperature_increasing",
          "cooling_degradation.insufficient_coolant_flow_history"],
        "stack_temperature is increasing, but coolant_flow history is " ++
          "insufficient to assess whether cooling is compensating.", ids⟩
  | some .increasing, some .increasing =>
      ⟨.notCorroborated, ["cooling_degradation.stack_temperature_increasing",
          "cooling_degradation.coolant_flow_increasing_contradicts"],
        "coolant_flow is increasing alongside stack_temperature, " ++
          "consistent with active compensation rather than degradation.", ids⟩
  | some .increasing, some .stable =>
      ⟨.partiallyCorroborated, ["cooling_degradation.stack_temperature_increasing",
          "cooling_degradation.coolant_flow_stable"],
        "stack_temperature is increasing while coolant_flow is stable — " ++
          "consistent with, but not conclusive for, cooling degradation.", ids⟩
  | some .increasing, some .decreasing =>
      ⟨.corroborated, ["cooling_degradation.stack_temperature_increasing",
          "cooling_degradation.coolant_flow_decreasing"],
        "stack_temperature is increasing while coolant_flow is decreasing — " ++
          "cooling capacity is not compensating for the rising temperature.", ids⟩
  | some temperature, _ =>
      ⟨.notCorroborated, ["cooling_degradation.stack_temperature_not_increasing"],
        "stack_temperature trend is " ++ temperature.value ++ ", not increasing.", ids⟩

/-- `corroborate_cooling_degradation`. -/
def corroborateCoolingDegradation (stackTemperature coolantFlow : List (Observation F)) :
    Except TrendError CorroborationOutcome := do
  let temperatureTrend ← trend stackTemperature
  let coolantTrend ← trend coolantFlow
  return judgeCoolingDegradation (observationIds [stackTemperature, coolantFlow]) temperatureTrend
    coolantTrend

/-- The verdict on a hydrogen supply issue, by the trends of the fuel flow and the voltage. -/
def judgeHydrogenSupplyIssue (ids : List String) :
    Option TrendDirection → Option TrendDirection → CorroborationOutcome
  | none, _ =>
      ⟨.insufficientEvidence, ["hydrogen_supply_issue.insufficient_fuel_flow_history"],
        "Not enough fuel_flow history to corroborate or refute.", ids⟩
  | some .decreasing, none =>
      ⟨.partiallyCorroborated, ["hydrogen_supply_issue.fuel_flow_decreasing",
          "hydrogen_supply_issue.insufficient_voltage_history"],
        "fuel_flow is decreasing, but voltage history is insufficient to " ++
          "assess whether the response is consistent with starvation.", ids⟩
  | some .decreasing, some .decreasing =>
      ⟨.corroborated, ["hydrogen_supply_issue.fuel_flow_decreasing",
          "hydrogen_supply_issue.voltage_decreasing"],
        "fuel_flow and voltage are both decreasing, consistent with hydrogen " ++
          "starvation rather than a load change alone.", ids⟩
  | some .decreasing, some _ =>
      ⟨.partiallyCorroborated, ["hydrogen_supply_issue.fuel_flow_decreasing",
          "hydrogen_supply_issue.voltage_not_decreasing"],
        "fuel_flow is decreasing but voltage is not — consistent with a " ++
          "commanded load reduction rather than a supply issue alone.", ids⟩
  | some fuelFlow, _ =>
      ⟨.notCorroborated, ["hydrogen_supply_issue.fuel_flow_not_decreasing"],
        "fuel_flow trend is " ++ fuelFlow.value ++ ", not decreasing.", ids⟩

/-- `corroborate_hydrogen_supply_issue`. -/
def corroborateHydrogenSupplyIssue (fuelFlow voltage : List (Observation F)) :
    Except TrendError CorroborationOutcome := do
  let fuelFlowTrend ← trend fuelFlow
  let voltageTrend ← trend voltage
  return judgeHydrogenSupplyIssue (observationIds [fuelFlow, voltage]) fuelFlowTrend voltageTrend

/-- The verdict on a sensor anomaly whose stack temperature has shifted, by the known trends of
the related signals. -/
def judgeRelatedSignals (ids : List String) (known : List TrendDirection) :
    CorroborationOutcome :=
  let moved := known.countP fun direction => direction ≠ .stable
  if known = [] then
    ⟨.partiallyCorroborated, ["sensor_anomaly.stack_temperature_shifted"],
      "stack_temperature shows a shift, but there is not enough history " ++
        "on the related signals to confirm physical inconsistency.", ids⟩
  else if moved = 0 then
    ⟨.corroborated, ["sensor_anomaly.stack_temperature_shifted",
        "sensor_anomaly.related_signals_stable"],
      "stack_temperature shifted while current, voltage, and fuel_flow " ++
        "all remained stable — physically inconsistent with a real thermal event.", ids⟩
  else if moved = known.length then
    ⟨.notCorroborated, ["sensor_anomaly.stack_temperature_shifted",
        "sensor_anomaly.related_signals_also_shifted"],
      "stack_temperature shifted alongside every related signal — " ++
        "physically consistent with a real event, not a sensor anomaly.", ids⟩
  else
    ⟨.partiallyCorroborated, ["sensor_anomaly.stack_temperature_shifted",
        "sensor_anomaly.related_signals_partially_shifted"],
      "stack_temperature shifted while only some related signals moved — " ++
        "ambiguous between a sensor anomaly and a real event.", ids⟩

/-- `corroborate_sensor_anomaly`. The related series are looked at once the stack temperature is
known to have shifted. -/
def corroborateSensorAnomaly (stackTemperature current voltage fuelFlow : List (Observation F)) :
    Except TrendError CorroborationOutcome := do
  let ids := observationIds [stackTemperature, current, voltage, fuelFlow]
  match ← trend stackTemperature with
  | none =>
      return ⟨.insufficientEvidence, ["sensor_anomaly.insufficient_stack_temperature_history"],
        "Not enough stack_temperature history to corroborate or refute.", ids⟩
  | some .stable =>
      return ⟨.notCorroborated, ["sensor_anomaly.stack_temperature_stable"],
        "stack_temperature shows no shift, so there is nothing for a " ++
          "sensor anomaly to explain.", ids⟩
  | some _ =>
      let related ← [current, voltage, fuelFlow].mapM trend
      return judgeRelatedSignals ids (related.filterMap id)

/-- The measurements that the rules on a class read. -/
def FaultClass.measurements : FaultClass → List String
  | coolingDegradation => ["stack_temperature", "coolant_flow"]
  | hydrogenSupplyIssue => ["fuel_flow", "voltage"]
  | sensorAnomaly => ["stack_temperature", "current", "voltage", "fuel_flow"]

/-- The rules on a class, applied to a series of each measurement. -/
def applyRules (faultClass : FaultClass) (series : String → List (Observation F)) :
    Except TrendError CorroborationOutcome :=
  match faultClass with
  | .coolingDegradation =>
      corroborateCoolingDegradation (series "stack_temperature") (series "coolant_flow")
  | .hydrogenSupplyIssue => corroborateHydrogenSupplyIssue (series "fuel_flow") (series "voltage")
  | .sensorAnomaly =>
      corroborateSensorAnomaly (series "stack_temperature") (series "current") (series "voltage")
        (series "fuel_flow")

/-! ## Recommendation -/

/-- `build_recommendation`. -/
def buildRecommendation (recommendationId : String) (faultClass : FaultClass)
    (corroboration : CorroborationOutcome) : Except EvidenceError FaultRecommendation :=
  match corroboration.result with
  | .corroborated =>
      FaultRecommendation.create recommendationId .produced .investigate .elevated
        ("Deterministic evidence corroborates the AI-diagnosed " ++ faultClass.name ++ ".")
        corroboration.notes corroboration.ruleIds corroboration.supportingObservationIds
        faultClass.recommendedSteps
        ("Model scores are diagnostic ranking scores, not calibrated " ++
          "probabilities; this recommendation is based on the alert " ++
          "policy's own confirmed diagnosis plus deterministic " ++
          "corroboration, not a model-score threshold.")
  | .partiallyCorroborated =>
      FaultRecommendation.create recommendationId .produced .investigate .inspectionRequired
        ("Deterministic evidence partially supports the AI-diagnosed " ++ faultClass.name ++
          "; verification is recommended before any operational action.")
        corroboration.notes corroboration.ruleIds corroboration.supportingObservationIds
        faultClass.verificationSteps
        ("Evidence is ambiguous — this recommends verification, not a " ++
          "confirmed-fault response.")
  | .notCorroborated =>
      FaultRecommendation.create recommendationId .withheld .monitor .informational
        ("Deterministic evidence does not corroborate the AI-diagnosed " ++ faultClass.name ++
          "; no fault-action recommendation is made.")
        corroboration.notes corroboration.ruleIds corroboration.supportingObservationIds
        ["Continue monitoring; no deterministic evidence currently " ++
          "supports operator action for this alert."]
        ("The AI alert and deterministic evidence disagree; this " ++
          "disagreement is recorded, not discarded, but does not by " ++
          "itself justify a fault-action recommendation.")
  -- insufficient evidence; a corroboration that is not applicable is not recommended on
  | _ =>
      FaultRecommendation.create recommendationId .withheld .monitor .informational
        ("Insufficient observable telemetry to corroborate or refute the AI-diagnosed " ++
          faultClass.name ++ "; more data is needed.")
        corroboration.notes corroboration.ruleIds corroboration.supportingObservationIds
        ["Gather additional telemetry or perform a manual inspection before drawing a conclusion."]
        ("This is not a healthy-operation determination — evidence is " ++
          "simply insufficient to corroborate or refute the alert.")

/-! ## Texts -/

section Texts

variable {outcome : CorroborationOutcome}

/-- The judgement on a cooling degradation comes with notes. -/
theorem judgeCoolingDegradation_notes (ids : List String)
    (temperature coolant : Option TrendDirection) :
    (judgeCoolingDegradation ids temperature coolant).notes ≠ "" := by
  rcases temperature with _ | _ | _ | _ <;> rcases coolant with _ | _ | _ | _ <;>
    simp [judgeCoolingDegradation]

/-- So does that on a hydrogen supply issue. -/
theorem judgeHydrogenSupplyIssue_notes (ids : List String)
    (fuelFlow voltage : Option TrendDirection) :
    (judgeHydrogenSupplyIssue ids fuelFlow voltage).notes ≠ "" := by
  rcases fuelFlow with _ | _ | _ | _ <;> rcases voltage with _ | _ | _ | _ <;>
    simp [judgeHydrogenSupplyIssue]

/-- So does that on related signals. -/
theorem judgeRelatedSignals_notes (ids : List String) (known : List TrendDirection) :
    (judgeRelatedSignals ids known).notes ≠ "" := by
  rw [judgeRelatedSignals]
  split_ifs <;> simp

/-- A corroboration of a cooling degradation comes with notes. -/
theorem corroborateCoolingDegradation_notes {stackTemperature coolantFlow : List (Observation F)}
    (h : corroborateCoolingDegradation stackTemperature coolantFlow = .ok outcome) :
    outcome.notes ≠ "" := by
  obtain ⟨temperature, -, h⟩ := Exceptions.bind_eq_ok.mp h
  obtain ⟨coolant, -, h⟩ := Exceptions.bind_eq_ok.mp h
  cases h
  exact judgeCoolingDegradation_notes _ _ _

/-- A corroboration of a hydrogen supply issue comes with notes. -/
theorem corroborateHydrogenSupplyIssue_notes {fuelFlow voltage : List (Observation F)}
    (h : corroborateHydrogenSupplyIssue fuelFlow voltage = .ok outcome) : outcome.notes ≠ "" := by
  obtain ⟨fuelFlowTrend, -, h⟩ := Exceptions.bind_eq_ok.mp h
  obtain ⟨voltageTrend, -, h⟩ := Exceptions.bind_eq_ok.mp h
  cases h
  exact judgeHydrogenSupplyIssue_notes _ _ _

/-- So does that of a sensor anomaly. -/
theorem corroborateSensorAnomaly_notes
    {stackTemperature current voltage fuelFlow : List (Observation F)}
    (h : corroborateSensorAnomaly stackTemperature current voltage fuelFlow = .ok outcome) :
    outcome.notes ≠ "" := by
  obtain ⟨temperature, -, h⟩ := Exceptions.bind_eq_ok.mp h
  split at h
  · cases h
    simp
  · cases h
    simp
  · obtain ⟨related, -, h⟩ := Exceptions.bind_eq_ok.mp h
    cases h
    exact judgeRelatedSignals_notes _ _

/-- The texts of a recommendation are not empty where the notes and its id are not. -/
theorem exists_buildRecommendation {recommendationId : String} (hid : recommendationId ≠ "")
    (faultClass : FaultClass) (hnotes : outcome.notes ≠ "") :
    ∃ recommendation, buildRecommendation recommendationId faultClass outcome =
      .ok recommendation := by
  rw [buildRecommendation]
  split <;> simp [FaultRecommendation.create, hid, hnotes]

end Texts

end Odis.ReasoningBridge
