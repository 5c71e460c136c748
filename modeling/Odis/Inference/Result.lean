import Odis.AlertPolicy.StateMachine
import Odis.Features.Row
import Odis.Inference.Telemetry

/-!
# Inference results

What the runtime says of one sample (`inference/result.py`), and the evidence it attaches to a
diagnosis (`inference/evidence.py`).
-/

namespace Odis.Inference

open AlertPolicy Features

variable {F : Type}

/-- The three outcomes of a sample. -/
inductive InferenceStatus where
  | warmingUp
  | validPrediction
  | insufficientData
  deriving DecidableEq, Repr

/-- The text of a status. -/
def InferenceStatus.value : InferenceStatus → String
  | warmingUp => "warming_up"
  | validPrediction => "valid_prediction"
  | insufficientData => "insufficient_data"

/-- An item of evidence. -/
structure EvidenceItem (F : Type) where
  label : String
  value : F
  detail : String

/-- `InferenceResult`: the fields a status does not define keep their defaults. -/
structure InferenceResult (F : Type) where
  status : InferenceStatus
  assetId : String
  timestamp : Datetime
  diagnosedClass : Option String := none
  classProbabilities : Option (List (String × F)) := none
  maximumProbability : Option F := none
  alertState : Option String := none
  alertEvent : Option (AlertEvent F) := none
  evidence : List (EvidenceItem F) := []
  modelSystemVersion : Option String := none
  modelHash : Option String := none
  policyHash : Option String := none
  featureSchemaVersion : Option String := none
  reasonCodes : List RejectionReason := []
  invalidFeatureNames : List FeatureColumn := []
  samplesAvailable : Option ℕ := none
  samplesRequired : Option ℕ := none

variable [PyFloat F]

/-- `MAX_EVIDENCE_ITEMS`. -/
def maxEvidenceItems : ℕ := 5

/-- `_TOP_N_RESIDUALS`. -/
def topNResiduals : ℕ := 2

/-- The order of the keys `(-score, name)`: the larger score first, equal scores by name. -/
def rankedBefore (a b : String × F) : Bool :=
  if -a.2 == -b.2 then a.1 ≤ b.1 else decide (-a.2 < -b.2)

/-- `_alert_progress_evidence`. -/
def alertProgressEvidence (m : AlertMachineState) (config : StateMachineConfig F) :
    Except ArithmeticError (Option (EvidenceItem F)) :=
  if m.state = healthyState then
    match m.pendingClass with
    | none => .ok none
    | some c => do
        let progress ← PyFloat.intTruediv m.pendingStreak config.entryPersistence
        return some ⟨"alert_entry_progress", progress,
          "pending_" ++ c ++ ": " ++ toString m.pendingStreak ++ "/" ++
            toString config.entryPersistence ++ " consecutive qualifying samples"⟩
  else do
    let progress ← PyFloat.intTruediv m.exitStreak config.exitPersistence
    return some ⟨"alert_exit_progress", progress,
      m.state ++ ": exit_streak " ++ toString m.exitStreak ++ "/" ++
        toString config.exitPersistence ++ " consecutive healthy-qualifying samples"⟩

/-- `_RESIDUAL_NAMES`. -/
def residualColumns : List FeatureColumn :=
  (residualSpecs (F := F)).map fun spec => .healthyResidual spec.observedMeasurement

/-- The residuals of largest magnitude, as evidence. -/
def residualEvidence (row : FeatureRowResult F) : List (EvidenceItem F) :=
  let pairs := (residualColumns (F := F)).filterMap fun column =>
    (row.get? column).map fun value => (column.name, value)
  let ranked := pairs.mergeSort fun a b =>
    rankedBefore (a.1, PyFloat.abs a.2) (b.1, PyFloat.abs b.2)
  (ranked.take topNResiduals).map fun (name, value) =>
    ⟨"residual:" ++ name, value, "observed minus fixed healthy reference curve"⟩

/-- `build_evidence`. -/
def buildEvidence (row : FeatureRowResult F) (classProbabilities : List (String × F))
    (diagnosedClass : String) (m : AlertMachineState) (config : StateMachineConfig F) :
    Except ArithmeticError (List (EvidenceItem F)) := do
  let rankedClasses := classProbabilities.mergeSort rankedBefore
  let top := rankedClasses.head?.toList.map fun (c, p) =>
    ⟨"top_class_probability", p, c ++ " (diagnosed: " ++ diagnosedClass ++ ")"⟩
  let runnerUp := rankedClasses[1]?.toList.map fun (c, p) =>
    ⟨"runner_up_class_probability", p, c⟩
  let progress ← alertProgressEvidence m config
  return (top ++ runnerUp ++ residualEvidence row ++ progress.toList).take maxEvidenceItems

/-- With positive persistence lengths the evidence can always be built. -/
theorem exists_buildEvidence {config : StateMachineConfig F}
    (hentry : 1 ≤ config.entryPersistence) (hexit : 1 ≤ config.exitPersistence)
    (row : FeatureRowResult F) (classProbabilities : List (String × F)) (diagnosedClass : String)
    (m : AlertMachineState) :
    ∃ evidence, buildEvidence row classProbabilities diagnosedClass m config = .ok evidence := by
  have hprogress : ∃ progress, alertProgressEvidence m config = .ok progress := by
    rw [alertProgressEvidence]
    split_ifs
    · cases m.pendingClass with
      | none => exact ⟨none, rfl⟩
      | some c =>
          rw [PyFloat.intTruediv, if_neg (by omega)]
          exact ⟨_, rfl⟩
    · rw [PyFloat.intTruediv, if_neg (by omega)]
      exact ⟨_, rfl⟩
  obtain ⟨progress, hprogress⟩ := hprogress
  rw [buildEvidence, hprogress]
  exact ⟨_, rfl⟩

end Odis.Inference
