import Odis.AlertPolicy.FaultClasses
import Odis.Inference.Parity

/-!
# The alerts of a session

A session reports an alert event only with a diagnosis, and the class of the event is one that its
alert machine enters or leaves (`FaultInferenceSession.alert_announced`). The diagnosis of the row
itself may be another.
-/

namespace Odis.Inference

open AlertPolicy Features

variable {F : Type} [PyFloat F]

namespace FaultInferenceSession

variable {system : PromotedFaultSystem F} {session : FaultInferenceSession F}
  {sample : TelemetrySample F}

variable (system session) in
/-- The class that the machine of a session has confirmed is a fault class. -/
def NamesFault : Prop :=
  ∃ φ : Phase, session.machineState = φ.toState ∧ φ.NamesFault system.classes

variable (system) in
/-- A result with an alert event reports a diagnosis by the model, and what the machine did. -/
structure AlertReported (before after : FaultInferenceSession F) (sample : TelemetrySample F)
    (result : InferenceResult F) (event : AlertEvent F) : Prop where
  diagnosis : ∃ vector, result = predictionResult system after sample (system.predictProba vector)
    (some event) result.evidence
  assetId : after.assetId = before.assetId
  announced : Announces system.classes before.machineState after.machineState event

variable (system sample) in
/-- What a call does to a session: fault classes stay fault classes, and an event of the result is
reported. -/
def Reporting (session : FaultInferenceSession F)
    (called : FaultInferenceSession F × Except (IngestError F) (InferenceResult F)) : Prop :=
  called.1.NamesFault system ∧ ∀ result event, called.2 = .ok result →
    result.alertEvent = some event → AlertReported system session called.1 sample result event

/-- The machine of a session steps as its phase does. -/
theorem NamesFault.stepStateMachine (h : session.NamesFault system)
    (proba : ProbaRow F system.classes) (valid : Bool) :
    ∃ φ : Phase, φ.NamesFault system.classes ∧
      ∃ (rowState : String) (event : Option (AlertEvent F)),
      AlertPolicy.stepStateMachine system.alertPolicyConfig session.machineState
        (elapsedAt (session.sampleCount - 1)) proba valid = .ok ⟨φ.toState, rowState, event⟩ ∧
      ∀ event', event = some event' →
        Announces system.classes session.machineState φ.toState event' := by
  obtain ⟨φ, hφ, hnames⟩ := h
  let row : AlertRow F system.classes := ⟨elapsedAt (session.sampleCount - 1), proba, valid⟩
  obtain ⟨hnext, hevents⟩ := Phase.step_announces system.alertPolicyConfig row hnames
  rw [hφ]
  exact ⟨_, hnext, _, _, Phase.stepStateMachine_toState system.alertPolicyConfig φ row, hevents⟩

theorem NamesFault.stepRejected (h : session.NamesFault system)
    (validity : FeatureRowValidity F) :
    Reporting system sample session
      (FaultInferenceSession.stepRejected system session sample validity) := by
  obtain ⟨φ, hφ, rowState, event, hstep, -⟩ := h.stepStateMachine (zeroProba system) false
  rw [FaultInferenceSession.stepRejected, hstep]
  refine ⟨⟨φ, rfl, hφ⟩, ?_⟩
  rintro result event ⟨⟩ ⟨⟩

theorem NamesFault.stepValid (h : session.NamesFault system) (row : FeatureRowResult F)
    (vector : List F) :
    Reporting system sample session
      (FaultInferenceSession.stepValid system session sample row (system.predictProba vector)) := by
  obtain ⟨φ, hφ, rowState, event, hstep, hevents⟩ :=
    h.stepStateMachine (system.predictProba vector) true
  rw [FaultInferenceSession.stepValid, hstep]
  dsimp only
  split
  next =>
    refine ⟨⟨φ, rfl, hφ⟩, ?_⟩
    rintro result event ⟨⟩
  next evidence hevidence =>
    refine ⟨⟨φ, rfl, hφ⟩, ?_⟩
    rintro result event' ⟨⟩ hevent
    have hevent : event = some event' := hevent
    subst hevent
    exact ⟨⟨vector, rfl⟩, rfl, hevents event' rfl⟩

variable (sample) in
/-- A recorded sample is reported. -/
theorem NamesFault.evaluate (h : session.NamesFault system) :
    Reporting system sample session (evaluate system session sample) := by
  rw [FaultInferenceSession.evaluate]
  split_ifs
  · -- the warm-up has no events
    refine ⟨h, ?_⟩
    rintro result event ⟨⟩ ⟨⟩
  · cases hrow : session.currentRow with
    | error error =>
        refine ⟨h, ?_⟩
        rintro result event ⟨⟩
    | ok row =>
        cases hstatus : row.validity.status with
        -- a row that is not valid is given to the machine as a rejected one
        | insufficientData =>
            simp only [hstatus]
            exact h.stepRejected row.validity
        | valid =>
            simp only [hstatus]
            cases featureVector system row with
            | error error =>
                refine ⟨h, ?_⟩
                rintro result event ⟨⟩
            | ok vector => exact h.stepValid row vector

/-- Every call reports the events of its machine. -/
theorem NamesFault.ingest (h : session.NamesFault system) :
    Reporting system sample session (session.ingest system sample) := by
  have hrecorded : (session.recordSample sample).NamesFault system := h
  obtain ⟨hnames, hreport⟩ := hrecorded.evaluate sample
  have hevaluated : Reporting system sample session
      (FaultInferenceSession.evaluate system (session.recordSample sample) sample) := by
    refine ⟨hnames, fun result event hresult hevent => ?_⟩
    obtain ⟨hdiagnosis, hasset, hannounced⟩ := hreport result event hresult hevent
    exact ⟨hdiagnosis, hasset, hannounced⟩
  rw [FaultInferenceSession.ingest]
  split_ifs
  -- the sample is refused, by its asset or by its time
  · refine ⟨h, ?_⟩
    rintro result event ⟨⟩
  · split
    · split_ifs
      · refine ⟨h, ?_⟩
        rintro result event ⟨⟩
      · exact hevaluated
    · exact hevaluated

variable (system) in
/-- The sessions that a run reaches name fault classes only. -/
theorem namesFault_after {assetId : String} (hne : assetId ≠ "")
    (samples : List (TelemetrySample F)) :
    (Transducer.after (FaultInferenceSession.ingest system) (.fresh assetId hne)
      samples).NamesFault system := by
  let P : List (TelemetrySample F) → FaultInferenceSession F → Prop :=
    fun _ session => session.NamesFault system
  refine Transducer.after_induction _ (P := P) _ ?_ ?_ samples
  · exact ⟨.fresh, rfl, trivial⟩
  · intro past sample h
    exact h.ingest.1

/-- An event of a run is one of its machine. -/
theorem alert_announced {assetId : String} (hne : assetId ≠ "")
    (past : List (TelemetrySample F)) (sample : TelemetrySample F) {result : InferenceResult F}
    {event : AlertEvent F}
    (hresult : ((Transducer.after (FaultInferenceSession.ingest system) (.fresh assetId hne)
      past).ingest system sample).2 = .ok result)
    (hevent : result.alertEvent = some event) :
    AlertReported system
      (Transducer.after (FaultInferenceSession.ingest system) (.fresh assetId hne) past)
      (Transducer.after (FaultInferenceSession.ingest system) (.fresh assetId hne)
        (past ++ [sample])) sample result event := by
  rw [Transducer.after_append]
  exact (namesFault_after system hne past).ingest.2 result event hresult hevent

end FaultInferenceSession

end Odis.Inference
