import Odis.Features.Computable
import Odis.Inference.Parity

/-!
# Sessions that do not raise

`FaultInferenceSession.ingest` returns a result for every sample of its asset that follows the last
one, unless the arithmetic of the feature row raises (`InSomePhase.ingest`). The other exceptions
are ruled out by what holds of every session: its alert machine is in a phase. The result is that
of the sample, with the alert event that the machine has for it (`describes_ingest`).
-/

namespace Odis.Inference

open AlertPolicy Features

variable {F : Type} [PyFloat F]

namespace FaultInferenceSession

/-- The feature row of the last recorded sample can be computed. -/
def Computable (session : FaultInferenceSession F) : Prop :=
  let index := (session.history .stackTemperature).length - 1
  ∃ currentValues previousValues, valuesAt session.history index = some currentValues ∧
    valuesAt session.history (index - 1) = some previousValues ∧
    ComputableRow currentValues previousValues session.history index

/-- The sample follows the last one, and ends the warm-up only with a row that can be computed. -/
structure Accepts (session : FaultInferenceSession F) (sample : TelemetrySample F) : Prop where
  follows : ∀ last, session.lastTimestamp = some last → last.instant < sample.timestamp.instant
  computable : longestWindowSamples ≤ session.sampleCount + 1 →
    (session.recordSample sample).Computable

/-- The alert event that the machine of a session has for a sample of its asset: none during the
warm-up, and none for a row that is rejected. -/
def alertEventFor (system : PromotedFaultSystem F) (session : FaultInferenceSession F)
    (sample : TelemetrySample F) : Option (AlertEvent F) :=
  if (session.recordSample sample).sampleCount < longestWindowSamples then none
  else
    match (session.recordSample sample).currentRow with
    | .error _ => none
    | .ok row =>
        match row.validity.status with
        | .insufficientData => none
        | .valid =>
            match featureVector system row with
            | .error _ => none
            | .ok vector =>
                (stepStateMachine system.alertPolicyConfig session.machineState
                  (elapsedAt session.sampleCount) (system.predictProba vector)
                  true).toOption.bind StepOutcome.event

/-- The result is that of the sample, and has the alert event of the machine. -/
structure Describes (system : PromotedFaultSystem F) (session : FaultInferenceSession F)
    (sample : TelemetrySample F) (result : InferenceResult F) : Prop where
  assetId : result.assetId = session.assetId
  timestamp : result.timestamp = sample.timestamp
  alertEvent : result.alertEvent = alertEventFor system session sample

/-- The alert machine is in a phase. -/
def InSomePhase (session : FaultInferenceSession F) : Prop :=
  ∃ φ : Phase, session.machineState = φ.toState

section Sessions

variable {system : PromotedFaultSystem F} {session : FaultInferenceSession F}
  {sample : TelemetrySample F}

/-- The session has its row exactly if the last two samples have all values and the arithmetic on
them does not raise. -/
theorem exists_currentRow_iff : (∃ row, session.currentRow = .ok row) ↔ session.Computable := by
  rw [currentRow, Computable]
  cases hcurrent : valuesAt session.history
      ((session.history .stackTemperature).length - 1) with
  | none => simp
  | some currentValues =>
      cases hprevious : valuesAt session.history
          ((session.history .stackTemperature).length - 1 - 1) with
      | none => simp
      | some previousValues =>
          -- both samples have all values: only the arithmetic is left
          simp only [computeFeatureRow, Exceptions.mapError_eq_ok, exists_computeRow_iff]
          constructor
          · intro h
            exact ⟨_, _, rfl, rfl, h⟩
          · rintro ⟨_, _, heq, heq', h⟩
            cases heq
            cases heq'
            exact h

/-- Whether a row can be computed is decided by computing it. -/
instance : Decidable session.Computable :=
  decidable_of_iff (session.currentRow.toOption.isSome = true) <| by
    rw [← exists_currentRow_iff]
    cases session.currentRow <;> simp [Except.toOption]

instance : Decidable (session.Accepts sample) :=
  decidable_of_iff ((∀ last ∈ session.lastTimestamp, last.instant < sample.timestamp.instant) ∧
      (longestWindowSamples ≤ session.sampleCount + 1 → (session.recordSample sample).Computable))
    ⟨fun h => ⟨h.1, h.2⟩, fun h => ⟨h.follows, h.computable⟩⟩

/-- The columns of a session's valid row can all be read. -/
theorem columns_currentRow {row : FeatureRowResult F} (h : session.currentRow = .ok row)
    (hvalid : row.validity.status = .valid) : row.values.map Prod.fst = featureColumnOrder := by
  rw [currentRow] at h
  split at h
  · exact columns_computeRow
      (Exceptions.mapError_eq_ok.mp (Exceptions.mapError_eq_ok.mp h)) hvalid
  · cases h

/-- The machine of a session in a phase makes a step. -/
theorem InSomePhase.stepStateMachine (h : session.InSomePhase)
    (proba : ProbaRow F system.classes) (valid : Bool) :
    ∃ (φ : Phase) (rowState : String) (event : Option (AlertEvent F)),
      stepStateMachine system.alertPolicyConfig session.machineState
        (elapsedAt (session.sampleCount - 1)) proba valid = .ok ⟨φ.toState, rowState, event⟩ := by
  obtain ⟨φ, hφ⟩ := h
  rw [hφ]
  exact ⟨_, _, _, Phase.stepStateMachine_toState system.alertPolicyConfig φ
    ⟨elapsedAt (session.sampleCount - 1), proba, valid⟩⟩

variable (system sample) in
/-- A rejected row is reported, and leaves the machine in a phase. -/
theorem InSomePhase.stepRejected (h : session.InSomePhase) (validity : FeatureRowValidity F) :
    (FaultInferenceSession.stepRejected system session sample validity).1.InSomePhase ∧
      ∃ result, (FaultInferenceSession.stepRejected system session sample validity).2 =
        .ok result := by
  obtain ⟨φ, rowState, event, hstep⟩ := h.stepStateMachine (zeroProba system) false
  rw [FaultInferenceSession.stepRejected, hstep]
  exact ⟨⟨φ, rfl⟩, _, rfl⟩

variable (system sample) in
/-- A valid row is diagnosed, and leaves the machine in a phase. -/
theorem InSomePhase.stepValid (h : session.InSomePhase) (row : FeatureRowResult F)
    (proba : ProbaRow F system.classes) :
    (FaultInferenceSession.stepValid system session sample row proba).1.InSomePhase ∧
      ∃ result, (FaultInferenceSession.stepValid system session sample row proba).2 =
        .ok result := by
  obtain ⟨φ, rowState, event, hstep⟩ := h.stepStateMachine proba true
  obtain ⟨evidence, hevidence⟩ := exists_buildEvidence system.entryPersistence_pos
    system.exitPersistence_pos row (classProbabilities system proba) (readRow proba).diag
    φ.toState
  rw [FaultInferenceSession.stepValid, hstep]
  simp only [hevidence]
  exact ⟨⟨φ, rfl⟩, _, rfl⟩

variable (system sample) in
/-- A recorded sample of the warm-up is reported, and a later one whose row can be computed. -/
theorem InSomePhase.evaluate (h : session.InSomePhase) :
    (evaluate system session sample).1.InSomePhase ∧
      ((∃ result, (evaluate system session sample).2 = .ok result) ↔
        (longestWindowSamples ≤ session.sampleCount → session.Computable)) := by
  rw [FaultInferenceSession.evaluate]
  split_ifs with hwarm
  · exact ⟨h, iff_of_true ⟨_, rfl⟩ fun hcount => absurd hcount (Nat.not_le.mpr hwarm)⟩
  · have hcount := Nat.le_of_not_lt hwarm
    rw [forall_prop_of_true hcount, ← exists_currentRow_iff]
    -- behind the warm-up everything depends on whether the row can be computed
    cases hrow : session.currentRow with
    | error error =>
        refine ⟨h, iff_of_false ?_ ?_⟩
        · rintro ⟨_, ⟨⟩⟩
        · rintro ⟨_, ⟨⟩⟩
    | ok row =>
        cases hstatus : row.validity.status with
        | insufficientData =>
            simp only [hstatus]
            obtain ⟨hphase, hresult⟩ := h.stepRejected system sample row.validity
            exact ⟨hphase, iff_of_true hresult ⟨row, rfl⟩⟩
        | valid =>
            -- a valid row has all the columns that the system asks for
            obtain ⟨vector, hvector⟩ :=
              exists_featureVector system (columns_currentRow hrow hstatus)
            simp only [hstatus, hvector]
            obtain ⟨hphase, hresult⟩ :=
              h.stepValid system sample row (system.predictProba vector)
            exact ⟨hphase, iff_of_true hresult ⟨row, rfl⟩⟩

variable (system) in
/-- A sample of the session's asset gets a result exactly if the session accepts it. -/
theorem InSomePhase.ingest (h : session.InSomePhase) (hasset : sample.assetId = session.assetId) :
    (session.ingest system sample).1.InSomePhase ∧
      ((∃ result, (session.ingest system sample).2 = .ok result) ↔ session.Accepts sample) := by
  by_cases hfollows : ∀ last, session.lastTimestamp = some last →
      last.instant < sample.timestamp.instant
  · have hrecorded : (session.recordSample sample).InSomePhase := h
    obtain ⟨hphase, hresult⟩ := hrecorded.evaluate system sample
    rw [ingest_of_follows hasset hfollows]
    refine ⟨hphase, hresult.trans ?_⟩
    exact ⟨fun hcomputable => ⟨hfollows, hcomputable⟩, fun haccepts => haccepts.computable⟩
  · push Not at hfollows
    obtain ⟨last, hlast, hstale⟩ := hfollows
    rw [ingest_of_stale hasset hlast hstale]
    refine ⟨h, iff_of_false ?_ fun haccepts => ?_⟩
    · rintro ⟨_, ⟨⟩⟩
    · exact absurd (haccepts.follows last hlast) (Int.not_lt.mpr hstale)

/-- The report of a recorded sample describes it. -/
theorem describes_evaluate {result : InferenceResult F}
    (h : (FaultInferenceSession.evaluate system (session.recordSample sample) sample).2 =
      .ok result) : Describes system session sample result := by
  -- the event, the asset and the time are read off each way of returning
  have halert : alertEventFor system session sample = result.alertEvent ∧
      result.assetId = session.assetId ∧ result.timestamp = sample.timestamp := by
    unfold alertEventFor
    unfold FaultInferenceSession.evaluate at h
    split_ifs at h ⊢ with hwarm
    · cases h
      exact ⟨rfl, rfl, rfl⟩
    cases hrow : (session.recordSample sample).currentRow with
    | error error =>
        rw [hrow] at h
        cases h
    | ok row =>
        rw [hrow] at h
        dsimp only at h ⊢
        cases hstatus : row.validity.status with
        | insufficientData =>
            simp only [hstatus, FaultInferenceSession.stepRejected] at h ⊢
            split at h
            · cases h
            · cases h
              exact ⟨rfl, rfl, rfl⟩
        | valid =>
            simp only [hstatus] at h ⊢
            cases hvector : featureVector system row with
            | error error =>
                rw [hvector] at h
                cases h
            | ok vector =>
                simp only [hvector, FaultInferenceSession.stepValid] at h ⊢
                split at h
                · cases h
                next outcome houtcome =>
                  split at h
                  · cases h
                  · cases h
                    refine ⟨?_, rfl, rfl⟩
                    -- the machine was stepped at this very sample
                    have hstep : stepStateMachine system.alertPolicyConfig session.machineState
                        (elapsedAt session.sampleCount) (system.predictProba vector) true =
                          .ok outcome := houtcome
                    rw [hstep]
                    rfl
  exact ⟨halert.2.1, halert.2.2, halert.1.symm⟩

/-- A result of a session describes its sample, which belongs to its asset and follows its last
one. -/
theorem describes_ingest {result : InferenceResult F}
    (h : (session.ingest system sample).2 = .ok result) :
    Describes system session sample result ∧ sample.assetId = session.assetId ∧
      ∀ last, session.lastTimestamp = some last → last.instant < sample.timestamp.instant := by
  by_cases hasset : sample.assetId = session.assetId
  · by_cases hfollows : ∀ last, session.lastTimestamp = some last →
        last.instant < sample.timestamp.instant
    · rw [ingest_of_follows hasset hfollows] at h
      exact ⟨describes_evaluate h, hasset, hfollows⟩
    · push Not at hfollows
      obtain ⟨last, hlast, hstale⟩ := hfollows
      rw [ingest_of_stale hasset hlast hstale] at h
      cases h
  · rw [FaultInferenceSession.ingest, if_pos hasset] at h
    cases h

end Sessions

end FaultInferenceSession

namespace FaultInferenceManager

/-- The alert machine of every asset is in a phase. -/
def InSomePhase (manager : FaultInferenceManager F) : Prop :=
  ∀ assetId (h : assetId ≠ ""), (manager.sessionFor assetId h).InSomePhase

omit [PyFloat F] in
/-- A manager without sessions is in some phase for every asset. -/
theorem inSomePhase_fresh : (fresh : FaultInferenceManager F).InSomePhase :=
  fun _ _ => ⟨.fresh, rfl⟩

/-- A sample gets a result exactly if the session of its asset accepts it. -/
theorem InSomePhase.ingest {manager : FaultInferenceManager F} (h : manager.InSomePhase)
    (system : PromotedFaultSystem F) (sample : TelemetrySample F) :
    (manager.ingest system sample).1.InSomePhase ∧
      ((∃ result, (manager.ingest system sample).2 = .ok result) ↔
        (manager.sessionFor sample.assetId sample.assetId_ne).Accepts sample) := by
  obtain ⟨hphase, hresult⟩ := (h sample.assetId sample.assetId_ne).ingest system
    (manager.sessionFor_assetId _ _).symm
  refine ⟨fun assetId hne => ?_, hresult⟩
  by_cases heq : assetId = sample.assetId
  · subst heq
    rw [sessionFor_ingest_self]
    exact hphase
  · rw [sessionFor_ingest_of_ne hne heq]
    exact h assetId hne

end FaultInferenceManager

end Odis.Inference
