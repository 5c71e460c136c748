import Odis.Reasoning.SignalExtraction

/-!
# The reasoning gate

`_can_run_reasoning` (`application/observation_service.py`) judges all observations of an asset,
but `ReasoningSession.run` reasons over the window of each measurement type. The measurement that
is primary for the gate can have left the front of the history by then, in favour of one that was
observed a single time.

* `run_tooFewObservations_iff`: when a run fails on too few observations.
* `gateSound_iff`: the histories on which what the gate lets through does not fail so.
-/

namespace Odis.Reasoning

open Inference KeyedWindow

variable {F : Type} [PyFloat F]

/-- `_can_run_reasoning`. -/
def canRunReasoning (observations : List (Observation F)) : Bool :=
  match observations with
  | first :: _ :: _ =>
      2 ≤ observations.countP fun o => o.measurementType = first.measurementType
  | _ => false

/-- `_supports_cooling_degradation`. -/
def supportsCoolingDegradation (signals : ReasoningSignals F) : Bool :=
  match signals.primaryObservations with
  | [] => false
  | first :: _ =>
      first.measurementType = "stack_temperature" ∧ signals.trend.direction = .increasing ∧
        signals.variation.level = .low ∧
        signals.relationshipAnalysis.correlations.any fun correlation =>
          correlation = ⟨"stack_temperature", "fuel_flow"⟩ ∨
            correlation = ⟨"fuel_flow", "stack_temperature"⟩

/-- `_fuel_flow_decreasing`. -/
def fuelFlowDecreasing (observations : List (Observation F)) : Except TrendError Bool := do
  let fuelObservations := ofKey Observation.measurementType "fuel_flow" observations
  if fuelObservations.length < 2 then return false
  let trend ← detect fuelObservations
  return trend.direction = .decreasing

/-- `_supports_hydrogen_supply`. -/
def supportsHydrogenSupply (signals : ReasoningSignals F) (observations : List (Observation F)) :
    Except TrendError Bool := do
  if ← fuelFlowDecreasing observations then return true
  return signals.hasUnexpectedExpectations

/-- The kinds of fault that `generate_hypotheses_from_signals` tells apart by their trends. -/
inductive FaultKind where
  | coolingDegradation
  | hydrogenSupply
  | neither
  deriving DecidableEq, Repr

/-- The first branches of `generate_hypotheses_from_signals`. -/
def faultKind (signals : ReasoningSignals F) (observations : List (Observation F)) :
    Except TrendError FaultKind := do
  if supportsCoolingDegradation signals then return .coolingDegradation
  if ← supportsHydrogenSupply signals observations then return .hydrogenSupply
  return .neither

/-- `ReasoningSession`: its configuration and profile, and what its collaborators and the stages
without a detector do. Their exceptions are of type `E`, their evidence of type `V`, and a run
returns a value of type `R`. -/
structure ReasoningSession (F E V R : Type) where
  /-- `ReasoningSessionConfig.observation_window`. -/
  observationWindow : Option ℤ
  profile : OperationalProfile E
  /-- The run is saved and registered. -/
  start : Except E Unit
  /-- An observation is published and saved. -/
  record : Observation F → Except E Unit
  /-- The stage that generates evidence. -/
  generateEvidence : List (Observation F) → ReasoningSignals F → Except E V
  /-- The stages after the choice of the hypotheses, and what is stored of the run. -/
  conclude : List (Observation F) → ReasoningSignals F → V → FaultKind → Except E R

variable {E V R : Type}

/-- The observations that a session reasons over. -/
def ReasoningSession.windowed (session : ReasoningSession F E V R)
    (observations : List (Observation F)) : Except WindowError (List (Observation F)) :=
  match session.observationWindow with
  | none => .ok observations
  | some window => boundRecentObservations observations window

/-- `ReasoningSession.run`. -/
def ReasoningSession.run (session : ReasoningSession F E V R)
    (observations : List (Observation F)) : Except (PipelineError E) R := do
  let _ ← session.start.mapError .other
  let observations ← (session.windowed observations).mapError .window
  let _ ← (observations.forM session.record).mapError .other
  let signals ← signalExtraction session.profile observations
  let evidence ← (session.generateEvidence observations signals).mapError .other
  let kind ← (faultKind signals observations).mapError .detector
  (session.conclude observations signals evidence kind).mapError .other

/-! ## When a run fails on too few observations -/

variable {observations : List (Observation F)}

omit [PyFloat F] in
/-- The gate looks for two observations of the primary measurement. -/
theorem canRunReasoning_iff :
    canRunReasoning observations = true ↔
      2 ≤ (primaryMeasurementObservations observations).length := by
  unfold canRunReasoning primaryMeasurementObservations
  split
  next first second rest => simp [ofKey, List.countP_eq_length_filter]
  next hshort =>
    rcases observations with _ | ⟨first, _ | ⟨second, rest⟩⟩
    · simp
    · simp [ofKey]
    · exact absurd rfl (hshort first second rest)

/-- The choice of the hypotheses skips a measurement with too few observations. -/
theorem faultKind_ne_tooFewObservations {signals : ReasoningSignals F} :
    faultKind signals observations ≠ .error .tooFewObservations := by
  -- the fuel flow is judged only where there are enough observations of it
  have hfuel : fuelFlowDecreasing observations ≠ .error .tooFewObservations := by
    unfold fuelFlowDecreasing
    dsimp only
    split_ifs with hguard
    · rintro ⟨⟩
    · apply Exceptions.bind_ne_error
      · exact fun h => hguard (detect_tooFewObservations_iff.mp h)
      · rintro trend - ⟨⟩
  unfold faultKind
  split_ifs
  · rintro ⟨⟩
  · apply Exceptions.bind_ne_error
    · apply Exceptions.bind_ne_error hfuel
      intro decreasing _
      cases decreasing <;> rintro ⟨⟩
    · intro supports _
      cases supports <;> rintro ⟨⟩

/-- A run fails on too few observations exactly if, after what it records, there are too few of the
primary measurement in the window. -/
theorem run_tooFewObservations_iff {session : ReasoningSession F E V R} :
    session.run observations = .error (.detector .tooFewObservations) ↔
      session.start = .ok () ∧ ∃ windowed, session.windowed observations = .ok windowed ∧
        windowed.forM session.record = .ok () ∧
          (primaryMeasurementObservations windowed).length < 2 := by
  -- after the extraction no step finds too few observations
  have hlater : ∀ windowed : List (Observation F), ∀ signals,
      (do let evidence ← (session.generateEvidence windowed signals).mapError .other
          let kind ← (faultKind signals windowed).mapError .detector
          (session.conclude windowed signals evidence kind).mapError .other) ≠
        (.error (.detector .tooFewObservations) : Except (PipelineError E) R) := by
    intro windowed signals
    apply Exceptions.bind_ne_error
    · exact Exceptions.mapError_ne_error fun error heq => nomatch heq
    intro evidence _
    apply Exceptions.bind_ne_error
    · apply Exceptions.mapError_ne_error
      rintro error ⟨⟩
      exact faultKind_ne_tooFewObservations
    intro kind _
    exact Exceptions.mapError_ne_error fun error heq => nomatch heq
  -- what the collaborators raise is told apart from it
  have hother : ∀ {A : Type} {program : Except E A},
      program.mapError PipelineError.other ≠ .error (.detector .tooFewObservations) :=
    Exceptions.mapError_ne_error fun error heq => nomatch heq
  constructor
  · intro h
    rcases Exceptions.bind_eq_error.mp h with h | ⟨started, hstart, h⟩
    · exact absurd h hother
    rcases Exceptions.bind_eq_error.mp h with h | ⟨windowed, hwindowed, h⟩
    · exact absurd h (Exceptions.mapError_ne_error fun error heq => nomatch heq)
    rcases Exceptions.bind_eq_error.mp h with h | ⟨recorded, hrecord, h⟩
    · exact absurd h hother
    rcases Exceptions.bind_eq_error.mp h with h | ⟨signals, _, h⟩
    · exact ⟨Exceptions.mapError_eq_ok.mp hstart, windowed,
        Exceptions.mapError_eq_ok.mp hwindowed, Exceptions.mapError_eq_ok.mp hrecord,
        signalExtraction_tooFewObservations_iff.mp h⟩
    · exact absurd h (hlater windowed signals)
  · rintro ⟨hstart, windowed, hwindowed, hrecord, hfew⟩
    refine Exceptions.bind_eq_error.mpr (Or.inr ⟨(), Exceptions.mapError_eq_ok.mpr hstart, ?_⟩)
    refine Exceptions.bind_eq_error.mpr
      (Or.inr ⟨windowed, Exceptions.mapError_eq_ok.mpr hwindowed, ?_⟩)
    refine Exceptions.bind_eq_error.mpr (Or.inr ⟨(), Exceptions.mapError_eq_ok.mpr hrecord, ?_⟩)
    exact Exceptions.bind_eq_error.mpr
      (Or.inl (signalExtraction_tooFewObservations_iff.mpr hfew))

/-- No session with the given window fails on too few observations, when the gate lets the
observations through. -/
def GateSound (window : ℤ) (observations : List (Observation F)) : Prop :=
  canRunReasoning observations = true →
    ∀ (E V R : Type) (session : ReasoningSession F E V R),
      session.observationWindow = some window →
        session.run observations ≠ .error (.detector .tooFewObservations)

/-- A session without collaborators, profile or results. -/
def plainSession (F : Type) (window : ℤ) : ReasoningSession F Unit Unit Unit where
  observationWindow := some window
  profile := ⟨⟨[], []⟩, fun _ => .ok false⟩
  start := .ok ()
  record _ := .ok ()
  generateEvidence _ _ := .ok ()
  conclude _ _ _ _ := .ok ()

omit [PyFloat F] in
/-- After windowing, the primary measurement has a single observation exactly if some observation is
alone of its type in front of the others. -/
theorem length_primaryMeasurementObservations_recentByKey {window : ℕ} (hwindow : 2 ≤ window)
    (hne : observations ≠ []) :
    (primaryMeasurementObservations
        (recentByKey Observation.measurementType window observations)).length < 2 ↔
      AloneInFront Observation.measurementType window observations := by
  rw [← head?_recentByKey_alone (by omega)]
  cases hwindowed : recentByKey Observation.measurementType window observations with
  | nil => exact absurd hwindowed (recentByKey_ne_nil (by omega) hne)
  | cons first rest =>
      have hlength : (primaryMeasurementObservations (first :: rest)).length < 2 ↔
          (ofKey Observation.measurementType first.measurementType observations).length < 2 := by
        rw [primaryMeasurementObservations, ← hwindowed, filter_recentByKey, List.rtake,
          List.length_drop]
        omega
      simp [hlength]

/-- On the observations of a repository, the gate is sound exactly unless it lets them through
although some observation is the only one of its type and every type that occurs before it occurs
at least as often after it as the window is long. -/
theorem gateSound_iff {window : ℤ} (hwindow : 2 ≤ window)
    (horder : RepositoryOrder observations) :
    GateSound window observations ↔
      ¬ (canRunReasoning observations = true ∧
        AloneInFront Observation.measurementType window.toNat observations) := by
  have hbound := boundRecentObservations_eq horder (show 0 < window by omega)
  -- behind the gate the primary measurement is the first one of the window
  have hfew : canRunReasoning observations = true →
      ((primaryMeasurementObservations
          (recentByKey Observation.measurementType window.toNat observations)).length < 2 ↔
        AloneInFront Observation.measurementType window.toNat observations) := by
    intro hgate
    apply length_primaryMeasurementObservations_recentByKey (by omega)
    rintro rfl
    cases hgate
  constructor
  · rintro hsound ⟨hgate, halone⟩
    -- without collaborators nothing else can fail first
    apply hsound hgate Unit Unit Unit (plainSession F window) rfl
    refine run_tooFewObservations_iff.mpr ⟨rfl, _, hbound, ?_, (hfew hgate).mpr halone⟩
    generalize recentByKey Observation.measurementType window.toNat observations = windowed
    induction windowed with
    | nil => rfl
    | cons o windowed ih => exact ih
  · intro hnot hgate E V R session hsession hrun
    obtain ⟨_, windowed, hwindowed, _, hlength⟩ := run_tooFewObservations_iff.mp hrun
    rw [ReasoningSession.windowed, hsession] at hwindowed
    obtain rfl : _ = windowed := Except.ok.inj (hbound.symm.trans hwindowed)
    exact hnot ⟨hgate, (hfew hgate).mp hlength⟩

/-- An observation of a measurement, every observation at its own second. -/
def reading (id : String) (second : ℤ) (measurementType : String) (hid : id ≠ "") :
    Observation ℚ :=
  ⟨id, "asset-1", Datetime.utc (second * 1000000), measurementType, 1, "A", hid, by decide,
    by decide⟩

/-- A measurement observed once amid another that is observed often. -/
def sparseHistory : List (Observation ℚ) :=
  [reading "o1" 1 "current" (by decide), reading "o2" 2 "current" (by decide),
    reading "o3" 3 "efficiency" (by decide), reading "o4" 4 "current" (by decide),
    reading "o5" 5 "current" (by decide)]

/-- The example is in repository order. -/
theorem repositoryOrder_sparseHistory : RepositoryOrder sparseHistory :=
  ⟨by decide +kernel, by decide +kernel⟩

/-- With a window of two, the measurement that is observed once becomes the primary one. -/
theorem run_fails_sparseHistory :
    RepositoryOrder sparseHistory ∧ canRunReasoning sparseHistory = true ∧
      (plainSession ℚ 2).run sparseHistory = .error (.detector .tooFewObservations) := by
  refine ⟨repositoryOrder_sparseHistory, ?_, ?_⟩
  · decide
  · have hwindowed := boundRecentObservations_eq repositoryOrder_sparseHistory
      (show (0 : ℤ) < 2 by decide)
    exact run_tooFewObservations_iff.mpr ⟨rfl, _, hwindowed, rfl, by decide⟩

/-- The law at the sparse history: the efficiency is observed once, and the current twice after it.
-/
theorem not_gateSound_sparseHistory : ¬ GateSound 2 sparseHistory := by
  rw [gateSound_iff (by decide) repositoryOrder_sparseHistory, not_not]
  refine ⟨by decide, sparseHistory.take 2, sparseHistory.get ⟨2, by decide⟩, sparseHistory.drop 3,
    rfl, ?_, ?_⟩
  · decide
  · decide

end Odis.Reasoning
