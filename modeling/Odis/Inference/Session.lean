import Odis.Inference.Result

/-!
# Inference sessions

`FaultInferenceSession` and `FaultInferenceManager` (`inference/session.py`): the incremental
inference state of one asset, which keeps the last 12 samples of every measurement and the state
of the alert machine, and the manager that keeps one session for each asset.

`ingest` returns the session as the call leaves it, also when the call raises: the two checks of
the sample come first and leave it as it was, every later exception comes after the sample was
recorded (`recordSample`).
-/

namespace Odis.Inference

open AlertPolicy Features

variable {F : Type} [PyFloat F]

/-- `PromotedFaultSystem`, as far as a session uses it. -/
structure PromotedFaultSystem (F : Type) [PyFloat F] where
  classes : ClassOrder
  featureOrder : List FeatureColumn
  /-- The loader checks the order against the feature groups, which are made of these columns. -/
  featureOrder_sub : ∀ column ∈ featureOrder, column ∈ featureColumnOrder
  /-- `pipeline.predict_proba` on one row. -/
  predictProba : List F → ProbaRow F classes
  alertPolicyConfig : StateMachineConfig F
  /-- A promoted policy is one of the search's grid, whose persistence lengths are positive. -/
  entryPersistence_pos : 1 ≤ alertPolicyConfig.entryPersistence
  exitPersistence_pos : 1 ≤ alertPolicyConfig.exitPersistence
  systemVersion : String
  modelHash : String
  policyHash : String
  featureSchemaVersion : String

/-- The exceptions of `ingest`. -/
inductive IngestError (F : Type) where
  | foreignAsset (sampleAssetId sessionAssetId : String)
  | nonMonotonicTimestamp (assetId : String) (previous new : Datetime)
  | indexError
  | feature (error : FeatureError F)
  | keyError (column : FeatureColumn)
  | stateMachine (error : StepError)
  | evidence (error : ArithmeticError)

/-- `FaultInferenceSession`: the incremental inference state of one asset. Its history is the
longest window of each measurement. -/
structure FaultInferenceSession (F : Type) where
  assetId : String
  history : FeatureMeasurement → Series F
  sampleCount : ℕ
  lastTimestamp : Option Datetime
  machineState : AlertMachineState
  assetId_ne : assetId ≠ ""

/-- The elapsed time of the sample at position `index` of an asset's run. -/
def elapsedAt (index : ℕ) : F := PyFloat.ofInt (index + 1 : ℕ) * dtSeconds F

namespace FaultInferenceSession

/-- A session for an asset, before its first sample. -/
def fresh (assetId : String) (h : assetId ≠ "") : FaultInferenceSession F :=
  ⟨assetId, fun _ => [], 0, none, .fresh, h⟩

/-- The sample enters the history and becomes the last one. -/
def recordSample (session : FaultInferenceSession F) (sample : TelemetrySample F) :
    FaultInferenceSession F :=
  { session with
    history := fun m =>
      RingBuffer.push longestWindowSamples (session.history m)
        (elapsedAt session.sampleCount, sample.values m)
    sampleCount := session.sampleCount + 1
    lastTimestamp := some sample.timestamp }

/-- The result of a sample of the warm-up. -/
def warmingUpResult (session : FaultInferenceSession F) (sample : TelemetrySample F) :
    InferenceResult F :=
  { status := .warmingUp
    assetId := session.assetId
    timestamp := sample.timestamp
    samplesAvailable := some session.sampleCount
    samplesRequired := some longestWindowSamples }

/-- The feature row of the last recorded sample. -/
def currentRow (session : FaultInferenceSession F) :
    Except (IngestError F) (FeatureRowResult F) :=
  let index := (session.history .stackTemperature).length - 1
  match valuesAt session.history index, valuesAt session.history (index - 1) with
  | some currentValues, some previousValues =>
      (computeFeatureRow currentValues previousValues session.history index
        ⟨"runtime", session.assetId, elapsedAt (session.sampleCount - 1)⟩).mapError .feature
  | _, _ => .error .indexError

/-- The result of a sample whose feature row is rejected. -/
def insufficientDataResult (session : FaultInferenceSession F) (sample : TelemetrySample F)
    (validity : FeatureRowValidity F) : InferenceResult F :=
  { status := .insufficientData
    assetId := session.assetId
    timestamp := sample.timestamp
    alertState := some session.machineState.state
    reasonCodes := validity.reasonCodes
    invalidFeatureNames := validity.invalidFeatureNames }

variable (system : PromotedFaultSystem F)

/-- `dict(zip(class_order, proba))`. -/
def classProbabilities (proba : ProbaRow F system.classes) : List (String × F) :=
  system.classes.labels.zip proba.val

/-- The result of a diagnosis. -/
def predictionResult (session : FaultInferenceSession F) (sample : TelemetrySample F)
    (proba : ProbaRow F system.classes) (event : Option (AlertEvent F))
    (evidence : List (EvidenceItem F)) : InferenceResult F :=
  { status := .validPrediction
    assetId := session.assetId
    timestamp := sample.timestamp
    diagnosedClass := some (readRow proba).diag
    classProbabilities := some (classProbabilities system proba)
    maximumProbability := some (readRow proba).diagProb
    alertState := some session.machineState.state
    alertEvent := event
    evidence := evidence
    modelSystemVersion := some system.systemVersion
    modelHash := some system.modelHash
    policyHash := some system.policyHash
    featureSchemaVersion := some system.featureSchemaVersion }

/-- `np.zeros(len(class_order))`. -/
def zeroProba : ProbaRow F system.classes :=
  ⟨List.replicate system.classes.labels.length (PyFloat.literal 0.0), List.length_replicate⟩

/-- The machine steps over a row it cannot trust. -/
def stepRejected (session : FaultInferenceSession F) (sample : TelemetrySample F)
    (validity : FeatureRowValidity F) :
    FaultInferenceSession F × Except (IngestError F) (InferenceResult F) :=
  match stepStateMachine system.alertPolicyConfig session.machineState
      (elapsedAt (session.sampleCount - 1)) (zeroProba system) false with
  | .error error => (session, .error (.stateMachine error))
  | .ok outcome =>
      let session := { session with machineState := outcome.next }
      (session, .ok (session.insufficientDataResult sample validity))

/-- The model's input vector of a row, in `feature_order`. -/
def featureVector (row : FeatureRowResult F) : Except (IngestError F) (List F) :=
  system.featureOrder.mapM fun column =>
    match row.get? column with
    | some value => .ok value
    | none => .error (.keyError column)

/-- The machine steps over a valid row, and the diagnosis is reported with its evidence. -/
def stepValid (session : FaultInferenceSession F) (sample : TelemetrySample F)
    (row : FeatureRowResult F) (proba : ProbaRow F system.classes) :
    FaultInferenceSession F × Except (IngestError F) (InferenceResult F) :=
  match stepStateMachine system.alertPolicyConfig session.machineState
      (elapsedAt (session.sampleCount - 1)) proba true with
  | .error error => (session, .error (.stateMachine error))
  | .ok outcome =>
      let session := { session with machineState := outcome.next }
      match buildEvidence row (classProbabilities system proba) (readRow proba).diag
          session.machineState system.alertPolicyConfig with
      | .error error => (session, .error (.evidence error))
      | .ok evidence =>
          (session, .ok (predictionResult system session sample proba outcome.event evidence))

/-- What `ingest` does with a recorded sample. -/
def evaluate (session : FaultInferenceSession F) (sample : TelemetrySample F) :
    FaultInferenceSession F × Except (IngestError F) (InferenceResult F) :=
  if session.sampleCount < longestWindowSamples then
    -- the longest window is not full yet
    (session, .ok (session.warmingUpResult sample))
  else
    match session.currentRow with
    | .error error => (session, .error error)
    | .ok row =>
        match row.validity.status with
        | .insufficientData => stepRejected system session sample row.validity
        | .valid =>
            match featureVector system row with
            | .error error => (session, .error error)
            | .ok vector => stepValid system session sample row (system.predictProba vector)

/-- `FaultInferenceSession.ingest`. -/
def ingest (session : FaultInferenceSession F) (sample : TelemetrySample F) :
    FaultInferenceSession F × Except (IngestError F) (InferenceResult F) :=
  if sample.assetId ≠ session.assetId then
    (session, .error (.foreignAsset sample.assetId session.assetId))
  else
    match session.lastTimestamp with
    | some last =>
        if sample.timestamp.instant ≤ last.instant then
          (session, .error (.nonMonotonicTimestamp session.assetId last sample.timestamp))
        else evaluate system (session.recordSample sample) sample
    | none => evaluate system (session.recordSample sample) sample

section Frame

variable {system} {session : FaultInferenceSession F} {sample : TelemetrySample F}

/-- Evaluating a recorded sample changes nothing but the alert machine. -/
theorem evaluate_frame : ∃ m,
    (evaluate system session sample).1 = { session with machineState := m } := by
  rw [evaluate]
  split_ifs
  · exact ⟨session.machineState, rfl⟩
  · cases session.currentRow with
    | error error => exact ⟨session.machineState, rfl⟩
    | ok row =>
        cases hstatus : row.validity.status with
        -- a rejected row steps the machine, unless the machine refuses the step
        | insufficientData =>
            simp only [stepRejected, hstatus]
            split
            · exact ⟨session.machineState, rfl⟩
            · exact ⟨_, rfl⟩
        | valid =>
            simp only [hstatus]
            cases featureVector system row with
            | error error => exact ⟨session.machineState, rfl⟩
            | ok vector =>
                -- so does a valid one, whatever is reported afterwards
                simp only [stepValid]
                split
                · exact ⟨session.machineState, rfl⟩
                · split
                  · exact ⟨_, rfl⟩
                  · exact ⟨_, rfl⟩

/-- Evaluating a sample leaves the asset of the session as it is. -/
theorem evaluate_assetId : (evaluate system session sample).1.assetId = session.assetId := by
  obtain ⟨m, hframe⟩ : ∃ m, (evaluate system session sample).1 =
    { session with machineState := m } := evaluate_frame
  rw [hframe]

/-- A sample of the session's asset that follows its last sample is recorded and evaluated. -/
theorem ingest_of_follows (hasset : sample.assetId = session.assetId)
    (hfollows : ∀ last, session.lastTimestamp = some last →
      last.instant < sample.timestamp.instant) :
    session.ingest system sample = evaluate system (session.recordSample sample) sample := by
  rw [ingest, if_neg (by simpa using hasset)]
  cases hlast : session.lastTimestamp with
  | none => rfl
  | some last => exact if_neg (Int.not_le.mpr (hfollows last hlast))

/-- A sample at or before the last one is refused, and leaves the session as it was. -/
theorem ingest_of_stale {last : Datetime} (hasset : sample.assetId = session.assetId)
    (hlast : session.lastTimestamp = some last)
    (hstale : sample.timestamp.instant ≤ last.instant) :
    session.ingest system sample =
      (session, .error (.nonMonotonicTimestamp session.assetId last sample.timestamp)) := by
  rw [ingest, if_neg (by simpa using hasset), hlast]
  exact if_pos hstale

/-- A sample that follows the last one becomes the last one, whatever is raised after. -/
theorem lastTimestamp_ingest_of_follows (hasset : sample.assetId = session.assetId)
    (hfollows : ∀ last, session.lastTimestamp = some last →
      last.instant < sample.timestamp.instant) :
    (session.ingest system sample).1.lastTimestamp = some sample.timestamp := by
  obtain ⟨m, hframe⟩ : ∃ m, (evaluate system (session.recordSample sample) sample).1 =
    { session.recordSample sample with machineState := m } := evaluate_frame
  rw [ingest_of_follows hasset hfollows, hframe]
  rfl

/-- Evaluating a recorded sample does not complain about its timestamp. -/
theorem evaluate_ne_nonMonotonic {assetId : String} {previous new : Datetime} :
    (evaluate system session sample).2 ≠ .error (.nonMonotonicTimestamp assetId previous new) := by
  rw [evaluate]
  split_ifs
  · simp
  · cases hrow : session.currentRow with
    | error error =>
        -- what the row fails with is a RuntimeError
        rw [currentRow] at hrow
        split at hrow
        · obtain ⟨fault, _, rfl⟩ := Exceptions.mapError_eq_error.mp hrow
          simp
        · cases hrow
          simp
    | ok row =>
        cases hstatus : row.validity.status with
        | insufficientData =>
            simp only [hstatus, stepRejected]
            split <;> simp
        | valid =>
            simp only [hstatus]
            cases hvector : featureVector system row with
            | error error =>
                -- a column that is missing is named as such
                obtain ⟨column, _, hcolumn⟩ := Exceptions.exists_of_mapM_eq_error hvector
                split at hcolumn
                · contradiction
                · cases hcolumn
                  simp
            | ok vector =>
                simp only [stepValid]
                split
                · simp
                · split <;> simp

/-- A call leaves the asset of the session as it is. -/
@[simp]
theorem ingest_assetId : (session.ingest system sample).1.assetId = session.assetId := by
  rw [ingest]
  split_ifs
  · rfl
  · split
    · split_ifs
      · rfl
      · exact evaluate_assetId
    · exact evaluate_assetId

end Frame

end FaultInferenceSession

/-- The sessions of the assets seen so far, each under its own asset. -/
structure FaultInferenceManager (F : Type) where
  sessions : OrderedDict (id : String → String) (FaultInferenceSession F)
  keyed : ∀ entry ∈ sessions.items, entry.2.assetId = entry.1

namespace FaultInferenceManager

/-- A manager without sessions. -/
def fresh : FaultInferenceManager F := ⟨.empty, by simp [OrderedDict.empty]⟩

/-- `session_for`: the session of an asset, a fresh one if it has none. -/
def sessionFor (manager : FaultInferenceManager F) (assetId : String) (h : assetId ≠ "") :
    FaultInferenceSession F :=
  (manager.sessions.get? assetId).getD (.fresh assetId h)

omit [PyFloat F] in
/-- The session for an asset is a session of that asset. -/
@[simp]
theorem sessionFor_assetId (manager : FaultInferenceManager F) (assetId : String)
    (h : assetId ≠ "") : (manager.sessionFor assetId h).assetId = assetId := by
  rw [sessionFor]
  cases hget : manager.sessions.get? assetId with
  | none => rfl
  | some session =>
      obtain ⟨k, hmem, hk⟩ := OrderedDict.get?_eq_some_iff.mp hget
      exact (manager.keyed _ hmem).trans hk

variable (system : PromotedFaultSystem F)

/-- `FaultInferenceManager.ingest`: the sample goes to the session of its asset. -/
def ingest (manager : FaultInferenceManager F) (sample : TelemetrySample F) :
    FaultInferenceManager F × Except (IngestError F) (InferenceResult F) :=
  let session := manager.sessionFor sample.assetId sample.assetId_ne
  let called := session.ingest system sample
  ({ sessions := manager.sessions.set sample.assetId called.1
     keyed := by
      intro entry hentry
      rcases OrderedDict.mem_set hentry with ⟨hkey, hvalue⟩ | ⟨hmem, _⟩
      · have hkey : entry.1 = sample.assetId := hkey
        rw [hvalue, hkey]
        simp [called, session]
      · exact manager.keyed entry hmem },
    called.2)

section Lookups

variable {system} {manager : FaultInferenceManager F} {sample : TelemetrySample F}

/-- The session of the sample's asset is the one the sample was given to. -/
theorem sessionFor_ingest_self (h : sample.assetId ≠ "") :
    (manager.ingest system sample).1.sessionFor sample.assetId h =
      ((manager.sessionFor sample.assetId h).ingest system sample).1 := by
  simp [ingest, sessionFor]

/-- The sessions of the other assets are untouched. -/
theorem sessionFor_ingest_of_ne {assetId : String} (h : assetId ≠ "")
    (hne : assetId ≠ sample.assetId) :
    (manager.ingest system sample).1.sessionFor assetId h = manager.sessionFor assetId h := by
  rw [sessionFor, sessionFor, ingest, OrderedDict.get?_set_of_ne (by simpa using hne)]

end Lookups

end FaultInferenceManager

end Odis.Inference
