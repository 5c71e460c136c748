import Odis.AlertPolicy.RunCharacterisation
import Odis.Features.Builder
import Odis.Inference.Session

/-!
# Batch and runtime inference agree

A session fed with the samples of a run one at a time (a transducer over `ingest`, with its ring
buffers and one machine state) computes what the batch pipeline computes from the whole run: the
rows of the feature builder over the run's series, and `run_state_machine` over the rows that
could be built.

* `history_after`: the ring buffers hold the end of the run's series.
* `currentRow_after`: so the session's feature row is the builder's.
* `refinesBatch`: the results, states and events of a whole run.
-/

namespace Odis.Inference

open AlertPolicy Features FaultInferenceSession

variable {F : Type} [PyFloat F]

/-! ## The batch side -/

/-- The series of a run: sample `i` at the elapsed time `(i + 1) * DT_SECONDS`. -/
def runSeries (samples : List (TelemetrySample F)) (m : FeatureMeasurement) : Series F :=
  samples.mapIdx fun i sample => (elapsedAt i, (sample.values m : F))

/-- The row the batch builder computes at position `i` of a run. -/
def batchRow (runId assetId : String) (samples : List (TelemetrySample F)) (i : ℕ) :
    Except (BuilderError F) (FeatureRowResult F) :=
  rowAt runId assetId (runSeries samples) (elapsedAt i) i

section Series

variable {samples more : List (TelemetrySample F)}

@[simp]
theorem length_runSeries (m : FeatureMeasurement) :
    (runSeries samples m).length = samples.length := by
  rw [runSeries, List.length_mapIdx]

theorem runSeries_concat (sample : TelemetrySample F) (m : FeatureMeasurement) :
    runSeries (samples ++ [sample]) m =
      runSeries samples m ++ [(elapsedAt samples.length, (sample.values m : F))] := by
  rw [runSeries, List.mapIdx_concat]
  rfl

theorem exists_runSeries_append (samples more : List (TelemetrySample F))
    (m : FeatureMeasurement) :
    ∃ tail, runSeries (samples ++ more) m = runSeries samples m ++ tail := by
  rw [runSeries, List.mapIdx_append]
  exact ⟨_, rfl⟩

/-- The batch row at a position is the one of every longer run. -/
theorem batchRow_append {runId assetId : String} {i : ℕ} (hi : i < samples.length) :
    batchRow runId assetId (samples ++ more) i = batchRow runId assetId samples i := by
  choose tail htail using fun m => exists_runSeries_append samples more m
  rw [batchRow, batchRow, funext htail]
  exact rowAt_append fun m => by rwa [length_runSeries]

end Series

variable (system : PromotedFaultSystem F)

/-- The row handed to `run_state_machine` for a computed feature row: the probabilities of a
valid row, a placeholder that is not valid for a rejected one. -/
def alertRow (row : FeatureRowResult F) (i : ℕ) : Option (AlertRow F system.classes) :=
  match row.validity.status with
  | .insufficientData =>
      some ⟨elapsedAt i, zeroProba system, false⟩
  | .valid =>
      match featureVector system row with
      | .ok vector => some ⟨elapsedAt i, system.predictProba vector, true⟩
      | .error _ => none

/-- The row for `run_state_machine` at position `i`, if it is eligible: past the warm-up, with a
feature row that could be computed. -/
def batchAlertRow (runId assetId : String) (samples : List (TelemetrySample F)) (i : ℕ) :
    Option (AlertRow F system.classes) :=
  if i < longestWindowSamples - 1 then none
  else
    match batchRow runId assetId samples i with
    | .ok row => alertRow system row i
    | .error _ => none

/-- The eligible rows of a run. -/
def batchAlertRows (runId assetId : String) (samples : List (TelemetrySample F)) :
    List (AlertRow F system.classes) :=
  (List.range samples.length).filterMap (batchAlertRow system runId assetId samples)

theorem batchAlertRows_concat (runId assetId : String) (samples : List (TelemetrySample F))
    (sample : TelemetrySample F) :
    batchAlertRows system runId assetId (samples ++ [sample]) =
      batchAlertRows system runId assetId samples ++
        (batchAlertRow system runId assetId (samples ++ [sample]) samples.length).toList := by
  have hold : (List.range samples.length).filterMap
        (batchAlertRow system runId assetId (samples ++ [sample])) =
      (List.range samples.length).filterMap (batchAlertRow system runId assetId samples) := by
    refine List.filterMap_congr fun i hi => ?_
    rw [batchAlertRow, batchAlertRow, batchRow_append (List.mem_range.mp hi)]
  rw [batchAlertRows, batchAlertRows, List.length_append, List.length_singleton,
    List.range_succ, List.filterMap_append, hold]
  congr 1

/-! ## One sample -/

/-- The exception of a row, raised for another run. -/
def FeatureError.inRun (runId : String) : FeatureError F → FeatureError F
  | .nonFiniteFeatureError column value key =>
      .nonFiniteFeatureError column value { key with runId }
  | error => error

/-- The exception the session raises where the builder raises `error`: the same one, for the run
it calls `"runtime"`. -/
def asRuntime : BuilderError F → IngestError F
  | .indexError => .indexError
  | .feature error => .feature (FeatureError.inRun "runtime" error)

omit [PyFloat F] in
/-- The values at a position of what is left of the series are those of the whole series. -/
theorem valuesAt_drop {series : FeatureMeasurement → Series F} {dropped index : ℕ}
    (h : ∀ m, dropped + index < (series m).length) :
    valuesAt (fun m => (series m).drop dropped) index = valuesAt series (dropped + index) := by
  have hdrop : ∀ m, index < ((series m).drop dropped).length := fun m => by
    have hm := h m
    rw [List.length_drop]
    omega
  rw [valuesAt_eq_some hdrop, valuesAt_eq_some h]
  refine congrArg some (funext fun m => ?_)
  rw [List.get_eq_getElem, List.get_eq_getElem, List.getElem_drop]

/-- What a session holds after the samples `past` of a run, its machine in the phase `φ`. -/
structure Holds (assetId : String) (past : List (TelemetrySample F)) (φ : Phase)
    (session : FaultInferenceSession F) : Prop where
  assetId : session.assetId = assetId
  sampleCount : session.sampleCount = past.length
  lastTimestamp : session.lastTimestamp = past.getLast?.map TelemetrySample.timestamp
  history : ∀ m, session.history m =
    RingBuffer.lastEntries longestWindowSamples (runSeries past m)
  machineState : session.machineState = φ.toState

section Sample

variable {system} {assetId runId : String} {past : List (TelemetrySample F)} {φ : Phase}
  {session : FaultInferenceSession F} {sample : TelemetrySample F}

theorem Holds.recordSample (h : Holds assetId past φ session) (sample : TelemetrySample F) :
    Holds assetId (past ++ [sample]) φ (session.recordSample sample) where
  assetId := h.assetId
  sampleCount := by simp [FaultInferenceSession.recordSample, h.sampleCount]
  lastTimestamp := by simp [FaultInferenceSession.recordSample]
  history m := by
    rw [runSeries_concat, ← RingBuffer.push_lastEntries, ← h.history, ← h.sampleCount]
    rfl
  machineState := h.machineState

/-- Past the warm-up, the session's feature row is the builder's row at the last sample. -/
theorem Holds.currentRow (runId : String) (h : Holds assetId past φ session)
    (hlength : longestWindowSamples ≤ past.length) :
    session.currentRow = (batchRow runId assetId past (past.length - 1)).mapError asRuntime := by
  set dropped := past.length - longestWindowSamples with hdropped
  -- the session holds the end of the series of the run
  have hseries : session.history = fun m => (runSeries past m).drop dropped := by
    funext m
    rw [h.history, RingBuffer.lastEntries, length_runSeries]
  have hindex : (session.history .stackTemperature).length - 1 = longestWindowSamples - 1 := by
    rw [hseries]
    simp only [List.length_drop, length_runSeries]
    omega
  have hlast : dropped + (longestWindowSamples - 1) = past.length - 1 := by
    rw [longestWindowSamples] at *
    omega
  have hprevious : dropped + (longestWindowSamples - 1 - 1) = past.length - 1 - 1 := by
    rw [longestWindowSamples] at *
    omega
  have hpos : 0 < past.length := Nat.lt_of_lt_of_le (by decide) hlength
  -- so its values are those of the run, at indices moved by what was dropped
  have hvalues : ∀ i, dropped + i < past.length →
      valuesAt session.history i = valuesAt (runSeries past) (dropped + i) := fun i hi => by
    rw [hseries]
    exact valuesAt_drop fun m => by rwa [length_runSeries]
  -- and its windows are the same, since none is longer than what it holds
  have hrow : ∀ currentValues previousValues,
      computeRow currentValues previousValues session.history (longestWindowSamples - 1) =
        computeRow currentValues previousValues (runSeries past) (past.length - 1) := by
    intro currentValues previousValues
    refine computeRow_congr fun m seconds hseconds => ?_
    rw [hseries, ← hlast]
    exact trailingWindow_drop _ (windowSamples_le hseconds)
  rw [FaultInferenceSession.currentRow, batchRow, rowAt, hindex,
    hvalues _ (by omega), hvalues _ (by omega), hlast, hprevious, h.sampleCount, h.assetId]
  cases valuesAt (runSeries past) (past.length - 1) with
  | none => rfl
  | some currentValues =>
      cases valuesAt (runSeries past) (past.length - 1 - 1) with
      | none => rfl
      | some previousValues =>
          simp only [computeFeatureRow, hrow]
          cases computeRow currentValues previousValues (runSeries past) (past.length - 1) with
          | ok row => rfl
          | error fault => cases fault <;> rfl

variable (system) in
/-- The model's input vector of a valid row exists. -/
theorem exists_featureVector {row : FeatureRowResult F}
    (hcolumns : row.values.map Prod.fst = featureColumnOrder) :
    ∃ vector, featureVector system row = .ok vector := by
  refine Exceptions.exists_mapM_eq_ok_iff.mpr fun column hcolumn => ?_
  obtain ⟨value, hvalue⟩ := row.exists_get? hcolumns (system.featureOrder_sub column hcolumn)
  exact ⟨value, by rw [hvalue]⟩

variable (system) in
/-- What the result of a sample says of its feature row: the rejections of a rejected row, the
probabilities and the diagnosis of a valid one. -/
def ReportsRow (row : FeatureRowResult F) (result : InferenceResult F) : Prop :=
  match row.validity.status with
  | .insufficientData =>
      result.status = .insufficientData ∧ result.reasonCodes = row.validity.reasonCodes ∧
        result.invalidFeatureNames = row.validity.invalidFeatureNames ∧
        result.diagnosedClass = none
  | .valid =>
      result.status = .validPrediction ∧ ∃ vector, featureVector system row = .ok vector ∧
        result.classProbabilities =
          some (classProbabilities system (system.predictProba vector)) ∧
        result.diagnosedClass = some (readRow (system.predictProba vector)).diag

/-- The session after a machine step, with the phase it leads to. -/
def inPhase (session : FaultInferenceSession F) (φ : Phase) : FaultInferenceSession F :=
  { session with machineState := φ.toState }

/-- The machine of a session in the phase `φ` makes the steps of the phase. -/
theorem Holds.stepStateMachine (h : Holds assetId past φ session)
    (proba : ProbaRow F system.classes) (valid : Bool) :
    stepStateMachine system.alertPolicyConfig session.machineState
        (elapsedAt (session.sampleCount - 1)) proba valid =
      .ok (Phase.outcome (φ.step system.alertPolicyConfig
        ⟨elapsedAt (past.length - 1), proba, valid⟩)) := by
  rw [h.machineState, h.sampleCount]
  exact Phase.stepStateMachine_toState system.alertPolicyConfig φ
    ⟨elapsedAt (past.length - 1), proba, valid⟩

/-- A rejected row steps the machine as a row that is not valid. -/
theorem Holds.stepRejected (h : Holds assetId past φ session) (validity : FeatureRowValidity F) :
    let φ' := (φ.step system.alertPolicyConfig
      ⟨elapsedAt (past.length - 1), zeroProba system, false⟩).1
    FaultInferenceSession.stepRejected system session sample validity =
      (inPhase session φ', .ok ((inPhase session φ').insufficientDataResult sample validity)) := by
  rw [FaultInferenceSession.stepRejected, h.stepStateMachine]
  rfl

/-- A valid row steps the machine, and the diagnosis is reported. -/
theorem Holds.stepValid (h : Holds assetId past φ session) (row : FeatureRowResult F)
    (proba : ProbaRow F system.classes) {step : Phase × String × Option (AlertEvent F)}
    (hstep : φ.step system.alertPolicyConfig ⟨elapsedAt (past.length - 1), proba, true⟩ = step) :
    ∃ evidence, FaultInferenceSession.stepValid system session sample row proba =
      (inPhase session step.1,
        .ok (predictionResult system (inPhase session step.1) sample proba step.2.2 evidence)) := by
  obtain ⟨evidence, hevidence⟩ := exists_buildEvidence system.entryPersistence_pos
    system.exitPersistence_pos row (classProbabilities system proba) (readRow proba).diag
    step.1.toState
  refine ⟨evidence, ?_⟩
  rw [FaultInferenceSession.stepValid, h.stepStateMachine, hstep]
  simp only [Phase.outcome, hevidence]
  rfl

/-- An eligible sample: the machine makes the step of its row, which the result reports. -/
theorem Holds.evaluate_eligible (system : PromotedFaultSystem F) (sample : TelemetrySample F)
    (h : Holds assetId past φ session)
    (hlength : longestWindowSamples ≤ past.length) {row : FeatureRowResult F}
    (hrow : batchRow runId assetId past (past.length - 1) = .ok row) :
    ∃ alert result, alertRow system row (past.length - 1) = some alert ∧
      evaluate system session sample =
        (inPhase session (φ.step system.alertPolicyConfig alert).1, .ok result) ∧
      ReportsRow system row result ∧
      result.alertState = some (φ.step system.alertPolicyConfig alert).1.toState.state ∧
      result.alertEvent = (φ.step system.alertPolicyConfig alert).2.2 := by
  -- the history of the session is the window of the batch
  have hcurrent : session.currentRow = .ok row := by
    rw [h.currentRow runId hlength, hrow]
    rfl
  have hcount : ¬ session.sampleCount < longestWindowSamples := by
    rw [h.sampleCount]
    omega
  rw [evaluate, if_neg hcount, hcurrent]
  cases hstatus : row.validity.status with
  -- no class is predicted for the row, and none is reported
  | insufficientData =>
      simp only [hstatus, alertRow, ReportsRow]
      refine ⟨_, _, rfl, h.stepRejected row.validity, ⟨rfl, rfl, rfl, rfl⟩, rfl, ?_⟩
      cases φ <;> rfl
  | valid =>
      obtain ⟨vector, hvector⟩ := exists_featureVector system (columns_rowAt hrow hstatus)
      obtain ⟨evidence, hstep⟩ := h.stepValid row (system.predictProba vector) rfl
      simp only [hstatus, alertRow, hvector, ReportsRow]
      exact ⟨_, _, rfl, hstep, ⟨rfl, vector, rfl, rfl, rfl⟩, rfl, rfl⟩

end Sample

/-! ## A whole run -/

/-- The samples of a run: all of one asset, at strictly increasing instants. -/
structure IsRun (assetId : String) (samples : List (TelemetrySample F)) : Prop where
  assetId : ∀ sample ∈ samples, sample.assetId = assetId
  increasing : samples.Pairwise fun s s' => s.timestamp.instant < s'.timestamp.instant

/-- What is reported of the sample at position `i`: the warm-up, and from the twelfth sample on the
feature row of the batch builder, or the exception it raises there. -/
def ReportsSample (runId assetId : String) (samples : List (TelemetrySample F)) (i : ℕ)
    (report : Except (IngestError F) (InferenceResult F)) : Prop :=
  if i < longestWindowSamples - 1 then
    ∃ result, report = .ok result ∧ result.status = .warmingUp ∧
      result.samplesAvailable = some (i + 1) ∧
      result.samplesRequired = some longestWindowSamples
  else
    match batchRow runId assetId samples i with
    | .error error => report = .error (asRuntime error)
    | .ok row => ∃ result, report = .ok result ∧ ReportsRow system row result

/-- What a report says of the alert machine, once the session is warm. -/
def alertReport : Except (IngestError F) (InferenceResult F) →
    Option (Option String × Option (AlertEvent F))
  | .ok result =>
      if result.status = .warmingUp then none else some (result.alertState, result.alertEvent)
  | .error _ => none

/-- What a report should say of a step of the alert machine. -/
def outcomeReport (outcome : StepOutcome F) : Option String × Option (AlertEvent F) :=
  (some outcome.next.state, outcome.event)

section Run

variable {system} {assetId runId : String} {past : List (TelemetrySample F)} {φ : Phase}
  {session : FaultInferenceSession F} {sample : TelemetrySample F}

/-- A sample of a run comes after the session's last one. -/
theorem IsRun.follows (h : IsRun assetId (past ++ [sample]))
    (hsession : Holds assetId past φ session) (last : Datetime)
    (hlast : session.lastTimestamp = some last) :
    last.instant < sample.timestamp.instant := by
  rw [hsession.lastTimestamp, Option.map_eq_some_iff] at hlast
  obtain ⟨previous, hprevious, rfl⟩ := hlast
  exact (List.pairwise_append.mp h.increasing).2.2 previous (List.mem_of_getLast? hprevious) sample
    (List.mem_singleton_self sample)

/-- What reports a row is no report of the warm-up. -/
theorem ReportsRow.status_ne {row : FeatureRowResult F} {result : InferenceResult F}
    (h : ReportsRow system row result) : result.status ≠ .warmingUp := by
  rw [ReportsRow] at h
  split at h
  · rw [h.1]
    decide
  · rw [h.1]
    decide

/-- One sample: it is recorded, its report is that of the batch row, and the machine makes the
step of the row handed to `run_state_machine`, if there is one. -/
theorem Holds.ingest (runId : String) (h : Holds assetId past φ session)
    (hrun : IsRun assetId (past ++ [sample])) :
    let rows := (batchAlertRow system runId assetId (past ++ [sample]) past.length).toList
    Holds assetId (past ++ [sample])
        (Transducer.after (Phase.transduce system.alertPolicyConfig) φ rows)
        (session.ingest system sample).1 ∧
      ReportsSample system runId assetId (past ++ [sample]) past.length
        (session.ingest system sample).2 ∧
      (alertReport (session.ingest system sample).2).toList =
        (Transducer.outputs (Phase.transduce system.alertPolicyConfig) φ rows).map
          outcomeReport := by
  intro rows
  have hasset : sample.assetId = session.assetId := by
    rw [h.assetId]
    exact hrun.assetId sample (by simp)
  have hrecorded := h.recordSample sample
  have hlast : (past ++ [sample]).length - 1 = past.length := by simp
  rw [ingest_of_follows hasset (hrun.follows h)]
  -- during the warm-up neither side has a row
  by_cases hwarm : past.length < longestWindowSamples - 1
  · have hcount : (session.recordSample sample).sampleCount < longestWindowSamples := by
      rw [hrecorded.sampleCount, List.length_append, List.length_singleton]
      omega
    have hrows : rows = [] := by simp [rows, batchAlertRow, hwarm]
    rw [hrows, evaluate, if_pos hcount, ReportsSample, if_pos hwarm]
    refine ⟨hrecorded, ⟨_, rfl, rfl, ?_, rfl⟩, rfl⟩
    simp [warmingUpResult, hrecorded.sampleCount]
  · have hlength : longestWindowSamples ≤ (past ++ [sample]).length := by
      rw [List.length_append, List.length_singleton]
      omega
    rw [ReportsSample, if_neg hwarm]
    -- behind it both read the same row, or fail on it in the same way
    cases hrow : batchRow runId assetId (past ++ [sample]) past.length with
    | error error =>
        have hcurrent : (session.recordSample sample).currentRow = .error (asRuntime error) := by
          rw [hrecorded.currentRow runId hlength, hlast, hrow]
          rfl
        have hcount : ¬ (session.recordSample sample).sampleCount < longestWindowSamples := by
          rw [hrecorded.sampleCount]
          omega
        have hrows : rows = [] := by simp [rows, batchAlertRow, hwarm, hrow]
        rw [hrows, evaluate, if_neg hcount, hcurrent]
        exact ⟨hrecorded, rfl, rfl⟩
    | ok row =>
        obtain ⟨alert, result, halert, hstep, hreports, hstate, hevent⟩ :=
          hrecorded.evaluate_eligible system sample hlength (hlast.symm ▸ hrow)
        have hrows : rows = [alert] := by
          simp [rows, batchAlertRow, hwarm, hrow, ← halert]
        rw [hrows, hstep]
        refine ⟨?_, ⟨result, rfl, hreports⟩, ?_⟩
        · exact { hrecorded with machineState := rfl }
        · simp [alertReport, hreports.status_ne, hstate, hevent, outcomeReport, Phase.transduce,
            Phase.outcome]

/-- What a session fed with a run holds, and what it has reported. -/
theorem holds_after (system : PromotedFaultSystem F) (runId : String) (hne : assetId ≠ "")
    {samples : List (TelemetrySample F)} (hrun : IsRun assetId samples) :
    let session := Transducer.after (FaultInferenceSession.ingest system)
      (FaultInferenceSession.fresh assetId hne) samples
    let reports := Transducer.outputs (FaultInferenceSession.ingest system)
      (FaultInferenceSession.fresh assetId hne) samples
    let rows := batchAlertRows system runId assetId samples
    Holds assetId samples
        (Transducer.after (Phase.transduce system.alertPolicyConfig) .fresh rows) session ∧
      (∀ i, i < samples.length → ∃ report, reports[i]? = some report ∧
        ReportsSample system runId assetId samples i report) ∧
      reports.filterMap alertReport =
        (Transducer.outputs (Phase.transduce system.alertPolicyConfig) .fresh rows).map
          outcomeReport := by
  induction samples using List.reverseRecOn with
  | nil => exact ⟨⟨rfl, rfl, rfl, fun _ => rfl, rfl⟩, by simp, rfl⟩
  | append_singleton past sample ih =>
      have hpast : IsRun assetId past :=
        ⟨fun s hs => hrun.assetId s (List.mem_append_left _ hs),
          (List.pairwise_append.mp hrun.increasing).1⟩
      obtain ⟨hholds, hreports, halerts⟩ := ih hpast
      obtain ⟨hnext, hreport, halert⟩ := hholds.ingest runId hrun
      have hlength := Transducer.length_outputs (FaultInferenceSession.ingest system)
        (FaultInferenceSession.fresh assetId hne) past
      rw [batchAlertRows_concat]
      simp only [Transducer.outputs_append, Transducer.after_append, Transducer.outputs_cons,
        Transducer.outputs_nil, Transducer.after_cons, Transducer.after_nil]
      -- the reports so far stand, and the last one is that of the new sample
      refine ⟨hnext, fun i hi => ?_, ?_⟩
      · rcases Nat.lt_or_eq_of_le (Nat.le_of_lt_succ (by simpa using hi)) with hlt | rfl
        · obtain ⟨report, hget, hsample⟩ := hreports i hlt
          refine ⟨report, ?_, ?_⟩
          · rw [List.getElem?_append_left (by rwa [hlength]), hget]
          · rw [ReportsSample] at hsample ⊢
            rwa [batchRow_append hlt]
        · refine ⟨_, ?_, hreport⟩
          rw [List.getElem?_append_right (Nat.le_of_eq hlength), hlength, Nat.sub_self]
          rfl
      · rw [List.filterMap_append, List.map_append, halerts, ← halert]
        refine congrArg (_ ++ ·) ?_
        cases halertReport : alertReport (FaultInferenceSession.ingest system _ sample).2 <;>
          simp [halertReport]

end Run

variable (runId assetId : String) (samples : List (TelemetrySample F))
  (session : FaultInferenceSession F)
  (reports : List (Except (IngestError F) (InferenceResult F)))

/-- The session and the reports of a run are those of the batch pipeline. -/
structure RefinesBatch : Prop where
  /-- Sample by sample: 11 samples of warm-up, then the rows of the feature builder, with the same
  rejections and the same exceptions. -/
  sampleReports : ∀ i, i < samples.length → ∃ report, reports[i]? = some report ∧
    ReportsSample system runId assetId samples i report
  /-- The feature row of the last sample is the builder's. -/
  currentRow : longestWindowSamples ≤ samples.length →
    session.currentRow =
      (batchRow runId assetId samples (samples.length - 1)).mapError asRuntime
  /-- The machine is that of `run_state_machine` over the eligible rows, which are not valid exactly
  where the feature row is rejected: it is in the same state, it was in the reported state after
  each of them, and has emitted the same events. -/
  machine : ∃ outcomes,
    let rows := batchAlertRows system runId assetId samples
    runOutcomes system.alertPolicyConfig .fresh rows = .ok outcomes ∧
      runStateMachine system.alertPolicyConfig (rows.map AlertRow.elapsed)
          (rows.map AlertRow.proba) (some (rows.map AlertRow.valid)) =
        .ok ⟨outcomes.map StepOutcome.rowState, outcomes.filterMap StepOutcome.event⟩ ∧
      session.machineState = machineAfter outcomes ∧
      reports.filterMap alertReport = outcomes.map outcomeReport ∧
      outcomes.map StepOutcome.rowState =
        List.zipWith
          (fun row outcome =>
            if row.valid then Phase.shownState outcome.next else insufficientDataState)
          rows outcomes

/-- A session fed with a run, one sample at a time, refines the batch pipeline over the run. -/
theorem refinesBatch_after (hne : assetId ≠ "") (hrun : IsRun assetId samples) :
    RefinesBatch system runId assetId samples
      (Transducer.after (FaultInferenceSession.ingest system)
        (FaultInferenceSession.fresh assetId hne) samples)
      (Transducer.outputs (FaultInferenceSession.ingest system)
        (FaultInferenceSession.fresh assetId hne) samples) := by
  obtain ⟨hholds, hreports, halerts⟩ := holds_after system runId hne hrun
  constructor
  case sampleReports => exact hreports
  case currentRow => exact hholds.currentRow runId
  case machine =>
    refine ⟨_, runOutcomes_fresh .., runStateMachine_eq .., ?_, halerts, rowStates_outputs ..⟩
    rw [hholds.machineState, machineAfter_outputs]

/-! A promoted system over the rationals, and a run of twelve samples a second apart. -/

/-- A system that finds every row healthy. -/
def healthySystem : PromotedFaultSystem Rat where
  classes := plantAlphaClasses
  featureOrder := featureColumnOrder
  featureOrder_sub := fun _ hcolumn => hcolumn
  predictProba := fun _ => ⟨[0, 1, 0, 0], rfl⟩
  alertPolicyConfig := ⟨3 / 5, 3, 3 / 5, 2⟩
  entryPersistence_pos := by decide
  exitPersistence_pos := by decide
  systemVersion := "plant_alpha_fault_v1"
  modelHash := "model"
  policyHash := "policy"
  featureSchemaVersion := Features.featureSchemaVersion

/-- The sample of `stack-1` at second `i`, all of whose values are 2. -/
def steadySample (i : ℕ) : TelemetrySample Rat where
  assetId := "stack-1"
  timestamp := .utc (1000000 * i)
  values := fun _ => ⟨2, rfl⟩
  efficiency := none
  assetId_ne := stack1_ne_empty

/-- The refinement on a run that ends the warm-up. -/
theorem refinesBatch_after_steady :
    let samples := (List.range 12).map steadySample
    RefinesBatch healthySystem "run-1" "stack-1" samples
      (Transducer.after (FaultInferenceSession.ingest healthySystem)
        (FaultInferenceSession.fresh "stack-1" (by decide)) samples)
      (Transducer.outputs (FaultInferenceSession.ingest healthySystem)
        (FaultInferenceSession.fresh "stack-1" (by decide)) samples) :=
  refinesBatch_after healthySystem "run-1" "stack-1" _ (by decide) ⟨by decide, by decide⟩

end Odis.Inference
