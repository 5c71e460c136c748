import Odis.AlertPolicy.FalseAlarmCounters
import Odis.AlertPolicy.GappedEvaluation
import Odis.Library.TieBreaking
import Odis.Python.Statistics

/-!
# The search for a policy over calibrated diagnoses

A row of calibrated probabilities is diagnosed only if the largest of them meets a threshold
(`calibration/abstention.py`), and a class is reported after a number of rows in a row that are
diagnosed with it (`calibration/alert_policy.py`). `calibration/policy_search.py` tries every
threshold and every number of rows on the validation split, and selects one of the pairs.

* `firstQualifyingFrom_mono`: a stricter policy detects no sooner.
* `StricterTotals.addRun`: two policies, run by run.
* `searchPolicies_outcome`: what is selected, and when a policy that misses too many runs is.
-/

namespace Odis.AlertPolicy

section Policy

variable {F : Type} [PyFloat F] {classes : ClassOrder}

/-! ## Detection in a sequence of labels -/

/-- The loop of `find_first_qualifying_detection`, after `streak` rows of the target class. -/
def firstQualifyingFrom (targetClass : String) (faultStart : F) (persistence : ℕ) :
    ℕ → List (F × String) → Option F
  | _, [] => none
  | streak, (elapsed, label) :: rows =>
      if elapsed < faultStart then firstQualifyingFrom targetClass faultStart persistence 0 rows
      else
        let streak := if label = targetClass then streak + 1 else 0
        if persistence ≤ streak then some elapsed
        else firstQualifyingFrom targetClass faultStart persistence streak rows

/-- `find_first_qualifying_detection` of `models/detection.py`. -/
def findFirstQualifyingDetection (targetClass : String) (faultStart : F) (persistence : ℕ)
    (rows : List (F × String)) : Option F :=
  firstQualifyingFrom targetClass faultStart persistence 0 rows

namespace Calibration

/-! ## Abstention -/

/-- The diagnosis of a row: its most probable class, or `"uncertain"`. -/
def diagnoseRow (confidenceThreshold : F) (row : ProbaRow F classes) : String :=
  let reading := readRow row
  if confidenceThreshold ≤ reading.diagProb then reading.diag else uncertainLabel

/-- `diagnose`. -/
def diagnose (proba : List (ProbaRow F classes)) (confidenceThreshold : F) : List String :=
  proba.map (diagnoseRow confidenceThreshold)

/-- The `coverage` of `compute_coverage_metrics`: the part of the rows that are diagnosed. -/
def coverage (diagnosis : List String) : F :=
  if diagnosis = [] then PyFloat.literal 0.0
  else PyFloat.ratio (diagnosis.countP fun label => label ≠ uncertainLabel) diagnosis.length

/-- `compute_coverage_metrics`, of which the search uses the coverage alone. The other metrics are
computed by `sklearn` from the rows that are diagnosed; `multiclassMetrics` says whether that
raises. -/
def computeCoverageMetrics (multiclassMetrics : List String → Except EvaluationError Unit)
    (diagnosis : List String) : Except EvaluationError F := do
  if ∃ label ∈ diagnosis, label ≠ uncertainLabel then multiclassMetrics diagnosis
  return coverage diagnosis

/-- The coverage is computed as long as `sklearn` does not raise. -/
theorem computeCoverageMetrics_eq {multiclassMetrics : List String → Except EvaluationError Unit}
    (hmetrics : ∀ diagnosis, multiclassMetrics diagnosis = .ok ()) (diagnosis : List String) :
    (computeCoverageMetrics multiclassMetrics diagnosis : Except EvaluationError F) =
      .ok (coverage diagnosis) := by
  rw [computeCoverageMetrics, hmetrics]
  split_ifs <;> rfl

/-! ## The alert policy -/

/-- `AlertRunResult`. -/
structure AlertRunResult (F : Type) where
  simulationRunId : String
  faultClass : String
  faultStartSimSeconds : F
  detected : Bool
  latencySeconds : Option F

/-- `AlertPolicySummary`. -/
structure AlertPolicySummary (F : Type) where
  confidenceThreshold : F
  persistenceSamples : ℕ
  runResults : List (AlertRunResult F)
  falseAlarmEventCount : ℕ
  healthyHoursEvaluated : F

namespace AlertPolicySummary

/-- `false_alarms_per_healthy_hour`. -/
def falseAlarmsPerHealthyHour (summary : AlertPolicySummary F) : Except ArithmeticError F :=
  if summary.healthyHoursEvaluated ≤ PyFloat.ofInt 0 then .ok (PyFloat.literal 0.0)
  else PyFloat.truediv (PyFloat.ofInt summary.falseAlarmEventCount) summary.healthyHoursEvaluated

/-- `missed_runs`. -/
def missedRuns (summary : AlertPolicySummary F) : List String :=
  (summary.runResults.filter fun result => ¬ result.detected).map AlertRunResult.simulationRunId

/-- `latencies`. -/
def latencies (summary : AlertPolicySummary F) : List F :=
  summary.runResults.filterMap AlertRunResult.latencySeconds

end AlertPolicySummary

/-- What the loop of `evaluate_alert_policy` adds up. -/
structure AlertTotals (F : Type) where
  runResults : List (AlertRunResult F)
  falseAlarmEvents : ℕ
  healthySeconds : F

namespace AlertTotals

/-- The totals before the loop. -/
def zero : AlertTotals F := ⟨[], 0, PyFloat.literal 0.0⟩

/-- The totals with the diagnoses of healthy rows. -/
def addHealthy (totals : AlertTotals F) (persistence : ℕ) (diagnoses : List String) :
    AlertTotals F :=
  { totals with
    falseAlarmEvents := totals.falseAlarmEvents + countFalseAlarmEvents diagnoses persistence
    healthySeconds := totals.healthySeconds + PyFloat.ofInt diagnoses.length * dtSeconds }

/-- The totals with a run, given the rows in the order of their elapsed times. -/
def addRun (totals : AlertTotals F) (persistence : ℕ) (runId : String) (metadata : RunMetadata F)
    (rows : List (F × String)) : AlertTotals F :=
  match metadata.faultClass, metadata.faultStartSimSeconds with
  | none, _ => totals.addHealthy persistence (rows.map Prod.snd)
  | some _, none => totals
  | some faultClass, some faultStart =>
      -- the rows before the fault are healthy ones too
      let preFaultRows := rows.filter fun row => row.1 < faultStart
      let firstDetection := findFirstQualifyingDetection faultClass faultStart persistence rows
      let withHealthy := totals.addHealthy persistence (preFaultRows.map Prod.snd)
      { withHealthy with
        runResults := totals.runResults ++
          [{ simulationRunId := runId
             faultClass
             faultStartSimSeconds := faultStart
             detected := firstDetection.isSome
             latencySeconds := firstDetection.map fun elapsed => elapsed - faultStart }] }

end AlertTotals

/-- The round of the loop of `evaluate_alert_policy` for a run. -/
def addAlertRun (dataset : ExperimentDataset F) (persistence : ℕ) (totals : AlertTotals F)
    (item : String × List (F × String)) : Except EvaluationError (AlertTotals F) :=
  match dataset.runMetadata.get? item.1 with
  | none => .error (.keyError item.1)
  | some metadata =>
      .ok (totals.addRun persistence item.1 metadata (sortByElapsed Prod.fst item.2))

/-- `evaluate_alert_policy`. -/
def evaluateAlertPolicy (dataset : ExperimentDataset F) (mask : List Bool)
    (diagnosis : List String) (confidenceThreshold : F) (persistence : ℕ) :
    Except EvaluationError (AlertPolicySummary F) := do
  let rowsByRun ← predictionsByRun dataset mask diagnosis
  let totals ← rowsByRun.items.foldlM (addAlertRun dataset persistence) .zero
  let hours ← (PyFloat.truediv totals.healthySeconds (PyFloat.literal 3600.0)).mapError .arithmetic
  return ⟨confidenceThreshold, persistence,
    OrderBy.orderBy AlertRunResult.simulationRunId totals.runResults, totals.falseAlarmEvents,
    hours⟩

/-! ## The search -/

/-- `PolicyCandidate`. -/
structure PolicyCandidate (F : Type) where
  confidenceThreshold : F
  persistenceSamples : ℕ
  missedRunCount : ℕ
  totalFaultRuns : ℕ
  falseAlarmsPerHealthyHour : F
  medianLatencySeconds : Option F
  coverage : F
  rejected : Bool
  rejectionReason : Option String

/-- `CONFIDENCE_THRESHOLD_GRID`. -/
def confidenceThresholdGrid : List F := [0.50, 0.60, 0.70, 0.80, 0.90].map PyFloat.literal

/-- `PERSISTENCE_GRID`. -/
def persistenceGrid : List ℕ := [2, 3, 4]

/-- The pairs that are tried, in their order. -/
def policyGrid : List (F × ℕ) := confidenceThresholdGrid ×ˢ persistenceGrid

/-- `MAX_MISSED_VALIDATION_FAULT_RUNS`. -/
def maxMissedValidationFaultRuns : ℕ := 1

/-- `np.median` of a sequence that is not empty. -/
def median (values : List F) : Except ArithmeticError F :=
  let sorted := values.mergeSort fun a b => !decide (b < a)
  match sorted[(sorted.length - 1) / 2]?, sorted[sorted.length / 2]? with
  | some lower, some upper =>
      if sorted.length % 2 = 1 then .ok upper
      else PyFloat.truediv (lower + upper) (PyFloat.literal 2.0)
  | _, _ => .error .valueError

/-- `_median_latency`. -/
def medianLatency (summary : AlertPolicySummary F) : Except ArithmeticError (Option F) :=
  if summary.latencies = [] then .ok none else (median summary.latencies).map some

/-- The candidate of a pair. The source computes the coverage once for all the pairs of a threshold,
before the first of them. -/
def evaluateCandidate (multiclassMetrics : List String → Except EvaluationError Unit)
    (dataset : ExperimentDataset F) (valMask : List Bool) (proba : List (ProbaRow F classes))
    (pair : F × ℕ) : Except EvaluationError (PolicyCandidate F) := do
  let diagnosis := diagnose proba pair.1
  let coverage ← computeCoverageMetrics multiclassMetrics diagnosis
  let summary ← evaluateAlertPolicy dataset valMask diagnosis pair.1 pair.2
  let alarms ← summary.falseAlarmsPerHealthyHour.mapError .arithmetic
  let latency ← (medianLatency summary).mapError .arithmetic
  let missed := summary.missedRuns.length
  let total := summary.runResults.length
  return {
    confidenceThreshold := pair.1
    persistenceSamples := pair.2
    missedRunCount := missed
    totalFaultRuns := total
    falseAlarmsPerHealthyHour := alarms
    medianLatencySeconds := latency
    coverage
    rejected := maxMissedValidationFaultRuns < missed
    rejectionReason :=
      if maxMissedValidationFaultRuns < missed then
        some ("missed " ++ toString missed ++ " of " ++ toString total ++
          " validation fault runs (cap is " ++ toString maxMissedValidationFaultRuns ++ ")")
      else none }

/-- `PolicySearchResult`. -/
structure PolicySearchResult (F : Type) where
  candidates : List (PolicyCandidate F)
  selected : PolicyCandidate F

end Calibration

end Policy

namespace Calibration

variable {format : NumberFormat} {classes : ClassOrder}

/-- `_sort_key`, where no latency is an infinite one. -/
def PolicyCandidate.sortKey (candidate : PolicyCandidate (Number format)) :
    Number format ×ₗ WithTop (Number format) ×ₗ Number format :=
  let latency : WithTop (Number format) :=
    match candidate.medianLatencySeconds with
    | some seconds => seconds
    | none => ⊤
  toLex (candidate.falseAlarmsPerHealthyHour, toLex (latency, -candidate.coverage))

/-- `search_policies`. -/
def searchPolicies (multiclassMetrics : List String → Except EvaluationError Unit)
    (dataset : ExperimentDataset (Number format)) (valMask : List Bool)
    (proba : List (ProbaRow (Number format) classes)) :
    Except EvaluationError (PolicySearchResult (Number format)) := do
  let candidates ← policyGrid.mapM (evaluateCandidate multiclassMetrics dataset valMask proba)
  let survivors := candidates.filter fun candidate => ¬ candidate.rejected
  let pool := if survivors ≠ [] then survivors else candidates
  match pool.argmin PolicyCandidate.sortKey with
  | none => .error (.arithmetic .valueError)
  | some selected => .ok ⟨candidates, selected⟩

/-! ## A stricter policy -/

variable {dataset : ExperimentDataset (Number format)} {threshold threshold' : Number format}
  {persistence persistence' : ℕ}

/-- A detection is at the time of a row. -/
theorem exists_row_of_firstQualifyingFrom {targetClass : String} {start t : Number format}
    {streak : ℕ} {rows : List (Number format × String)}
    (h : firstQualifyingFrom targetClass start persistence streak rows = some t) :
    ∃ row ∈ rows, row.1 = t := by
  induction rows generalizing streak with
  | nil => cases h
  | cons row rows ih =>
      obtain ⟨elapsed, label⟩ := row
      have hlater : ∀ {streak}, firstQualifyingFrom targetClass start persistence streak rows =
          some t → ∃ row ∈ (elapsed, label) :: rows, row.1 = t := by
        intro streak hrest
        obtain ⟨row, hrow, heq⟩ := ih hrest
        exact ⟨row, List.mem_cons_of_mem _ hrow, heq⟩
      rw [firstQualifyingFrom] at h
      -- only the streak that the scan goes on with differs, so any streak does
      by_cases hearly : elapsed < start
      · rw [if_pos hearly] at h
        exact hlater h
      · rw [if_neg hearly] at h
        dsimp only at h
        generalize (if label = targetClass then streak + 1 else 0) = next at h
        by_cases hfires : persistence ≤ next
        · rw [if_pos hfires] at h
          exact ⟨_, List.mem_cons_self, Option.some.inj h⟩
        · rw [if_neg hfires] at h
          exact hlater h

/-- A policy that asks for more rows of the class, among labels that name the class less often,
detects it no sooner. -/
theorem firstQualifyingFrom_mono {R : Type} {label label' : R → String} {targetClass : String}
    {start t' : Number format} {streak streak' : ℕ} {rows : List (Number format × R)}
    (hsorted : rows.Pairwise fun a b => a.1 ≤ b.1)
    (hlabel : ∀ r, label' r = targetClass → label r = targetClass)
    (hpersistence : persistence ≤ persistence') (hstreak : streak' ≤ streak)
    (h : firstQualifyingFrom targetClass start persistence' streak'
      (rows.map (Prod.map id label')) = some t') :
    ∃ t, firstQualifyingFrom targetClass start persistence streak (rows.map (Prod.map id label)) =
      some t ∧ t ≤ t' := by
  -- by induction on the rows, with the streaks of both policies as they are when a row is read
  induction rows generalizing streak streak' with
  | nil => cases h
  | cons row rows ih =>
      obtain ⟨elapsed, r⟩ := row
      obtain ⟨hfirst, hrest⟩ := List.pairwise_cons.mp hsorted
      rw [List.map_cons, firstQualifyingFrom.eq_def] at h
      rw [List.map_cons, firstQualifyingFrom.eq_def]
      dsimp only [Prod.map, id] at h ⊢
      by_cases hearly : elapsed < start
      · rw [if_pos hearly] at h ⊢
        exact ih hrest le_rfl h
      · rw [if_neg hearly] at h ⊢
        -- the streak of the stricter policy is the shorter one
        have hnext : (if label' r = targetClass then streak' + 1 else 0) ≤
            if label r = targetClass then streak + 1 else 0 := by
          by_cases hr : label' r = targetClass
          · rw [if_pos hr, if_pos (hlabel r hr)]
            exact Nat.succ_le_succ hstreak
          · rw [if_neg hr]
            exact Nat.zero_le _
        generalize (if label' r = targetClass then streak' + 1 else 0) = next' at h hnext
        generalize (if label r = targetClass then streak + 1 else 0) = next at hnext ⊢
        -- where the laxer policy fires, the stricter one fires at this row or at a later one
        by_cases hfires : persistence ≤ next
        · rw [if_pos hfires]
          refine ⟨elapsed, rfl, ?_⟩
          by_cases hfires' : persistence' ≤ next'
          · rw [if_pos hfires'] at h
            exact (Option.some.inj h).le
          · rw [if_neg hfires'] at h
            obtain ⟨_, hlabelled, rfl⟩ := exists_row_of_firstQualifyingFrom h
            obtain ⟨row, hrow, rfl⟩ := List.mem_map.mp hlabelled
            exact hfirst row hrow
        -- where it does not, the stricter one does not either
        · have hquiet : ¬ persistence' ≤ next' := by omega
          rw [if_neg hfires]
          rw [if_neg hquiet] at h
          exact ih hrest hnext h

/-- A higher threshold diagnoses a class in fewer rows. -/
theorem diagnoseRow_anti (hthreshold : threshold ≤ threshold') {label : String}
    (hlabel : label ≠ uncertainLabel) {row : ProbaRow (Number format) classes}
    (h : diagnoseRow threshold' row = label) : diagnoseRow threshold row = label := by
  rw [diagnoseRow] at h ⊢
  by_cases hconfident : threshold' ≤ (readRow row).diagProb
  · rw [if_pos hconfident] at h
    rw [if_pos (hthreshold.trans hconfident), h]
  · rw [if_neg hconfident] at h
    exact absurd h.symm hlabel

/-- A higher threshold covers fewer rows. -/
theorem coverage_diagnose_anti (hthreshold : threshold ≤ threshold')
    (proba : List (ProbaRow (Number format) classes)) :
    (coverage (diagnose proba threshold') : Number format) ≤
      coverage (diagnose proba threshold) := by
  rw [coverage, coverage]
  by_cases hnil : proba = []
  · rw [hnil]
    exact le_rfl
  · have hdiagnosis : ∀ t : Number format, diagnose proba t ≠ [] := fun t =>
      mt List.map_eq_nil_iff.mp hnil
    rw [if_neg (hdiagnosis _), if_neg (hdiagnosis _)]
    -- a row that is diagnosed at the higher threshold is so at the lower one
    have hcount : (diagnose proba threshold').countP (fun label => label ≠ uncertainLabel) ≤
        (diagnose proba threshold).countP fun label => label ≠ uncertainLabel := by
      rw [diagnose, diagnose, List.countP_map, List.countP_map]
      refine List.countP_mono_left fun row _ hrow => ?_
      have hcovered : diagnoseRow threshold' row ≠ uncertainLabel := of_decide_eq_true hrow
      show decide (diagnoseRow threshold row ≠ uncertainLabel) = true
      rw [diagnoseRow_anti hthreshold hcovered rfl]
      exact hrow
    have hlength : (diagnose proba threshold').length = (diagnose proba threshold).length := by
      rw [diagnose, diagnose, List.length_map, List.length_map]
    rw [hlength]
    apply Number.ofRat_mono
    apply div_le_div_of_nonneg_right
    · exact_mod_cast hcount
    · exact_mod_cast Nat.zero_le _

/-- A longer persistence counts fewer false alarms. -/
theorem countFalseAlarmEvents_anti (hone : 1 ≤ persistence)
    (hpersistence : persistence ≤ persistence') (diagnoses : List String) :
    countFalseAlarmEvents diagnoses persistence' ≤ countFalseAlarmEvents diagnoses persistence := by
  rw [countFalseAlarmEvents_calibration, countFalseAlarmEvents_calibration,
    countFalseAlarmEvents_models (hone.trans hpersistence), countFalseAlarmEvents_models hone,
    alarmRuns, alarmRuns]
  refine List.countP_mono_left fun run _ hrun => ?_
  obtain ⟨hlong, halarm⟩ := of_decide_eq_true hrun
  exact decide_eq_true ⟨hpersistence.trans hlong, halarm⟩

/-! ## Two policies, run by run -/

/-- A policy and one that is at least as strict. -/
structure Stricter (threshold threshold' : Number format) (persistence persistence' : ℕ) :
    Prop where
  threshold_le : threshold ≤ threshold'
  one_le : 1 ≤ persistence
  persistence_le : persistence ≤ persistence'

/-- What a policy and a stricter one find in a run. -/
structure DetectsNoLater (result result' : AlertRunResult (Number format)) : Prop where
  simulationRunId : result'.simulationRunId = result.simulationRunId
  detected : result'.detected = true → result.detected = true
  latency : ∀ latency', result'.latencySeconds = some latency' →
    ∃ latency, result.latencySeconds = some latency ∧ latency ≤ latency'

/-- The totals of a policy and a stricter one. Where only the persistence is longer, there are no
more false alarms. -/
structure StricterTotals (threshold threshold' : Number format)
    (totals totals' : AlertTotals (Number format)) : Prop where
  runs : List.Forall₂ DetectsNoLater totals.runResults totals'.runResults
  alarms : threshold' = threshold → totals'.falseAlarmEvents ≤ totals.falseAlarmEvents
  seconds : totals'.healthySeconds = totals.healthySeconds

/-- The rows of a run, diagnosed. -/
def diagnosed (threshold : Number format)
    (rows : List (Number format × ProbaRow (Number format) classes)) :
    List (Number format × String) :=
  rows.map (Prod.map id (diagnoseRow threshold))

/-- Diagnosing the rows before they are gathered by their runs is as good as doing so afterwards. -/
theorem gatherPrediction_diagnose (dataset : ExperimentDataset (Number format))
    (proba : List (ProbaRow (Number format) classes)) (threshold : Number format)
    (gathered : OrderedDict (id : String → String)
      (List (Number format × ProbaRow (Number format) classes)))
    (indexed : ℕ × ℕ) :
    gatherPrediction dataset (diagnose proba threshold) (gathered.mapValues (diagnosed threshold))
        indexed =
      (gatherRow dataset proba gathered indexed).map
        (OrderedDict.mapValues (diagnosed threshold)) := by
  rw [gatherPrediction, gatherRow]
  cases dataset.rows[indexed.1]? with
  | none => rfl
  | some row =>
      dsimp only
      cases dataset.runMetadata.get? row.runId with
      | none => rfl
      | some metadata =>
          dsimp only
          by_cases htarget : row.assetId ≠ metadata.targetAssetId
          · rw [if_pos htarget, if_pos htarget]
            rfl
          · rw [if_neg htarget, if_neg htarget, diagnose, List.getElem?_map]
            cases proba[indexed.2]? with
            | none => rfl
            | some probaRow =>
                refine congrArg Except.ok ?_
                rw [appendRow, appendRow, OrderedDict.get?_mapValues, OrderedDict.mapValues_set,
                  diagnosed, List.map_append]
                cases gathered.get? row.runId <;> rfl

/-- The rows that a policy gathers are those of the dataset, diagnosed. -/
theorem predictionsByRun_diagnose (dataset : ExperimentDataset (Number format)) (mask : List Bool)
    (proba : List (ProbaRow (Number format) classes)) (threshold : Number format) :
    predictionsByRun dataset mask (diagnose proba threshold) =
      (rowsByRun dataset mask proba).map (OrderedDict.mapValues (diagnosed threshold)) :=
  Exceptions.foldlM_of_comm (gatherPrediction_diagnose dataset proba threshold)
    (nonzero mask).zipIdx .empty

/-- Sorting looks at the elapsed times alone, so it commutes with the diagnosis of the rows. -/
theorem sortByElapsed_diagnosed (threshold : Number format)
    (rows : List (Number format × ProbaRow (Number format) classes)) :
    sortByElapsed Prod.fst (diagnosed threshold rows) =
      diagnosed threshold (sortByElapsed Prod.fst rows) := by
  rw [sortByElapsed, sortByElapsed, diagnosed, diagnosed, List.map_mergeSort]
  intro a _ b _
  rfl

/-- Sorted rows do not go back in time. -/
theorem pairwise_sortByElapsed {R : Type} (rows : List (Number format × R)) :
    (sortByElapsed Prod.fst rows).Pairwise fun a b => a.1 ≤ b.1 := by
  have hsorted : (sortByElapsed Prod.fst rows).Pairwise fun a b =>
      (!decide (b.1 < a.1)) = true := by
    apply List.pairwise_mergeSort
    · intro a b c hab hbc
      simp only [Bool.not_eq_true', decide_eq_false_iff_not, not_lt] at hab hbc ⊢
      exact hab.trans hbc
    · intro a b
      simpa using le_total a.1 b.1
  exact hsorted.imp fun h => by simpa using h

variable {totals totals' : AlertTotals (Number format)}

namespace StricterTotals

/-- The totals are comparable before the first run. -/
theorem zero : StricterTotals threshold threshold' (.zero : AlertTotals (Number format)) .zero :=
  ⟨.nil, fun _ => le_rfl, rfl⟩

/-- Over healthy rows a longer persistence adds no more false alarms, and the hours are the same. -/
theorem addHealthy (h : StricterTotals threshold threshold' totals totals')
    (hstrict : Stricter threshold threshold' persistence persistence')
    (rows : List (Number format × ProbaRow (Number format) classes)) :
    StricterTotals threshold threshold'
      (totals.addHealthy persistence ((diagnosed threshold rows).map Prod.snd))
      (totals'.addHealthy persistence' ((diagnosed threshold' rows).map Prod.snd)) where
  runs := h.runs
  alarms := by
    rintro rfl
    exact Nat.add_le_add (h.alarms rfl)
      (countFalseAlarmEvents_anti hstrict.one_le hstrict.persistence_le _)
  seconds := by
    show totals'.healthySeconds + _ = totals.healthySeconds + _
    rw [h.seconds]
    simp only [diagnosed, List.length_map]

/-- The totals stay comparable over a run. In its healthy rows the stricter policy raises no more
false alarms, and its fault is detected no later by the laxer one. -/
theorem addRun (h : StricterTotals threshold threshold' totals totals')
    (hstrict : Stricter threshold threshold' persistence persistence') (runId : String)
    {metadata : RunMetadata (Number format)} (hclass : metadata.faultClass ≠ some uncertainLabel)
    {rows : List (Number format × ProbaRow (Number format) classes)}
    (hsorted : rows.Pairwise fun a b => a.1 ≤ b.1) :
    StricterTotals threshold threshold'
      (totals.addRun persistence runId metadata (diagnosed threshold rows))
      (totals'.addRun persistence' runId metadata (diagnosed threshold' rows)) := by
  unfold AlertTotals.addRun
  cases hfault : metadata.faultClass with
  | none => exact h.addHealthy hstrict rows
  | some faultClass =>
      cases metadata.faultStartSimSeconds with
      | none => exact h
      | some faultStart =>
          have hlabel : faultClass ≠ uncertainLabel := by
            rintro rfl
            exact hclass hfault
          -- the rows before the fault count as healthy, under either threshold
          have hpreFault : ∀ t : Number format,
              (diagnosed t rows).filter (fun row => row.1 < faultStart) =
                diagnosed t (rows.filter fun row => row.1 < faultStart) := by
            intro t
            rw [diagnosed, diagnosed, List.filter_map]
            rfl
          -- what qualifies under the stricter policy qualifies under the laxer one
          have hearlier : ∀ elapsed', findFirstQualifyingDetection faultClass faultStart
              persistence' (diagnosed threshold' rows) = some elapsed' →
              ∃ elapsed, findFirstQualifyingDetection faultClass faultStart persistence
                (diagnosed threshold rows) = some elapsed ∧ elapsed ≤ elapsed' := by
            intro elapsed' hdetected
            exact firstQualifyingFrom_mono hsorted
              (fun _ => diagnoseRow_anti hstrict.threshold_le hlabel) hstrict.persistence_le le_rfl
              hdetected
          dsimp only
          rw [hpreFault, hpreFault]
          have hhealthy := h.addHealthy hstrict (rows.filter fun row => row.1 < faultStart)
          refine ⟨List.rel_append h.runs (.cons ⟨rfl, ?_, ?_⟩ .nil), hhealthy.alarms,
            hhealthy.seconds⟩
          · intro hdetected
            obtain ⟨elapsed', helapsed'⟩ := Option.isSome_iff_exists.mp hdetected
            obtain ⟨elapsed, helapsed, -⟩ := hearlier elapsed' helapsed'
            exact Option.isSome_iff_exists.mpr ⟨elapsed, helapsed⟩
          · intro latency' hlatency'
            obtain ⟨elapsed', helapsed', rfl⟩ := Option.map_eq_some_iff.mp hlatency'
            obtain ⟨elapsed, helapsed, hle⟩ := hearlier elapsed' helapsed'
            exact ⟨_, Option.map_eq_some_iff.mpr ⟨elapsed, helapsed, rfl⟩,
              Number.sub_mono_left hle faultStart⟩

end StricterTotals

/-- No run is of a class that is named like a withheld diagnosis. -/
def NamesFaults (dataset : ExperimentDataset (Number format)) : Prop :=
  ∀ runId metadata, dataset.runMetadata.get? runId = some metadata →
    metadata.faultClass ≠ some uncertainLabel

/-- Over all the runs, by induction on them: neither policy raises, as all the runs are known, and
their totals stay comparable. -/
theorem exists_foldlM_addAlertRun (hnames : NamesFaults dataset)
    (hstrict : Stricter threshold threshold' persistence persistence')
    {items : List (String × List (Number format × ProbaRow (Number format) classes))}
    (hknown : ∀ item ∈ items, ∃ metadata, dataset.runMetadata.get? item.1 = some metadata)
    (h : StricterTotals threshold threshold' totals totals') :
    ∃ after after',
      (items.map fun item => (item.1, diagnosed threshold item.2)).foldlM
        (addAlertRun dataset persistence) totals = .ok after ∧
      (items.map fun item => (item.1, diagnosed threshold' item.2)).foldlM
        (addAlertRun dataset persistence') totals' = .ok after' ∧
      StricterTotals threshold threshold' after after' := by
  induction items generalizing totals totals' with
  | nil => exact ⟨totals, totals', rfl, rfl, h⟩
  | cons item items ih =>
      obtain ⟨⟨metadata, hmetadata⟩, hrest⟩ := List.forall_mem_cons.mp hknown
      -- the metadata of the run are known, and its rows are sorted by their time before they are
      -- read
      have hround : ∀ (t : Number format) (p : ℕ) (before : AlertTotals (Number format)),
          addAlertRun dataset p before (item.1, diagnosed t item.2) =
            .ok (before.addRun p item.1 metadata
              (diagnosed t (sortByElapsed Prod.fst item.2))) := by
        intro t p before
        rw [addAlertRun]
        dsimp only
        rw [hmetadata, sortByElapsed_diagnosed]
      have hnext := h.addRun hstrict item.1 (hnames item.1 metadata hmetadata)
        (pairwise_sortByElapsed item.2)
      rw [List.map_cons, List.map_cons, List.foldlM_cons, List.foldlM_cons, hround, hround]
      exact ih hrest hnext

/-! ## What is evaluated -/

/-- What a policy and a stricter one report of a dataset. -/
structure StricterSummary (threshold threshold' : Number format)
    (summary summary' : AlertPolicySummary (Number format)) : Prop where
  runs : List.Forall₂ DetectsNoLater summary.runResults summary'.runResults
  alarms : threshold' = threshold →
    summary'.falseAlarmEventCount ≤ summary.falseAlarmEventCount
  hours : summary'.healthyHoursEvaluated = summary.healthyHoursEvaluated

variable {mask : List Bool} {proba : List (ProbaRow (Number format) classes)}
  {rows : OrderedDict (id : String → String)
    (List (Number format × ProbaRow (Number format) classes))}
  {summary summary' : AlertPolicySummary (Number format)}

/-- A literal of at least one is rounded to at least one. -/
theorem one_le_literal {q : ℚ} (h : 1 ≤ q) : 1 ≤ (PyFloat.literal q : Number format).val := by
  rw [← format.round_one]
  exact format.round_mono h

/-- A division by a literal of at least one does not raise. -/
theorem truediv_literal (x : Number format) {q : ℚ} (h : 1 ≤ q) :
    ∃ quotient, PyFloat.truediv x (PyFloat.literal q) = .ok quotient ∧
      quotient = x / (PyFloat.literal q : Number format) := by
  refine ⟨_, if_neg (ne_of_gt ?_), rfl⟩
  exact zero_lt_one.trans_le (one_le_literal h)

/-- Policies are evaluated over any rows that can be gathered. -/
theorem exists_evaluateAlertPolicy (hrows : rowsByRun dataset mask proba = .ok rows)
    (hnames : NamesFaults dataset)
    (hstrict : Stricter threshold threshold' persistence persistence') :
    ∃ summary summary',
      evaluateAlertPolicy dataset mask (diagnose proba threshold) threshold persistence =
        .ok summary ∧
      evaluateAlertPolicy dataset mask (diagnose proba threshold') threshold' persistence' =
        .ok summary' ∧
      StricterSummary threshold threshold' summary summary' := by
  obtain ⟨totals, totals', hfold, hfold', htotals⟩ := exists_foldlM_addAlertRun hnames hstrict
    (fun item hitem => (gathered_rowsByRun hrows item hitem).1) StricterTotals.zero
  -- both policies gather the same rows, and the division by the seconds of an hour does not raise
  have hevaluate : ∀ (t : Number format) (p : ℕ) (after : AlertTotals (Number format)),
      (rows.items.map fun item => (item.1, diagnosed t item.2)).foldlM
        (addAlertRun dataset p) .zero = .ok after →
      evaluateAlertPolicy dataset mask (diagnose proba t) t p =
        .ok ⟨t, p, OrderBy.orderBy AlertRunResult.simulationRunId after.runResults,
          after.falseAlarmEvents,
          after.healthySeconds / (PyFloat.literal 3600.0 : Number format)⟩ := by
    intro t p after hafter
    obtain ⟨hours, hhours, rfl⟩ := truediv_literal after.healthySeconds
      (show (1 : ℚ) ≤ 3600.0 by norm_num)
    rw [evaluateAlertPolicy, predictionsByRun_diagnose, hrows]
    show ((rows.items.map fun item => (item.1, diagnosed t item.2)).foldlM
      (addAlertRun dataset p) .zero >>= _) = _
    rw [hafter, Exceptions.ok_bind, hhours]
    rfl
  refine ⟨_, _, hevaluate _ _ _ hfold, hevaluate _ _ _ hfold', ?_, htotals.alarms, ?_⟩
  · exact OrderBy.forall₂_orderBy (fun _ _ h => h.simulationRunId) htotals.runs
  · show totals'.healthySeconds / _ = totals.healthySeconds / _
    rw [htotals.seconds]

/-- The runs that a policy misses are missed by a stricter one. -/
theorem StricterSummary.missedRuns (h : StricterSummary threshold threshold' summary summary') :
    summary.missedRuns.Sublist summary'.missedRuns := by
  unfold AlertPolicySummary.missedRuns
  obtain ⟨hruns, -, -⟩ := h
  generalize summary.runResults = results at hruns
  generalize summary'.runResults = results' at hruns
  induction hruns with
  | nil => exact List.Sublist.refl _
  | @cons result result' _ _ hresult _ ih =>
      by_cases hmissed' : result'.detected = true
      · -- both detect the run
        rw [List.filter_cons_of_neg (by simpa using hresult.detected hmissed'),
          List.filter_cons_of_neg (by simpa using hmissed')]
        exact ih
      · rw [List.filter_cons_of_pos (a := result') (by simpa using hmissed'), List.map_cons,
          hresult.simulationRunId]
        -- the stricter policy misses this run: the other one may detect it
        by_cases hmissed : result.detected = true
        · rw [List.filter_cons_of_neg (by simpa using hmissed)]
          exact ih.cons _
        · rw [List.filter_cons_of_pos (by simpa using hmissed), List.map_cons]
          exact ih.cons_cons _

/-- The rate of false alarms is computed. -/
theorem exists_falseAlarmsPerHealthyHour (summary : AlertPolicySummary (Number format)) :
    ∃ rate, summary.falseAlarmsPerHealthyHour = .ok rate := by
  rw [AlertPolicySummary.falseAlarmsPerHealthyHour]
  by_cases hhours : summary.healthyHoursEvaluated ≤ PyFloat.ofInt 0
  · exact ⟨_, if_pos hhours⟩
  · refine ⟨_, (if_neg hhours).trans (if_neg ?_)⟩
    rintro hzero
    apply hhours
    rw [Number.le_iff, hzero]
    exact Number.val_zero.ge

/-- Fewer false alarms in the same hours have a lower rate. -/
theorem falseAlarmsPerHealthyHour_le {rate rate' : Number format}
    (hcount : summary'.falseAlarmEventCount ≤ summary.falseAlarmEventCount)
    (hhours : summary'.healthyHoursEvaluated = summary.healthyHoursEvaluated)
    (h : summary.falseAlarmsPerHealthyHour = .ok rate)
    (h' : summary'.falseAlarmsPerHealthyHour = .ok rate') : rate' ≤ rate := by
  rw [AlertPolicySummary.falseAlarmsPerHealthyHour] at h h'
  rw [hhours] at h'
  -- without healthy hours both rates are zero
  by_cases hnone : summary.healthyHoursEvaluated ≤ PyFloat.ofInt 0
  · rw [if_pos hnone] at h h'
    rw [← Except.ok.inj h, ← Except.ok.inj h']
  · have hpos : 0 < summary.healthyHoursEvaluated.val := by
      have hlt := Number.lt_iff.mp (not_le.mp hnone)
      rwa [show (PyFloat.ofInt 0 : Number format).val = 0 from Number.val_zero] at hlt
    rw [if_neg hnone] at h h'
    -- the hours are positive, so the division does not raise
    have hquotient : ∀ {n : ℕ} {q : Number format},
        PyFloat.truediv (PyFloat.ofInt n) summary.healthyHoursEvaluated = .ok q →
          PyFloat.ofInt n / summary.healthyHoursEvaluated = q := by
      intro n q hq
      exact Except.ok.inj ((if_neg hpos.ne').symm.trans hq)
    rw [← hquotient h, ← hquotient h']
    apply Number.div_mono_left _ hpos
    apply Number.ofRat_mono
    exact_mod_cast hcount

/-- A stricter policy detects no run sooner and misses the runs that a laxer one misses. With the
same threshold it raises no more false alarms for each healthy hour. -/
theorem evaluateAlertPolicy_stricter (hrows : rowsByRun dataset mask proba = .ok rows)
    (hnames : NamesFaults dataset) (hthreshold : threshold ≤ threshold')
    (hone : 1 ≤ persistence) (hpersistence : persistence ≤ persistence') :
    ∃ summary summary' rate rate',
      evaluateAlertPolicy dataset mask (diagnose proba threshold) threshold persistence =
        .ok summary ∧
      evaluateAlertPolicy dataset mask (diagnose proba threshold') threshold' persistence' =
        .ok summary' ∧
      summary.falseAlarmsPerHealthyHour = .ok rate ∧
      summary'.falseAlarmsPerHealthyHour = .ok rate' ∧
      List.Forall₂ DetectsNoLater summary.runResults summary'.runResults ∧
      summary.missedRuns.Sublist summary'.missedRuns ∧
      summary'.healthyHoursEvaluated = summary.healthyHoursEvaluated ∧
      (threshold' = threshold → rate' ≤ rate) := by
  obtain ⟨summary, summary', hsummary, hsummary', hstricter⟩ :=
    exists_evaluateAlertPolicy hrows hnames ⟨hthreshold, hone, hpersistence⟩
  obtain ⟨rate, hrate⟩ := exists_falseAlarmsPerHealthyHour summary
  obtain ⟨rate', hrate'⟩ := exists_falseAlarmsPerHealthyHour summary'
  refine ⟨summary, summary', rate, rate', hsummary, hsummary', hrate, hrate', hstricter.runs,
    hstricter.missedRuns, hstricter.hours, fun hsame => ?_⟩
  exact falseAlarmsPerHealthyHour_le (hstricter.alarms hsame) hstricter.hours hrate hrate'

/-! ## What is selected -/

/-- The median of values of which there is one. -/
theorem exists_median {values : List (Number format)} (hne : values ≠ []) :
    ∃ middle, median values = .ok middle := by
  have hlength : 0 < (values.mergeSort fun a b => !decide (b < a)).length := by
    rw [List.length_mergeSort]
    exact List.length_pos_iff.mpr hne
  rw [median]
  generalize (values.mergeSort fun a b => !decide (b < a)) = sorted at hlength
  have hlower : (sorted.length - 1) / 2 < sorted.length := by omega
  have hupper : sorted.length / 2 < sorted.length := by omega
  rw [List.getElem?_eq_getElem hlower, List.getElem?_eq_getElem hupper]
  dsimp only
  by_cases hodd : sorted.length % 2 = 1
  · exact ⟨_, if_pos hodd⟩
  · obtain ⟨middle, hmiddle, -⟩ :=
      truediv_literal (sorted[(sorted.length - 1) / 2] + sorted[sorted.length / 2])
        (show (1 : ℚ) ≤ 2.0 by norm_num)
    exact ⟨middle, (if_neg hodd).trans hmiddle⟩

/-- The median of the latencies can be computed, also where there are none. -/
theorem exists_medianLatency (summary : AlertPolicySummary (Number format)) :
    ∃ latency, medianLatency summary = .ok latency := by
  rw [medianLatency]
  by_cases hnil : summary.latencies = []
  · exact ⟨none, if_pos hnil⟩
  · obtain ⟨middle, hmiddle⟩ := exists_median hnil
    refine ⟨some middle, (if_neg hnil).trans ?_⟩
    rw [hmiddle]
    rfl

variable {multiclassMetrics : List String → Except EvaluationError Unit}
  {pair pair' : Number format × ℕ} {candidate candidate' : PolicyCandidate (Number format)}
  (hmetrics : ∀ diagnosis, multiclassMetrics diagnosis = .ok ())

include hmetrics in
/-- The summary that a candidate is made of. -/
theorem evaluateCandidate_eq_ok_iff :
    evaluateCandidate multiclassMetrics dataset mask proba pair = .ok candidate ↔
      ∃ summary alarms latency,
        evaluateAlertPolicy dataset mask (diagnose proba pair.1) pair.1 pair.2 = .ok summary ∧
        summary.falseAlarmsPerHealthyHour = .ok alarms ∧ medianLatency summary = .ok latency ∧
        candidate =
          { confidenceThreshold := pair.1
            persistenceSamples := pair.2
            missedRunCount := summary.missedRuns.length
            totalFaultRuns := summary.runResults.length
            falseAlarmsPerHealthyHour := alarms
            medianLatencySeconds := latency
            coverage := coverage (diagnose proba pair.1)
            rejected := maxMissedValidationFaultRuns < summary.missedRuns.length
            rejectionReason :=
              if maxMissedValidationFaultRuns < summary.missedRuns.length then
                some ("missed " ++ toString summary.missedRuns.length ++ " of " ++
                  toString summary.runResults.length ++ " validation fault runs (cap is " ++
                  toString maxMissedValidationFaultRuns ++ ")")
              else none } := by
  rw [evaluateCandidate, computeCoverageMetrics_eq hmetrics, Exceptions.ok_bind]
  simp only [Exceptions.bind_eq_ok, Exceptions.mapError_eq_ok]
  constructor
  · rintro ⟨summary, hsummary, alarms, halarms, latency, hlatency, hcandidate⟩
    exact ⟨summary, alarms, latency, hsummary, halarms, hlatency, (Except.ok.inj hcandidate).symm⟩
  · rintro ⟨summary, alarms, latency, hsummary, halarms, hlatency, rfl⟩
    exact ⟨summary, hsummary, alarms, halarms, latency, hlatency, rfl⟩

include hmetrics in
/-- Every pair whose persistence is positive makes a candidate. -/
theorem exists_evaluateCandidate (hrows : rowsByRun dataset mask proba = .ok rows)
    (hnames : NamesFaults dataset) (hone : 1 ≤ pair.2) :
    ∃ candidate, evaluateCandidate multiclassMetrics dataset mask proba pair = .ok candidate := by
  obtain ⟨summary, -, hsummary, -, -⟩ :=
    exists_evaluateAlertPolicy hrows hnames ⟨le_refl pair.1, hone, le_rfl⟩
  obtain ⟨alarms, halarms⟩ := exists_falseAlarmsPerHealthyHour summary
  obtain ⟨latency, hlatency⟩ := exists_medianLatency summary
  exact ⟨_, (evaluateCandidate_eq_ok_iff hmetrics).mpr
    ⟨summary, alarms, latency, hsummary, halarms, hlatency, rfl⟩⟩

/-- A candidate and a stricter one. -/
structure StricterCandidate (candidate candidate' : PolicyCandidate (Number format)) : Prop where
  missed : candidate.missedRunCount ≤ candidate'.missedRunCount
  total : candidate'.totalFaultRuns = candidate.totalFaultRuns
  rejected : candidate.rejected = true → candidate'.rejected = true
  coverage : candidate'.coverage ≤ candidate.coverage
  alarms : candidate'.confidenceThreshold = candidate.confidenceThreshold →
    candidate'.falseAlarmsPerHealthyHour ≤ candidate.falseAlarmsPerHealthyHour

include hmetrics in
/-- The candidate of a stricter pair misses no fewer runs and covers no more rows. -/
theorem stricterCandidate (hrows : rowsByRun dataset mask proba = .ok rows)
    (hnames : NamesFaults dataset) (hstrict : Stricter pair.1 pair'.1 pair.2 pair'.2)
    (h : evaluateCandidate multiclassMetrics dataset mask proba pair = .ok candidate)
    (h' : evaluateCandidate multiclassMetrics dataset mask proba pair' = .ok candidate') :
    StricterCandidate candidate candidate' := by
  obtain ⟨summary, alarms, latency, hsummary, halarms, -, rfl⟩ :=
    (evaluateCandidate_eq_ok_iff hmetrics).mp h
  obtain ⟨summary', alarms', latency', hsummary', halarms', -, rfl⟩ :=
    (evaluateCandidate_eq_ok_iff hmetrics).mp h'
  -- both policies were evaluated over the same rows, so their summaries can be compared
  obtain ⟨_, _, hevaluated, hevaluated', hstricter⟩ :=
    exists_evaluateAlertPolicy hrows hnames hstrict
  obtain rfl := Except.ok.inj (hevaluated.symm.trans hsummary)
  obtain rfl := Except.ok.inj (hevaluated'.symm.trans hsummary')
  have hmissed := hstricter.missedRuns.length_le
  exact
    { missed := hmissed
      total := hstricter.runs.length_eq.symm
      rejected := fun hrejected =>
        decide_eq_true ((of_decide_eq_true hrejected).trans_le hmissed)
      coverage := coverage_diagnose_anti hstrict.threshold_le proba
      alarms := fun hsame =>
        falseAlarmsPerHealthyHour_le (hstricter.alarms hsame) hstricter.hours halarms halarms' }

/-- Every pair of the grid asks for at least two rows. -/
theorem two_le_of_mem_policyGrid (hpair : pair ∈ policyGrid) : 2 ≤ pair.2 := by
  have hpersistence : pair.2 ∈ persistenceGrid := (List.mem_product.mp hpair).2
  exact (by decide : ∀ n ∈ persistenceGrid, 2 ≤ n) _ hpersistence

variable (format) in
/-- The first pair of the grid is the laxest one. -/
theorem laxest_policyGrid : ∃ others, (policyGrid : List (Number format × ℕ)) =
    (PyFloat.literal 0.50, 2) :: others ∧
      ∀ pair ∈ policyGrid, Stricter (PyFloat.literal 0.50 : Number format) pair.1 2 pair.2 := by
  refine ⟨_, rfl, fun pair hpair => ⟨?_, by decide, two_le_of_mem_policyGrid hpair⟩⟩
  have hthreshold : pair.1 ∈ confidenceThresholdGrid := (List.mem_product.mp hpair).1
  obtain ⟨q, hq, heq⟩ := List.mem_map.mp hthreshold
  rw [← heq]
  apply Number.ofRat_mono
  exact (by norm_num : ∀ q ∈ ([0.50, 0.60, 0.70, 0.80, 0.90] : List ℚ), 0.50 ≤ q) q hq

/-- The pool from which one is selected: those that are rejected like it. -/
theorem exists_selected {candidates : List (PolicyCandidate (Number format))}
    (hne : candidates ≠ []) {survivors pool : List (PolicyCandidate (Number format))}
    (hsurvivors : survivors = candidates.filter fun candidate => ¬ candidate.rejected)
    (hpool : pool = if survivors ≠ [] then survivors else candidates) :
    ∃ selected, pool.argmin PolicyCandidate.sortKey = some selected ∧
      (selected.rejected = true ↔ ∀ candidate ∈ candidates, candidate.rejected = true) ∧
      pool = candidates.filter fun candidate => candidate.rejected = selected.rejected := by
  have hpoolne : pool ≠ [] := by
    rw [hpool]
    split_ifs with hsome
    · exact hsome
    · exact hne
  obtain ⟨selected, hselected⟩ :
      ∃ selected, pool.argmin PolicyCandidate.sortKey = some selected := by
    cases hargmin : pool.argmin PolicyCandidate.sortKey with
    | none => exact absurd (List.argmin_eq_none.mp hargmin) hpoolne
    | some selected => exact ⟨selected, rfl⟩
  have hmem : selected ∈ pool := List.argmin_mem hselected
  refine ⟨selected, hselected, ?_⟩
  -- the pool is the survivors if there are any, and all candidates otherwise
  by_cases hsome : survivors ≠ []
  · rw [if_pos hsome, hsurvivors] at hpool
    rw [hpool, List.mem_filter] at hmem
    have haccepted : selected.rejected = false := by simpa using hmem.2
    rw [haccepted]
    refine ⟨⟨fun h => absurd h Bool.false_ne_true, fun hall => ?_⟩, ?_⟩
    · exact absurd (hall selected hmem.1) (by simp [haccepted])
    · rw [hpool]
      refine List.filter_congr fun candidate _ => ?_
      cases candidate.rejected <;> rfl
  · rw [if_neg hsome] at hpool
    rw [hpool] at hmem
    have hall : ∀ candidate ∈ candidates, candidate.rejected = true := by
      have hnone := List.filter_eq_nil_iff.mp (hsurvivors ▸ not_not.mp hsome)
      intro candidate hcandidate
      simpa using hnone candidate hcandidate
    refine ⟨⟨fun _ => hall, fun _ => hall selected hmem⟩, ?_⟩
    rw [hpool, eq_comm, List.filter_eq_self]
    intro candidate hcandidate
    exact decide_eq_true ((hall candidate hcandidate).trans (hall selected hmem).symm)

/-- What a search returns. -/
structure SearchOutcome (multiclassMetrics : List String → Except EvaluationError Unit)
    (dataset : ExperimentDataset (Number format)) (mask : List Bool)
    (proba : List (ProbaRow (Number format) classes))
    (result : PolicySearchResult (Number format)) : Prop where
  /-- Every pair is tried, and what it gives is recorded. -/
  tried : List.Forall₂ (fun pair candidate =>
    evaluateCandidate multiclassMetrics dataset mask proba pair = .ok candidate) policyGrid
      result.candidates
  stricter : ∀ candidate ∈ result.candidates, ∀ candidate' ∈ result.candidates,
    candidate.confidenceThreshold ≤ candidate'.confidenceThreshold →
    candidate.persistenceSamples ≤ candidate'.persistenceSamples →
      StricterCandidate candidate candidate'
  /-- A rejected candidate is selected if the laxest one is rejected, and only then. -/
  laxest : ∀ candidate, result.candidates.head? = some candidate →
    (result.selected.rejected = true ↔ candidate.rejected = true)
  /-- Among those that are rejected like it, the selected one is the first of the least. -/
  selected : ∃ before after,
    (result.candidates.filter fun candidate => candidate.rejected = result.selected.rejected) =
      before ++ result.selected :: after ∧
    (∀ candidate ∈ before, result.selected.sortKey < candidate.sortKey) ∧
    ∀ candidate ∈ after, result.selected.sortKey ≤ candidate.sortKey

/-- The search returns. It selects a candidate that misses too many runs only if the one with the
lowest threshold and the shortest persistence does. -/
theorem searchPolicies_outcome (hmetrics : ∀ diagnosis, multiclassMetrics diagnosis = .ok ())
    (hrows : rowsByRun dataset mask proba = .ok rows) (hnames : NamesFaults dataset) :
    ∃ result, searchPolicies multiclassMetrics dataset mask proba = .ok result ∧
      SearchOutcome multiclassMetrics dataset mask proba result := by
  obtain ⟨candidates, hcandidates⟩ :
      ∃ candidates, policyGrid.mapM (evaluateCandidate multiclassMetrics dataset mask proba) =
        .ok candidates := by
    rw [Exceptions.exists_mapM_eq_ok_iff]
    intro pair hpair
    exact exists_evaluateCandidate hmetrics hrows hnames
      (one_le_two.trans (two_le_of_mem_policyGrid hpair))
  have htried := Exceptions.mapM_eq_ok_iff.mp hcandidates
  have hpair : ∀ candidate ∈ candidates, ∃ pair ∈ policyGrid,
      evaluateCandidate multiclassMetrics dataset mask proba pair = .ok candidate :=
    fun candidate => (Exceptions.mem_of_mapM hcandidates).mp
  obtain ⟨others, hgrid, hlaxest⟩ := laxest_policyGrid format
  -- the laxest candidate comes first
  obtain ⟨laxest, rest, hfirst, -, rfl⟩ := List.forall₂_cons_left_iff.mp (hgrid ▸ htried)
  -- whatever the laxest pair misses, every other pair misses
  have hrejected : laxest.rejected = true → ∀ candidate ∈ laxest :: rest,
      candidate.rejected = true := by
    intro hlax candidate hcandidate
    obtain ⟨pair, hmem, heval⟩ := hpair candidate hcandidate
    exact (stricterCandidate hmetrics hrows hnames (hlaxest pair hmem) hfirst heval).rejected hlax
  obtain ⟨selected, hselected, hall, hpool⟩ :=
    exists_selected (List.cons_ne_nil laxest rest) rfl rfl
  refine ⟨⟨laxest :: rest, selected⟩, ?_, htried, ?_, ?_, ?_⟩
  -- the parts of the outcome, in the order of its fields
  · rw [searchPolicies, hcandidates, Exceptions.ok_bind]
    dsimp only
    rw [hselected]
  · intro candidate hcandidate candidate' hcandidate' hthreshold hpersistence
    obtain ⟨pair, hmem, heval⟩ := hpair candidate hcandidate
    obtain ⟨pair', -, heval'⟩ := hpair candidate' hcandidate'
    obtain ⟨_, _, _, -, -, -, heq⟩ := (evaluateCandidate_eq_ok_iff hmetrics).mp heval
    obtain ⟨_, _, _, -, -, -, heq'⟩ := (evaluateCandidate_eq_ok_iff hmetrics).mp heval'
    rw [heq, heq'] at hthreshold hpersistence
    exact stricterCandidate hmetrics hrows hnames
      ⟨hthreshold, one_le_two.trans (two_le_of_mem_policyGrid hmem), hpersistence⟩ heval heval'
  · intro candidate hhead
    obtain rfl : laxest = candidate := Option.some.inj hhead
    exact hall.trans ⟨fun h => h laxest List.mem_cons_self, hrejected⟩
  · rw [← hpool]
    exact OrderBy.exists_split_of_argmin hselected

/-- A run of four rows, whose fault starts after the first one. -/
def faultyDataset : ExperimentDataset (Number (.exact id id 3)) where
  rows := [⟨"run-1", "stack-1", .ofRat _ 10⟩, ⟨"run-1", "stack-1", .ofRat _ 20⟩,
    ⟨"run-1", "stack-1", .ofRat _ 30⟩, ⟨"run-1", "stack-1", .ofRat _ 40⟩]
  runMetadata :=
    OrderedDict.empty.set "run-1" ⟨"hydrogen_supply_issue", "stack-1", some (.ofRat _ 20)⟩

/-- The probabilities of a row, in percent. -/
def percentRow (cooling healthy hydrogen : ℚ) :
    ProbaRow (Number (.exact id id 3)) plantAlphaClasses :=
  ⟨[.ofRat _ (cooling / 100), .ofRat _ (healthy / 100), .ofRat _ (hydrogen / 100), .ofRat _ 0], rfl⟩

/-- The fault is seen from the second row on. -/
def faultyProba : List (ProbaRow (Number (.exact id id 3)) plantAlphaClasses) :=
  [percentRow 5 95 0, percentRow 5 20 75, percentRow 0 5 95, percentRow 0 15 85]

/-- The rows, as they are gathered. -/
def faultyRuns : OrderedDict (id : String → String)
    (List (Number (.exact id id 3) × ProbaRow (Number (.exact id id 3)) plantAlphaClasses)) :=
  OrderedDict.empty.set "run-1"
    ((faultyDataset.rows.map DatasetRow.elapsedSimSeconds).zip faultyProba)

/-- The rows of the dataset, by their run. -/
theorem rowsByRun_faulty :
    rowsByRun faultyDataset [true, true, true, true] faultyProba = .ok faultyRuns := rfl

/-- No run of the dataset is of a class called uncertain. -/
theorem namesFaults_faulty : NamesFaults faultyDataset := by
  intro runId metadata hmetadata
  obtain ⟨_, hitem, -⟩ := OrderedDict.get?_eq_some_iff.mp hmetadata
  rw [(Prod.mk.inj (List.mem_singleton.mp hitem)).2]
  decide

/-- Two thresholds and two persistences over the run. -/
theorem evaluateAlertPolicy_stricter_faulty :
    let mask := [true, true, true, true]
    let threshold : Number (.exact id id 3) := .ofRat _ 0.6
    let threshold' : Number (.exact id id 3) := .ofRat _ 0.8
    ∃ summary summary' rate rate',
      evaluateAlertPolicy faultyDataset mask (diagnose faultyProba threshold) threshold 2 =
        .ok summary ∧
      evaluateAlertPolicy faultyDataset mask (diagnose faultyProba threshold') threshold' 3 =
        .ok summary' ∧
      summary.falseAlarmsPerHealthyHour = .ok rate ∧
      summary'.falseAlarmsPerHealthyHour = .ok rate' ∧
      List.Forall₂ DetectsNoLater summary.runResults summary'.runResults ∧
      summary.missedRuns.Sublist summary'.missedRuns ∧
      summary'.healthyHoursEvaluated = summary.healthyHoursEvaluated ∧
      (threshold' = threshold → rate' ≤ rate) :=
  evaluateAlertPolicy_stricter rowsByRun_faulty namesFaults_faulty (by decide +kernel) (by decide)
    (by decide)

/-- The search over the run, with metrics that are computed. -/
theorem searchPolicies_outcome_faulty : ∃ result,
    searchPolicies (fun _ => .ok ()) faultyDataset [true, true, true, true] faultyProba =
        .ok result ∧
      SearchOutcome (fun _ => .ok ()) faultyDataset [true, true, true, true] faultyProba result :=
  searchPolicies_outcome (fun _ => rfl) rowsByRun_faulty namesFaults_faulty

end Calibration

end Odis.AlertPolicy
