import Mathlib.Data.Finset.Insert
import Mathlib.Data.String.Basic
import Odis.AlertPolicy.RunCharacterisation
import Odis.Library.Exceptions
import Odis.Library.OrderBy
import Odis.Library.OrderedDict
import Odis.Python.Float

/-!
# Evaluation of an alert policy on a dataset

The state machine is run over the rows of every run of a dataset: over all rows of the fault runs,
to see whether the fault is detected (`alert_policy/detection.py`), and over the healthy rows of
every run, to count the false alerts (`alert_policy/event_metrics.py`). The rows of a run are those
of its target asset, in the order of their elapsed times.
-/

namespace Odis.AlertPolicy

variable {F : Type} [PyFloat F] {classes : ClassOrder}

/-! ## The dataset -/

/-- What the evaluation reads of `RunMetadata`. -/
structure RunMetadata (F : Type) where
  scenarioClassLabel : String
  targetAssetId : String
  faultStartSimSeconds : Option F

/-- `fault_class`. -/
def RunMetadata.faultClass (metadata : RunMetadata F) : Option String :=
  if metadata.scenarioClassLabel = "normal_operation" then none
  else some metadata.scenarioClassLabel

/-- A row of the arrays of a dataset. -/
structure DatasetRow (F : Type) where
  runId : String
  assetId : String
  elapsedSimSeconds : F

/-- What the evaluation reads of `ExperimentDataset`. -/
structure ExperimentDataset (F : Type) where
  rows : List (DatasetRow F)
  runMetadata : OrderedDict (id : String → String) (RunMetadata F)

/-- What an evaluation raises. -/
inductive EvaluationError where
  | indexError
  | keyError (runId : String)
  | run (error : RunError)
  | arithmetic (error : ArithmeticError)

/-- `dictionary.setdefault(run_id, []).append(row)`. -/
def appendRow {R : Type} (sequences : OrderedDict (id : String → String) (List R)) (runId : String)
    (row : R) : OrderedDict (id : String → String) (List R) :=
  sequences.set runId ((sequences.get? runId).getD [] ++ [row])

/-- `np.nonzero(mask)[0]`. -/
def nonzero (mask : List Bool) : List ℕ :=
  (List.range mask.length).filter fun i => mask[i]? = some true

/-- A step of the loop that gathers the rows of every run, at an index of the dataset and its
position among the masked rows. -/
def gatherRow (dataset : ExperimentDataset F) (proba : List (ProbaRow F classes))
    (rowsByRun : OrderedDict (id : String → String) (List (F × ProbaRow F classes)))
    (indexed : ℕ × ℕ) :
    Except EvaluationError
      (OrderedDict (id : String → String) (List (F × ProbaRow F classes))) :=
  match dataset.rows[indexed.1]? with
  | none => .error .indexError
  | some row =>
      match dataset.runMetadata.get? row.runId with
      | none => .ok rowsByRun
      | some metadata =>
          -- the other assets of a run are left out
          if row.assetId ≠ metadata.targetAssetId then .ok rowsByRun
          else
            match proba[indexed.2]? with
            | none => .error .indexError
            | some probaRow =>
                .ok (appendRow rowsByRun row.runId (row.elapsedSimSeconds, probaRow))

/-- `rows_by_run`: the masked rows of the target asset of every run. -/
def rowsByRun (dataset : ExperimentDataset F) (mask : List Bool)
    (proba : List (ProbaRow F classes)) : Except EvaluationError
      (OrderedDict (id : String → String) (List (F × ProbaRow F classes))) :=
  (nonzero mask).zipIdx.foldlM (gatherRow dataset proba) .empty

/-- Rows in the order of their elapsed times. -/
def sortByElapsed {R : Type} (elapsed : R → F) (rows : List R) : List R :=
  rows.mergeSort fun a b => !decide (elapsed b < elapsed a)

/-! ## Detection -/

/-- `RunDetectionResult`. -/
structure RunDetectionResult (F : Type) where
  simulationRunId : String
  faultClass : String
  faultStartSimSeconds : F
  correctClassDetected : Bool
  correctClassLatencySeconds : Option F
  anyFaultDetected : Bool
  anyFaultLatencySeconds : Option F
  anyFaultClassAtFirstDetection : Option String
  incorrectClassConfirmedBeforeCorrect : Bool
  confirmedActiveAtOnset : Bool
  confirmedClassAtOnset : Option String

/-- The class that the events before the onset leave confirmed. -/
def confirmedClassAtOnset (events : List (AlertEvent F)) (faultStart : F) : Option String :=
  (events.takeWhile fun event => ¬ faultStart ≤ event.elapsedSimSeconds).foldl
    (fun _ event =>
      match event.eventType with
      | .newAlert => event.faultClass
      | .classChange => event.faultClass
      | .cleared => none) none

/-- The part of `evaluate_run_detection` after the run of the machine. -/
def detectionOfEvents (events : List (AlertEvent F)) (simulationRunId faultClass : String)
    (faultStart : F) : RunDetectionResult F :=
  let postOnset := events.filter fun event =>
    faultStart ≤ event.elapsedSimSeconds ∧ event.eventType ≠ .cleared
  let anyFault := postOnset.head?
  let correctClass := postOnset.find? fun event => event.faultClass = some faultClass
  let onset := confirmedClassAtOnset events faultStart
  { simulationRunId
    faultClass
    faultStartSimSeconds := faultStart
    correctClassDetected := correctClass.isSome
    correctClassLatencySeconds := correctClass.map fun event =>
      event.elapsedSimSeconds - faultStart
    anyFaultDetected := anyFault.isSome
    anyFaultLatencySeconds := anyFault.map fun event => event.elapsedSimSeconds - faultStart
    anyFaultClassAtFirstDetection := anyFault.bind AlertEvent.faultClass
    incorrectClassConfirmedBeforeCorrect :=
      match anyFault, correctClass with
      | some event, none => event.faultClass ≠ some faultClass
      | some event, some correct => event.faultClass ≠ some faultClass ∧
          event.elapsedSimSeconds < correct.elapsedSimSeconds
      | none, _ => false
    confirmedActiveAtOnset := onset.isSome
    confirmedClassAtOnset := onset }

/-- `evaluate_run_detection`. -/
def evaluateRunDetection (config : StateMachineConfig F) (elapsed : List F)
    (proba : List (ProbaRow F classes)) (simulationRunId faultClass : String) (faultStart : F)
    (rowValid : Option (List Bool)) : Except EvaluationError (RunDetectionResult F) :=
  ((runStateMachine config elapsed proba rowValid).mapError .run).map fun result =>
    detectionOfEvents result.events simulationRunId faultClass faultStart

/-- The results of a loop over runs, some of which are passed over. -/
def collectResults {R : Type} (items : List (String × R))
    (evaluate : String → R → Except EvaluationError (Option (RunDetectionResult F))) :
    Except EvaluationError (List (RunDetectionResult F)) :=
  (items.mapM fun item => evaluate item.1 item.2).map List.reduceOption

/-- The round of the loop of `evaluate_detection` for a run. -/
def evaluateRun (dataset : ExperimentDataset F) (config : StateMachineConfig F) (runId : String)
    (rows : List (F × ProbaRow F classes)) :
    Except EvaluationError (Option (RunDetectionResult F)) :=
  match dataset.runMetadata.get? runId with
  | none => .error (.keyError runId)
  | some metadata =>
      match metadata.faultClass, metadata.faultStartSimSeconds with
      | some faultClass, some faultStart =>
          let rows := sortByElapsed Prod.fst rows
          (evaluateRunDetection config (rows.map Prod.fst) (rows.map Prod.snd) runId faultClass
            faultStart none).map some
      | _, _ => .ok none

/-- `evaluate_detection`: the `run_results` of its `DetectionSummary`. -/
def evaluateDetection (dataset : ExperimentDataset F) (mask : List Bool)
    (proba : List (ProbaRow F classes)) (config : StateMachineConfig F) :
    Except EvaluationError (List (RunDetectionResult F)) := do
  let rowsByRun ← rowsByRun dataset mask proba
  let results ← collectResults rowsByRun.items (evaluateRun dataset config)
  return OrderBy.orderBy RunDetectionResult.simulationRunId results

/-! ## False alerts -/

/-- `FalseEpisode`. -/
structure FalseEpisode (F : Type) where
  simulationRunId : String
  faultClass : String
  startElapsedSimSeconds : F
  endElapsedSimSeconds : F
  censored : Bool

/-- The episodes so far, and the one that is open. -/
structure EpisodeScan (F : Type) where
  episodes : List (FalseEpisode F)
  opened : Option (F × String)

/-- The scan of `episodes_from_events` over an event, which always has a class. -/
def EpisodeScan.step (runId : String) (scan : EpisodeScan F) (event : AlertEvent F) :
    EpisodeScan F :=
  let reopened := event.faultClass.map fun faultClass => (event.elapsedSimSeconds, faultClass)
  match event.eventType, scan.opened with
  | .newAlert, _ => { scan with opened := reopened }
  | .classChange, some (start, faultClass) =>
      ⟨scan.episodes ++ [⟨runId, faultClass, start, event.elapsedSimSeconds, false⟩], reopened⟩
  | .cleared, some (start, faultClass) =>
      ⟨scan.episodes ++ [⟨runId, faultClass, start, event.elapsedSimSeconds, false⟩], none⟩
  | _, none => scan

/-- `episodes_from_events`. -/
def episodesFromEvents (runId : String) (events : List (AlertEvent F)) (segmentEnd : F) :
    List (FalseEpisode F) :=
  let scan := events.foldl (EpisodeScan.step runId) ⟨[], none⟩
  match scan.opened with
  | some (start, faultClass) =>
      scan.episodes ++ [⟨runId, faultClass, start, segmentEnd, true⟩]
  | none => scan.episodes

/-- `FalseAlertSummary`: the episodes of the healthy segments, and what they were counted over. -/
structure FalseAlertSummary (F : Type) where
  episodes : List (FalseEpisode F)
  falseAnomalousRowCount : ℕ
  healthyHoursEvaluated : F
  healthyRunIdsWithAlert : Finset String
  totalHealthyRunSegments : ℕ

/-- What the loop over the runs adds up. -/
structure FalseAlertTotals (F : Type) where
  episodes : List (FalseEpisode F)
  falseRowCount : ℕ
  healthySeconds : F
  runsWithAlert : Finset String
  segmentCount : ℕ

/-- `DT_SECONDS`. -/
def dtSeconds : F := PyFloat.literal 10.0

namespace FalseAlertTotals

/-- The totals before the loop. -/
def zero : FalseAlertTotals F := ⟨[], 0, PyFloat.literal 0.0, ∅, 0⟩

/-- The totals with the segment of a run: its anomalous rows, its scored rows and its episodes. -/
def add (totals : FalseAlertTotals F) (runId : String) (falseRows scoredRows : ℕ)
    (episodes : List (FalseEpisode F)) : FalseAlertTotals F where
  episodes := totals.episodes ++ episodes
  falseRowCount := totals.falseRowCount + falseRows
  healthySeconds := totals.healthySeconds + PyFloat.ofInt scoredRows * dtSeconds
  runsWithAlert := if episodes = [] then totals.runsWithAlert else insert runId totals.runsWithAlert
  segmentCount := totals.segmentCount + 1

/-- The summary of the totals. -/
def summary (totals : FalseAlertTotals F) : Except EvaluationError (FalseAlertSummary F) :=
  ((PyFloat.truediv totals.healthySeconds (PyFloat.literal 3600.0)).mapError .arithmetic).map
    fun hours => ⟨totals.episodes, totals.falseRowCount, hours, totals.runsWithAlert,
      totals.segmentCount⟩

end FalseAlertTotals

/-- The healthy rows of a run: all of them, or those before the fault. -/
def healthySegment {R : Type} (metadata : RunMetadata F) (elapsed : R → F) (rows : List R) :
    List R :=
  match metadata.faultClass with
  | none => rows
  | some _ =>
      match metadata.faultStartSimSeconds with
      | none => []
      | some faultStart => rows.filter fun row => elapsed row < faultStart

/-- The round of the loop of `compute_false_alert_summary` for a run. -/
def addFalseAlerts (dataset : ExperimentDataset F) (config : StateMachineConfig F)
    (totals : FalseAlertTotals F) (item : String × List (F × ProbaRow F classes)) :
    Except EvaluationError (FalseAlertTotals F) :=
  match dataset.runMetadata.get? item.1 with
  | none => .error (.keyError item.1)
  | some metadata =>
      let healthyRows := healthySegment metadata Prod.fst (sortByElapsed Prod.fst item.2)
      match healthyRows.getLast? with
      -- no healthy rows, nothing to count
      | none => .ok totals
      | some last =>
          ((runStateMachine config (healthyRows.map Prod.fst) (healthyRows.map Prod.snd)
            none).mapError .run).map fun result =>
              totals.add item.1 (result.rowStates.countP fun state => state ≠ healthyState)
                healthyRows.length
                (episodesFromEvents item.1 result.events (last.1 + dtSeconds))

/-- `compute_false_alert_summary`. -/
def computeFalseAlertSummary (dataset : ExperimentDataset F) (mask : List Bool)
    (proba : List (ProbaRow F classes)) (config : StateMachineConfig F) :
    Except EvaluationError (FalseAlertSummary F) := do
  let rowsByRun ← rowsByRun dataset mask proba
  let totals ← rowsByRun.items.foldlM (addFalseAlerts dataset config) .zero
  totals.summary

end Odis.AlertPolicy
