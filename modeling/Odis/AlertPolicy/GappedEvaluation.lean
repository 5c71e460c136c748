import Odis.AlertPolicy.Evaluation

/-!
# Evaluation with insufficient data

The evaluation of `ood/gapped_alert_evaluation.py` runs the machine over the rows of a dataset and
the rows that were rejected, in one sequence for every run. Without rejected rows it is the
evaluation of the dataset alone.

* `evaluateGapped_eq`: the two evaluations agree then, in everything they return.
-/

namespace Odis.AlertPolicy

variable {F : Type} [PyFloat F] {classes : ClassOrder}

/-! ## The merged sequences -/

/-- `GappedRow`. -/
structure GappedRow (F : Type) (classes : ClassOrder) where
  elapsedSimSeconds : F
  proba : ProbaRow F classes
  valid : Bool

/-- What the evaluation reads of `RejectedRow`. -/
structure RejectedRow (F : Type) where
  simulationRunId : String
  assetId : String
  elapsedSimSeconds : F

/-- `np.zeros(n_classes)`. -/
def dummyProba : ProbaRow F classes :=
  ⟨List.replicate classes.labels.length (PyFloat.literal 0), List.length_replicate⟩

/-- The merged sequence of every run. -/
abbrev GappedSequences (F : Type) (classes : ClassOrder) : Type :=
  OrderedDict (id : String → String) (List (GappedRow F classes))

/-- A step of the loop over the rows of the dataset. -/
def gatherValid (dataset : ExperimentDataset F) (proba : List (ProbaRow F classes))
    (sequences : GappedSequences F classes) (idx : ℕ) :
    Except EvaluationError (GappedSequences F classes) :=
  match dataset.rows[idx]? with
  | none => .error .indexError
  | some row =>
      match dataset.runMetadata.get? row.runId with
      | none => .ok sequences
      | some metadata =>
          -- the other assets of a run are left out
          if row.assetId ≠ metadata.targetAssetId then .ok sequences
          else
            match proba[idx]? with
            | none => .error .indexError
            | some probaRow =>
                .ok (appendRow sequences row.runId ⟨row.elapsedSimSeconds, probaRow, true⟩)

/-- A step of the loop over the rejected rows. -/
def gatherRejected (dataset : ExperimentDataset F) (sequences : GappedSequences F classes)
    (row : RejectedRow F) : GappedSequences F classes :=
  match dataset.runMetadata.get? row.simulationRunId with
  | none => sequences
  | some metadata =>
      if row.assetId ≠ metadata.targetAssetId then sequences
      else appendRow sequences row.simulationRunId ⟨row.elapsedSimSeconds, dummyProba, false⟩

/-- `_target_asset_gapped_sequences`. -/
def targetAssetGappedSequences (dataset : ExperimentDataset F) (proba : List (ProbaRow F classes))
    (rejectedRows : List (RejectedRow F)) : Except EvaluationError (GappedSequences F classes) := do
  let sequences ← (List.range dataset.rows.length).foldlM (gatherValid dataset proba) .empty
  let sequences := rejectedRows.foldl (gatherRejected dataset) sequences
  return sequences.map (sortByElapsed GappedRow.elapsedSimSeconds)

/-! ## The evaluation -/

/-- The round of the loop of `evaluate_gapped_detection` for a run. -/
def evaluateGappedRun (sequences : GappedSequences F classes) (config : StateMachineConfig F)
    (runId : String) (metadata : RunMetadata F) :
    Except EvaluationError (Option (RunDetectionResult F)) :=
  match metadata.faultClass, metadata.faultStartSimSeconds with
  | some faultClass, some faultStart =>
      match sequences.get? runId with
      | none => .ok none
      | some [] => .ok none
      | some (first :: rest) =>
          let rows := first :: rest
          (evaluateRunDetection config (rows.map GappedRow.elapsedSimSeconds)
            (rows.map GappedRow.proba) runId faultClass faultStart
            (some (rows.map GappedRow.valid))).map some
  | _, _ => .ok none

/-- `evaluate_gapped_detection`: the `run_results` of its `DetectionSummary`. -/
def evaluateGappedDetection (dataset : ExperimentDataset F) (proba : List (ProbaRow F classes))
    (rejectedRows : List (RejectedRow F)) (config : StateMachineConfig F) :
    Except EvaluationError (List (RunDetectionResult F)) := do
  let sequences ← targetAssetGappedSequences dataset proba rejectedRows
  let results ← collectResults dataset.runMetadata.items (evaluateGappedRun sequences config)
  return OrderBy.orderBy RunDetectionResult.simulationRunId results

/-- The round of the loop of `evaluate_gapped_false_alerts` for a run. -/
def addGappedFalseAlerts (dataset : ExperimentDataset F) (config : StateMachineConfig F)
    (totals : FalseAlertTotals F) (item : String × List (GappedRow F classes)) :
    Except EvaluationError (FalseAlertTotals F) :=
  match dataset.runMetadata.get? item.1 with
  | none => .error (.keyError item.1)
  | some metadata =>
      let healthyRows := healthySegment metadata GappedRow.elapsedSimSeconds item.2
      match healthyRows.getLast? with
      | none => .ok totals
      | some last =>
          ((runStateMachine config (healthyRows.map GappedRow.elapsedSimSeconds)
            (healthyRows.map GappedRow.proba)
            (some (healthyRows.map GappedRow.valid))).mapError .run).map fun result =>
              totals.add item.1
                (result.rowStates.countP fun state =>
                  state ≠ healthyState ∧ state ≠ insufficientDataState)
                (healthyRows.countP GappedRow.valid)
                (episodesFromEvents item.1 result.events (last.elapsedSimSeconds + dtSeconds))

/-- `evaluate_gapped_false_alerts`. -/
def evaluateGappedFalseAlerts (dataset : ExperimentDataset F) (proba : List (ProbaRow F classes))
    (rejectedRows : List (RejectedRow F)) (config : StateMachineConfig F) :
    Except EvaluationError (FalseAlertSummary F) := do
  let sequences ← targetAssetGappedSequences dataset proba rejectedRows
  let totals ← sequences.items.foldlM (addGappedFalseAlerts dataset config) .zero
  totals.summary

/-! ## Without rejected rows -/

section Valid

/-- A row that is not rejected. -/
def GappedRow.ofRow (row : F × ProbaRow F classes) : GappedRow F classes := ⟨row.1, row.2, true⟩

/-- The sequences of rows none of which is rejected. -/
def validSequences
    (rowsByRun : OrderedDict (id : String → String) (List (F × ProbaRow F classes))) :
    GappedSequences F classes :=
  rowsByRun.mapValues (List.map GappedRow.ofRow)

/-- Where every row is valid, the valid indices are all indices. -/
theorem nonzero_replicate (n : ℕ) : nonzero (List.replicate n true) = List.range n := by
  rw [nonzero, List.length_replicate, List.filter_eq_self]
  intro i hi
  rw [List.getElem?_replicate, if_pos (List.mem_range.mp hi)]
  exact decide_eq_true rfl

/-- The positions of a range are its numbers. -/
theorem zipIdx_range (n : ℕ) : (List.range n).zipIdx = (List.range n).map fun i => (i, i) := by
  apply List.ext_getElem
  · simp
  · intro i hi hi'
    simp

omit [PyFloat F] in
/-- Appending a row and making it one of a gapped sequence commute. -/
theorem appendRow_validSequences
    (rowsByRun : OrderedDict (id : String → String) (List (F × ProbaRow F classes)))
    (runId : String) (row : F × ProbaRow F classes) :
    appendRow (validSequences rowsByRun) runId (.ofRow row) =
      validSequences (appendRow rowsByRun runId row) := by
  rw [validSequences, appendRow, appendRow, OrderedDict.get?_mapValues, validSequences,
    OrderedDict.mapValues_set, List.map_append]
  cases rowsByRun.get? runId <;> rfl

omit [PyFloat F] in
/-- The gapped evaluation gathers a valid row as the plain one does. -/
theorem gatherValid_validSequences (dataset : ExperimentDataset F)
    (proba : List (ProbaRow F classes))
    (rowsByRun : OrderedDict (id : String → String) (List (F × ProbaRow F classes))) (idx : ℕ) :
    gatherValid dataset proba (validSequences rowsByRun) idx =
      (gatherRow dataset proba rowsByRun (idx, idx)).map validSequences := by
  rw [gatherValid, gatherRow]
  cases dataset.rows[idx]? with
  | none => rfl
  | some row =>
      dsimp only
      cases dataset.runMetadata.get? row.runId with
      | none => rfl
      | some metadata =>
          dsimp only
          by_cases htarget : row.assetId ≠ metadata.targetAssetId
          · rw [if_pos htarget, if_pos htarget]
            rfl
          · rw [if_neg htarget, if_neg htarget]
            cases proba[idx]? with
            | none => rfl
            | some probaRow =>
                exact congrArg Except.ok
                  (appendRow_validSequences rowsByRun row.runId (row.elapsedSimSeconds, probaRow))

/-- Rows are sorted alike when they are seen as rows of a gapped sequence. -/
theorem sortByElapsed_ofRow (rows : List (F × ProbaRow F classes)) :
    sortByElapsed GappedRow.elapsedSimSeconds (rows.map GappedRow.ofRow) =
      (sortByElapsed Prod.fst rows).map GappedRow.ofRow := by
  rw [sortByElapsed, sortByElapsed, List.map_mergeSort]
  intro a _ b _
  rfl

/-- The rows of every run, in the order of their elapsed times. -/
def sortedRows (rowsByRun : OrderedDict (id : String → String) (List (F × ProbaRow F classes))) :
    OrderedDict (id : String → String) (List (F × ProbaRow F classes)) :=
  rowsByRun.map (sortByElapsed Prod.fst)

/-- Without rejected rows the merged sequences are those of the dataset under the mask that selects
every row. -/
theorem targetAssetGappedSequences_nil (dataset : ExperimentDataset F)
    (proba : List (ProbaRow F classes)) :
    targetAssetGappedSequences dataset proba [] =
      (rowsByRun dataset (List.replicate dataset.rows.length true) proba).map
        fun rowsByRun => validSequences (sortedRows rowsByRun) := by
  have hgather : (List.range dataset.rows.length).foldlM (gatherValid dataset proba) .empty =
      (rowsByRun dataset (List.replicate dataset.rows.length true) proba).map validSequences := by
    rw [rowsByRun, nonzero_replicate, zipIdx_range, List.foldlM_map]
    exact Exceptions.foldlM_of_comm (gatherValid_validSequences dataset proba) _ .empty
  rw [targetAssetGappedSequences, hgather]
  cases rowsByRun dataset (List.replicate dataset.rows.length true) proba with
  | error error => rfl
  | ok rowsByRun =>
      refine congrArg Except.ok (OrderedDict.ext ?_)
      simp only [validSequences, sortedRows, OrderedDict.map, OrderedDict.mapValues, List.map_map,
        List.foldl_nil]
      refine List.map_congr_left fun item _ => ?_
      exact congrArg (Prod.mk item.1) (sortByElapsed_ofRow item.2)

/-- Every run that is gathered is known, and has a row. -/
def Gathered (dataset : ExperimentDataset F)
    (rowsByRun : OrderedDict (id : String → String) (List (F × ProbaRow F classes))) : Prop :=
  ∀ item ∈ rowsByRun.items, (∃ metadata, dataset.runMetadata.get? item.1 = some metadata) ∧
    item.2 ≠ []

omit [PyFloat F] in
/-- One row that is gathered is of a run with metadata, and none of the runs is empty after it. -/
theorem gathered_gatherRow {dataset : ExperimentDataset F} {proba : List (ProbaRow F classes)}
    {rows rows' : OrderedDict (id : String → String) (List (F × ProbaRow F classes))}
    {indexed : ℕ × ℕ} (h : Gathered dataset rows)
    (hstep : gatherRow dataset proba rows indexed = .ok rows') : Gathered dataset rows' := by
  -- the branches of the round that raise or pass the row over come first
  rw [gatherRow] at hstep
  split at hstep
  · cases hstep
  next row _ =>
    split at hstep
    · cases hstep
      exact h
    next metadata hmetadata =>
      split at hstep
      · cases hstep
        exact h
      · split at hstep
        · cases hstep
        next probaRow _ =>
          cases hstep
          intro item hitem
          rcases OrderedDict.mem_set hitem with ⟨hkey, hvalue⟩ | ⟨hold, -⟩
          · have hrun : item.1 = row.runId := hkey
            refine ⟨⟨metadata, hrun ▸ hmetadata⟩, ?_⟩
            rw [hvalue]
            exact List.append_ne_nil_of_right_ne_nil _ (List.cons_ne_nil _ _)
          · exact h item hold

omit [PyFloat F] in
/-- So are the rows of a whole dataset, by induction on them. -/
theorem gathered_rowsByRun {dataset : ExperimentDataset F} {mask : List Bool}
    {proba : List (ProbaRow F classes)}
    {rows : OrderedDict (id : String → String) (List (F × ProbaRow F classes))}
    (h : rowsByRun dataset mask proba = .ok rows) : Gathered dataset rows := by
  refine Exceptions.foldlM_induction (P := Gathered dataset) ?_ ?_ h
  · exact fun _ _ _ => gathered_gatherRow
  · intro item hitem
    cases hitem

/-- The rows of a run, all of them valid. -/
def alertRows (rows : List (F × ProbaRow F classes)) : List (AlertRow F classes) :=
  rows.map fun row => ⟨row.1, row.2, true⟩

omit [PyFloat F] in
/-- The rows of an evaluation without a mask are all valid. -/
theorem alertRows_valid (rows : List (F × ProbaRow F classes)) :
    ∀ row ∈ alertRows rows, row.valid = true := by
  intro row hrow
  obtain ⟨_, -, rfl⟩ := List.mem_map.mp hrow
  rfl

/-- The machine does not see the difference between rows without a mask and rows that are all
valid. -/
theorem runStateMachine_ofRow (config : StateMachineConfig F)
    (rows : List (F × ProbaRow F classes)) :
    runStateMachine config ((rows.map GappedRow.ofRow).map GappedRow.elapsedSimSeconds)
        ((rows.map GappedRow.ofRow).map GappedRow.proba)
        (some ((rows.map GappedRow.ofRow).map GappedRow.valid)) =
      runStateMachine config (rows.map Prod.fst) (rows.map Prod.snd) none := by
  have hnone := runStateMachine_none config (alertRows_valid rows)
  simp only [alertRows, List.map_map] at hnone ⊢
  exact hnone.symm

/-- A run without a mask returns what the outcomes say. -/
theorem runStateMachine_alertRows (config : StateMachineConfig F)
    (rows : List (F × ProbaRow F classes)) :
    runStateMachine config (rows.map Prod.fst) (rows.map Prod.snd) none =
      .ok ⟨(Transducer.outputs (Phase.transduce config) .fresh (alertRows rows)).map
          StepOutcome.rowState,
        (Transducer.outputs (Phase.transduce config) .fresh (alertRows rows)).filterMap
          StepOutcome.event⟩ := by
  have hnone := runStateMachine_none config (alertRows_valid rows)
  rw [runStateMachine_eq] at hnone
  simp only [alertRows, List.map_map] at hnone
  exact hnone

/-- The machine runs over the rows of any run. -/
theorem exists_runStateMachine (config : StateMachineConfig F)
    (rows : List (F × ProbaRow F classes)) :
    ∃ result, runStateMachine config (rows.map Prod.fst) (rows.map Prod.snd) none = .ok result ∧
      ∀ state ∈ result.rowStates, state ≠ insufficientDataState := by
  refine ⟨_, runStateMachine_alertRows config rows, ?_⟩
  intro state hstate
  obtain ⟨outcome, houtcome, rfl⟩ := List.mem_map.mp hstate
  exact rowState_ne_insufficientDataState config .fresh (alertRows_valid _) outcome houtcome

/-- The result for a run, from its rows in the order of their elapsed times. -/
def runResult (config : StateMachineConfig F) (runId : String) (metadata : RunMetadata F)
    (rows : List (F × ProbaRow F classes)) : Option (RunDetectionResult F) :=
  match metadata.faultClass, metadata.faultStartSimSeconds with
  | some faultClass, some faultStart =>
      (evaluateRunDetection config (rows.map Prod.fst) (rows.map Prod.snd) runId faultClass
        faultStart none).toOption
  | _, _ => none

/-- The detection of a run without a mask does not raise, and is of this run. -/
theorem exists_evaluateRunDetection (config : StateMachineConfig F)
    (rows : List (F × ProbaRow F classes)) (runId faultClass : String) (faultStart : F) :
    ∃ result, evaluateRunDetection config (rows.map Prod.fst) (rows.map Prod.snd) runId faultClass
      faultStart none = .ok result ∧ result.simulationRunId = runId := by
  obtain ⟨result, hrun, -⟩ := exists_runStateMachine config rows
  rw [evaluateRunDetection, hrun]
  exact ⟨_, rfl, rfl⟩

/-- The round of a run in the evaluation of the dataset. -/
theorem evaluateRun_eq {dataset : ExperimentDataset F} {runId : String} {metadata : RunMetadata F}
    (h : dataset.runMetadata.get? runId = some metadata) (config : StateMachineConfig F)
    (rows : List (F × ProbaRow F classes)) : evaluateRun dataset config runId rows =
      .ok (runResult config runId metadata (sortByElapsed Prod.fst rows)) := by
  rw [evaluateRun, h]
  dsimp only
  rw [runResult]
  cases metadata.faultClass with
  | none => rfl
  | some faultClass =>
      cases metadata.faultStartSimSeconds with
      | none => rfl
      | some faultStart =>
          obtain ⟨result, hresult, -⟩ := exists_evaluateRunDetection config
            (sortByElapsed Prod.fst rows) runId faultClass faultStart
          dsimp only
          rw [hresult]
          rfl

/-- The round of a run in the gapped evaluation. -/
theorem evaluateGappedRun_eq {dataset : ExperimentDataset F}
    {rowsByRun : OrderedDict (id : String → String) (List (F × ProbaRow F classes))}
    (hgathered : Gathered dataset rowsByRun) (config : StateMachineConfig F) (runId : String)
    (metadata : RunMetadata F) :
    evaluateGappedRun (validSequences (sortedRows rowsByRun)) config runId metadata =
      .ok ((rowsByRun.get? runId).bind fun rows =>
        runResult config runId metadata (sortByElapsed Prod.fst rows)) := by
  rw [evaluateGappedRun, validSequences, OrderedDict.get?_mapValues, sortedRows,
    OrderedDict.get?_map]
  cases hrows : rowsByRun.get? runId with
  | none => cases metadata.faultClass <;> cases metadata.faultStartSimSeconds <;> rfl
  | some rows =>
      simp only [Option.map_some, Option.bind_some]
      -- a run that is gathered has a row, also once the rows are sorted
      have hne : (sortByElapsed Prod.fst rows).map GappedRow.ofRow ≠ [] := by
        obtain ⟨key, hmem, -⟩ := OrderedDict.get?_eq_some_iff.mp hrows
        have hnil := (hgathered (key, rows) hmem).2
        intro hempty
        rw [List.map_eq_nil_iff] at hempty
        have hlength := congrArg List.length hempty
        rw [sortByElapsed, List.length_mergeSort] at hlength
        exact hnil (List.eq_nil_of_length_eq_zero hlength)
      obtain ⟨first, rest, hcons⟩ := List.exists_cons_of_ne_nil hne
      rw [hcons, runResult]
      -- a healthy run and one without an onset are passed over by both evaluations
      cases metadata.faultClass with
      | none => rfl
      | some faultClass =>
          cases metadata.faultStartSimSeconds with
          | none => rfl
          | some faultStart =>
              obtain ⟨result, hresult, -⟩ := exists_evaluateRunDetection config
                (sortByElapsed Prod.fst rows) runId faultClass faultStart
              dsimp only
              rw [← hcons, evaluateRunDetection, runStateMachine_ofRow, hresult]
              rw [evaluateRunDetection] at hresult
              rw [hresult]
              rfl

/-- The result of a run has its id. -/
theorem simulationRunId_runResult {config : StateMachineConfig F} {runId : String}
    {metadata : RunMetadata F} {rows : List (F × ProbaRow F classes)}
    {result : RunDetectionResult F} (h : runResult config runId metadata rows = some result) :
    result.simulationRunId = runId := by
  rw [runResult] at h
  split at h
  next faultClass faultStart _ _ =>
    obtain ⟨result', hresult, hid⟩ :=
      exists_evaluateRunDetection config rows runId faultClass faultStart
    rw [hresult] at h
    cases h
    exact hid
  · cases h

omit [PyFloat F] in
/-- The results of the items, where no evaluation raises. -/
theorem collectResults_eq {R : Type} {items : List (String × R)}
    {evaluate : String → R → Except EvaluationError (Option (RunDetectionResult F))}
    {result : String × R → Option (RunDetectionResult F)}
    (h : ∀ item ∈ items, evaluate item.1 item.2 = .ok (result item)) :
    collectResults items evaluate = .ok (items.filterMap result) := by
  rw [collectResults, Exceptions.mapM_eq_ok_map h]
  show Except.ok ((items.map result).filterMap id) = _
  rw [List.filterMap_map]
  rfl

/-- The runs are visited in another order, and their results are sorted. -/
theorem evaluateGappedDetection_nil (dataset : ExperimentDataset F)
    (proba : List (ProbaRow F classes)) (config : StateMachineConfig F) :
    evaluateGappedDetection dataset proba [] config =
      evaluateDetection dataset (List.replicate dataset.rows.length true) proba config := by
  rw [evaluateGappedDetection, evaluateDetection, targetAssetGappedSequences_nil]
  cases hrows : rowsByRun dataset (List.replicate dataset.rows.length true) proba with
  | error error => rfl
  | ok rows =>
      have hgathered := gathered_rowsByRun hrows
      -- the results of the plain evaluation, run by run as they were gathered
      have hplain : collectResults rows.items (evaluateRun dataset config) =
          .ok (rows.items.filterMap fun item => (dataset.runMetadata.get? item.1).bind
            fun metadata => runResult config item.1 metadata (sortByElapsed Prod.fst item.2)) := by
        refine collectResults_eq fun item hitem => ?_
        obtain ⟨⟨metadata, hmetadata⟩, -⟩ := hgathered item hitem
        rw [evaluateRun_eq hmetadata, hmetadata]
        rfl
      -- and of the gapped one, run by run as they are in the metadata
      have hgapped : collectResults dataset.runMetadata.items
          (evaluateGappedRun (validSequences (sortedRows rows)) config) =
          .ok (dataset.runMetadata.items.filterMap fun item => (rows.get? item.1).bind
            fun rows => runResult config item.1 item.2 (sortByElapsed Prod.fst rows)) :=
        collectResults_eq fun item _ => evaluateGappedRun_eq hgathered config item.1 item.2
      show (collectResults dataset.runMetadata.items _ >>= fun results => _) =
        (collectResults rows.items _ >>= fun results => _)
      rw [hplain, hgapped]
      refine congrArg Except.ok (OrderBy.orderBy_eq_of_mem_iff ?_ ?_ ?_)
      · refine OrderBy.nodup_map_filterMap (fun item result h => ?_) dataset.runMetadata.nodup
        obtain ⟨_, -, hresult⟩ := Option.bind_eq_some_iff.mp h
        exact simulationRunId_runResult hresult
      · refine OrderBy.nodup_map_filterMap (fun item result h => ?_) rows.nodup
        obtain ⟨_, -, hresult⟩ := Option.bind_eq_some_iff.mp h
        exact simulationRunId_runResult hresult
      -- both visit the runs that have rows and metadata
      · intro result
        simp only [List.mem_filterMap, Option.bind_eq_some_iff, OrderedDict.get?_eq_some_iff]
        constructor
        · rintro ⟨⟨runId, metadata⟩, hmetadata, runRows, ⟨key, hmem, hkey⟩, hresult⟩
          obtain rfl : key = runId := hkey
          exact ⟨(key, runRows), hmem, metadata, ⟨key, hmetadata, rfl⟩, hresult⟩
        · rintro ⟨⟨runId, runRows⟩, hmem, metadata, ⟨key, hmetadata, hkey⟩, hresult⟩
          obtain rfl : key = runId := hkey
          exact ⟨(key, metadata), hmetadata, runRows, ⟨key, hmem, rfl⟩, hresult⟩

/-- The healthy segment is cut at the same row in both evaluations. -/
theorem healthySegment_ofRow (metadata : RunMetadata F) (rows : List (F × ProbaRow F classes)) :
    healthySegment metadata GappedRow.elapsedSimSeconds (rows.map GappedRow.ofRow) =
      (healthySegment metadata Prod.fst rows).map GappedRow.ofRow := by
  rw [healthySegment, healthySegment]
  cases metadata.faultClass with
  | none => rfl
  | some faultClass =>
      cases metadata.faultStartSimSeconds with
      | none => rfl
      | some faultStart =>
          dsimp only
          rw [List.filter_map]
          rfl

/-- The round of a run in the two counts of false alerts. -/
theorem addGappedFalseAlerts_ofRow (dataset : ExperimentDataset F) (config : StateMachineConfig F)
    (totals : FalseAlertTotals F) (item : String × List (F × ProbaRow F classes)) :
    addGappedFalseAlerts dataset config totals
        (item.1, (sortByElapsed Prod.fst item.2).map GappedRow.ofRow) =
      addFalseAlerts dataset config totals item := by
  rw [addGappedFalseAlerts, addFalseAlerts]
  cases dataset.runMetadata.get? item.1 with
  | none => rfl
  | some metadata =>
      dsimp only
      rw [healthySegment_ofRow, List.getLast?_map]
      generalize healthySegment metadata Prod.fst (sortByElapsed Prod.fst item.2) = healthyRows
      cases healthyRows.getLast? with
      | none => rfl
      | some last =>
          obtain ⟨result, hrun, hstates⟩ := exists_runStateMachine config healthyRows
          -- no row of a run without a mask lacks data, so both conditions on its state count alike
          have hfalse : (result.rowStates.countP fun state =>
              decide (state ≠ healthyState ∧ state ≠ insufficientDataState)) =
              result.rowStates.countP fun state => decide (state ≠ healthyState) := by
            refine List.countP_congr fun state hstate => ?_
            simp [hstates state hstate]
          -- and all its rows are scored
          have hscored : (healthyRows.map GappedRow.ofRow).countP GappedRow.valid =
              healthyRows.length := by
            rw [List.countP_map, List.countP_eq_length]
            exact fun _ _ => rfl
          rw [Option.map_some]
          dsimp only
          rw [runStateMachine_ofRow, hrun, hscored]
          show Except.ok (totals.add _ _ _ _) = Except.ok (totals.add _ _ _ _)
          rw [hfalse]
          rfl

/-- The runs are visited in the same order. -/
theorem evaluateGappedFalseAlerts_nil (dataset : ExperimentDataset F)
    (proba : List (ProbaRow F classes)) (config : StateMachineConfig F) :
    evaluateGappedFalseAlerts dataset proba [] config =
      computeFalseAlertSummary dataset (List.replicate dataset.rows.length true) proba config := by
  rw [evaluateGappedFalseAlerts, computeFalseAlertSummary, targetAssetGappedSequences_nil]
  cases rowsByRun dataset (List.replicate dataset.rows.length true) proba with
  | error error => rfl
  | ok rows =>
      have hitems : (validSequences (sortedRows rows)).items = rows.items.map fun item =>
          (item.1, (sortByElapsed Prod.fst item.2).map GappedRow.ofRow) := by
        simp only [validSequences, sortedRows, OrderedDict.map, OrderedDict.mapValues,
          List.map_map]
        rfl
      show (validSequences (sortedRows rows)).items.foldlM (addGappedFalseAlerts dataset config)
          .zero >>= FalseAlertTotals.summary =
        rows.items.foldlM (addFalseAlerts dataset config) .zero >>= FalseAlertTotals.summary
      rw [hitems, List.foldlM_map]
      simp only [addGappedFalseAlerts_ofRow]

/-- Without rejected rows, the gapped evaluation of a dataset is its evaluation under the mask that
selects every row. -/
theorem evaluateGapped_eq (dataset : ExperimentDataset F) (proba : List (ProbaRow F classes))
    (config : StateMachineConfig F) :
    evaluateGappedDetection dataset proba [] config =
        evaluateDetection dataset (List.replicate dataset.rows.length true) proba config ∧
      evaluateGappedFalseAlerts dataset proba [] config =
        computeFalseAlertSummary dataset (List.replicate dataset.rows.length true) proba config :=
  ⟨evaluateGappedDetection_nil dataset proba config,
    evaluateGappedFalseAlerts_nil dataset proba config⟩

end Valid

end Odis.AlertPolicy
