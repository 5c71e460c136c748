import Odis.AlertPolicy.Evaluation
import Odis.Library.KeyedWindow
import Odis.Library.Runs

/-!
# The three counters of false alarms

False alarms are persistent streaks of one alarm label on healthy rows. They are counted in three
places: as episodes of a scan over maximal runs (`alert_policy/comparison.py`), and by a streak
counter with a flag, on predictions (`models/detection.py`) and on diagnoses that may be withheld
(`calibration/alert_policy.py`).

* `StreakScan.count_foldl_step`: a streak counter counts the runs that are long enough.
* `countP_segmentEpisodes`: so does the scan over maximal runs.
* `StreakScan.Agree`: the two streak counters, on a sequence and without its withheld diagnoses.
* `falseAlarmCounters_agree`: the three counters agree.
-/

namespace Odis.AlertPolicy

open Runs

/-! ## Streak counters -/

/-- The variables of `count_false_alarm_events`. -/
structure StreakScan where
  count : ℕ
  streak : ℕ
  current : Option String
  fired : Bool

namespace StreakScan

/-- The variables before the loop. -/
def initial : StreakScan := ⟨0, 0, none, false⟩

/-- A round of the loop, for the labels that count as alarms. -/
def step (alarm : String → Bool) (persistence : ℕ) (scan : StreakScan) (label : String) :
    StreakScan :=
  let continued : StreakScan :=
    if some label = scan.current then { scan with streak := scan.streak + 1 }
    else { scan with streak := 1, current := some label, fired := false }
  -- the current label is `label` now
  if continued.streak = persistence ∧ alarm label ∧ ¬ continued.fired then
    { continued with count := continued.count + 1, fired := true }
  else continued

end StreakScan

/-- `count_false_alarm_events` of `models/detection.py`. -/
def Models.countFalseAlarmEvents (predictedLabels : List String) (persistence : ℕ) : ℕ :=
  (predictedLabels.foldl (StreakScan.step (fun label => label ≠ healthyState) persistence)
    .initial).count

/-- `UNCERTAIN_LABEL`. -/
def uncertainLabel : String := "uncertain"

/-- `_NON_ALARM_LABELS`. -/
def Calibration.nonAlarmLabels : List String := [healthyState, uncertainLabel]

/-- `count_false_alarm_events` of `calibration/alert_policy.py`. -/
def Calibration.countFalseAlarmEvents (diagnoses : List String) (persistence : ℕ) : ℕ :=
  (diagnoses.foldl (StreakScan.step (fun label => label ∉ nonAlarmLabels) persistence)
    .initial).count

/-- The maximal runs of one label that is not healthy, of at least a length. -/
def alarmRuns (persistence : ℕ) (labels : List String) : ℕ :=
  (labels.splitBy (· == ·)).countP fun run =>
    persistence ≤ run.length ∧ run.head?.any fun label => label ≠ healthyState

namespace StreakScan

variable {alarm : String → Bool} {persistence : ℕ}

/-- The variables after the first `n` labels of a run, with the count before it. -/
def inRun (alarm : String → Bool) (persistence count : ℕ) (label : String)
    (n : ℕ) : StreakScan where
  count := count + if persistence ≤ n ∧ alarm label then 1 else 0
  streak := n
  current := some label
  fired := decide (persistence ≤ n) && alarm label

/-- A new label starts a run. -/
theorem step_new (hpersistence : 1 ≤ persistence) {scan : StreakScan} {label : String}
    (h : scan.current ≠ some label) :
    scan.step alarm persistence label = inRun alarm persistence scan.count label 1 := by
  rw [step, if_neg h.symm]
  unfold inRun
  by_cases hp : persistence ≤ 1
  · obtain rfl : persistence = 1 := by omega
    cases halarm : alarm label <;> simp
  · have hne : ¬ 1 = persistence := by omega
    simp [hp, hne]

/-- The same label continues it. It counts once, when the run becomes long enough. -/
theorem step_inRun (count : ℕ) (label : String) (n : ℕ) :
    (inRun alarm persistence count label n).step alarm persistence label =
      inRun alarm persistence count label (n + 1) := by
  unfold step inRun
  rw [if_pos rfl]
  rcases Nat.lt_trichotomy persistence (n + 1) with hlt | heq | hgt
  · have hn : persistence ≤ n := by omega
    have hne : ¬ n + 1 = persistence := by omega
    simp [hn, hne, hlt.le]
  · cases halarm : alarm label <;> simp [heq]
  · have hn : ¬ persistence ≤ n := by omega
    have hn' : ¬ persistence ≤ n + 1 := by omega
    have hne : ¬ n + 1 = persistence := by omega
    simp [hn, hn', hne]

/-- The rest of a run. -/
theorem foldl_step_same (count : ℕ) (label : String) (n : ℕ)
    {same : List String} (h : ∀ l ∈ same, l = label) :
    same.foldl (step alarm persistence) (inRun alarm persistence count label n) =
      inRun alarm persistence count label (n + same.length) := by
  induction same generalizing n with
  | nil => rfl
  | cons l same ih =>
      obtain rfl := h l List.mem_cons_self
      rw [List.foldl_cons, step_inRun,
        ih (n + 1) fun l' hl' => h l' (List.mem_cons_of_mem l hl'), List.length_cons]
      congr 1
      omega

/-- The counter adds the number of runs of an alarm label that are long enough. -/
theorem count_foldl_step (hpersistence : 1 ≤ persistence) (labels : List String)
    (scan : StreakScan) (h : ∀ label ∈ labels.head?, scan.current ≠ some label) :
    (labels.foldl (step alarm persistence) scan).count =
      scan.count + (runs id labels).countP fun run =>
        persistence ≤ run.length ∧ run.head?.any alarm := by
  -- by induction on the maximal runs of the labels, as the scan counts at most once in each
  induction labels using runs.induct (id : String → String) generalizing scan with
  | case1 => rw [runs_nil, List.countP_nil, List.foldl_nil, Nat.add_zero]
  | case2 label labels ih =>
      rw [runs_cons]
      have hsplit : labels.takeWhile (fun l => id l = id label) ++
          labels.dropWhile (fun l => id l = id label) = labels := List.takeWhile_append_dropWhile
      have hnext := List.head?_dropWhile_not (fun l => decide (id l = id label)) labels
      generalize hsame' : labels.takeWhile (fun l => id l = id label) = same at hsplit ⊢
      generalize labels.dropWhile (fun l => id l = id label) = rest at ih hsplit hnext ⊢
      -- the run of the first label, and the rest, which begins with another one
      have hsame : ∀ l ∈ same, l = label := by
        intro l hl
        rw [← hsame'] at hl
        simpa using List.mem_takeWhile_imp hl
      have hrest : ∀ l ∈ rest.head?,
          (inRun alarm persistence scan.count label (1 + same.length)).current ≠ some l := by
        intro l hl heq
        rw [Option.mem_def.mp hl] at hnext
        exact absurd (Option.some.inj heq).symm (by simpa using hnext)
      -- the scan reads the run as a whole
      have hfold : (label :: labels).foldl (step alarm persistence) scan =
          rest.foldl (step alarm persistence)
            (inRun alarm persistence scan.count label (1 + same.length)) := by
        rw [← hsplit, List.foldl_cons, step_new hpersistence (h label rfl), List.foldl_append,
          foldl_step_same scan.count label 1 hsame]
      rw [hfold, ih _ hrest, List.countP_cons]
      show scan.count + _ + _ = _
      rw [List.length_cons, List.head?_cons, Option.any_some, Nat.add_comm 1]
      by_cases hlong : persistence ≤ same.length + 1 ∧ alarm label
      · rw [if_pos hlong, if_pos (decide_eq_true hlong)]
        omega
      · rw [if_neg hlong, if_neg (by simpa using hlong)]
        omega

end StreakScan

/-- A label, with a withheld diagnosis as the healthy label. -/
def withheldAsHealthy (label : String) : String :=
  if label = uncertainLabel then healthyState else label

namespace StreakScan

/-- The counter of `calibration/alert_policy.py` and the other one, while they read a sequence and
the sequence without its withheld diagnoses. A streak that cannot count may differ. -/
structure Agree (scan scan' : StreakScan) : Prop where
  count : scan'.count = scan.count
  current : scan'.current = scan.current.map withheldAsHealthy
  streak : ∀ label ∉ Calibration.nonAlarmLabels, scan.current = some label →
    scan'.streak = scan.streak ∧ scan'.fired = scan.fired

/-- Both counters start in agreement. -/
theorem agree_initial : Agree initial initial :=
  ⟨rfl, rfl, fun _ _ h => absurd h.symm (Option.some_ne_none _)⟩

/-- A label of an alarm stays as it is. -/
theorem withheldAsHealthy_eq {label : String} (h : label ∉ Calibration.nonAlarmLabels) :
    withheldAsHealthy label = label :=
  if_neg fun heq => h (by rw [heq]; exact List.mem_cons_of_mem _ List.mem_cons_self)

/-- The labels that are no alarm are those of a healthy state. -/
theorem withheldAsHealthy_eq_healthyState {label : String}
    (h : label ∈ Calibration.nonAlarmLabels) :
    withheldAsHealthy label = healthyState := by
  rcases List.mem_pair.mp h with rfl | rfl
  · rfl
  · rfl

/-- A label that counts as an alarm is its own, and only its own. -/
theorem withheldAsHealthy_eq_iff {label other : String} (h : label ∉ Calibration.nonAlarmLabels) :
    withheldAsHealthy other = label ↔ other = label := by
  by_cases hother : other ∈ Calibration.nonAlarmLabels
  · rw [withheldAsHealthy_eq_healthyState hother]
    constructor
    · intro heq
      exact absurd (heq ▸ List.mem_cons_self) h
    · intro heq
      exact absurd (heq ▸ hother) h
  · rw [withheldAsHealthy_eq hother]

/-- A label that is no alarm counts nothing, and becomes the current one. -/
theorem step_of_not_alarm (alarm : String → Bool) (persistence : ℕ) (scan : StreakScan)
    (label : String) (h : alarm label = false) :
    (scan.step alarm persistence label).count = scan.count ∧
      (scan.step alarm persistence label).current = some label := by
  rw [step, if_neg (by simp [h])]
  by_cases hcurrent : some label = scan.current
  · rw [if_pos hcurrent]
    exact ⟨rfl, hcurrent.symm⟩
  · rw [if_neg hcurrent]
    exact ⟨rfl, rfl⟩

/-- The counters stay in agreement. -/
theorem Agree.step {scan scan' : StreakScan} (h : Agree scan scan') (persistence : ℕ)
    (label : String) :
    Agree (scan.step (fun label => label ∉ Calibration.nonAlarmLabels) persistence label)
      (scan'.step (fun label => label ≠ healthyState) persistence (withheldAsHealthy label)) := by
  by_cases hlabel : label ∈ Calibration.nonAlarmLabels
  · -- both count nothing
    rw [withheldAsHealthy_eq_healthyState hlabel]
    obtain ⟨hcount, hcurrent⟩ := step_of_not_alarm
      (fun label => label ∉ Calibration.nonAlarmLabels) persistence scan label
      (by simpa using hlabel)
    obtain ⟨hcount', hcurrent'⟩ := step_of_not_alarm (fun label => label ≠ healthyState)
      persistence scan' healthyState (by simp)
    refine ⟨?_, ?_, ?_⟩
    · rw [hcount, hcount', h.count]
    · rw [hcurrent, hcurrent', Option.map_some, withheldAsHealthy_eq_healthyState hlabel]
    · intro other hother heq
      rw [hcurrent] at heq
      exact absurd (Option.some.inj heq ▸ hlabel) hother
  · rw [withheldAsHealthy_eq hlabel]
    have hhealthy : label ≠ healthyState := by
      intro heq
      exact hlabel (heq ▸ List.mem_cons_self)
    -- an alarm continues the run of one counter exactly if it continues that of the other
    have hsame : some label = scan'.current ↔ some label = scan.current := by
      rw [h.current]
      cases scan.current with
      | none => rfl
      | some other =>
          rw [Option.map_some, Option.some_inj, Option.some_inj, eq_comm,
            withheldAsHealthy_eq_iff hlabel, eq_comm]
    unfold StreakScan.step
    -- either the run goes on in both counters, or it begins in both
    by_cases hcurrent : some label = scan.current
    · obtain ⟨hstreak, hfired⟩ := h.streak label hlabel hcurrent.symm
      rw [if_pos hcurrent, if_pos (hsame.mpr hcurrent)]
      dsimp only
      rw [hstreak, hfired, h.count]
      simp only [hlabel, hhealthy, ne_eq, not_false_eq_true, decide_true, true_and]
      have hmap : scan'.current = scan.current.map withheldAsHealthy := h.current
      by_cases hcounts : scan.streak + 1 = persistence ∧ ¬ scan.fired = true
      · rw [if_pos hcounts, if_pos hcounts]
        exact ⟨rfl, hmap, fun _ _ _ => ⟨rfl, rfl⟩⟩
      · rw [if_neg hcounts, if_neg hcounts]
        exact ⟨rfl, hmap, fun _ _ _ => ⟨rfl, rfl⟩⟩
    · rw [if_neg hcurrent, if_neg fun heq => hcurrent (hsame.mp heq)]
      dsimp only
      rw [h.count]
      simp only [hlabel, hhealthy, ne_eq, not_false_eq_true, decide_true, true_and]
      have hmap : some label = (some label).map withheldAsHealthy := by
        rw [Option.map_some, withheldAsHealthy_eq hlabel]
      split
      · exact ⟨rfl, hmap, fun _ _ _ => ⟨rfl, rfl⟩⟩
      · exact ⟨rfl, hmap, fun _ _ _ => ⟨rfl, rfl⟩⟩

end StreakScan

/-- The counter of `models/detection.py` counts the alarm runs. -/
theorem countFalseAlarmEvents_models {persistence : ℕ} (hpersistence : 1 ≤ persistence)
    (labels : List String) :
    Models.countFalseAlarmEvents labels persistence = alarmRuns persistence labels := by
  rw [Models.countFalseAlarmEvents, StreakScan.count_foldl_step hpersistence labels
    .initial fun _ _ h => absurd h.symm (Option.some_ne_none _), alarmRuns, runs_eq_splitBy]
  exact Nat.zero_add _

/-- The counter of `calibration/alert_policy.py` is the other one on the sequence without its
withheld diagnoses. -/
theorem countFalseAlarmEvents_calibration (persistence : ℕ) (labels : List String) :
    Calibration.countFalseAlarmEvents labels persistence =
      Models.countFalseAlarmEvents (labels.map withheldAsHealthy) persistence := by
  have hagree : ∀ {scan scan' : StreakScan}, StreakScan.Agree scan scan' → StreakScan.Agree
      (labels.foldl
        (StreakScan.step (fun label => label ∉ Calibration.nonAlarmLabels) persistence) scan)
      ((labels.map withheldAsHealthy).foldl
        (StreakScan.step (fun label => label ≠ healthyState) persistence) scan') := by
    induction labels with
    | nil => exact fun h => h
    | cons label labels ih => exact fun h => ih (h.step persistence label)
  exact (hagree StreakScan.agree_initial).count.symm

/-! ## Episodes of a row sequence -/

section RowSequence

variable {F : Type} [PyFloat F]

/-- `RowSequenceEpisode`. -/
structure RowSequenceEpisode (F : Type) where
  simulationRunId : String
  predictedClass : String
  startElapsedSimSeconds : F
  endElapsedSimSeconds : F
  qualifiesAsEvent : Bool

/-- `RowSequenceFalseAlertSummary`: the same for alerts that are read off the predictions, row by
row. -/
structure RowSequenceFalseAlertSummary (F : Type) where
  episodes : List (RowSequenceEpisode F)
  falseAnomalousRowCount : ℕ
  healthyHoursEvaluated : F
  healthyRunIdsWithAlert : Finset String

/-- `qualifying_episodes`. -/
def RowSequenceFalseAlertSummary.qualifyingEpisodes (summary : RowSequenceFalseAlertSummary F) :
    List (RowSequenceEpisode F) :=
  summary.episodes.filter RowSequenceEpisode.qualifiesAsEvent

/-- A step of the loop that gathers the predictions of every run, at an index of the dataset and its
position among the masked rows. -/
def gatherPrediction (dataset : ExperimentDataset F) (predictions : List String)
    (rowsByRun : OrderedDict (id : String → String) (List (F × String))) (indexed : ℕ × ℕ) :
    Except EvaluationError (OrderedDict (id : String → String) (List (F × String))) :=
  match dataset.rows[indexed.1]? with
  | none => .error .indexError
  | some row =>
      match dataset.runMetadata.get? row.runId with
      | none => .ok rowsByRun
      | some metadata =>
          -- the other assets of a run are left out
          if row.assetId ≠ metadata.targetAssetId then .ok rowsByRun
          else
            match predictions[indexed.2]? with
            | none => .error .indexError
            | some prediction =>
                .ok (appendRow rowsByRun row.runId (row.elapsedSimSeconds, prediction))

/-- `rows_by_run`: the masked predictions of the target asset of every run. -/
def predictionsByRun (dataset : ExperimentDataset F) (mask : List Bool)
    (predictions : List String) :
    Except EvaluationError (OrderedDict (id : String → String) (List (F × String))) :=
  (nonzero mask).zipIdx.foldlM (gatherPrediction dataset predictions) .empty

/-- What the loop over the runs adds up. -/
structure RowSequenceTotals (F : Type) where
  episodes : List (RowSequenceEpisode F)
  falseRowCount : ℕ
  healthySeconds : F
  runsWithAlert : Finset String

/-- The totals before the loop. -/
def RowSequenceTotals.zero : RowSequenceTotals F := ⟨[], 0, PyFloat.literal 0.0, ∅⟩

/-- The episode of the healthy rows from `i` to `j`, all of one class, unless the class is
healthy. -/
def sliceEpisode (persistence : ℕ) (runId : String) (slice : List (F × String)) :
    Option (RowSequenceEpisode F) :=
  match slice.head?, slice.getLast? with
  | some first, some last =>
      if first.2 = healthyState then none
      else some
        { simulationRunId := runId
          predictedClass := first.2
          startElapsedSimSeconds := first.1
          endElapsedSimSeconds := last.1 + dtSeconds
          qualifiesAsEvent := persistence ≤ slice.length }
  | _, _ => none

/-- A round of the scan of the healthy rows of a run. -/
def addSlice (persistence : ℕ) (runId : String) (totals : RowSequenceTotals F)
    (slice : List (F × String)) : RowSequenceTotals F :=
  match sliceEpisode persistence runId slice with
  | none => totals
  | some episode =>
      { totals with
        falseRowCount := totals.falseRowCount + slice.length
        episodes := totals.episodes ++ [episode]
        runsWithAlert :=
          if episode.qualifiesAsEvent then insert runId totals.runsWithAlert
          else totals.runsWithAlert }

/-- The round of the loop of `compute_row_sequence_false_alerts` for a run. -/
def addRowSequence (dataset : ExperimentDataset F) (persistence : ℕ) (totals : RowSequenceTotals F)
    (item : String × List (F × String)) : Except EvaluationError (RowSequenceTotals F) :=
  match dataset.runMetadata.get? item.1 with
  | none => .error (.keyError item.1)
  | some metadata =>
      let healthyRows := healthySegment metadata Prod.fst (sortByElapsed Prod.fst item.2)
      if healthyRows = [] then .ok totals
      else
        let healthySeconds := totals.healthySeconds + PyFloat.ofInt healthyRows.length * dtSeconds
        -- the indices `i` and `j` cut the rows where the class changes
        .ok ((runs Prod.snd healthyRows).foldl (addSlice persistence item.1)
          { totals with healthySeconds })

/-- `compute_row_sequence_false_alerts`. -/
def computeRowSequenceFalseAlerts (dataset : ExperimentDataset F) (mask : List Bool)
    (predictions : List String) (persistence : ℕ) :
    Except EvaluationError (RowSequenceFalseAlertSummary F) := do
  let rowsByRun ← predictionsByRun dataset mask predictions
  let totals ← rowsByRun.items.foldlM (addRowSequence dataset persistence) .zero
  ((PyFloat.truediv totals.healthySeconds (PyFloat.literal 3600.0)).mapError .arithmetic).map
    fun hours => ⟨totals.episodes, totals.falseRowCount, hours, totals.runsWithAlert⟩

/-! ## Agreement -/

/-- The labels of the healthy segment of a run. -/
def healthyLabels (dataset : ExperimentDataset F) (item : String × List (F × String)) :
    List String :=
  match dataset.runMetadata.get? item.1 with
  | none => []
  | some metadata =>
      (healthySegment metadata Prod.fst (sortByElapsed Prod.fst item.2)).map Prod.snd

/-- The episodes of the healthy rows of a run. -/
def segmentEpisodes (persistence : ℕ) (runId : String) (healthyRows : List (F × String)) :
    List (RowSequenceEpisode F) :=
  (runs Prod.snd healthyRows).filterMap (sliceEpisode persistence runId)

/-- The loop over the slices appends the episode of each slice that has one. -/
theorem episodes_foldl_addSlice (persistence : ℕ) (runId : String)
    (slices : List (List (F × String)))
    (totals : RowSequenceTotals F) :
    (slices.foldl (addSlice persistence runId) totals).episodes =
      totals.episodes ++ slices.filterMap (sliceEpisode persistence runId) := by
  induction slices generalizing totals with
  | nil => exact (List.append_nil _).symm
  | cons slice slices ih =>
      rw [List.foldl_cons, ih, List.filterMap_cons, addSlice]
      cases sliceEpisode persistence runId slice with
      | none => rfl
      | some episode => exact List.append_assoc _ [episode] _

/-- The episodes of a segment are of its run. -/
theorem simulationRunId_of_mem_segmentEpisodes {persistence : ℕ} {runId : String}
    {healthyRows : List (F × String)} {episode : RowSequenceEpisode F}
    (h : episode ∈ segmentEpisodes persistence runId healthyRows) :
    episode.simulationRunId = runId := by
  obtain ⟨slice, -, hslice⟩ := List.mem_filterMap.mp h
  unfold sliceEpisode at hslice
  split at hslice
  · split at hslice
    · cases hslice
    · cases hslice
      rfl
  · cases hslice

/-- An episode qualifies where its slice is a long run of an alarm label. -/
theorem qualifies_sliceEpisode (persistence : ℕ) (runId : String) (slice : List (F × String)) :
    ((sliceEpisode persistence runId slice).map RowSequenceEpisode.qualifiesAsEvent).getD false =
      decide (persistence ≤ slice.length ∧
        (slice.head?.map Prod.snd).any fun label => label ≠ healthyState) := by
  cases slice with
  | nil => simp [sliceEpisode]
  | cons first slice =>
      have hlast : (first :: slice).getLast? =
          some ((first :: slice).getLast (List.cons_ne_nil _ _)) :=
        List.getLast?_eq_getLast_of_ne_nil (List.cons_ne_nil _ _)
      rw [sliceEpisode, hlast]
      by_cases hhealthy : first.2 = healthyState
      · simp [hhealthy]
      · simp [hhealthy]

/-- The qualifying episodes of a segment are the alarm runs of its labels. -/
theorem countP_segmentEpisodes (persistence : ℕ) (runId : String)
    (healthyRows : List (F × String)) :
    (segmentEpisodes persistence runId healthyRows).countP RowSequenceEpisode.qualifiesAsEvent =
      alarmRuns persistence (healthyRows.map Prod.snd) := by
  have hcut : (healthyRows.map Prod.snd).splitBy (· == ·) =
      (runs Prod.snd healthyRows).map (List.map Prod.snd) := by
    rw [← runs_map]
    exact (runs_eq_splitBy _).symm
  rw [segmentEpisodes, List.countP_filterMap, alarmRuns, hcut, List.countP_map]
  refine List.countP_congr fun slice _ => ?_
  rw [qualifies_sliceEpisode]
  simp [List.head?_map]

/-- The episodes of a run. -/
def runEpisodes (dataset : ExperimentDataset F) (persistence : ℕ)
    (item : String × List (F × String)) : List (RowSequenceEpisode F) :=
  match dataset.runMetadata.get? item.1 with
  | none => []
  | some metadata =>
      segmentEpisodes persistence item.1
        (healthySegment metadata Prod.fst (sortByElapsed Prod.fst item.2))

/-- A run adds its episodes. -/
theorem episodes_addRowSequence {dataset : ExperimentDataset F} {persistence : ℕ}
    {totals totals' : RowSequenceTotals F} {item : String × List (F × String)}
    (h : addRowSequence dataset persistence totals item = .ok totals') :
    totals'.episodes = totals.episodes ++ runEpisodes dataset persistence item := by
  unfold addRowSequence at h
  unfold runEpisodes
  split at h
  · cases h
  next metadata hmetadata =>
    dsimp only at h
    split at h
    next hnil =>
      cases h
      rw [hnil, segmentEpisodes, runs_nil]
      exact (List.append_nil _).symm
    · cases h
      rw [episodes_foldl_addSlice]
      rfl

/-- All runs add theirs. -/
theorem episodes_foldlM_addRowSequence {dataset : ExperimentDataset F} {persistence : ℕ}
    (items : List (String × List (F × String))) {totals totals' : RowSequenceTotals F}
    (h : items.foldlM (addRowSequence dataset persistence) totals = .ok totals') :
    totals'.episodes = totals.episodes ++ items.flatMap (runEpisodes dataset persistence) := by
  induction items generalizing totals with
  | nil =>
      obtain rfl := Except.ok.inj h
      exact (List.append_nil _).symm
  | cons item items ih =>
      rw [List.foldlM_cons] at h
      obtain ⟨next, hnext, hrest⟩ := Exceptions.bind_eq_ok.mp h
      rw [ih hrest, episodes_addRowSequence hnext, List.flatMap_cons, List.append_assoc]

/-- The episodes of a run are of this run. -/
theorem simulationRunId_of_mem_runEpisodes {dataset : ExperimentDataset F} {persistence : ℕ}
    {item : String × List (F × String)} {episode : RowSequenceEpisode F}
    (h : episode ∈ runEpisodes dataset persistence item) : episode.simulationRunId = item.1 := by
  unfold runEpisodes at h
  split at h
  · cases h
  · exact simulationRunId_of_mem_segmentEpisodes h

/-- The episodes of a run that qualify as events are its maximal runs of alarms that are long
enough. -/
theorem countP_runEpisodes (dataset : ExperimentDataset F) (persistence : ℕ)
    (item : String × List (F × String)) :
    (runEpisodes dataset persistence item).countP RowSequenceEpisode.qualifiesAsEvent =
      alarmRuns persistence (healthyLabels dataset item) := by
  unfold runEpisodes healthyLabels
  cases dataset.runMetadata.get? item.1 with
  | none => rfl
  | some metadata => exact countP_segmentEpisodes persistence item.1 _

/-- The episodes with the id of a run are those of the run. -/
theorem filter_flatMap_runEpisodes {dataset : ExperimentDataset F} {persistence : ℕ}
    {rows : OrderedDict (id : String → String) (List (F × String))}
    {item : String × List (F × String)} (hitem : item ∈ rows.items) :
    (rows.items.flatMap (runEpisodes dataset persistence)).filter
        (fun episode => episode.simulationRunId = item.1) =
      runEpisodes dataset persistence item := by
  have hkeys : (rows.items.map Prod.fst).Nodup := rows.nodup
  exact KeyedWindow.ofKey_flatMap hkeys
    (fun _ _ _ hepisode => simulationRunId_of_mem_runEpisodes hepisode) hitem

/-- The three counters agree. The qualifying episodes of a run are as many as the streak counter of
`models/detection.py` finds in the labels of its healthy segment. That counter finds the maximal
runs of one label that is not healthy, of at least the length of the persistence. The counter of
`calibration/alert_policy.py` finds as many as it does after every withheld diagnosis is replaced by
the healthy label. -/
theorem falseAlarmCounters_agree (dataset : ExperimentDataset F) (mask : List Bool)
    (predictions : List String) {persistence : ℕ} (hpersistence : 1 ≤ persistence)
    {rows : OrderedDict (id : String → String) (List (F × String))}
    (hrows : predictionsByRun dataset mask predictions = .ok rows)
    {summary : RowSequenceFalseAlertSummary F}
    (hsummary : computeRowSequenceFalseAlerts dataset mask predictions persistence = .ok summary) :
    (∀ item ∈ rows.items,
      (summary.qualifyingEpisodes.filter fun episode =>
          episode.simulationRunId = item.1).length =
        Models.countFalseAlarmEvents (healthyLabels dataset item) persistence) ∧
    (∀ labels, Models.countFalseAlarmEvents labels persistence = alarmRuns persistence labels) ∧
    ∀ labels, Calibration.countFalseAlarmEvents labels persistence =
      alarmRuns persistence (labels.map withheldAsHealthy) := by
  refine ⟨?_, countFalseAlarmEvents_models hpersistence, ?_⟩
  · intro item hitem
    rw [computeRowSequenceFalseAlerts, hrows, Exceptions.ok_bind] at hsummary
    obtain ⟨totals, htotals, hsum⟩ := Exceptions.bind_eq_ok.mp hsummary
    obtain ⟨hours, -, rfl⟩ := Exceptions.map_eq_ok.mp hsum
    have hepisodes : totals.episodes = rows.items.flatMap (runEpisodes dataset persistence) :=
      episodes_foldlM_addRowSequence rows.items htotals
    rw [countFalseAlarmEvents_models hpersistence, ← countP_runEpisodes,
      List.countP_eq_length_filter, ← filter_flatMap_runEpisodes hitem,
      RowSequenceFalseAlertSummary.qualifyingEpisodes]
    dsimp only
    rw [hepisodes, List.filter_comm]
  · intro labels
    rw [countFalseAlarmEvents_calibration, countFalseAlarmEvents_models hpersistence]

end RowSequence

/-- One healthy run of four rows. -/
def alternatingDataset : ExperimentDataset ℚ where
  rows := [⟨"run-1", "stack-1", 10⟩, ⟨"run-1", "stack-1", 20⟩, ⟨"run-1", "stack-1", 30⟩,
    ⟨"run-1", "stack-1", 40⟩]
  runMetadata := OrderedDict.empty.set "run-1" ⟨"normal_operation", "stack-1", none⟩

/-- Two predictions of one class, and one of another. -/
def alternatingPredictions : List String :=
  ["cooling_degradation", "cooling_degradation", "healthy", "hydrogen_supply_issue"]

/-- The rows of the run. -/
def alternatingRun : List (ℚ × String) := ([10, 20, 30, 40] : List ℚ).zip alternatingPredictions

/-- The rows, as they are gathered. -/
def alternatingRuns : OrderedDict (id : String → String) (List (ℚ × String)) :=
  OrderedDict.empty.set "run-1" alternatingRun

/-- The predictions of the run, gathered. -/
theorem predictionsByRun_alternating : predictionsByRun alternatingDataset
    [true, true, true, true] alternatingPredictions = .ok alternatingRuns := rfl

/-- The summary of the dataset can be computed. -/
theorem exists_summary_alternating : ∃ summary, computeRowSequenceFalseAlerts alternatingDataset
    [true, true, true, true] alternatingPredictions 2 = .ok summary := by
  have hround : ∃ totals, addRowSequence alternatingDataset 2 .zero ("run-1", alternatingRun) =
      .ok totals := by
    have hmetadata : alternatingDataset.runMetadata.get? "run-1" =
        some ⟨"normal_operation", "stack-1", none⟩ := rfl
    rw [addRowSequence, hmetadata]
    dsimp only
    split
    · exact ⟨_, rfl⟩
    · exact ⟨_, rfl⟩
  obtain ⟨totals, htotals⟩ := hround
  have hhours : PyFloat.truediv totals.healthySeconds (PyFloat.literal 3600.0) =
      .ok (totals.healthySeconds / 3600.0) :=
    if_neg (show ¬ (3600.0 : ℚ) = 0 by decide +kernel)
  have hitems : alternatingRuns.items = [("run-1", alternatingRun)] := rfl
  rw [computeRowSequenceFalseAlerts, predictionsByRun_alternating, Exceptions.ok_bind, hitems,
    List.foldlM_cons, htotals, Exceptions.ok_bind]
  refine ⟨⟨totals.episodes, totals.falseRowCount, totals.healthySeconds / 3600.0,
    totals.runsWithAlert⟩, ?_⟩
  show ((PyFloat.truediv totals.healthySeconds (PyFloat.literal 3600.0)).mapError _).map _ = _
  rw [hhours]
  rfl

/-- The counters on the four rows. -/
theorem falseAlarmCounters_agree_alternating :
    ∃ summary, computeRowSequenceFalseAlerts alternatingDataset [true, true, true, true]
        alternatingPredictions 2 = .ok summary ∧
      (∀ item ∈ alternatingRuns.items,
        (summary.qualifyingEpisodes.filter fun episode =>
            episode.simulationRunId = item.1).length =
          Models.countFalseAlarmEvents (healthyLabels alternatingDataset item) 2) ∧
      (∀ labels, Models.countFalseAlarmEvents labels 2 = alarmRuns 2 labels) ∧
      ∀ labels, Calibration.countFalseAlarmEvents labels 2 =
        alarmRuns 2 (labels.map withheldAsHealthy) := by
  obtain ⟨summary, hsummary⟩ := exists_summary_alternating
  exact ⟨summary, hsummary, falseAlarmCounters_agree alternatingDataset [true, true, true, true]
    alternatingPredictions (by decide) predictionsByRun_alternating hsummary⟩

end Odis.AlertPolicy
