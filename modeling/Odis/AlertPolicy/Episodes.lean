import Odis.AlertPolicy.ConfirmedClass
import Odis.AlertPolicy.GappedEvaluation
import Odis.Library.Stretches

/-!
# Episodes and the confirmed class

`episodes_from_events` folds the events of a run into episodes. They are the stretches of the class
that the machine has confirmed after every row, so the two views of a run, its row states and its
episodes, agree.

* `episodes_exact`: the episodes are disjoint and cover the rows that are reported as confirmed.
* `falseConfirmedEventCount_iff`: they are as many as the alerts exactly if no class changes.
-/

namespace Odis.AlertPolicy

open Stretches

section Scan

variable {F : Type}

/-- A stretch of the confirmed class, as an episode of a run. -/
def FalseEpisode.ofStretch (runId : String) (stretch : Stretch F String) : FalseEpisode F :=
  ⟨runId, stretch.label, stretch.start, stretch.stop, stretch.censored⟩

/-- The episodes of a scan at the end of the segment. -/
def EpisodeScan.close (runId : String) (segmentEnd : F) (scan : EpisodeScan F) :
    List (FalseEpisode F) :=
  scan.episodes ++
    (scan.opened.map fun o => (⟨runId, o.2, o.1, segmentEnd, true⟩ : FalseEpisode F)).toList

/-- `episodes_from_events` is a scan over the events, closed at the end of the segment. -/
theorem episodesFromEvents_eq_close (runId : String) (events : List (AlertEvent F))
    (segmentEnd : F) : episodesFromEvents runId events segmentEnd =
      (events.foldl (EpisodeScan.step runId) ⟨[], none⟩).close runId segmentEnd := by
  rw [episodesFromEvents, EpisodeScan.close]
  cases (events.foldl (EpisodeScan.step runId) ⟨[], none⟩).opened with
  | none => exact (List.append_nil _).symm
  | some o => rfl

/-- The scan over the event of a row, if there is one. -/
theorem EpisodeScan.foldl_step (runId : String) (scan : EpisodeScan F) {elapsed : F}
    {before after : Option String} {event : Option (AlertEvent F)}
    (h : ClassStep elapsed before after event) (hopened : scan.opened.map Prod.snd = before) :
    event.toList.foldl (EpisodeScan.step runId) scan =
      if before = after then scan
      else
        ⟨scan.episodes ++ (scan.opened.map fun o =>
          (⟨runId, o.2, o.1, elapsed, false⟩ : FalseEpisode F)).toList,
          after.map fun c => (elapsed, c)⟩ := by
  obtain ⟨episodes, opened⟩ := scan
  cases h with
  | quiet c => rw [if_pos rfl, Option.toList_none, List.foldl_nil]
  -- nothing is open, so a segment is opened
  | newAlert c =>
      rw [Option.map_eq_none_iff] at hopened
      dsimp only at hopened
      subst hopened
      rw [if_neg (by simp)]
      simp [EpisodeScan.step, newAlertEvent]
  -- the open segment is closed and another one opened
  | classChange other =>
      obtain ⟨o, rfl, rfl⟩ := Option.map_eq_some_iff.mp hopened
      rw [if_neg (by simpa using other)]
      simp [EpisodeScan.step, classChangeEvent]
  -- the open segment is closed
  | cleared c =>
      obtain ⟨o, rfl, rfl⟩ := Option.map_eq_some_iff.mp hopened
      rw [if_neg (by simp)]
      simp [EpisodeScan.step, clearedEvent]

end Scan

/-! ## The stretches of the confirmed class -/

section Run

variable {F : Type} [LE F] [DecidableLE F] {classes : ClassOrder}

/-- The times of rows, each with the class that is confirmed after it. -/
def confirmedAfter (rows : List (AlertRow F classes)) (outcomes : List (StepOutcome F)) :
    List (F × Option String) :=
  List.zipWith (fun row outcome => (row.elapsed, outcome.next.confirmedClass)) rows outcomes

/-- The episodes of a run from a phase are the stretches of its confirmed class. -/
theorem close_foldl_eq (config : StateMachineConfig F) (runId : String) (segmentEnd : F)
    (φ : Phase) (rows : List (AlertRow F classes)) (scan : EpisodeScan F)
    (hopened : scan.opened.map Prod.snd = φ.toState.confirmedClass) :
    (((Transducer.outputs (Phase.transduce config) φ rows).filterMap StepOutcome.event).foldl
        (EpisodeScan.step runId) scan).close runId segmentEnd =
      scan.episodes ++ (stretchesFrom segmentEnd scan.opened
        (confirmedAfter rows (Transducer.outputs (Phase.transduce config) φ rows))).map
          (FalseEpisode.ofStretch runId) := by
  induction rows generalizing φ scan with
  | nil =>
      obtain ⟨episodes, opened⟩ := scan
      cases opened <;> rfl
  | cons row rows ih =>
      let after := (φ.step config row).1.toState.confirmedClass
      have hstep := Phase.step_classStep config φ row
      have hrows : confirmedAfter (row :: rows)
          (Transducer.outputs (Phase.transduce config) φ (row :: rows)) =
            (row.elapsed, after) :: confirmedAfter rows
              (Transducer.outputs (Phase.transduce config) (φ.step config row).1 rows) := rfl
      rw [Phase.events_cons, List.foldl_append, scan.foldl_step runId hstep hopened, hrows,
        stretchesFrom, hopened]
      -- a stretch goes on while the class stays, and a new one begins where it changes
      split_ifs with hsame
      · exact ih _ scan (hopened.trans hsame)
      · have hreopened : ((after.map fun c => (row.elapsed, c)).map Prod.snd) = after := by
          cases after <;> rfl
        rw [ih _ _ hreopened, List.map_append, ← List.append_assoc]
        cases scan.opened <;> rfl

/-- The episodes of a run, whose machine starts fresh. -/
theorem episodesFromEvents_eq (config : StateMachineConfig F) (runId : String) (segmentEnd : F)
    (rows : List (AlertRow F classes)) :
    episodesFromEvents runId
        ((Transducer.outputs (Phase.transduce config) .fresh rows).filterMap StepOutcome.event)
        segmentEnd =
      (stretchesFrom segmentEnd none (confirmedAfter rows
        (Transducer.outputs (Phase.transduce config) .fresh rows))).map
          (FalseEpisode.ofStretch runId) := by
  rw [episodesFromEvents_eq_close]
  exact close_foldl_eq config runId segmentEnd .fresh rows ⟨[], none⟩ rfl

/-- The classes after valid rows are read off their states. -/
theorem confirmedAfter_eq (config : StateMachineConfig F) (φ : Phase)
    {rows : List (AlertRow F classes)} (hvalid : ∀ row ∈ rows, row.valid = true) :
    confirmedAfter rows (Transducer.outputs (Phase.transduce config) φ rows) =
      ((rows.map AlertRow.elapsed).zip ((Transducer.outputs (Phase.transduce config) φ rows).map
        StepOutcome.rowState)).map fun r => (r.1, confirmedClassOf r.2) := by
  induction rows generalizing φ with
  | nil => rfl
  | cons row rows ih =>
      have hclass : (φ.step config row).1.toState.confirmedClass =
          confirmedClassOf (φ.step config row).2.1 := by
        apply Option.ext
        intro c
        rw [confirmedClassOf_eq_some_iff,
          Phase.rowState_eq_confirmedState_iff config φ (hvalid row List.mem_cons_self)]
      have hrest := ih (φ.step config row).1 fun r hr => hvalid r (List.mem_cons_of_mem row hr)
      show (row.elapsed, (φ.step config row).1.toState.confirmedClass) :: confirmedAfter rows
        (Transducer.outputs (Phase.transduce config) (φ.step config row).1 rows) = _
      rw [hclass, hrest]
      rfl

end Run

/-! ## Episodes and row states -/

section Exact

variable {F : Type}

/-- A time lies in the half-open interval of an episode. -/
def FalseEpisode.Covers [LE F] [LT F] (episode : FalseEpisode F) (time : F) : Prop :=
  episode.startElapsedSimSeconds ≤ time ∧ time < episode.endElapsedSimSeconds

/-- The episodes of a segment are the confirmed part of its rows, of which the elapsed times and the
states are given. -/
structure ExactEpisodes [LE F] [LT F] (rowStates : List (F × String)) (segmentEnd : F)
    (episodes : List (FalseEpisode F)) : Prop where
  /-- They are in order, disjoint, and not empty. -/
  ordered : episodes.Pairwise fun a b => a.endElapsedSimSeconds ≤ b.startElapsedSimSeconds
  nonempty : ∀ episode ∈ episodes,
    episode.startElapsedSimSeconds < episode.endElapsedSimSeconds
  /-- At most the last is censored. -/
  censored : ∀ episode ∈ episodes.dropLast, episode.censored = false
  /-- A row is reported as confirmed exactly if its time lies in one episode, that of the class. -/
  confirmed_iff : ∀ row ∈ rowStates, ∀ c, row.2 = confirmedState c ↔
    ∃ episode ∈ episodes, episode.faultClass = c ∧ episode.Covers row.1 ∧
      ∀ episode' ∈ episodes, episode'.Covers row.1 → episode' = episode
  /-- The durations add up to the confirmed intervals between the rows, in exact arithmetic. -/
  durations : ∀ value : F → ℚ,
    (episodes.map fun e => value e.endElapsedSimSeconds - value e.startElapsedSimSeconds).sum =
      labelledLength value segmentEnd (rowStates.map fun r => (r.1, confirmedClassOf r.2))

variable [LinearOrder F] {classes : ClassOrder}

/-- Stretches in increasing time are exact episodes. -/
theorem exactEpisodes_stretches {rowStates : List (F × String)} {segmentEnd : F} (runId : String)
    (hincreasing : rowStates.Pairwise fun a b => a.1 < b.1)
    (hend : ∀ row ∈ rowStates, row.1 < segmentEnd) :
    ExactEpisodes rowStates segmentEnd
      ((stretchesFrom segmentEnd none
        (rowStates.map fun r => (r.1, confirmedClassOf r.2))).map
          (FalseEpisode.ofStretch runId)) := by
  let labelled := rowStates.map fun r => (r.1, confirmedClassOf r.2)
  -- the rows, labelled by their confirmed class, are in order and before the end
  have horder : Increasing segmentEnd (none : Option (F × String)) labelled :=
    { pairwise := List.pairwise_map.mpr hincreasing
      lt_stop := List.forall_mem_map.mpr hend
      opened_lt_stop := fun o ho => by cases ho
      opened_lt := fun o ho => by cases ho }
  have hpairwise := pairwise_stretchesFrom horder
  exact
    -- each part of exactness is that part of the stretches of a labelling
    { ordered := List.pairwise_map.mpr hpairwise
      nonempty := List.forall_mem_map.mpr (start_lt_stop horder)
      censored := by
        rw [← List.map_dropLast]
        exact List.forall_mem_map.mpr censored_dropLast
      confirmed_iff := by
        intro row hrow c
        have hlabel := label_eq_some_iff (c := c) horder (row.1, confirmedClassOf row.2)
          (List.mem_map_of_mem hrow)
        rw [confirmedClassOf_eq_some_iff] at hlabel
        rw [hlabel]
        constructor
        -- the stretches are disjoint, so no other one covers the row
        · rintro ⟨stretch, hmem, hclass, hcovers⟩
          refine ⟨.ofStretch runId stretch, List.mem_map_of_mem hmem, hclass, hcovers, ?_⟩
          intro episode hepisode hcovers'
          obtain ⟨stretch', hmem', rfl⟩ := List.mem_map.mp hepisode
          rw [eq_of_covers hpairwise hmem' hmem hcovers' hcovers]
        · rintro ⟨episode, hepisode, hclass, hcovers, -⟩
          obtain ⟨stretch, hmem, rfl⟩ := List.mem_map.mp hepisode
          exact ⟨stretch, hmem, hclass, hcovers⟩
      durations := by
        intro value
        have hsum : ((stretchesFrom segmentEnd none labelled).map fun s =>
            value s.stop - value s.start).sum = 0 + labelledLength value segmentEnd labelled :=
          sum_durations value
        rw [zero_add] at hsum
        rw [List.map_map]
        exact hsum }

/-- A run over valid rows in increasing time, with a later end of the segment: its episodes are the
stretches that its rows are reported as confirmed in. -/
theorem episodes_exact (config : StateMachineConfig F) {rows : List (AlertRow F classes)}
    (hvalid : ∀ row ∈ rows, row.valid = true)
    (hincreasing : (rows.map AlertRow.elapsed).Pairwise (· < ·)) {segmentEnd : F}
    (hend : ∀ row ∈ rows, row.elapsed < segmentEnd) {result : StateMachineResult F}
    {rowValid : Option (List Bool)}
    (hmask : rowValid = none ∨ rowValid = some (rows.map AlertRow.valid))
    (hrun : runStateMachine config (rows.map AlertRow.elapsed) (rows.map AlertRow.proba) rowValid =
      .ok result) (runId : String) :
    result.rowStates.length = rows.length ∧
      ExactEpisodes ((rows.map AlertRow.elapsed).zip result.rowStates) segmentEnd
        (episodesFromEvents runId result.events segmentEnd) := by
  -- the mask says what the rows say, so the run is that of the rows
  have hresult : runStateMachine config (rows.map AlertRow.elapsed) (rows.map AlertRow.proba)
      (some (rows.map AlertRow.valid)) = .ok result := by
    rcases hmask with rfl | rfl
    · rwa [← runStateMachine_none config hvalid]
    · exact hrun
  rw [runStateMachine_eq] at hresult
  obtain rfl := Except.ok.inj hresult
  have hlength : ((Transducer.outputs (Phase.transduce config) .fresh rows).map
      StepOutcome.rowState).length = rows.length := by
    rw [List.length_map, Transducer.length_outputs]
  refine ⟨hlength, ?_⟩
  rw [episodesFromEvents_eq, confirmedAfter_eq config .fresh hvalid]
  -- the states are zipped with the times of the rows
  have htimes : ((rows.map AlertRow.elapsed).zip
      ((Transducer.outputs (Phase.transduce config) .fresh rows).map StepOutcome.rowState)).map
        Prod.fst = rows.map AlertRow.elapsed :=
    List.map_fst_zip (by rw [hlength, List.length_map])
  apply exactEpisodes_stretches
  · rw [← List.pairwise_map, htimes]
    exact hincreasing
  · intro row hrow
    have hmem : row.1 ∈ rows.map AlertRow.elapsed := htimes ▸ List.mem_map_of_mem hrow
    obtain ⟨source, hsource, heq⟩ := List.mem_map.mp hmem
    exact heq ▸ hend source hsource

/-- One probability for every class. -/
theorem length_plantAlphaRow (a b c d : ℕ) :
    [a, b, c, d].length = plantAlphaClasses.labels.length := rfl

/-- A class that is confirmed, changes to another one and is cleared. -/
def changedRows : List (AlertRow ℕ plantAlphaClasses) :=
  [⟨10, ⟨[90, 10, 0, 0], length_plantAlphaRow 90 10 0 0⟩, true⟩,
    ⟨20, ⟨[10, 0, 90, 0], length_plantAlphaRow 10 0 90 0⟩, true⟩,
    ⟨30, ⟨[0, 10, 90, 0], length_plantAlphaRow 0 10 90 0⟩, true⟩,
    ⟨40, ⟨[10, 90, 0, 0], length_plantAlphaRow 10 90 0 0⟩, true⟩]

/-- A run that changes its class, and is open at the end of its segment. -/
theorem episodes_exact_changed :
    let config : StateMachineConfig ℕ := ⟨60, 1, 50, 1⟩
    ∃ result, runStateMachine config (changedRows.map AlertRow.elapsed)
        (changedRows.map AlertRow.proba) none = .ok result ∧
      result.rowStates.length = 4 ∧
      ExactEpisodes ((changedRows.map AlertRow.elapsed).zip result.rowStates) 50
        (episodesFromEvents "run-1" result.events 50) := by
  intro config
  have hvalid : ∀ row ∈ changedRows, row.valid = true := by decide
  have hrun := runStateMachine_eq config changedRows
  rw [← runStateMachine_none config hvalid] at hrun
  exact ⟨_, hrun, episodes_exact config hvalid (by decide) (by decide) (Or.inl rfl) hrun "run-1"⟩

end Exact

/-! ## The number of false alerts -/

/-- `false_confirmed_event_count`. -/
def FalseAlertSummary.falseConfirmedEventCount {F : Type} (summary : FalseAlertSummary F) : ℕ :=
  summary.episodes.length

section Count

variable {F : Type} [PyFloat F] {classes : ClassOrder}

/-- A number of events for each healthy hour. -/
def eventsPerHealthyHour (count : ℕ) (hours : F) : Except ArithmeticError F :=
  if hours ≤ PyFloat.literal 0 then .ok (PyFloat.literal 0.0)
  else PyFloat.truediv (PyFloat.ofInt count) hours

/-- `false_alert_events_per_healthy_hour`. -/
def FalseAlertSummary.falseAlertEventsPerHealthyHour (summary : FalseAlertSummary F) :
    Except ArithmeticError F :=
  eventsPerHealthyHour summary.episodes.length summary.healthyHoursEvaluated

/-- How many events are of a type. -/
def countEvents {F : Type} (eventType : AlertEventType) (events : List (AlertEvent F)) : ℕ :=
  events.countP fun event => event.eventType = eventType

/-- Events are counted part by part. -/
theorem countEvents_append {F : Type} (eventType : AlertEventType)
    (first second : List (AlertEvent F)) :
    countEvents eventType (first ++ second) =
      countEvents eventType first + countEvents eventType second := List.countP_append

omit [PyFloat F] in
/-- The episodes of a run from a phase: the one that is open, and one for each event that enters a
class. -/
theorem length_close_foldl [LE F] [DecidableLE F] (config : StateMachineConfig F) (runId : String)
    (segmentEnd : F) (φ : Phase) (rows : List (AlertRow F classes)) (scan : EpisodeScan F)
    (hopened : scan.opened.map Prod.snd = φ.toState.confirmedClass) :
    let events := (Transducer.outputs (Phase.transduce config) φ rows).filterMap StepOutcome.event
    ((events.foldl (EpisodeScan.step runId) scan).close runId segmentEnd).length =
      scan.episodes.length + scan.opened.toList.length + countEvents .newAlert events +
        countEvents .classChange events := by
  intro events
  -- by induction on the rows: the open episode of the scan is of the confirmed class of the phase
  induction rows generalizing φ scan with
  | nil =>
      obtain ⟨episodes, opened⟩ := scan
      cases opened <;> simp [events, EpisodeScan.close, countEvents]
  | cons row rows ih =>
      have hstep := Phase.step_classStep config φ row
      have hevents : events = _ := Phase.events_cons config φ row rows
      rw [hevents, List.foldl_append, scan.foldl_step runId hstep hopened, countEvents_append,
        countEvents_append]
      have hreopened : ∀ after : Option String,
          (after.map fun c => (row.elapsed, c)).map Prod.snd = after := fun after => by
        cases after <;> rfl
      have hnext := fun episodes => ih (φ.step config row).1
        ⟨episodes, (φ.step config row).1.toState.confirmedClass.map fun c => (row.elapsed, c)⟩
        (hreopened _)
      -- the four kinds of step, each of which opens or closes an episode as it enters or leaves a
      -- class
      generalize (φ.step config row).2.2 = event at hstep
      generalize hafter : (φ.step config row).1.toState.confirmedClass = after at hstep hnext
      generalize hbefore : φ.toState.confirmedClass = before at hstep hopened
      cases hstep with
      | quiet c =>
          rw [if_pos rfl, ih _ scan (hopened.trans hafter.symm)]
          simp [countEvents]
      | newAlert c =>
          rw [if_neg (by simp), hnext]
          rw [Option.map_eq_none_iff] at hopened
          simp [countEvents, newAlertEvent, hopened]
          omega
      | classChange other =>
          rw [if_neg (by simpa using other), hnext]
          obtain ⟨o, ho, -⟩ := Option.map_eq_some_iff.mp hopened
          simp [countEvents, classChangeEvent, ho]
          omega
      | cleared c =>
          rw [if_neg (by simp), hnext]
          obtain ⟨o, ho, -⟩ := Option.map_eq_some_iff.mp hopened
          simp [countEvents, clearedEvent, ho]

/-- The events of the machine over the evaluated healthy segment of a run. -/
def healthyEvents (dataset : ExperimentDataset F) (config : StateMachineConfig F)
    (item : String × List (F × ProbaRow F classes)) : List (AlertEvent F) :=
  match dataset.runMetadata.get? item.1 with
  | none => []
  | some metadata =>
      let healthyRows := healthySegment metadata Prod.fst (sortByElapsed Prod.fst item.2)
      match runStateMachine config (healthyRows.map Prod.fst) (healthyRows.map Prod.snd) none with
      | .error _ => []
      | .ok result => result.events

/-- The episodes that the round of a run adds. -/
theorem length_addFalseAlerts {dataset : ExperimentDataset F} {config : StateMachineConfig F}
    {totals totals' : FalseAlertTotals F} {item : String × List (F × ProbaRow F classes)}
    (h : addFalseAlerts dataset config totals item = .ok totals') :
    totals'.episodes.length = totals.episodes.length +
      (countEvents .newAlert (healthyEvents dataset config item) +
        countEvents .classChange (healthyEvents dataset config item)) := by
  rw [addFalseAlerts] at h
  rw [healthyEvents]
  cases hmetadata : dataset.runMetadata.get? item.1 with
  | none =>
      rw [hmetadata] at h
      cases h
  | some metadata =>
      rw [hmetadata] at h
      dsimp only at h ⊢
      generalize healthySegment metadata Prod.fst (sortByElapsed Prod.fst item.2) = rows at h ⊢
      rw [runStateMachine_alertRows] at h ⊢
      cases hlast : rows.getLast? with
      | none =>
          rw [hlast] at h
          obtain rfl := Except.ok.inj h
          obtain rfl := List.getLast?_eq_none_iff.mp hlast
          rfl
      -- the segment of the run ends one time step after its last row
      | some last =>
          rw [hlast] at h
          obtain rfl := Except.ok.inj h
          have hcount := length_close_foldl config item.1 (last.1 + dtSeconds) .fresh
            (alertRows rows) ⟨[], none⟩ rfl
          simp only [List.length_nil, Option.toList_none, Nat.zero_add] at hcount
          show (totals.episodes ++ episodesFromEvents item.1 _ (last.1 + dtSeconds)).length = _
          rw [List.length_append, episodesFromEvents_eq_close, hcount]

/-- The episodes that the rounds of some runs add. -/
theorem length_foldlM_addFalseAlerts {dataset : ExperimentDataset F}
    {config : StateMachineConfig F} (items : List (String × List (F × ProbaRow F classes)))
    {totals totals' : FalseAlertTotals F}
    (h : items.foldlM (addFalseAlerts dataset config) totals = .ok totals') :
    totals'.episodes.length = totals.episodes.length +
      (countEvents .newAlert (items.flatMap (healthyEvents dataset config)) +
        countEvents .classChange (items.flatMap (healthyEvents dataset config))) := by
  induction items generalizing totals with
  | nil =>
      obtain rfl := Except.ok.inj h
      rfl
  | cons item items ih =>
      rw [List.foldlM_cons] at h
      obtain ⟨next, hnext, hrest⟩ := Exceptions.bind_eq_ok.mp h
      rw [ih hrest, length_addFalseAlerts hnext, List.flatMap_cons, countEvents_append,
        countEvents_append]
      omega

/-- The summary counts the alerts of the healthy segments, and its rate is their number for each
healthy hour, if and only if no class changes in them. -/
theorem falseConfirmedEventCount_iff (dataset : ExperimentDataset F) (mask : List Bool)
    (proba : List (ProbaRow F classes)) (config : StateMachineConfig F)
    {rows : OrderedDict (id : String → String) (List (F × ProbaRow F classes))}
    (hrows : rowsByRun dataset mask proba = .ok rows) {summary : FalseAlertSummary F}
    (hsummary : computeFalseAlertSummary dataset mask proba config = .ok summary) :
    let events := rows.items.flatMap (healthyEvents dataset config)
    (summary.falseConfirmedEventCount = countEvents .newAlert events ∧
      summary.falseAlertEventsPerHealthyHour =
        eventsPerHealthyHour (countEvents .newAlert events) summary.healthyHoursEvaluated) ↔
      ∀ event ∈ events, event.eventType ≠ .classChange := by
  intro events
  rw [computeFalseAlertSummary, hrows, Exceptions.ok_bind] at hsummary
  obtain ⟨totals, htotals, hsum⟩ := Exceptions.bind_eq_ok.mp hsummary
  -- the number of episodes is that of the events that enter a class
  have hcount : summary.episodes.length =
      countEvents .newAlert events + countEvents .classChange events := by
    have hepisodes : summary.episodes = totals.episodes := by
      rw [FalseAlertTotals.summary] at hsum
      obtain ⟨hours, -, rfl⟩ := Exceptions.map_eq_ok.mp hsum
      rfl
    rw [hepisodes, length_foldlM_addFalseAlerts rows.items htotals]
    exact Nat.zero_add _
  -- so it is that of the alerts if no class changes
  have hnone : countEvents .classChange events = 0 ↔
      ∀ event ∈ events, event.eventType ≠ .classChange := by
    rw [countEvents, List.countP_eq_zero]
    simp only [decide_eq_true_eq, Ne]
  rw [← hnone, FalseAlertSummary.falseConfirmedEventCount,
    FalseAlertSummary.falseAlertEventsPerHealthyHour, hcount]
  constructor
  · rintro ⟨heq, -⟩
    omega
  · intro hzero
    rw [hzero, Nat.add_zero]
    exact ⟨rfl, rfl⟩

end Count

/-- One healthy run of two rows. -/
def healthyDataset : ExperimentDataset ℚ where
  rows := [⟨"run-1", "stack-1", 10⟩, ⟨"run-1", "stack-1", 20⟩]
  runMetadata := OrderedDict.empty.set "run-1" ⟨"normal_operation", "stack-1", none⟩

/-- The machine confirms a class on the first row and another one on the second. -/
def changingProba : List (ProbaRow ℚ plantAlphaClasses) :=
  [⟨[9 / 10, 1 / 10, 0, 0], rfl⟩, ⟨[1 / 10, 0, 9 / 10, 0], rfl⟩]

/-- Every row of evidence counts at once. -/
def eagerConfig : StateMachineConfig ℚ := ⟨6 / 10, 1, 1 / 2, 1⟩

/-- The rows of the run. -/
def changingRun : List (ℚ × ProbaRow ℚ plantAlphaClasses) := ([10, 20] : List ℚ).zip changingProba

/-- The rows, as they are gathered. -/
def changingRuns : OrderedDict (id : String → String) (List (ℚ × ProbaRow ℚ plantAlphaClasses)) :=
  OrderedDict.empty.set "run-1" changingRun

/-- The rows of the run, gathered. -/
theorem rowsByRun_changing :
    rowsByRun healthyDataset [true, true] changingProba = .ok changingRuns := rfl

/-- They are in order. -/
theorem sortByElapsed_changing : sortByElapsed Prod.fst changingRun = changingRun := by
  apply List.mergeSort_of_pairwise
  decide +kernel

/-- A class is confirmed, and changes. -/
theorem healthyEvents_changing : healthyEvents healthyDataset eagerConfig ("run-1", changingRun) =
    [newAlertEvent 10 "cooling_degradation",
      classChangeEvent 20 "cooling_degradation" "hydrogen_supply_issue"] := by
  have hmetadata : healthyDataset.runMetadata.get? "run-1" =
      some ⟨"normal_operation", "stack-1", none⟩ := rfl
  rw [healthyEvents, hmetadata]
  dsimp only
  rw [sortByElapsed_changing, runStateMachine_alertRows]
  decide +kernel

/-- The run has two episodes. -/
theorem exists_summary_changing :
    ∃ summary, computeFalseAlertSummary healthyDataset [true, true] changingProba eagerConfig =
      .ok summary ∧ summary.episodes.length = 2 := by
  -- the round of the only run returns
  have hround : ∃ totals, addFalseAlerts healthyDataset eagerConfig .zero ("run-1", changingRun) =
      .ok totals := by
    have hmetadata : healthyDataset.runMetadata.get? "run-1" =
        some ⟨"normal_operation", "stack-1", none⟩ := rfl
    rw [addFalseAlerts, hmetadata]
    dsimp only
    rw [sortByElapsed_changing, runStateMachine_alertRows]
    exact ⟨_, rfl⟩
  obtain ⟨totals, htotals⟩ := hround
  -- the hours are the seconds over 3600
  have hhours : PyFloat.truediv totals.healthySeconds (PyFloat.literal 3600.0) =
      .ok (totals.healthySeconds / 3600.0) :=
    if_neg (show ¬ (3600.0 : ℚ) = 0 by decide +kernel)
  refine ⟨⟨totals.episodes, totals.falseRowCount, totals.healthySeconds / 3600.0,
    totals.runsWithAlert, totals.segmentCount⟩, ?_, ?_⟩
  · have hitems : changingRuns.items = [("run-1", changingRun)] := rfl
    rw [computeFalseAlertSummary, rowsByRun_changing, Exceptions.ok_bind, hitems,
      List.foldlM_cons, htotals, Exceptions.ok_bind]
    show totals.summary = _
    rw [FalseAlertTotals.summary, hhours]
    rfl
  · show totals.episodes.length = 2
    rw [length_addFalseAlerts htotals, healthyEvents_changing]
    rfl

/-- The summary of the run has two episodes for its one alert. -/
theorem not_falseConfirmedEventCount :
    ¬ ∀ (dataset : ExperimentDataset ℚ) (mask : List Bool)
        (proba : List (ProbaRow ℚ plantAlphaClasses)) (config : StateMachineConfig ℚ)
        (rows : OrderedDict (id : String → String) (List (ℚ × ProbaRow ℚ plantAlphaClasses)))
        (summary : FalseAlertSummary ℚ),
      rowsByRun dataset mask proba = .ok rows →
      computeFalseAlertSummary dataset mask proba config = .ok summary →
        summary.falseConfirmedEventCount =
          countEvents .newAlert (rows.items.flatMap (healthyEvents dataset config)) := by
  intro h
  obtain ⟨summary, hsummary, hcount⟩ := exists_summary_changing
  have heq := h healthyDataset [true, true] changingProba eagerConfig changingRuns summary
    rowsByRun_changing hsummary
  have hitems : changingRuns.items = [("run-1", changingRun)] := rfl
  rw [hitems, List.flatMap_singleton, healthyEvents_changing,
    FalseAlertSummary.falseConfirmedEventCount, hcount] at heq
  exact absurd heq (by decide)

/-- The law at the run with the class change. -/
theorem falseConfirmedEventCount_iff_changing :
    ∃ summary, computeFalseAlertSummary healthyDataset [true, true] changingProba eagerConfig =
        .ok summary ∧
      let events := changingRuns.items.flatMap (healthyEvents healthyDataset eagerConfig)
      ((summary.falseConfirmedEventCount = countEvents .newAlert events ∧
        summary.falseAlertEventsPerHealthyHour =
          eventsPerHealthyHour (countEvents .newAlert events) summary.healthyHoursEvaluated) ↔
        ∀ event ∈ events, event.eventType ≠ .classChange) := by
  obtain ⟨summary, hsummary, -⟩ := exists_summary_changing
  exact ⟨summary, hsummary, falseConfirmedEventCount_iff healthyDataset [true, true] changingProba
    eagerConfig rowsByRun_changing hsummary⟩

end Odis.AlertPolicy
