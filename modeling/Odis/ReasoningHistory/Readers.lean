import Odis.Library.Exceptions
import Odis.ReasoningHistory.Session

/-!
# Reading recorded runs

What is read from the records of `ReasoningSession.run`: `ReasoningReplayer`, `ReasoningHistory`,
`RecurrenceAnalyzer`, `OperationalSummaryService` with its analyzers, and `AttentionQueue`. All of
them resolve the records of runs, and raise on a run that has no index row.

* `exists_replay_iff`, `exists_analyze_iff`, `exists_rank_iff`: on which records they do not raise.
-/

namespace Odis.ReasoningHistory

open Exceptions Inference Reasoning WriteLog

variable {F : Type}

/-! ## Readers -/

/-- `ValueError`: a record that does not exist. -/
inductive ReadError where
  | run (runId : String)
  | index (runId : String)
  | observation (observationId : String)
  | situation (situationId : String)
  | context (contextId : String)
  | plan (planId : String)
  deriving DecidableEq, Repr

/-- `ReplayResult`, as it is made `from_persisted`. -/
structure ReplayResult (F : Type) where
  run : ReasoningRun
  observations : List (Observation F)
  situation : OperationalSituation
  context : DecisionContext
  plan : DecisionPlan

/-- The record under an id, or the exception that it does not exist. -/
def load {α : Type} (idOf : α → String) (records : List α) (error : String → ReadError)
    (id : String) : Except ReadError α :=
  match records.find? fun record => idOf record = id with
  | some record => .ok record
  | none => .error (error id)

/-- `RecurrenceAnalysis`. -/
structure RecurrenceAnalysis where
  currentRunId : String
  previousMatchingRunIds : List String
  isRecurring : Bool
  recurrenceCount : ℕ

/-- `_is_recurrence`. -/
def isRecurrence (current earlier : ReplayResult F) : Bool :=
  current.situation.assessment = earlier.situation.assessment ∧
    current.plan.priority = earlier.plan.priority

/-- `_find_previous_run_id`. -/
def findPreviousRunId (runs : List ReasoningRun) (runId : String) : Option String :=
  if runs.any fun run => run.id = runId then
    ((runs.takeWhile fun run => run.id ≠ runId).getLast?).map ReasoningRun.id
  else none

/-- `_PRIORITY_RANK`. -/
def priorityRank : Priority → ℕ
  | .low => 0
  | .medium => 1
  | .high => 2
  | .critical => 3

/-- What `EscalationAnalyzer` and `StabilityAnalyzer` tell of two runs. -/
structure Change where
  priorityEscalated : Bool
  priorityDeescalated : Bool
  becameMoreStable : Bool
  becameLessStable : Bool

/-- `OperationalSummary`. -/
structure OperationalSummary where
  runId : String
  assessment : String
  priority : Priority
  recommendation : String
  isRecurring : Bool
  recurrenceCount : ℕ
  change : Change

/-- `AttentionItem`. -/
structure AttentionItem where
  runId : String
  priority : Priority
  isRecurring : Bool
  recurrenceCount : ℕ
  priorityEscalated : Bool
  attentionScore : ℕ

/-- `_PRIORITY_ATTENTION_SCORE`. -/
def priorityAttentionScore : Priority → ℕ
  | .low => 1
  | .medium => 2
  | .high => 3
  | .critical => 4

/-- `_attention_score`. -/
def attentionScore (summary : OperationalSummary) : ℕ :=
  priorityAttentionScore summary.priority + (if summary.isRecurring then 1 else 0) +
    (if summary.change.priorityEscalated then 1 else 0)

/-- The item of a run. -/
def attentionItem (summary : OperationalSummary) : AttentionItem :=
  ⟨summary.runId, summary.priority, summary.isRecurring, summary.recurrenceCount,
    summary.change.priorityEscalated, attentionScore summary⟩

namespace Repositories

variable (repositories : Repositories F)

/-- `get` of the repository of runs. -/
def loadRun (runId : String) : Except ReadError ReasoningRun :=
  load ReasoningRun.id repositories.runs .run runId

/-- `ReasoningReplayer.replay`. -/
def replay (runId : String) : Except ReadError (ReplayResult F) := do
  let run ← repositories.loadRun runId
  let index ← load ReasoningRunIndex.runId repositories.indexes .index runId
  let observations ← index.observationIds.mapM
    (load Observation.id repositories.observations .observation)
  let situation ←
    load OperationalSituation.id repositories.situations .situation index.situationId
  let context ← load DecisionContext.id repositories.contexts .context index.contextId
  let plan ← load DecisionPlan.id repositories.plans .plan index.planId
  return ⟨run, observations, situation, context, plan⟩

/-- `ReasoningHistory.list_runs`. -/
def listRuns : Except ReadError (List ReasoningRun) :=
  repositories.registry.mapM fun entry => repositories.loadRun entry.runId

/-- `RecurrenceAnalyzer.analyze`. -/
def analyze (currentRunId : String) : Except ReadError RecurrenceAnalysis := do
  let runs ← repositories.listRuns
  let current ← repositories.replay currentRunId
  -- the loop breaks at the current run
  let earlier ← (runs.takeWhile fun run => run.id ≠ currentRunId).mapM fun run =>
    (repositories.replay run.id).map fun earlier => (run.id, earlier)
  let matching := (earlier.filter fun (_, earlier) => isRecurrence current earlier).map Prod.fst
  return ⟨currentRunId, matching, matching ≠ [], matching.length⟩

/-- `EscalationAnalyzer.analyze` and `StabilityAnalyzer.analyze`. -/
def change (previousRunId currentRunId : String) : Except ReadError Change := do
  let previous ← repositories.replay previousRunId
  let current ← repositories.replay currentRunId
  let previousUnstable := occursIn "unstable" previous.situation.assessment
  let currentUnstable := occursIn "unstable" current.situation.assessment
  return ⟨priorityRank previous.plan.priority < priorityRank current.plan.priority,
    priorityRank current.plan.priority < priorityRank previous.plan.priority,
    previousUnstable && !currentUnstable, !previousUnstable && currentUnstable⟩

/-- `OperationalSummaryService.summarize`. -/
def summarize (runId : String) : Except ReadError OperationalSummary := do
  let replayed ← repositories.replay runId
  let recurrence ← repositories.analyze runId
  let runs ← repositories.listRuns
  let change ←
    match findPreviousRunId runs runId with
    | none => .ok ⟨false, false, false, false⟩
    | some previousRunId => repositories.change previousRunId runId
  return ⟨runId, replayed.situation.assessment, replayed.plan.priority,
    replayed.plan.recommendation, recurrence.isRecurring, recurrence.recurrenceCount, change⟩

/-- `AttentionQueue.rank`. -/
def rank : Except ReadError (List AttentionItem) := do
  let runs ← repositories.listRuns
  let items ← runs.mapM fun run => (repositories.summarize run.id).map attentionItem
  -- the newest first among those of one score
  return ((items.zipIdx.insertionSort fun a b =>
    b.1.attentionScore < a.1.attentionScore ∨
      (a.1.attentionScore = b.1.attentionScore ∧ b.2 ≤ a.2)).map Prod.fst)

end Repositories

/-! ## Records that resolve -/

/-- A record is kept. -/
def Repositories.Contains (repositories : Repositories F) : Row F → Prop
  | .run run => run ∈ repositories.runs
  | .registry entry => entry ∈ repositories.registry
  | .observation observation => observation ∈ repositories.observations
  | .situation situation => situation ∈ repositories.situations
  | .context context => context ∈ repositories.contexts
  | .plan plan => plan ∈ repositories.plans
  | .index index => index ∈ repositories.indexes

/-- Every entry and every index row among some records refers to others of them. -/
structure Resolved (kept : Row F → Prop) : Prop where
  entries : ∀ entry, kept (.registry entry) → ∃ run, kept (.run run) ∧ run.id = entry.runId
  runs : ∀ index, kept (.index index) → ∃ run, kept (.run run) ∧ run.id = index.runId
  observations : ∀ index, kept (.index index) → ∀ id ∈ index.observationIds,
    ∃ observation, kept (.observation observation) ∧ observation.id = id
  situations : ∀ index, kept (.index index) →
    ∃ situation, kept (.situation situation) ∧ situation.id = index.situationId
  contexts : ∀ index, kept (.index index) →
    ∃ context, kept (.context context) ∧ context.id = index.contextId
  plans : ∀ index, kept (.index index) → ∃ plan, kept (.plan plan) ∧ plan.id = index.planId

section Reading

variable {repositories : Repositories F}

/-- A record is loaded if there is one. -/
theorem exists_load_iff {α : Type} {idOf : α → String} {records : List α}
    {error : String → ReadError} {id : String} :
    (∃ record, load idOf records error id = .ok record) ↔ id ∈ records.map idOf := by
  unfold load
  cases hfind : records.find? fun record => idOf record = id with
  | none =>
      refine iff_of_false (by rintro ⟨record, ⟨⟩⟩) fun hmem => ?_
      obtain ⟨record, hrecord, hid⟩ := List.mem_map.mp hmem
      simpa [hid] using List.find?_eq_none.mp hfind record hrecord
  | some record =>
      refine iff_of_true ⟨record, rfl⟩ (List.mem_map.mpr ⟨record, ?_, ?_⟩)
      · exact List.mem_of_find?_eq_some hfind
      · simpa using List.find?_some hfind

/-- The record that is loaded has the id it was looked up by. -/
theorem id_of_load {α : Type} {idOf : α → String} {records : List α}
    {error : String → ReadError} {id : String} {record : α}
    (h : load idOf records error id = .ok record) : record ∈ records ∧ idOf record = id := by
  unfold load at h
  cases hfind : records.find? fun record => idOf record = id with
  | none =>
      rw [hfind] at h
      cases h
  | some found =>
      rw [hfind] at h
      obtain rfl := Except.ok.inj h
      exact ⟨List.mem_of_find?_eq_some hfind, by simpa using List.find?_some hfind⟩

/-- A run is replayed if it has an index row. -/
theorem exists_replay_iff (h : Resolved repositories.Contains) {runId : String} :
    (∃ result, repositories.replay runId = .ok result) ↔
      runId ∈ repositories.indexes.map ReasoningRunIndex.runId := by
  constructor
  · rintro ⟨result, hresult⟩
    obtain ⟨run, -, hresult⟩ := bind_eq_ok.mp hresult
    obtain ⟨index, hindex, -⟩ := bind_eq_ok.mp hresult
    exact exists_load_iff.mp ⟨index, hindex⟩
  · intro hmem
    obtain ⟨index, hindex⟩ := exists_load_iff.mpr hmem
    -- whatever the index names is stored, so every load on the way succeeds
    obtain ⟨hrow, hid⟩ := id_of_load hindex
    refine exists_bind_eq_ok.mpr ?_
    obtain ⟨run, hrun⟩ := exists_load_iff.mpr (List.mem_map.mpr (hid ▸ h.runs index hrow))
    refine ⟨run, hrun, exists_bind_eq_ok.mpr ⟨index, hindex, exists_bind_eq_ok.mpr ?_⟩⟩
    obtain ⟨observations, hobservations⟩ := exists_mapM_eq_ok_iff.mpr fun id hid =>
      exists_load_iff.mpr (List.mem_map.mpr (h.observations index hrow id hid))
    refine ⟨observations, hobservations, exists_bind_eq_ok.mpr ?_⟩
    obtain ⟨situation, hsituation⟩ :=
      exists_load_iff.mpr (List.mem_map.mpr (h.situations index hrow))
    refine ⟨situation, hsituation, exists_bind_eq_ok.mpr ?_⟩
    obtain ⟨context, hcontext⟩ := exists_load_iff.mpr (List.mem_map.mpr (h.contexts index hrow))
    refine ⟨context, hcontext, exists_bind_eq_ok.mpr ?_⟩
    obtain ⟨plan, hplan⟩ := exists_load_iff.mpr (List.mem_map.mpr (h.plans index hrow))
    exact ⟨plan, hplan, _, rfl⟩

/-- The registered runs are listed. -/
theorem exists_listRuns (h : Resolved repositories.Contains) :
    ∃ runs, repositories.listRuns = .ok runs ∧ runs.map ReasoningRun.id =
      repositories.registry.map ReasoningRunRegistryEntry.runId := by
  obtain ⟨runs, hruns⟩ := exists_mapM_eq_ok_iff.mpr fun entry hentry =>
    exists_load_iff.mpr (List.mem_map.mpr (h.entries entry hentry))
  have hid (entry : ReasoningRunRegistryEntry) (run : ReasoningRun)
      (hrun : load ReasoningRun.id repositories.runs .run entry.runId = .ok run) :
      run.id = entry.runId := (id_of_load hrun).2
  exact ⟨runs, hruns, map_eq_of_mapM hid hruns⟩

/-- The run, and those that were registered before it, have index rows. -/
def IndexedUpTo (repositories : Repositories F) (runId : String) : Prop :=
  runId ∈ repositories.indexes.map ReasoningRunIndex.runId ∧
    ∀ earlier ∈ (repositories.registry.map ReasoningRunRegistryEntry.runId).takeWhile
      (fun id => id ≠ runId), earlier ∈ repositories.indexes.map ReasoningRunIndex.runId

/-- A run is compared with those before it if it and all of them are replayed. -/
theorem exists_analyze_iff (h : Resolved repositories.Contains) {runId : String} :
    (∃ analysis, repositories.analyze runId = .ok analysis) ↔
      IndexedUpTo repositories runId := by
  obtain ⟨runs, hruns, hids⟩ := exists_listRuns h
  -- the runs before it are those that were registered before it
  have hbefore : ((runs.takeWhile fun run => run.id ≠ runId).map ReasoningRun.id) =
      (repositories.registry.map ReasoningRunRegistryEntry.runId).takeWhile
        (fun id => id ≠ runId) := by
    rw [← hids, List.takeWhile_map]
    rfl
  unfold Repositories.analyze IndexedUpTo
  rw [hruns, ok_bind, ← hbefore, List.forall_mem_map, ← exists_replay_iff h, exists_bind_eq_ok]
  constructor
  · rintro ⟨current, hcurrent, hearlier⟩
    obtain ⟨earlier, hreplayed, -⟩ := exists_bind_eq_ok.mp hearlier
    refine ⟨⟨current, hcurrent⟩, fun run hrun => ?_⟩
    obtain ⟨pair, hpair⟩ := exists_mapM_eq_ok_iff.mp ⟨earlier, hreplayed⟩ run hrun
    obtain ⟨result, hresult, -⟩ := map_eq_ok.mp hpair
    exact (exists_replay_iff h).mp ⟨result, hresult⟩
  · rintro ⟨⟨current, hcurrent⟩, hindexed⟩
    refine ⟨current, hcurrent, exists_bind_eq_ok.mpr ?_⟩
    have hbody : ∀ run ∈ runs.takeWhile fun run => run.id ≠ runId,
        ∃ pair, (repositories.replay run.id).map (fun earlier => (run.id, earlier)) = .ok pair := by
      intro run hrun
      obtain ⟨result, hresult⟩ := (exists_replay_iff h).mpr (hindexed run hrun)
      exact ⟨_, map_eq_ok.mpr ⟨result, hresult, rfl⟩⟩
    obtain ⟨earlier, hreplayed⟩ := exists_mapM_eq_ok_iff.mpr hbody
    exact ⟨earlier, hreplayed, _, rfl⟩

/-- The run before another one is registered before it. -/
theorem mem_of_findPreviousRunId {runs : List ReasoningRun} {runId previousRunId : String}
    (h : findPreviousRunId runs runId = some previousRunId) :
    previousRunId ∈ (runs.map ReasoningRun.id).takeWhile fun id => id ≠ runId := by
  unfold findPreviousRunId at h
  split_ifs at h
  obtain ⟨previous, hprevious, rfl⟩ := Option.map_eq_some_iff.mp h
  rw [List.takeWhile_map]
  exact List.mem_map_of_mem (List.mem_of_getLast? hprevious)

/-- A run is summarized if it and all runs before it are replayed. -/
theorem exists_summarize_iff (h : Resolved repositories.Contains) {runId : String} :
    (∃ summary, repositories.summarize runId = .ok summary) ↔
      IndexedUpTo repositories runId := by
  unfold Repositories.summarize
  rw [exists_bind_eq_ok]
  constructor
  · rintro ⟨_, _, hrest⟩
    obtain ⟨analysis, hanalysis, -⟩ := exists_bind_eq_ok.mp hrest
    exact (exists_analyze_iff h).mp ⟨analysis, hanalysis⟩
  · intro hindexed
    obtain ⟨replayed, hreplayed⟩ := (exists_replay_iff h).mpr hindexed.1
    obtain ⟨analysis, hanalysis⟩ := (exists_analyze_iff h).mpr hindexed
    obtain ⟨runs, hruns, hids⟩ := exists_listRuns h
    refine ⟨replayed, hreplayed, exists_bind_eq_ok.mpr ⟨analysis, hanalysis, ?_⟩⟩
    rw [hruns, ok_bind]
    -- the previous run is one of those before it
    cases hprevious : findPreviousRunId runs runId with
    | none => exact ⟨_, rfl⟩
    | some previousRunId =>
        have hbefore := mem_of_findPreviousRunId hprevious
        rw [hids] at hbefore
        obtain ⟨previous, hread⟩ :=
          (exists_replay_iff h).mpr (hindexed.2 previousRunId hbefore)
        dsimp only
        unfold Repositories.change
        rw [hread, ok_bind, hreplayed, ok_bind]
        exact ⟨_, rfl⟩

/-- The runs are ranked if all that are registered are replayed. -/
theorem exists_rank_iff (h : Resolved repositories.Contains) :
    (∃ items, repositories.rank = .ok items) ↔ ∀ entry ∈ repositories.registry,
      entry.runId ∈ repositories.indexes.map ReasoningRunIndex.runId := by
  obtain ⟨runs, hruns, hids⟩ := exists_listRuns h
  unfold Repositories.rank
  rw [hruns, ok_bind, exists_bind_eq_ok]
  have hall : (∀ entry ∈ repositories.registry,
      entry.runId ∈ repositories.indexes.map ReasoningRunIndex.runId) ↔
        ∀ run ∈ runs, run.id ∈ repositories.indexes.map ReasoningRunIndex.runId := by
    rw [← List.forall_mem_map, ← hids, List.forall_mem_map]
  rw [hall]
  constructor
  · rintro ⟨items, hitems, -⟩ run hrun
    obtain ⟨item, hitem⟩ := exists_mapM_eq_ok_iff.mp ⟨items, hitems⟩ run hrun
    obtain ⟨summary, hsummary, -⟩ := map_eq_ok.mp hitem
    exact ((exists_summarize_iff h).mp ⟨summary, hsummary⟩).1
  · intro hindexed
    have hbody : ∀ run ∈ runs, ∃ item,
        (repositories.summarize run.id).map attentionItem = .ok item := by
      intro run hrun
      -- with all runs indexed, so are those up to any of them
      have hupTo : IndexedUpTo repositories run.id := by
        refine ⟨hindexed run hrun, fun earlier hearlier => ?_⟩
        obtain ⟨entry, hentry, rfl⟩ := List.mem_map.mp (List.takeWhile_subset _ hearlier)
        exact hall.mpr hindexed entry hentry
      obtain ⟨summary, hsummary⟩ := (exists_summarize_iff h).mpr hupTo
      exact ⟨_, map_eq_ok.mpr ⟨summary, hsummary, rfl⟩⟩
    obtain ⟨items, hitems⟩ := exists_mapM_eq_ok_iff.mpr hbody
    exact ⟨items, hitems, _, rfl⟩

end Reading

end Odis.ReasoningHistory
