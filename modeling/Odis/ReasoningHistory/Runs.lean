import Odis.ReasoningHistory.Readers

/-!
# Runs one after the other

What `ReasoningSession.run` leaves in the repositories, over any sequence of calls: runs that
return, runs that raise midway, and runs that are refused because of an id that is taken.

* `runsAccountedFor`: what runs leave behind, and on which of them the readers raise.
* `replay_performAll`: a run that returned is replayed as it was.
-/

namespace Odis.ReasoningHistory

open Exceptions Inference Reasoning WriteLog

variable {F : Type}

/-! ## Calls -/

/-- A call of `run` of a session that is given all repositories. -/
structure Call (F E : Type) where
  session : ReasoningSession F E
  draws : RunDraws
  goal : OperationalGoal
  observations : List (Observation F)
  configuration_all : session.configuration = .all

section Rows

variable {repositories : Repositories F} {rows : List (Row F)}

/-- A record is put beside those that are kept. -/
theorem contains_put {row row' : Row F} :
    (repositories.put row).Contains row' ↔ repositories.Contains row' ∨ row' = row := by
  cases row <;> cases row' <;> simp [Repositories.put, Repositories.Contains]

/-- After rows are put, there are the rows that were there and these. -/
theorem contains_foldl {row' : Row F} : (rows.foldl Repositories.put repositories).Contains row' ↔
    repositories.Contains row' ∨ row' ∈ rows := by
  induction rows generalizing repositories with
  | nil => simp
  | cons row rows ih => rw [List.foldl_cons, ih, contains_put, List.mem_cons, or_assoc]

/-- Records that resolve do so together. -/
theorem Resolved.or {kept kept' : Row F → Prop} (h : Resolved kept) (h' : Resolved kept') :
    Resolved fun row => kept row ∨ kept' row := by
  have hleft {α : Type} {make : α → Row F} {holds : α → Prop}
      (hfound : ∃ a, kept (make a) ∧ holds a) :
      ∃ a, (kept (make a) ∨ kept' (make a)) ∧ holds a :=
    hfound.imp fun _ ha => ⟨.inl ha.1, ha.2⟩
  have hright {α : Type} {make : α → Row F} {holds : α → Prop}
      (hfound : ∃ a, kept' (make a) ∧ holds a) :
      ∃ a, (kept (make a) ∨ kept' (make a)) ∧ holds a :=
    hfound.imp fun _ ha => ⟨.inr ha.1, ha.2⟩
  -- a reference is resolved among the records that its own record is one of
  refine ⟨?_, ?_, ?_, ?_, ?_, ?_⟩
  · rintro entry (hentry | hentry)
    · exact hleft (h.entries entry hentry)
    · exact hright (h'.entries entry hentry)
  · rintro index (hindex | hindex)
    · exact hleft (h.runs index hindex)
    · exact hright (h'.runs index hindex)
  · rintro index (hindex | hindex) id hid
    · exact hleft (h.observations index hindex id hid)
    · exact hright (h'.observations index hindex id hid)
  · rintro index (hindex | hindex)
    · exact hleft (h.situations index hindex)
    · exact hright (h'.situations index hindex)
  · rintro index (hindex | hindex)
    · exact hleft (h.contexts index hindex)
    · exact hright (h'.contexts index hindex)
  · rintro index (hindex | hindex)
    · exact hleft (h.plans index hindex)
    · exact hright (h'.plans index hindex)

/-- Records that resolve still do beside new ones that refer to each other. -/
theorem Resolved.foldl_put (h : Resolved repositories.Contains)
    (hrows : Resolved fun row => row ∈ rows) :
    Resolved (rows.foldl Repositories.put repositories).Contains := by
  have hboth : (rows.foldl Repositories.put repositories).Contains =
      fun row => repositories.Contains row ∨ row ∈ rows := by
    funext row
    exact propext contains_foldl
  rw [hboth]
  exact h.or hrows

/-- The record under the id of another one is that one. -/
def Repositories.Finds (repositories : Repositories F) : Row F → Prop
  | .run run => repositories.runs.find? (fun other => other.id = run.id) = some run
  | .registry entry =>
      repositories.registry.find? (fun other => other.runId = entry.runId) = some entry
  | .observation observation =>
      repositories.observations.find? (fun other => other.id = observation.id) = some observation
  | .situation situation =>
      repositories.situations.find? (fun other => other.id = situation.id) = some situation
  | .context context =>
      repositories.contexts.find? (fun other => other.id = context.id) = some context
  | .plan plan => repositories.plans.find? (fun other => other.id = plan.id) = some plan
  | .index index =>
      repositories.indexes.find? (fun other => other.runId = index.runId) = some index

/-- A record under a new id is found. -/
theorem find?_concat_self {α : Type} {idOf : α → String} {records : List α} {record : α}
    (h : idOf record ∉ records.map idOf) :
    (records ++ [record]).find? (fun other => idOf other = idOf record) = some record := by
  have hnone : records.find? (fun other => idOf other = idOf record) = none := by
    refine List.find?_eq_none.mpr fun other hother => ?_
    simpa using fun hid => h (List.mem_map.mpr ⟨other, hother, hid⟩)
  rw [List.find?_append, hnone]
  simp

/-- A record that is found still is beside later ones. -/
theorem find?_concat {α : Type} {p : α → Bool} {records : List α} {record other : α}
    (h : records.find? p = some record) : (records ++ [other]).find? p = some record := by
  rw [List.find?_append, h]
  rfl

/-- A record that is put under a new id is found. -/
theorem finds_put_self {row : Row F} (h : repositories.isTaken row = false) :
    (repositories.put row).Finds row := by
  cases row <;> exact find?_concat_self (of_decide_eq_false h)

/-- A record that is found still is after another one is put. -/
theorem Repositories.Finds.put {row row' : Row F} (h : repositories.Finds row') :
    (repositories.put row).Finds row' := by
  cases row <;> cases row' <;> first | exact h | exact find?_concat h

section Saved

variable {configuration : Configuration}

/-- A record that is found still is after more are saved. -/
theorem Repositories.Finds.addAll {row : Row F} (h : repositories.Finds row) :
    (configuration.log.addAll repositories rows).Finds row := by
  induction rows generalizing repositories with
  | nil => exact h
  | cons first rows ih =>
      refine ih ?_
      unfold Configuration.log Configuration.add
      dsimp only
      split_ifs
      · exact h.put
      · exact h

/-- Every record that is saved is found. -/
theorem finds_of_mem (hadmitted : configuration.log.Admitted repositories rows) {row : Row F}
    (hrow : row ∈ rows) (hgives : configuration.gives row = true) :
    (configuration.log.addAll repositories rows).Finds row := by
  induction rows generalizing repositories with
  | nil => cases hrow
  | cons first rows ih =>
      obtain ⟨hfirst, hrest⟩ := Log.admitted_cons.mp hadmitted
      rcases List.mem_cons.mp hrow with rfl | hrow
      · have hfree : repositories.isTaken row = false := by
          by_contra htaken
          exact hfirst ⟨hgives, by simpa using htaken⟩
        have hfound : (configuration.log.add repositories row).Finds row := by
          unfold Configuration.log Configuration.add
          dsimp only
          rw [if_pos hgives]
          exact finds_put_self hfree
        exact hfound.addAll
      · exact ih hrest hrow

/-- A record that is found is loaded. -/
theorem load_eq {α : Type} {idOf : α → String} {records : List α} {error : String → ReadError}
    {id : String} {record : α}
    (h : records.find? (fun other => idOf other = id) = some record) :
    load idOf records error id = .ok record := by
  unfold load
  rw [h]

/-- A run is replayed with the records that its index row refers to. -/
theorem replay_eq {run : ReasoningRun} {index : ReasoningRunIndex}
    {observations : List (Observation F)} {situation : OperationalSituation}
    {context : DecisionContext} {plan : DecisionPlan} (hrun : repositories.Finds (.run run))
    (hindex : repositories.Finds (.index index)) (hid : index.runId = run.id)
    (hobservations : ∀ observation ∈ observations, repositories.Finds (.observation observation))
    (hids : index.observationIds = observations.map Observation.id)
    (hsituation : repositories.Finds (.situation situation))
    (hsituationId : index.situationId = situation.id)
    (hcontext : repositories.Finds (.context context)) (hcontextId : index.contextId = context.id)
    (hplan : repositories.Finds (.plan plan)) (hplanId : index.planId = plan.id) :
    repositories.replay run.id = .ok ⟨run, observations, situation, context, plan⟩ := by
  have hread : index.observationIds.mapM
      (load Observation.id repositories.observations .observation) = .ok observations := by
    rw [hids, mapM_eq_ok_iff, List.forall₂_map_left_iff, List.forall₂_same]
    exact fun observation hmem => load_eq (hobservations observation hmem)
  unfold Repositories.replay Repositories.loadRun
  rw [load_eq hrun, ok_bind, ← hid, load_eq hindex, ok_bind, hread, ok_bind, hsituationId,
    load_eq hsituation, ok_bind, hcontextId, load_eq hcontext, ok_bind, hplanId, load_eq hplan]
  rfl

end Saved

section Runs

variable {E : Type} [PyFloat F] {session : ReasoningSession F E} {draws : RunDraws}
  {goal : OperationalGoal} {observations : List (Observation F)}

/-- The artifacts among the rows of a run that does not return. -/
theorem Unfinished.exists_artifacts (h : Unfinished session draws goal observations rows) :
    ∃ (windowed : List (Observation F)) (artifacts : List (Row F)),
      (artifacts = [] ∨ ∃ situation context plan,
        artifacts = [.situation situation, .context context, .plan plan]) ∧
      rows <+: .run draws.run :: .registry ⟨draws.run.id, draws.run.startedAt⟩ ::
        (windowed.map Row.observation ++ artifacts) := by
  obtain ⟨windowed, artifacts, hartifacts, hrows⟩ := h
  refine ⟨windowed, artifacts, ?_, hrows⟩
  rcases hartifacts with ⟨-, hnone⟩ | ⟨-, hnone | hleft⟩
  · exact .inl hnone
  · exact .inl hnone
  · obtain ⟨_, situation, _, context, plan, -, -, hall⟩ := hleft
    exact .inr ⟨situation, context, plan, hall⟩

/-- A run that does not return has no index row. -/
theorem Unfinished.index_not_mem (h : Unfinished session draws goal observations rows)
    (index : ReasoningRunIndex) : .index index ∉ rows := by
  obtain ⟨windowed, artifacts, hartifacts, hrows⟩ := h.exists_artifacts
  intro hmem
  have hall := hrows.subset hmem
  rcases hartifacts with rfl | ⟨situation, context, plan, rfl⟩ <;> simp at hall

/-- What a run that does not return has written refers to itself only. -/
theorem Unfinished.resolved (h : Unfinished session draws goal observations rows) :
    Resolved fun row => row ∈ rows := by
  have hnone := h.index_not_mem
  obtain ⟨windowed, artifacts, hartifacts, hrows⟩ := h.exists_artifacts
  refine ⟨fun entry hentry => ?_, fun index hindex => absurd hindex (hnone index),
    fun index hindex => absurd hindex (hnone index),
    fun index hindex => absurd hindex (hnone index),
    fun index hindex => absurd hindex (hnone index),
    fun index hindex => absurd hindex (hnone index)⟩
  -- the run itself is written before its entry
  have hentryOf : entry = ⟨draws.run.id, draws.run.startedAt⟩ := by
    have hall := hrows.subset hentry
    rcases hartifacts with rfl | ⟨situation, context, plan, rfl⟩ <;> simpa using hall
  cases rows with
  | nil => cases hentry
  | cons row rows =>
      obtain ⟨rfl, -⟩ := List.cons_prefix_cons.mp hrows
      exact ⟨draws.run, List.mem_cons_self, by rw [hentryOf]⟩

variable {result : ReasoningResult F}

omit [PyFloat F] in
/-- A run that returns has one index row. -/
theorem Finished.index_mem (h : Finished session draws observations result rows) {id : String} :
    (∃ index, .index index ∈ rows ∧ index.runId = id) ↔ id = draws.run.id := by
  obtain ⟨windowed, -, -, rfl⟩ := h
  simp [ReasoningSession.indexOf, eq_comm]

omit [PyFloat F] in
/-- What a run that returns has written refers to itself only. -/
theorem Finished.resolved (h : Finished session draws observations result rows) :
    Resolved fun row => row ∈ rows := by
  obtain ⟨windowed, -, -, rfl⟩ := h
  refine ⟨?_, ?_, ?_, ?_, ?_, ?_⟩ <;> simp [ReasoningSession.indexOf]

omit [PyFloat F] in
/-- A run that returned is replayed as it was, from whatever was saved after it. -/
theorem Finished.replay (h : Finished session draws observations result rows)
    (hconfiguration : session.configuration = .all)
    (hadmitted : session.configuration.log.Admitted repositories rows) (later : List (Row F)) :
    ∃ windowed, session.windowed observations = .ok windowed ∧
      (session.configuration.log.addAll (session.configuration.log.addAll repositories rows)
        later).replay draws.run.id =
          .ok ⟨draws.run, windowed, result.situation, result.context, result.plan⟩ := by
  have hgives (row : Row F) : session.configuration.gives row = true := by
    rw [hconfiguration]
    cases row <;> rfl
  have hfinds (row : Row F) (hrow : row ∈ rows) :
      (session.configuration.log.addAll (session.configuration.log.addAll repositories rows)
        later).Finds row :=
    (finds_of_mem hadmitted hrow (hgives row)).addAll
  obtain ⟨windowed, hwindowed, -, rfl⟩ := h
  have hindex := hfinds
    (.index (ReasoningSession.indexOf draws windowed result.situation result.context result.plan))
    (by simp)
  refine ⟨windowed, hwindowed, replay_eq (hfinds _ (by simp)) hindex rfl
    (fun observation hmem => hfinds _ ?_) rfl (hfinds _ (by simp)) rfl (hfinds _ (by simp)) rfl
    (hfinds _ (by simp)) rfl⟩
  simp [hmem]

end Runs

end Rows

section Calls

variable {E : Type} [PyFloat F]

/-- The records after a call, and whether it returned. -/
def Call.perform (call : Call F E) (repositories : Repositories F) : Repositories F × Bool :=
  match call.session.run call.draws call.goal call.observations repositories with
  | .ok _ repositories => (repositories, true)
  | .error _ repositories => (repositories, false)

/-- The records after a call, and the runs that have returned. -/
def Call.next (done : Repositories F × List String) (call : Call F E) :
    Repositories F × List String :=
  ((call.perform done.1).1,
    done.2 ++ if (call.perform done.1).2 then [call.draws.run.id] else [])

/-- The records after calls from empty repositories, and the runs of the calls that returned. -/
def performAll (calls : List (Call F E)) : Repositories F × List String :=
  calls.foldl Call.next ({}, [])

omit [PyFloat F] in
/-- A session that is given all repositories puts every record. -/
theorem add_of_all {configuration : Configuration} (h : configuration = .all)
    (repositories : Repositories F) (rows : List (Row F)) :
    configuration.log.addAll repositories rows = rows.foldl Repositories.put repositories := by
  subst h
  unfold Log.addAll
  congr
  funext repositories row
  cases row <;> rfl

/-- What a call writes refers to itself only, and it writes an index row if it returns. -/
theorem Call.exists_rows (call : Call F E) (repositories : Repositories F) :
    ∃ rows : List (Row F),
      (call.perform repositories).1 = rows.foldl Repositories.put repositories ∧
      Resolved (fun row => row ∈ rows) ∧ ∀ id, (∃ index, .index index ∈ rows ∧ index.runId = id) ↔
        (call.perform repositories).2 = true ∧ id = call.draws.run.id := by
  unfold Call.perform
  cases hrun : call.session.run call.draws call.goal call.observations repositories with
  | ok result repositories' =>
      obtain ⟨rows, hrows, -, rfl⟩ := writes_run.of_ok hrun
      refine ⟨rows, add_of_all call.configuration_all _ _, hrows.resolved, fun id => ?_⟩
      rw [hrows.index_mem]
      simp
  | error error repositories' =>
      obtain ⟨rows, hrows, -, rfl⟩ := writes_run.of_error hrun
      refine ⟨rows, add_of_all call.configuration_all _ _, hrows.resolved, fun id => ?_⟩
      refine iff_of_false ?_ (by simp)
      rintro ⟨index, hindex, -⟩
      exact hrows.index_not_mem index hindex

/-- One more call is performed after the others. -/
theorem performAll_concat (calls : List (Call F E)) (call : Call F E) :
    performAll (calls ++ [call]) = ((call.perform (performAll calls).1).1,
      (performAll calls).2 ++
        if (call.perform (performAll calls).1).2 then [call.draws.run.id] else []) := by
  unfold performAll
  rw [List.foldl_append]
  rfl

/-- The records of any calls resolve, and the runs with an index row are those that returned. -/
theorem resolved_performAll (calls : List (Call F E)) :
    Resolved (performAll calls).1.Contains ∧
      ∀ id, id ∈ (performAll calls).1.indexes.map ReasoningRunIndex.runId ↔
        id ∈ (performAll calls).2 := by
  induction calls using List.reverseRecOn with
  | nil =>
      refine ⟨⟨?_, ?_, ?_, ?_, ?_, ?_⟩, fun id => Iff.rfl⟩ <;>
        intro record hrecord <;> cases hrecord
  | append_singleton calls call ih =>
      obtain ⟨rows, hrows, hresolved, hindex⟩ := call.exists_rows (performAll calls).1
      rw [performAll_concat]
      refine ⟨?_, fun id => ?_⟩
      · rw [hrows]
        exact ih.1.foldl_put hresolved
      · have hkept : id ∈ (call.perform (performAll calls).1).1.indexes.map
            ReasoningRunIndex.runId ↔ ∃ index,
              (call.perform (performAll calls).1).1.Contains (.index index) ∧ index.runId = id :=
          List.mem_map
        dsimp only
        rw [hkept, hrows]
        -- the index rows are the earlier ones and that of the call, if it has returned
        simp only [contains_foldl, or_and_right, exists_or]
        rw [hindex id, List.mem_append, ← ih.2 id]
        refine or_congr List.mem_map.symm ?_
        split_ifs with hreturned
        · simp [hreturned]
        · simp [hreturned]

/-- Calls only add records. -/
theorem exists_foldl_put (calls : List (Call F E)) (done : Repositories F × List String) :
    ∃ rows : List (Row F), (calls.foldl Call.next done).1 =
      rows.foldl Repositories.put done.1 := by
  induction calls generalizing done with
  | nil => exact ⟨[], rfl⟩
  | cons call calls ih =>
      obtain ⟨rows, hrows, -⟩ := call.exists_rows done.1
      obtain ⟨rows', hrows'⟩ := ih (Call.next done call)
      refine ⟨rows ++ rows', ?_⟩
      rw [List.foldl_cons, hrows', List.foldl_append, ← hrows]
      rfl

/-- A run that returned is replayed as it was, whatever was called before and after it. -/
theorem replay_performAll (before after : List (Call F E)) {call : Call F E}
    {result : ReasoningResult F} {repositories : Repositories F}
    (hrun : call.session.run call.draws call.goal call.observations (performAll before).1 =
      .ok result repositories) :
    ∃ windowed, call.session.windowed call.observations = .ok windowed ∧
      (performAll (before ++ call :: after)).1.replay call.draws.run.id =
        .ok ⟨call.draws.run, windowed, result.situation, result.context, result.plan⟩ := by
  obtain ⟨rows, hrows, hadmitted, hrepositories⟩ := writes_run.of_ok hrun
  obtain ⟨later, hlater⟩ := exists_foldl_put after (Call.next (performAll before) call)
  obtain ⟨windowed, hwindowed, hreplay⟩ := hrows.replay call.configuration_all hadmitted later
  refine ⟨windowed, hwindowed, ?_⟩
  have hperformed : (Call.next (performAll before) call).1 = repositories := by
    unfold Call.next Call.perform
    rw [hrun]
  have hall : (performAll (before ++ call :: after)).1 =
      later.foldl Repositories.put repositories := by
    unfold performAll at hlater ⊢
    rw [List.foldl_append, List.foldl_cons, hlater, ← performAll, hperformed]
  rw [hall, ← add_of_all call.configuration_all, hrepositories]
  exact hreplay

/-- What a run leaves behind, and which of the runs of any calls are resolved. -/
structure RunsAccountedFor (F E : Type) [PyFloat F] : Prop where
  /-- A run that returns adds all its rows, the index row last. -/
  returned : ∀ (session : ReasoningSession F E) (draws : RunDraws) (goal : OperationalGoal)
    (observations : List (Observation F)) (result : ReasoningResult F)
    (before after : Repositories F), session.run draws goal observations before = .ok result after →
      ∃ rows, Finished session draws observations result rows ∧
        session.configuration.log.Admitted before rows ∧
        after = session.configuration.log.addAll before rows
  /-- A run that raises adds rows to what there was, and no index row is among them. -/
  failed : ∀ (session : ReasoningSession F E) (draws : RunDraws) (goal : OperationalGoal)
    (observations : List (Observation F)) (error : SessionError E) (before after : Repositories F),
    session.run draws goal observations before = .error error after →
      ∃ rows, Unfinished session draws goal observations rows ∧
        session.configuration.log.Admitted before rows ∧
        after = session.configuration.log.addAll before rows
  replayed : ∀ (calls : List (Call F E)) (runId : String),
    (∃ result, (performAll calls).1.replay runId = .ok result) ↔ runId ∈ (performAll calls).2
  /-- A run is compared with those that are registered before it. -/
  analyzed : ∀ (calls : List (Call F E)) (runId : String),
    (∃ analysis, (performAll calls).1.analyze runId = .ok analysis) ↔
      runId ∈ (performAll calls).2 ∧ ∀ earlier ∈ ((performAll calls).1.registry.map
        ReasoningRunRegistryEntry.runId).takeWhile (fun id => id ≠ runId),
          earlier ∈ (performAll calls).2
  ranked : ∀ calls : List (Call F E),
    (∃ items, (performAll calls).1.rank = .ok items) ↔
      ∀ entry ∈ (performAll calls).1.registry, entry.runId ∈ (performAll calls).2

/-- Runs leave what they saved before they raised, and the readers resolve the others. -/
theorem runsAccountedFor : RunsAccountedFor F E where
  returned _ _ _ _ _ _ _ hrun := writes_run.of_ok hrun
  failed _ _ _ _ _ _ _ hrun := writes_run.of_error hrun
  replayed calls runId := by
    obtain ⟨hresolved, hindexed⟩ := resolved_performAll calls
    rw [exists_replay_iff hresolved, hindexed]
  analyzed calls runId := by
    obtain ⟨hresolved, hindexed⟩ := resolved_performAll calls
    rw [exists_analyze_iff hresolved, IndexedUpTo]
    simp only [hindexed]
  ranked calls := by
    obtain ⟨hresolved, hindexed⟩ := resolved_performAll calls
    rw [exists_rank_iff hresolved]
    simp only [hindexed]

end Calls

section Watch

/-- Midnight is a time that can be written. -/
theorem midnight_inRange : (Datetime.utc 0).InRange := by decide

/-- An instant. -/
def midnight : Operations.Timestamp := ⟨.utc 0, midnight_inRange⟩

theorem situation_ne : "situation-1" ≠ "" := by decide

theorem context_ne : "context-1" ≠ "" := by decide

theorem plan_ne : "plan-1" ≠ "" := by decide

theorem goal_ne : "goal" ≠ "" := by decide

theorem watch_ne : "Watch the load" ≠ "" := by decide

theorem stack_ne : "stack-1" ≠ "" := by decide

theorem kilowatt_ne : "kW" ≠ "" := by decide

/-- A reading of the load of a stack. -/
def loadReading [PyFloat F] (id : String) (id_ne : id ≠ "") (second : ℤ) : Observation F where
  id := id
  assetId := "stack-1"
  timestamp := .utc (second * 1000000)
  measurementType := "load"
  value := PyFloat.literal 50
  unit := "kW"
  id_ne := id_ne
  assetId_ne := stack_ne
  unit_ne := kilowatt_ne

theorem first_ne : "reading-1" ≠ "" := by decide

theorem second_ne : "reading-2" ≠ "" := by decide

/-- A run over two readings, of a session that is given all repositories and no window. -/
noncomputable def watchCall : Call ExactReal Empty where
  session :=
    { profile := .default
      observationWindow := none
      configuration := .all
      publish := fun _ => .ok ()
      texts := ⟨fun _ _ => "reading", fun _ => "number"⟩ }
  draws :=
    { run := ⟨"run-1", midnight⟩
      drawn := ⟨"situation-1", "context-1", "plan-1", .utc 0, .utc 0, situation_ne, context_ne,
        plan_ne⟩
      situationAnnouncedAt := .utc 0
      actionId := "action-1"
      outcomeId := "outcome-1" }
  goal := ⟨"goal", "Watch the load", goal_ne, watch_ne⟩
  observations := [loadReading "reading-1" first_ne 0, loadReading "reading-2" second_ne 1]
  configuration_all := rfl

/-- The call of the example returns. -/
theorem exists_run_watchCall : ∃ result repositories,
    watchCall.session.run watchCall.draws watchCall.goal watchCall.observations {} =
      .ok result repositories := by
  have hreasonable : Reasonable watchCall.observations := by
    refine ⟨?_, ?_, ?_⟩
    · simp [watchCall, loadReading]
    · simp [watchCall, loadReading]
    · simp [watchCall, loadReading, primaryMeasurementObservations, KeyedWindow.ofKey]
  have hreading : ∀ value unit, watchCall.session.texts.reading value unit ≠ "" :=
    fun _ _ => (by decide : "reading" ≠ "")
  -- the stages return over the two readings, and the tables are empty
  obtain ⟨context, hcontext⟩ := exists_runStages hreading watchCall.draws.drawn watchCall.goal
    watchCall.session.profile hreasonable
    (by simp [watchCall, loadReading, primaryMeasurementObservations, KeyedWindow.ofKey])
  obtain ⟨found, hfound⟩ := exists_populated (E := Empty) hcontext
  have hstages : runStages watchCall.session.texts watchCall.draws.drawn
      { goal := watchCall.goal, observations := watchCall.observations,
        profile := watchCall.session.profile } = .ok context := hcontext
  unfold ReasoningSession.run
  refine exists_bind_of_ok rfl (exists_bind_of_ok rfl (exists_bind_of_ok rfl
    (exists_bind_of_ok rfl ?_)))
  rw [hstages]
  refine exists_bind_of_ok rfl ?_
  rw [hfound]
  exact exists_bind_of_ok rfl (exists_bind_of_ok rfl ⟨_, _, rfl⟩)

/-- After the run is tried a second time, which fails, it still is replayed. -/
theorem replay_performAll_watch : ∃ windowed, ∃ result : ReasoningResult ExactReal,
    (performAll [watchCall, watchCall]).1.replay "run-1" =
      .ok ⟨watchCall.draws.run, windowed, result.situation, result.context, result.plan⟩ := by
  obtain ⟨result, repositories, hrun⟩ := exists_run_watchCall
  obtain ⟨windowed, -, hreplay⟩ :=
    replay_performAll [] [watchCall] hrun
  exact ⟨windowed, result, hreplay⟩

end Watch

end Odis.ReasoningHistory
