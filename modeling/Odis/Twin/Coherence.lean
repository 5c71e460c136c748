import Odis.Library.PartialRun
import Odis.Twin.Handlers

/-!
# Twins in the cache and the tables

Calls of `get_for_asset` interleaved with writers: a call looks the twin up, assembles it from the
tables and sets it, each in a step of its own; a writer commits rows with their outbox rows, and
dispatchers call the handlers of these one by one. Dispatchers run side by side and may fail, in
which case the rows they have read are dispatched again.

* `Coherent.step`: the twin of each asset is what the tables give, or is still to be dropped.
* `getForAsset_eq_assemble`: what is returned once all rows are dispatched.
* `not_alwaysFresh_pump`: a twin that was assembled before a run and set after its rows were
  dispatched stays.
-/

namespace Odis.Twin

open Exceptions Investigation Operations Outbox PartialRun

variable {F : Type}

section Steps

variable [JsonText F] (system : System F)

/-- A row of the outbox that is not marked as dispatched, with the event it is read back as. -/
structure Row where
  id : String
  event : DomainEvent
  deriving DecidableEq

/-- A call of `dispatch` under way: the rows that it has read, and the handlers still to be
called. -/
structure Dispatch where
  rows : List Row
  calls : List (Handler × Row)

/-- A call of `get_for_asset` under way, after a look-up that found nothing. -/
inductive Get where
  | missed (assetId : String)
  /-- The twin was assembled from the tables as they were. -/
  | assembled (assetId : String) (read : Records F) (now : Timestamp) (twin : DigitalTwin F)
      (assembles : (system.service read now).assemble assetId = .ok twin)

/-- The tables, the rows that are not dispatched, the cache, and the calls under way. -/
structure State where
  records : Records F
  outbox : List Row
  cache : String → Option (StoredTwin F)
  gets : List (Get system)
  dispatches : List Dispatch

/-- No call is under way, and all rows are dispatched. -/
structure State.Quiescent (s : State system) : Prop where
  outbox : s.outbox = []
  gets : s.gets = []
  dispatches : s.dispatches = []

/-- The tables, before anything is cached. -/
def State.initial (records : Records F) : State system :=
  ⟨records, [], fun _ => none, [], []⟩

/-- A step of a call, by its place among those under way, or a commit. -/
inductive Step (F : Type) where
  | lookUp (assetId : String)
  | assemble (call : ℕ) (now : Timestamp)
  | set (call : ℕ)
  | commitObservation (assetId : String) (row : Row)
  | commitRun (run : StoredRun) (outcome : ReasoningOutcome) (rows : List Row)
  /-- The endpoint has checked that the recommendation is the one that was shown. -/
  | commitTransition (shown : OperationalState)
      (transition : { event : InvestigationEvent // event.occurredAt.InRange }) (row : Row)
  | dispatch (rows : List Row)
  | handle (call : ℕ) (uuid : String)
  | finish (call : ℕ) (marked : List Row)
  | raise (call : ℕ)

/-- Rows get new ids. -/
def State.IsNew (s : State system) (rows : List Row) : Prop :=
  ∀ row ∈ rows, row ∉ s.outbox ∧ ∀ dispatch ∈ s.dispatches, row ∉ dispatch.rows

instance (s : State system) (rows : List Row) : Decidable (s.IsNew system rows) := by
  unfold State.IsNew
  infer_instance

/-- The handlers that `dispatch` calls for a row. -/
def System.callsFor (row : Row) : List (Handler × Row) :=
  (handlers system.hasUnitOfWorkFactory (eventType row.event)).map fun handler => (handler, row)

/-- A handler is called. If it raises, so does `dispatch`. -/
def State.handle (s : State system) (call : ℕ) (uuid : String) (rest : Dispatch) (row : Row) :
    Handler → State system
  | .cacheInvalidation =>
      { s with
        cache := (redisCache F).invalidate s.cache row.event.assetId
        dispatches := s.dispatches.set call rest }
  | .monitoring => { s with dispatches := s.dispatches.set call rest }
  | .timeline =>
      match recordedEntry uuid row.event with
      | some event =>
          { s with
            records := { s.records with timeline := s.records.timeline ++ [event] }
            dispatches := s.dispatches.set call rest }
      | none => { s with dispatches := s.dispatches.eraseIdx call }

/-- A step, where it is enabled. -/
def step (s : State system) : Step F → Option (State system)
  | .lookUp assetId =>
      match (redisCache F).get s.cache assetId with
      | (cache, some _) => some { s with cache := cache }
      | (cache, none) => some { s with cache := cache, gets := s.gets ++ [.missed assetId] }
  | .assemble call now =>
      match s.gets[call]? with
      | some (.missed assetId) =>
          match h : (system.service s.records now).assemble assetId with
          | .ok twin =>
              some { s with gets := s.gets.set call (.assembled assetId s.records now twin h) }
          | .error _ => some { s with gets := s.gets.eraseIdx call }
      | _ => none
  | .set call =>
      match s.gets[call]? with
      | some (.assembled _ _ _ twin _) =>
          some { s with cache := (redisCache F).set s.cache twin, gets := s.gets.eraseIdx call }
      | _ => none
  | .commitObservation assetId row =>
      if eventType row.event = .observationCreated ∧ row.event.assetId = assetId ∧
          s.IsNew system [row] then
        some { s with
          records := { s.records with observed := s.records.observed ++ [assetId] }
          outbox := s.outbox ++ [row] }
      else none
  | .commitRun run outcome rows =>
      if outcome.assetId = run.assetId ∧ outcome.runId = run.runId ∧
          rows.map Row.event = outcome.events ∧ s.IsNew system rows then
        some { s with
          records := { s.records with runs := s.records.runs ++ [run] }
          outbox := s.outbox ++ rows }
      else none
  | .commitTransition shown transition row =>
      if shown.assetId = transition.val.assetId ∧
          (computeRecommendation system.sha256 shown).id = transition.val.recommendationId ∧
          row.event = .investigationTransitionRecorded transition.val.assetId
            transition.val.recommendationId transition.val.id transition.val.status.value
            transition.val.actorId transition.val.actorDisplayName transition.val.occurredAt
            transition.val.notes row.event.timestamp ∧ s.IsNew system [row] then
        some { s with
          records := { s.records with transitions := s.records.transitions ++ [transition] }
          outbox := s.outbox ++ [row] }
      else none
  | .dispatch rows =>
      if rows.Perm s.outbox then
        some { s with dispatches := s.dispatches ++ [⟨rows, rows.flatMap system.callsFor⟩] }
      else none
  | .handle call uuid =>
      match s.dispatches[call]? with
      | some ⟨rows, (handler, row) :: calls⟩ =>
          some (s.handle system call uuid ⟨rows, calls⟩ row handler)
      | _ => none
  | .finish call marked =>
      match s.dispatches[call]? with
      | some ⟨rows, []⟩ =>
          if marked ⊆ rows then
            some { s with
              outbox := s.outbox.filter fun row => row ∉ marked
              dispatches := s.dispatches.eraseIdx call }
          else none
      | _ => none
  | .raise call =>
      if call < s.dispatches.length then
        some { s with dispatches := s.dispatches.eraseIdx call }
      else none

/-- The twin of an asset is still to be dropped: a row that is not dispatched makes the cache drop
it, and no dispatcher that has read the row is past that. -/
def State.Pending (s : State system) (assetId : String) : Prop :=
  ∃ row ∈ s.outbox, row.event.assetId = assetId ∧
    .cacheInvalidation ∈ handlers system.hasUnitOfWorkFactory (eventType row.event) ∧
      ∀ dispatch ∈ s.dispatches, row ∈ dispatch.rows →
        (.cacheInvalidation, row) ∈ dispatch.calls

/-- The steps that leave no twin behind. A twin is set while what is read for it is as it was when
it was assembled, and a timeline entry that changes what is read is written while no twin is cached,
unless the twin of the asset is still to be dropped. -/
def Keeps (s : State system) : Step F → Prop
  | .set call => ∀ assetId read now twin assembles,
      s.gets[call]? = some (.assembled assetId read now twin assembles) →
        s.Pending system assetId ∨ system.reads read assetId = system.reads s.records assetId
  | .handle call uuid => ∀ rows row calls event,
      s.dispatches[call]? = some ⟨rows, (.timeline, row) :: calls⟩ →
        recordedEntry uuid row.event = some event →
          s.Pending system row.event.assetId ∨ s.cache (cacheKey row.event.assetId) = none ∨
            system.reads { s.records with timeline := s.records.timeline ++ [event] }
              row.event.assetId = system.reads s.records row.event.assetId
  | _ => True

end Steps

/-! ## The invariant -/

section Invariant

variable [JsonText F] {system : System F} {s s' : State system} {assetId : String}

/-- The cached twin of an asset is the one that the tables give, but for forecasts. -/
def UpToDate (system : System F) (records : Records F) (cache : String → Option (StoredTwin F))
    (assetId : String) : Prop :=
  ∀ raw, cache (cacheKey assetId) = some raw → ∃ twin, deserialize raw.raw = .ok twin ∧
    (system.withoutForecasts records).assemble assetId = .ok twin

/-- The twin of each asset is what the tables give, or is still to be dropped. -/
def Coherent (s : State system) : Prop :=
  ∀ assetId, s.Pending system assetId ∨ UpToDate system s.records s.cache assetId

/-- A cached twin stays up to date while what is read for its asset stays the same. -/
theorem UpToDate.of_reads {records records' : Records F}
    {cache : String → Option (StoredTwin F)} (h : UpToDate system records cache assetId)
    (hreads : system.reads records' assetId = system.reads records assetId) :
    UpToDate system records' cache assetId := by
  intro raw hraw
  obtain ⟨twin, hread, htwin⟩ := h raw hraw
  exact ⟨twin, hread, (assemble_congr hreads).trans htwin⟩

/-- A twin is only cached for an asset that is known. -/
theorem UpToDate.eq_none {records : Records F} {cache : String → Option (StoredTwin F)}
    (h : UpToDate system records cache assetId) (hunknown : ¬ records.assetExists assetId) :
    cache (cacheKey assetId) = none := by
  rw [Option.eq_none_iff_forall_ne_some]
  intro raw hraw
  obtain ⟨twin, -, htwin⟩ := h raw hraw
  rw [assemble_eq_assembleFrom, System.assembleFrom] at htwin
  have hexists : (system.reads records assetId).assetExists = false :=
    Bool.eq_false_iff.mpr hunknown
  rw [hexists] at htwin
  cases htwin

/-- Nothing cached is out of date where nothing is cached. -/
theorem upToDate_of_eq_none {records : Records F} {cache : String → Option (StoredTwin F)}
    (h : cache (cacheKey assetId) = none) : UpToDate system records cache assetId := by
  intro raw hraw
  cases h.symm.trans hraw

/-- A twin is still to be dropped as long as its row stays and no more dispatchers are past it. -/
theorem State.Pending.mono (h : s.Pending system assetId)
    (houtbox : ∀ row ∈ s.outbox, (∀ dispatch ∈ s.dispatches, row ∈ dispatch.rows →
      (Handler.cacheInvalidation, row) ∈ dispatch.calls) → row ∈ s'.outbox)
    (hcalls : ∀ row ∈ s.outbox, row.event.assetId = assetId →
      .cacheInvalidation ∈ handlers system.hasUnitOfWorkFactory (eventType row.event) →
        ∀ dispatch' ∈ s'.dispatches, row ∈ dispatch'.rows →
          (Handler.cacheInvalidation, row) ∈ dispatch'.calls ∨
            ∃ dispatch ∈ s.dispatches, row ∈ dispatch.rows ∧
              ((Handler.cacheInvalidation, row) ∈ dispatch.calls →
                (Handler.cacheInvalidation, row) ∈ dispatch'.calls)) :
    s'.Pending system assetId := by
  obtain ⟨row, hrow, hasset, hdrops, hpast⟩ := h
  refine ⟨row, houtbox row hrow hpast, hasset, hdrops, ?_⟩
  intro dispatch' hdispatch' hmem
  rcases hcalls row hrow hasset hdrops dispatch' hdispatch' hmem with
    hcall | ⟨dispatch, hdispatch, hold, hkept⟩
  · exact hcall
  · exact hkept (hpast dispatch hdispatch hold)

/-- Rows are only added, and calls of `dispatch` only end. -/
theorem State.Pending.of_subset (h : s.Pending system assetId) (houtbox : s.outbox ⊆ s'.outbox)
    (hdispatches : s'.dispatches ⊆ s.dispatches) : s'.Pending system assetId :=
  h.mono (fun _ hrow _ => houtbox hrow) fun _ _ _ _ dispatch' hdispatch' hmem =>
    .inr ⟨dispatch', hdispatches hdispatch', hmem, id⟩

/-- A new row that makes the cache drop the twin. -/
theorem State.pending_of_new {rows : List Row} {row : Row} (hnew : s.IsNew system rows)
    (hrow : row ∈ rows) (hasset : row.event.assetId = assetId)
    (hdrops : .cacheInvalidation ∈ handlers system.hasUnitOfWorkFactory (eventType row.event))
    (houtbox : row ∈ s'.outbox) (hdispatches : s'.dispatches = s.dispatches) :
    s'.Pending system assetId := by
  refine ⟨row, houtbox, hasset, hdrops, ?_⟩
  intro dispatch hdispatch hmem
  rw [hdispatches] at hdispatch
  exact absurd hmem ((hnew row hrow).2 dispatch hdispatch)

/-! ## Steps -/

omit [JsonText F] in
/-- A look-up drops no twin, as what the class has written can be read. -/
theorem get_fst (cache : String → Option (StoredTwin F)) (assetId : String) :
    ((redisCache F).get cache assetId).1 = cache := by
  unfold redisCache
  dsimp only
  cases hstored : cache (cacheKey assetId) with
  | none => rfl
  | some raw =>
      obtain ⟨twin, hread⟩ := deserialize_stored raw
      dsimp only
      rw [hread]

/-- Looking a twin up leaves the cache as it is. -/
theorem Coherent.lookUp (h : Coherent s) (hstep : step system s (.lookUp assetId) = some s') :
    Coherent s' := by
  have hcache := get_fst s.cache assetId
  unfold step at hstep
  dsimp only at hstep
  cases hget : (redisCache F).get s.cache assetId with
  | mk cache found =>
      rw [hget] at hcache hstep
      obtain rfl : cache = s.cache := hcache
      cases found with
      | none =>
          obtain rfl := Option.some.inj hstep
          exact h
      | some twin =>
          obtain rfl := Option.some.inj hstep
          exact h

/-- So does assembling it. -/
theorem Coherent.assemble {call : ℕ} {now : Timestamp} (h : Coherent s)
    (hstep : step system s (.assemble call now) = some s') : Coherent s' := by
  unfold step at hstep
  dsimp only at hstep
  split at hstep
  · split at hstep
    · obtain rfl := Option.some.inj hstep
      exact h
    · obtain rfl := Option.some.inj hstep
      exact h
  · cases hstep

/-- What a call assembled is set while it is what the tables give. -/
theorem Coherent.set {call : ℕ} (h : Coherent s) (hkeeps : Keeps system s (.set call))
    (hstep : step system s (.set call) = some s') : Coherent s' := by
  unfold step at hstep
  dsimp only at hstep
  split at hstep
  next assetId read now twin assembles hget =>
    obtain rfl := Option.some.inj hstep
    have hid : twin.assetId = assetId := assetId_of_assemble assembles
    -- other assets are under other keys
    intro other
    by_cases hother : other = assetId
    · subst hother
      -- nothing that the twin was assembled from has changed since
      refine (hkeeps _ _ _ _ _ hget).imp (fun hpending => hpending) fun hreads => ?_
      intro raw hraw
      have hset : (redisCache F).set s.cache twin (cacheKey other) =
          some ⟨serialize twin, twin, rfl⟩ := by
        rw [← hid]
        exact Function.update_self _ _ _
      obtain rfl := Option.some.inj (hset.symm.trans hraw)
      refine ⟨twin.withoutForecasts, deserialize_serialize twin, ?_⟩
      rw [← assemble_congr hreads]
      exact assemble_withoutForecasts assembles
    · refine (h other).imp (fun hpending => hpending) fun hfresh raw hraw => hfresh raw ?_
      rw [← hraw]
      refine (Function.update_of_ne ?_ _ _).symm
      intro hkey
      exact hother ((cacheKey_injective hkey).trans hid)
  · cases hstep

/-- An observation changes what is read of its asset only if the asset was not known before, and
then no twin of it is cached. -/
theorem Coherent.commitObservation {row : Row} (h : Coherent s)
    (hstep : step system s (.commitObservation assetId row) = some s') : Coherent s' := by
  unfold step at hstep
  dsimp only at hstep
  split_ifs at hstep
  obtain rfl := Option.some.inj hstep
  intro other
  rcases h other with hpending | hfresh
  · exact .inl (hpending.of_subset (List.subset_append_left _ _) (List.Subset.refl _))
  · right
    by_cases hknown : assetId ≠ other ∨ s.records.assetExists other
    · exact hfresh.of_reads (reads_observe hknown)
    · exact upToDate_of_eq_none (hfresh.eq_none fun hother => hknown (.inr hother))

/-- A run announces that the twin of its asset is to be dropped; those of the others are not
affected. -/
theorem Coherent.commitRun {run : StoredRun} {outcome : ReasoningOutcome} {rows : List Row}
    (h : Coherent s) (hstep : step system s (.commitRun run outcome rows) = some s') :
    Coherent s' := by
  unfold step at hstep
  dsimp only at hstep
  split_ifs at hstep with hcommit
  obtain ⟨hasset, -, hevents, hnew⟩ := hcommit
  obtain rfl := Option.some.inj hstep
  intro other
  by_cases hother : run.assetId = other
  · -- the run announces its end, and with it that the twin is to be dropped
    left
    have hcompleted : .reasoningCompleted outcome.assetId outcome.runId outcome.completedAt ∈
        rows.map Row.event := by
      rw [hevents]
      exact List.mem_append_right _ List.mem_cons_self
    obtain ⟨row, hrow, hevent⟩ := List.mem_map.mp hcompleted
    refine State.pending_of_new hnew hrow ?_ ?_ (List.mem_append_right _ hrow) rfl
    · rw [hevent]
      exact hasset.trans hother
    · rw [cacheInvalidation_mem_handlers_iff, hevent]
      simp [eventType]
  · rcases h other with hpending | hfresh
    · exact .inl (hpending.of_subset (List.subset_append_left _ _) (List.Subset.refl _))
    · exact .inr (hfresh.of_reads (reads_addRun hother))

/-- A transition of an investigation announces the same of its asset. -/
theorem Coherent.commitTransition {shown : OperationalState}
    {transition : { event : InvestigationEvent // event.occurredAt.InRange }} {row : Row}
    (h : Coherent s) (hstep : step system s (.commitTransition shown transition row) = some s') :
    Coherent s' := by
  unfold step at hstep
  dsimp only at hstep
  split_ifs at hstep with hcommit
  obtain ⟨hasset, hshown, hevent, hnew⟩ := hcommit
  obtain rfl := Option.some.inj hstep
  intro other
  by_cases hother : shown.assetId = other
  · left
    refine State.pending_of_new hnew List.mem_cons_self ?_ ?_
      (List.mem_append_right _ List.mem_cons_self) rfl
    · rw [hevent]
      exact hasset.symm.trans hother
    · rw [cacheInvalidation_mem_handlers_iff, hevent]
      simp [eventType]
  · rcases h other with hpending | hfresh
    · exact .inl (hpending.of_subset (List.subset_append_left _ _) (List.Subset.refl _))
    · exact .inr (hfresh.of_reads (reads_addTransition hshown hother))

/-- A new call of `dispatch` has all of its handlers before it. -/
theorem Coherent.dispatch {rows : List Row} (h : Coherent s)
    (hstep : step system s (.dispatch rows) = some s') : Coherent s' := by
  unfold step at hstep
  dsimp only at hstep
  split_ifs at hstep
  obtain rfl := Option.some.inj hstep
  intro other
  refine (h other).imp (fun hpending => ?_) fun hfresh => hfresh
  refine hpending.mono (fun _ hrow _ => hrow) ?_
  intro row hrow hasset hdrops dispatch' hdispatch' hmem
  rcases List.mem_append.mp hdispatch' with hold | hnew
  · exact .inr ⟨dispatch', hold, hmem, id⟩
  · obtain rfl := List.mem_singleton.mp hnew
    left
    exact List.mem_flatMap.mpr ⟨row, hmem, List.mem_map.mpr ⟨_, hdrops, rfl⟩⟩

/-- The next handler of a call of `dispatch` is called. -/
theorem State.Pending.of_call {call : ℕ} {rows : List Row} {handler : Handler} {row : Row}
    {calls : List (Handler × Row)} (h : s.Pending system assetId)
    (hcall : s.dispatches[call]? = some ⟨rows, (handler, row) :: calls⟩)
    (hkept : handler = .cacheInvalidation → row.event.assetId ≠ assetId)
    (houtbox : s'.outbox = s.outbox)
    (hdispatches : s'.dispatches = s.dispatches.set call ⟨rows, calls⟩) :
    s'.Pending system assetId := by
  refine h.mono (fun _ hrow _ => houtbox ▸ hrow) ?_
  intro other _ hasset _ dispatch' hdispatch' hmem
  rw [hdispatches] at hdispatch'
  right
  rcases List.mem_or_eq_of_mem_set hdispatch' with hold | rfl
  · exact ⟨dispatch', hold, hmem, id⟩
  · refine ⟨_, List.mem_of_getElem? hcall, hmem, fun hbefore => ?_⟩
    rcases List.mem_cons.mp hbefore with heq | hafter
    · obtain ⟨hhandler, hrow⟩ := Prod.mk.inj heq
      rw [hrow] at hasset
      exact absurd hasset (hkept hhandler.symm)
    · exact hafter

/-- The twin is dropped when the row is handled, and an entry of the timeline that is recorded after
that must find none in the cache, or change nothing that was read. -/
theorem Coherent.handle {call : ℕ} {uuid : String} (h : Coherent s)
    (hkeeps : Keeps system s (.handle call uuid))
    (hstep : step system s (.handle call uuid) = some s') : Coherent s' := by
  unfold step at hstep
  dsimp only at hstep
  split at hstep
  next rows handler row calls hcall =>
    obtain rfl := Option.some.inj hstep
    intro other
    cases handler with
    | cacheInvalidation =>
        -- the row that was pending for the asset may be this one, but now its twin is dropped
        by_cases hother : row.event.assetId = other
        · right
          refine upToDate_of_eq_none ?_
          rw [← hother]
          exact Function.update_self _ _ _
        · refine (h other).imp (fun hpending => hpending.of_call hcall (fun _ => hother) rfl rfl)
            fun hfresh raw hraw => hfresh raw ?_
          rw [← hraw]
          refine (Function.update_of_ne ?_ _ _).symm
          intro hkey
          exact hother (cacheKey_injective hkey).symm
    | monitoring =>
        refine (h other).imp (fun hpending => ?_) fun hfresh => hfresh
        exact hpending.of_call hcall (fun hhandler => by cases hhandler) rfl rfl
    | timeline =>
        unfold State.handle
        cases hentry : (recordedEntry uuid row.event : Option (TimelineEvent F)) with
        | none =>
            refine (h other).imp (fun hpending => ?_) fun hfresh => hfresh
            exact hpending.of_subset (List.Subset.refl _) (List.eraseIdx_subset)
        | some event =>
            -- a call of another handler leaves the dropping of the twin to be done
            have hcalled (hpending : s.Pending system other) :
                State.Pending system ({ s with
                  records := { s.records with timeline := s.records.timeline ++ [event] }
                  dispatches := s.dispatches.set call ⟨rows, calls⟩ } : State system) other :=
              hpending.of_call hcall (fun hhandler => by cases hhandler) rfl rfl
            have hevent := assetId_of_recordedEntry hentry
            rcases h other with hpending | hfresh
            · exact .inl (hcalled hpending)
            by_cases hother : row.event.assetId = other
            · subst hother
              -- of its own asset the entry may change what is read
              rcases hkeeps rows row calls event hcall hentry with hpending | hnone | hreads
              · exact .inl (hcalled hpending)
              · exact .inr (upToDate_of_eq_none hnone)
              · exact .inr (hfresh.of_reads hreads)
            · right
              refine hfresh.of_reads (reads_addEntry ?_)
              rw [hevent]
              exact hother
  · cases hstep

/-- Rows are marked by a call that has called all of their handlers. -/
theorem Coherent.finish {call : ℕ} {marked : List Row} (h : Coherent s)
    (hstep : step system s (.finish call marked) = some s') : Coherent s' := by
  unfold step at hstep
  dsimp only at hstep
  split at hstep
  next rows hcall =>
    split_ifs at hstep with hmarked
    obtain rfl := Option.some.inj hstep
    intro other
    refine (h other).imp (fun hpending => ?_) fun hfresh => hfresh
    refine hpending.mono ?_ ?_
    · intro row hrow hpast
      refine List.mem_filter.mpr ⟨hrow, decide_eq_true fun hmem => ?_⟩
      -- a pending row is still to be handled, so it is not among the marked ones
      have hdone := hpast _ (List.mem_of_getElem? hcall) (hmarked hmem)
      cases hdone
    · intro row _ _ _ dispatch' hdispatch' hmem
      exact .inr ⟨dispatch', List.eraseIdx_subset hdispatch', hmem, id⟩
  · cases hstep

/-- A call of `dispatch` that raises leaves its rows in the outbox. -/
theorem Coherent.raise {call : ℕ} (h : Coherent s)
    (hstep : step system s (.raise call) = some s') : Coherent s' := by
  unfold step at hstep
  dsimp only at hstep
  split_ifs at hstep
  obtain rfl := Option.some.inj hstep
  intro other
  refine (h other).imp (fun hpending => ?_) fun hfresh => hfresh
  exact hpending.of_subset (List.Subset.refl _) List.eraseIdx_subset

/-- Each step that leaves no twin behind keeps the cache coherent. -/
theorem Coherent.step {e : Step F} (h : Coherent s) (hkeeps : Keeps system s e)
    (hstep : Odis.Twin.step system s e = some s') : Coherent s' := by
  cases e with
  | lookUp assetId => exact h.lookUp hstep
  | assemble call now => exact h.assemble hstep
  | set call => exact h.set hkeeps hstep
  | commitObservation assetId row => exact h.commitObservation hstep
  | commitRun run outcome rows => exact h.commitRun hstep
  | commitTransition shown transition row => exact h.commitTransition hstep
  | dispatch rows => exact h.dispatch hstep
  | handle call uuid => exact h.handle hkeeps hstep
  | finish call marked => exact h.finish hstep
  | raise call => exact h.raise hstep

omit [JsonText F] in
/-- A twin is read from the cache without its forecasts. -/
theorem getForAsset_set (cache : String → Option (StoredTwin F)) (twin : DigitalTwin F)
    (service : DigitalTwinService F) :
    (getForAsset (redisCache F) service ((redisCache F).set cache twin) twin.assetId).2 =
      .ok twin.withoutForecasts := by
  have hstored : (redisCache F).set cache twin (cacheKey twin.assetId) =
      some ⟨serialize twin, twin, rfl⟩ := Function.update_self _ _ _
  have hget : (redisCache F).get ((redisCache F).set cache twin) twin.assetId =
      ((redisCache F).set cache twin, some twin.withoutForecasts) := by
    have hread := deserialize_serialize twin
    unfold redisCache at hstored ⊢
    dsimp only at hstored ⊢
    rw [hstored]
    dsimp only
    rw [hread]
  unfold getForAsset
  rw [hget]

/-- A twin that is set right after it was assembled is not left behind. -/
theorem keeps_set_of_assemble {call : ℕ} {now : Timestamp}
    (hstep : Odis.Twin.step system s (.assemble call now) = some s')
    (hlength : s'.gets.length = s.gets.length) : Keeps system s' (.set call) := by
  intro assetId read now' twin assembles hget
  right
  unfold Odis.Twin.step at hstep
  dsimp only at hstep
  split at hstep
  next missed hmissed =>
    have hlt : call < s.gets.length := (List.getElem?_eq_some_iff.mp hmissed).1
    split at hstep
    next built hbuilt =>
      obtain rfl := Option.some.inj hstep
      dsimp only at hget
      rw [List.getElem?_set_self hlt] at hget
      cases hget
      rfl
    next error herror =>
      -- the call has raised
      obtain rfl := Option.some.inj hstep
      rw [List.length_eraseIdx_of_lt hlt] at hlength
      omega
  · cases hstep

/-- Nothing is cached at the start. -/
theorem coherent_initial (records : Records F) : Coherent (State.initial system records) :=
  fun _ => .inr (upToDate_of_eq_none rfl)

/-- Once all rows are dispatched and no call is under way, `get_for_asset` returns what is assembled
from the tables. -/
def AlwaysFresh (system : System F) : Prop :=
  ∀ (records : Records F) (steps : List (Step F)) (s : State system),
    run (Odis.Twin.step system) (State.initial system records) steps = some s →
      s.Quiescent system → ∀ (assetId : String) (now : Timestamp),
        (getForAsset (redisCache F) (system.service s.records now) s.cache assetId).2 =
          (system.service s.records now).assemble assetId

/-- Once all rows are dispatched, and if no step of the run left a twin behind, `get_for_asset`
returns what is assembled from the tables, unless there are forecasts. -/
theorem getForAsset_eq_assemble {records : Records F} {steps : List (Step F)}
    (hrun : run (Odis.Twin.step system) (State.initial system records) steps = some s)
    (hkeeps : Along (Odis.Twin.step system) (Keeps system) (State.initial system records) steps)
    (hquiescent : s.Quiescent system) (now : Timestamp)
    (hforecasts : (system.service s.records now).loadTelemetryForecasts assetId = .ok []) :
    (getForAsset (redisCache F) (system.service s.records now) s.cache assetId).2 =
      (system.service s.records now).assemble assetId := by
  -- the invariant of the whole run: what is out of date is yet to be dropped
  have hcoherent : Coherent s :=
    run_induction_along (coherent_initial records) Coherent.step hkeeps hrun
  rcases hcoherent assetId with ⟨row, hrow, -⟩ | hfresh
  · rw [hquiescent.outbox] at hrow
    cases hrow
  · unfold getForAsset
    cases hstored : s.cache (cacheKey assetId) with
    | none =>
        -- on a miss the twin is assembled
        have hmiss : (redisCache F).get s.cache assetId = (s.cache, none) := by
          unfold redisCache
          dsimp only
          rw [hstored]
        rw [hmiss]
        dsimp only
        cases (system.service s.records now).assemble assetId <;> rfl
    | some raw =>
        obtain ⟨twin, hread, htwin⟩ := hfresh raw hstored
        -- on a hit it is the twin without forecasts, and there are none
        have hhit : (redisCache F).get s.cache assetId = (s.cache, some twin) := by
          unfold redisCache
          dsimp only
          rw [hstored]
          dsimp only
          rw [hread]
        rw [hhit, assemble_eq_of_loadTelemetryForecasts hforecasts]
        exact htwin.symm

end Invariant

section Pump

/-- The asset has an id. -/
theorem pump_ne : "pump-1" ≠ "" := by decide

/-- The driver of the state has a text. -/
theorem driver_ne : "Decision priority: LOW" ≠ "" := by decide

/-- So has its action. -/
theorem action_ne : "Continue routine monitoring" ≠ "" := by decide

/-- A score of 90 is in range. -/
theorem ninety_range : (0 : ℤ) ≤ 90 ∧ (90 : ℤ) ≤ 100 := by decide

/-- A pump that is doing well. -/
def pumpState : OperationalState :=
  ⟨"pump-1", 90, .normal, .low, 90, "Decision priority: LOW", "Continue routine monitoring",
    firstMinute, pump_ne, ninety_range, ninety_range, driver_ne, action_ne⟩

/-- The state is one of the pump. -/
theorem pumpState_assetId : pumpState.assetId = "pump-1" := rfl

/-- The first run has an id. -/
theorem firstRun_ne : "run-1" ≠ "" := by decide

/-- So has the second. -/
theorem secondRun_ne : "run-2" ≠ "" := by decide

/-- The second minute is within the range of instants. -/
theorem secondMinute_inRange : (Datetime.utc 120000000).InRange := by decide

/-- No asset is in an empty catalog. -/
theorem catalog_empty (assetId : String) (asset : Asset) (h : none = some asset) :
    asset.id = assetId := by
  cases h

/-- A service of pumps, with the digest of the recommendation for one that is doing well. -/
def pumpSystem (hasUnitOfWorkFactory : Bool) : System ℚ where
  sha256 _ := ⟨"4e573c4272ae0073ad3de885a98c0449ff06f95392c44d24f962a3759d854ec5", by decide⟩
  forecastInference := none
  assetCatalog _ := none
  timelinePreviewLimit := 5
  assetCatalog_id := catalog_empty
  hasUnitOfWorkFactory := hasUnitOfWorkFactory

/-- A pump with one run. -/
def pumpRecords : Records ℚ where
  observed := ["pump-1"]
  runs := [⟨"run-1", "pump-1", firstMinute, pumpState, firstRun_ne, pumpState_assetId⟩]
  transitions := []
  timeline := []

/-- A second minute. -/
def secondMinute : Timestamp := ⟨.utc 120000000, secondMinute_inRange⟩

/-- Another run of the pump, with the same outcome. -/
def secondRun : StoredRun :=
  ⟨"run-2", "pump-1", secondMinute, pumpState, secondRun_ne, pumpState_assetId⟩

/-- The announcement of the run. -/
def secondOutcome : ReasoningOutcome :=
  ⟨"pump-1", "run-2", secondMinute, none, none, 2, some "Continue routine monitoring",
    "Continue routine monitoring", some pumpState, pumpState, none, none, secondMinute,
    secondMinute, .utc 120000000⟩

/-- The outbox rows of the run. -/
def secondRows : List Row :=
  [⟨"row-1", .reasoningStarted "pump-1" "run-2" secondMinute⟩,
    ⟨"row-2", .reasoningCompleted "pump-1" "run-2" secondMinute⟩]

/-- A call assembles the twin before the run, and has not set it when the rows are dispatched. -/
def overtakenSteps : List (Step ℚ) :=
  [.lookUp "pump-1", .assemble 0 firstMinute, .commitRun secondRun secondOutcome secondRows,
    .dispatch secondRows, .handle 0 "entry-1", .handle 0 "", .handle 0 "", .handle 0 "entry-2",
    .finish 0 secondRows]

/-- The asset and the run of the twin that a call has assembled. -/
def Get.assembled? {system : System ℚ} : Get system → Option (String × String)
  | .missed _ => none
  | .assembled assetId _ _ twin _ => some (assetId, twin.latestReasoningRunId)

instance (s : State (pumpSystem true)) (assetId : String) :
    Decidable (s.Pending (pumpSystem true) assetId) := by
  unfold State.Pending
  infer_instance

/-- A condition on a step that can be checked. All that is under way is about the pump, and its twin
is still to be dropped, or a handler is called while none is cached. -/
def guarded (s : State (pumpSystem true)) : Step ℚ → Bool
  | .set call =>
      decide (s.Pending (pumpSystem true) "pump-1") && match s.gets[call]? with
        | some (.assembled assetId _ _ _ _) => assetId = "pump-1"
        | _ => true
  | .handle _ _ =>
      (decide (s.Pending (pumpSystem true) "pump-1") || (s.cache (cacheKey "pump-1")).isNone) &&
        s.dispatches.all fun dispatch => dispatch.calls.all fun call =>
          call.2.event.assetId = "pump-1"
  | _ => true

/-- A guarded step leaves no twin behind. -/
theorem keeps_of_guarded {s : State (pumpSystem true)} {e : Step ℚ} (h : guarded s e = true) :
    Keeps (pumpSystem true) s e := by
  cases e with
  | set call =>
      intro assetId read now twin assembles hget
      -- the twin is set while a row is pending that will have it dropped
      obtain ⟨hpending, hasset⟩ := Bool.and_eq_true_iff.mp h
      rw [hget] at hasset
      obtain rfl := of_decide_eq_true hasset
      exact .inl (of_decide_eq_true hpending)
  | handle call uuid =>
      intro rows row calls event hcall hentry
      obtain ⟨hdropped, hall⟩ := Bool.and_eq_true_iff.mp h
      have hcalls := List.all_eq_true.mp hall _ (List.mem_of_getElem? hcall)
      have hasset : row.event.assetId = "pump-1" :=
        of_decide_eq_true (List.all_eq_true.mp hcalls _ List.mem_cons_self)
      rw [hasset]
      rcases Bool.or_eq_true_iff.mp hdropped with hpending | hnone
      · exact .inl (of_decide_eq_true hpending)
      · exact .inr (.inl (Option.isNone_iff_eq_none.mp hnone))
  | _ => trivial

/-- A call assembles the twin before the run and sets it after, but before the rows are dispatched.
They drop it, and another call assembles the twin of the new run. -/
def droppedSteps : List (Step ℚ) :=
  [.lookUp "pump-1", .assemble 0 firstMinute, .commitRun secondRun secondOutcome secondRows,
    .set 0, .dispatch secondRows, .handle 0 "entry-1", .handle 0 "", .handle 0 "",
    .handle 0 "entry-2", .finish 0 secondRows, .lookUp "pump-1"]

/-- The twin of the new run is returned from the cache. -/
theorem getForAsset_eq_assemble_pump : ∃ s,
    run (step (pumpSystem true)) (State.initial _ pumpRecords)
        (droppedSteps ++ [.assemble 0 secondMinute] ++ [.set 0]) = some s ∧
      (getForAsset (redisCache ℚ) ((pumpSystem true).service s.records secondMinute) s.cache
        "pump-1").2 = ((pumpSystem true).service s.records secondMinute).assemble "pump-1" := by
  have hlengths : (run (step (pumpSystem true)) (State.initial _ pumpRecords)
      (droppedSteps ++ [.assemble 0 secondMinute])).map
        (fun s => (s.gets.map Get.assembled?, s.outbox.length, s.dispatches.length)) =
      some ([some ("pump-1", "run-2")], 0, 0) := by
    decide +kernel
  obtain ⟨⟨records, outbox, cache, gets, dispatches⟩, hrun, hfacts⟩ :=
    Option.map_eq_some_iff.mp hlengths
  simp only [Prod.mk.injEq, List.length_eq_zero_iff, List.map_eq_singleton_iff] at hfacts
  obtain ⟨⟨get, rfl, hget⟩, rfl, rfl⟩ := hfacts
  cases get with
  | missed assetId => cases hget
  | assembled assetId read now twin assembles =>
      obtain ⟨missed, hmissed, hassemble⟩ := run_concat_eq_some.mp hrun
      -- the last step sets the twin of the second run
      have hset : run (step (pumpSystem true)) (State.initial _ pumpRecords)
          (droppedSteps ++ [.assemble 0 secondMinute] ++ [.set 0]) =
            some ⟨records, [], (redisCache ℚ).set cache twin, [], []⟩ :=
        run_concat_eq_some.mpr ⟨_, hrun, rfl⟩
      have hlookedUp : (run (step (pumpSystem true)) (State.initial _ pumpRecords)
          droppedSteps).map (fun s => s.gets.length) = some 1 := by
        decide +kernel
      rw [hmissed] at hlookedUp
      -- the steps before it are checked by computation
      have hkeeps : Along (step (pumpSystem true)) (Keeps (pumpSystem true))
          (State.initial _ pumpRecords) (droppedSteps ++ [.assemble 0 secondMinute] ++ [.set 0]) :=
        (along_concat hrun).mpr ⟨along_of_checkAlong keeps_of_guarded (by decide +kernel),
          keeps_set_of_assemble hassemble (Option.some.inj hlookedUp).symm⟩
      exact ⟨_, hset, getForAsset_eq_assemble hset hkeeps ⟨rfl, rfl, rfl⟩ secondMinute rfl⟩

/-- The twin stays in the cache though there is a newer run. -/
theorem not_alwaysFresh_pump : ¬ AlwaysFresh (pumpSystem true) := by
  intro h
  have hbefore : (run (step (pumpSystem true)) (State.initial _ pumpRecords) overtakenSteps).map
      (fun s => (s.gets.map Get.assembled?, s.outbox.length, s.dispatches.length,
        (((pumpSystem true).service s.records secondMinute).assemble "pump-1").toOption.map
          DigitalTwin.latestReasoningRunId)) =
      some ([some ("pump-1", "run-1")], 0, 0, some "run-2") := by
    decide +kernel
  obtain ⟨⟨records, outbox, cache, gets, dispatches⟩, hrun, hfacts⟩ :=
    Option.map_eq_some_iff.mp hbefore
  simp only [Prod.mk.injEq, List.length_eq_zero_iff, List.map_eq_singleton_iff] at hfacts
  obtain ⟨⟨get, rfl, hget⟩, rfl, rfl, hassembled⟩ := hfacts
  cases get with
  | missed assetId => cases hget
  | assembled assetId read now twin assembles =>
      obtain ⟨rfl, hold⟩ := Prod.mk.inj (Option.some.inj hget)
      have hid : twin.assetId = "pump-1" := assetId_of_assemble assembles
      -- the call sets the twin that it assembled before the run
      have hset : run (step (pumpSystem true)) (State.initial _ pumpRecords)
          (overtakenSteps ++ [.set 0]) =
            some ⟨records, [], (redisCache ℚ).set cache twin, [], []⟩ :=
        run_concat_eq_some.mpr ⟨_, hrun, rfl⟩
      have hfresh := h _ _ _ hset ⟨rfl, rfl, rfl⟩ "pump-1" secondMinute
      have hcached := getForAsset_set cache twin ((pumpSystem true).service records secondMinute)
      rw [hid] at hcached
      dsimp only at hfresh
      rw [hcached] at hfresh
      rw [← hfresh] at hassembled
      have hnew : twin.latestReasoningRunId = "run-2" := Option.some.inj hassembled
      rw [hold] at hnew
      exact absurd hnew (by decide)

end Pump

end Odis.Twin
