import Mathlib.Logic.Function.Basic
import Odis.Investigation.Transition
import Odis.Library.Exceptions
import Odis.Library.PartialRun

/-!
# Concurrent transitions

Any number of calls of `record_transition` at once. A call reads the transitions of its
recommendation, checks the rank of the latest one, and saves and commits its own; between these
steps other calls take theirs. No lock and no constraint of the table relates a commit to what the
call has read, and which transition is the latest one is decided by the clocks of the callers.

* `forwardOnly_step_iff`: a step keeps the statuses increasing exactly if it is not disturbed.
* `forwardOnly_iff_undisturbed`: the same for all runs.
-/

namespace Odis.Investigation

variable {F : Type}

/-- How far a call has come. It keeps the transitions it has read, in the order it has read them. -/
inductive Phase where
  | waiting
  | read (transitions : List InvestigationEvent)
  | admitted (transitions : List InvestigationEvent)
  | recorded (transition : InvestigationEvent)
  | raised (error : TransitionError)

/-- The store, and the calls by their numbers. -/
structure System (F : Type) where
  store : Store F
  phases : ℕ → Phase

/-- The steps of the calls. -/
inductive Step where
  | read (call : ℕ)
  | check (call : ℕ)
  | saveAndCommit (call : ℕ) (minted : Minted)

/-- No transition is recorded, and no call has begun. -/
def System.start : System F := ⟨⟨[], []⟩, fun _ => .waiting⟩

/-- A call goes on to a phase. -/
def System.proceed (system : System F) (call : ℕ) (phase : Phase) : System F :=
  { system with phases := Function.update system.phases call phase }

section Run

variable (hasEventBus : Bool) (requests : ℕ → TransitionRequest)

/-- A step of a call that is ready for it. -/
def step (system : System F) : Step → Option (System F)
  | .read call =>
      match system.phases call with
      | .waiting =>
          some (system.proceed call
            (.read (listForRecommendation system.store.rows (requests call).recommendationId)))
      | _ => none
  | .check call =>
      match system.phases call with
      | .read transitions =>
          match checkForward transitions.getLast? (requests call) with
          -- the check is over what was read, whatever has been committed since
          | .ok _ => some (system.proceed call (.admitted transitions))
          | .error error => some (system.proceed call (.raised error))
      | _ => none
  | .saveAndCommit call minted =>
      match system.phases call with
      | .admitted _ =>
          match Investigation.saveAndCommit hasEventBus system.store (requests call) minted with
          | .ok (store, transition) =>
              some (System.proceed ⟨store, system.phases⟩ call (.recorded transition))
          | .error error => some (system.proceed call (.raised error))
      | _ => none

/-- The statuses of the transitions of each recommendation increase in the order of the commits. -/
def ForwardOnly (rows : List InvestigationEvent) : Prop :=
  ∀ recommendationId, (rows.filter fun row => row.recommendationId = recommendationId).Pairwise
    fun earlier later => earlier.status.rank < later.status.rank

/-- The call was not overtaken: what was committed for its recommendation since it has read the
transitions is of lower status than what it asks for. -/
def NotOvertaken (rows transitions : List InvestigationEvent) (request : TransitionRequest) :
    Prop :=
  ∀ row ∈ rows, row.recommendationId = request.recommendationId → row ∉ transitions →
    row.status.rank < request.status.rank

/-- The clocks agree with the commits: of the transitions it has read, the call took the one that
was committed last for the latest one, or that one is of lower status than what it asks for. -/
def ReadsLastCommitted (rows transitions : List InvestigationEvent)
    (request : TransitionRequest) : Prop :=
  ∀ last, (rows.filter fun row => row ∈ transitions).getLast? = some last →
    transitions.getLast? = some last ∨ last.status.rank < request.status.rank

/-- Where a step records a transition, the call was not overtaken and has read the clocks in the
order of the commits. -/
def Undisturbed (system : System F) : Step → Prop
  | .saveAndCommit call minted =>
      ∀ transitions, system.phases call = .admitted transitions →
        ∀ transition, (requests call).transition minted = .ok transition →
          transition.id ∉ system.store.rows.map InvestigationEvent.id →
            NotOvertaken system.store.rows transitions (requests call) ∧
              ReadsLastCommitted system.store.rows transitions (requests call)
  | _ => True

end Run

/-- The steps of a call that nothing comes between do what the call does alone. -/
theorem run_of_recordTransition {hasEventBus : Bool} {requests : ℕ → TransitionRequest}
    {system : System F} {call : ℕ} {minted : Minted} {store : Store F}
    {transition : InvestigationEvent} (hwaiting : system.phases call = .waiting)
    (h : recordTransition hasEventBus system.store (requests call) minted =
      .ok (store, transition)) :
    ∃ system', PartialRun.run (step hasEventBus requests) system
        [.read call, .check call, .saveAndCommit call minted] = some system' ∧
      system'.store = store ∧ system'.phases call = .recorded transition := by
  unfold recordTransition at h
  obtain ⟨_, hcheck, hsaved⟩ := Exceptions.bind_eq_ok.mp h
  rw [getLatestForRecommendation] at hcheck
  have hrun : PartialRun.run (step hasEventBus requests) system
      [.read call, .check call, .saveAndCommit call minted] =
        some (System.proceed ⟨store, Function.update (Function.update system.phases call
          (.read (listForRecommendation system.store.rows (requests call).recommendationId))) call
            (.admitted (listForRecommendation system.store.rows
              (requests call).recommendationId))⟩ call (.recorded transition)) := by
    simp [PartialRun.run, step, hwaiting, System.proceed, hcheck, hsaved]
  exact ⟨_, hrun, rfl, Function.update_self ..⟩

/-! ## The order of the commits -/

section ForwardOnly

variable {rows : List InvestigationEvent} {transition : InvestigationEvent}

/-- One more commit keeps the order exactly if its status is beyond those of its recommendation. -/
theorem forwardOnly_append_iff :
    ForwardOnly (rows ++ [transition]) ↔ ForwardOnly rows ∧
      ∀ row ∈ rows, row.recommendationId = transition.recommendationId →
        row.status.rank < transition.status.rank := by
  simp only [ForwardOnly, List.filter_append, List.pairwise_append]
  constructor
  · intro h
    refine ⟨fun recommendationId => (h recommendationId).1, fun row hrow hrec => ?_⟩
    apply (h transition.recommendationId).2.2 row
    · exact List.mem_filter.mpr ⟨hrow, decide_eq_true hrec⟩
    · simp
  · rintro ⟨hrows, hbeyond⟩ recommendationId
    refine ⟨hrows recommendationId, List.Pairwise.filter _ (List.pairwise_singleton _ _), ?_⟩
    intro row hrow last hlast
    obtain ⟨hrow, hrec⟩ := List.mem_filter.mp hrow
    obtain ⟨hlast, hrec'⟩ := List.mem_filter.mp hlast
    obtain rfl := List.mem_singleton.mp hlast
    exact hbeyond row hrow ((of_decide_eq_true hrec).trans (of_decide_eq_true hrec').symm)

/-- In increasing order, nothing is beyond the last entry. -/
theorem rank_le_getLast {last row : InvestigationEvent}
    (hsorted : rows.Pairwise fun earlier later => earlier.status.rank < later.status.rank)
    (hlast : rows.getLast? = some last) (hrow : row ∈ rows) :
    row.status.rank ≤ last.status.rank := by
  obtain ⟨front, rfl⟩ := List.getLast?_eq_some_iff.mp hlast
  rcases List.mem_append.mp hrow with hfront | hrow
  · exact Nat.le_of_lt
      ((List.pairwise_append.mp hsorted).2.2 row hfront last (List.mem_singleton_self last))
  · rw [List.mem_singleton.mp hrow]

end ForwardOnly

/-! ## What a step changes -/

section Steps

variable {hasEventBus : Bool} {requests : ℕ → TransitionRequest} {system system' : System F}

/-- A call has read committed transitions of its recommendation, and it is admitted by the latest
of them. -/
structure Consistent (requests : ℕ → TransitionRequest) (system : System F) : Prop where
  read : ∀ call transitions, system.phases call = .read transitions ∨
      system.phases call = .admitted transitions →
    ∀ row ∈ transitions, row ∈ system.store.rows ∧
      row.recommendationId = (requests call).recommendationId
  admitted : ∀ call transitions, system.phases call = .admitted transitions →
    checkForward transitions.getLast? (requests call) = .ok ()

/-- What a step does: it records a transition for a call that is admitted, or it commits nothing. -/
theorem step_cases {e : Step} (h : step hasEventBus requests system e = some system') :
    (system'.store = system.store ∧ Undisturbed requests system e) ∨
      ∃ call minted transitions transition, e = .saveAndCommit call minted ∧
        system.phases call = .admitted transitions ∧
          (requests call).transition minted = .ok transition ∧
            transition.id ∉ system.store.rows.map InvestigationEvent.id ∧
              system'.store.rows = system.store.rows ++ [transition] := by
  cases e with
  -- reading commits nothing
  | read call =>
      cases hphase : system.phases call with
      | waiting =>
          simp only [step, hphase, Option.some.injEq] at h
          exact Or.inl ⟨by rw [← h]; rfl, trivial⟩
      | _ => simp [step, hphase] at h
  -- nor does the check, whether it admits the call or raises
  | check call =>
      cases hphase : system.phases call with
      | read transitions =>
          simp only [step, hphase] at h
          refine Or.inl ⟨?_, trivial⟩
          split at h <;> (rw [← Option.some.inj h]; rfl)
      | _ => simp [step, hphase] at h
  | saveAndCommit call minted =>
      cases hphase : system.phases call with
      | admitted transitions =>
          simp only [step, hphase] at h
          split at h
          next store transition hsaved =>
            obtain ⟨htransition, hid, hrows⟩ := saveAndCommit_eq_ok hsaved
            refine Or.inr ⟨call, minted, transitions, transition, rfl, hphase, htransition, hid, ?_⟩
            rw [← Option.some.inj h]
            exact hrows
          next error hfailed =>
            refine Or.inl ⟨by rw [← Option.some.inj h]; rfl, ?_⟩
            -- the commit would have gone through
            intro transitions' _ transition htransition hid
            simp [Investigation.saveAndCommit, save, htransition, hid, bind, Except.bind] at hfailed
            cases hfailed
      | _ => simp [step, hphase] at h

/-- A call that goes on keeps the calls consistent, if its new phase is. -/
theorem Consistent.proceed {call : ℕ} {phase : Phase} {store : Store F}
    (hinv : Consistent requests system) (hrows : ∀ row ∈ system.store.rows, row ∈ store.rows)
    (hread : ∀ transitions, phase = .read transitions ∨ phase = .admitted transitions →
      ∀ row ∈ transitions, row ∈ store.rows ∧
        row.recommendationId = (requests call).recommendationId)
    (hadmitted : ∀ transitions, phase = .admitted transitions →
      checkForward transitions.getLast? (requests call) = .ok ()) :
    Consistent requests (System.proceed ⟨store, system.phases⟩ call phase) where
  read call' transitions hphase row hrow := by
    simp only [System.proceed, Function.update_apply] at hphase ⊢
    by_cases hcall : call' = call
    -- the call that goes on
    · subst hcall
      rw [if_pos rfl] at hphase
      exact hread transitions hphase row hrow
    -- the other calls stay where they are, and no row is lost
    · rw [if_neg hcall] at hphase
      obtain ⟨hmem, hrec⟩ := hinv.read call' transitions hphase row hrow
      exact ⟨hrows row hmem, hrec⟩
  admitted call' transitions hphase := by
    simp only [System.proceed, Function.update_apply] at hphase
    by_cases hcall : call' = call
    · subst hcall
      rw [if_pos rfl] at hphase
      exact hadmitted transitions hphase
    · rw [if_neg hcall] at hphase
      exact hinv.admitted call' transitions hphase

/-- Every step keeps the calls consistent. -/
theorem Consistent.step {e : Step} (hinv : Consistent requests system)
    (h : step hasEventBus requests system e = some system') : Consistent requests system' := by
  -- a call that has recorded its transition or has raised keeps nothing it has read
  have hended : ∀ {call phase store}, (∀ row ∈ system.store.rows, row ∈ store.rows) →
      (∀ transitions, phase ≠ .read transitions ∧ phase ≠ .admitted transitions) →
        Consistent requests (System.proceed ⟨store, system.phases⟩ call phase) :=
    fun hrows hphase => hinv.proceed hrows
      (fun transitions h => h.elim (absurd · (hphase transitions).1)
        (absurd · (hphase transitions).2))
      fun transitions h => absurd h (hphase transitions).2
  cases e with
  -- what is read is in the store
  | read call =>
      cases hphase : system.phases call with
      | waiting =>
          simp only [Investigation.step, hphase, Option.some.injEq] at h
          rw [← h]
          apply hinv.proceed (fun _ => id)
          · rintro transitions (htransitions | htransitions)
            · obtain rfl := Phase.read.inj htransitions
              exact fun row hrow => mem_listForRecommendation.mp hrow
            · cases htransitions
          · exact fun transitions h => nomatch h
      | _ => simp [Investigation.step, hphase] at h
  -- what is admitted was read before, and was checked
  | check call =>
      cases hphase : system.phases call with
      | read transitions =>
          simp only [Investigation.step, hphase] at h
          split at h
          next u hadmitted =>
            rw [← Option.some.inj h]
            apply hinv.proceed (fun _ => id)
            · rintro transitions' (htransitions | htransitions)
              · cases htransitions
              · obtain rfl := Phase.admitted.inj htransitions
                exact hinv.read call transitions (Or.inl hphase)
            · intro transitions' htransitions
              obtain rfl := Phase.admitted.inj htransitions
              exact hadmitted
          next error _ =>
            rw [← Option.some.inj h]
            exact hended (fun _ => id) fun _ => ⟨fun h => (nomatch h), fun h => (nomatch h)⟩
      | _ => simp [Investigation.step, hphase] at h
  | saveAndCommit call minted =>
      cases hphase : system.phases call with
      | admitted transitions =>
          simp only [Investigation.step, hphase] at h
          split at h
          next store transition hsaved =>
            obtain ⟨_, _, hrows⟩ := saveAndCommit_eq_ok hsaved
            rw [← Option.some.inj h]
            -- rows are only added, so what the other calls have read is still there
            refine hended (fun row hrow => ?_) fun _ =>
              ⟨fun h => (nomatch h), fun h => (nomatch h)⟩
            rw [hrows]
            exact List.mem_append_left _ hrow
          next error _ =>
            rw [← Option.some.inj h]
            exact hended (fun _ => id) fun _ => ⟨fun h => (nomatch h), fun h => (nomatch h)⟩
      | _ => simp [Investigation.step, hphase] at h

/-- A step keeps the order of the statuses exactly if it is not disturbed. -/
theorem forwardOnly_step_iff {e : Step} (hinv : Consistent requests system)
    (h : Investigation.step hasEventBus requests system e = some system') :
    ForwardOnly system'.store.rows ↔
      ForwardOnly system.store.rows ∧ Undisturbed requests system e := by
  rcases step_cases h with ⟨hstore, hundisturbed⟩ |
    ⟨call, minted, transitions, transition, rfl, hphase, htransition, hid, hrows⟩
  -- a step that commits nothing keeps the order
  · rw [hstore, and_iff_left hundisturbed]
  · obtain ⟨_, _, hrecommendation, hstatus⟩ := TransitionRequest.transition_eq_ok htransition
    -- the transition that is committed was checked against what its call had read
    have hread := hinv.read call transitions (Or.inr hphase)
    have hadmitted := checkForward_eq_ok_iff.mp (hinv.admitted call transitions hphase)
    rw [hrows, forwardOnly_append_iff, hrecommendation, hstatus]
    refine and_congr_right fun hforward => ?_
    constructor
    · intro hbeyond transitions' hphase' _ _ _
      obtain rfl := Phase.admitted.inj (hphase.symm.trans hphase')
      refine ⟨fun row hrow hrec _ => hbeyond row hrow hrec, fun last hlast => Or.inr ?_⟩
      obtain ⟨hmem, hlast⟩ := List.mem_filter.mp (List.mem_of_getLast? hlast)
      exact hbeyond last hmem (hread last (of_decide_eq_true hlast)).2
    · intro hundisturbed row hrow hrec
      obtain ⟨hovertaken, hclocks⟩ := hundisturbed transitions hphase transition htransition hid
      by_cases hmem : row ∈ transitions
      · -- the transitions that were read, as they were committed, increase up to the last one
        have hpart : (system.store.rows.filter fun row => row ∈ transitions).Pairwise
            fun earlier later => earlier.status.rank < later.status.rank := by
          have hfilter : (system.store.rows.filter fun row => row ∈ transitions) =
              (system.store.rows.filter fun row =>
                row.recommendationId = (requests call).recommendationId).filter
                  fun row => row ∈ transitions := by
            rw [List.filter_filter]
            refine List.filter_congr fun row _ => ?_
            by_cases hrow : row ∈ transitions
            · simp [hrow, (hread row hrow).2]
            · simp [hrow]
          rw [hfilter]
          exact (hforward _).filter _
        have hpartmem : row ∈ system.store.rows.filter fun row => row ∈ transitions :=
          List.mem_filter.mpr ⟨hrow, decide_eq_true hmem⟩
        obtain ⟨last, hlast⟩ := Option.ne_none_iff_exists'.mp
          (fun hnone => List.ne_nil_of_mem hpartmem (List.getLast?_eq_none_iff.mp hnone))
        refine Nat.lt_of_le_of_lt (rank_le_getLast hpart hlast hpartmem) ?_
        rcases hclocks last hlast with hlatest | hlower
        · exact hadmitted last hlatest
        · exact hlower
      · exact hovertaken row hrow hrec hmem

end Steps

/-- The statuses recorded by any number of concurrent calls increase in the order of the commits
exactly if no commit of the run was disturbed. -/
theorem forwardOnly_iff_undisturbed {hasEventBus : Bool} {requests : ℕ → TransitionRequest}
    {steps : List Step} {system : System F}
    (hrun : PartialRun.run (step hasEventBus requests) System.start steps = some system) :
    ForwardOnly system.store.rows ↔
      PartialRun.Along (step (F := F) hasEventBus requests) (Undisturbed requests) System.start
        steps := by
  have hstart : Consistent requests (System.start (F := F)) :=
    ⟨fun _ _ h => h.elim (fun h => (nomatch h)) fun h => (nomatch h), fun _ _ h => (nomatch h)⟩
  have hempty : ForwardOnly (System.start (F := F)).store.rows := fun _ => List.Pairwise.nil
  exact PartialRun.iff_along hstart hempty (fun hinv h => hinv.step h)
    (fun hinv h => forwardOnly_step_iff hinv h) hrun

/-! ## Two operators at once -/

/-- Two calls about one recommendation: call 0 resolves it, every other call acknowledges it. -/
def twoRequests (call : ℕ) : TransitionRequest where
  assetId := "asset-1"
  recommendationId := "rec-1"
  status := if call = 0 then .resolved else .acknowledged
  actorId := "operator"
  actorDisplayName := "Operator"
  notes := none

/-- What a call draws at a given second. -/
def mintedAt (id : String) (second : ℤ) : Minted :=
  ⟨id, Datetime.utc (second * 1000000), "outbox-" ++ id, Datetime.utc (second * 1000000),
    Datetime.utc (second * 1000000)⟩

/-- Both calls read before either commits. -/
def race : List Step :=
  [.read 0, .read 1, .check 0, .check 1, .saveAndCommit 0 (mintedAt "t0" 1),
    .saveAndCommit 1 (mintedAt "t1" 2)]

/-- The recommendation is acknowledged after it was resolved. -/
theorem acknowledged_after_resolved :
    ((PartialRun.run (step (F := ℚ) true twoRequests) System.start race).map fun system =>
      system.store.rows.map InvestigationEvent.status) = some [.resolved, .acknowledged] := by
  rfl

/-- One call after the other: the recommendation is acknowledged, and then resolved. -/
def inTurn : List Step :=
  [.read 1, .check 1, .saveAndCommit 1 (mintedAt "t1" 1), .read 0, .check 0,
    .saveAndCommit 0 (mintedAt "t0" 2)]

/-- The second call reads what the first one has committed. -/
theorem forwardOnly_inTurn :
    ∃ system, PartialRun.run (step (F := ℚ) true twoRequests) System.start inTurn = some system ∧
      system.store.rows.map InvestigationEvent.status = [.acknowledged, .resolved] ∧
        (ForwardOnly system.store.rows ↔
          PartialRun.Along (step (F := ℚ) true twoRequests) (Undisturbed twoRequests) System.start
            inTurn) :=
  ⟨_, rfl, rfl, forwardOnly_iff_undisturbed rfl⟩

end Odis.Investigation
