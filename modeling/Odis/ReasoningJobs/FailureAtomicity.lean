import Odis.ReasoningJobs.Worker

/-!
# What a call of the worker leaves when it raises

One unit of work and one `try` block cover the claim, the reasoning run, the completion, the
commit and the dispatch, and the handler of the block fails the job and commits. So a dispatch
that raises turns a job that was committed as completed into a failed one, and a run that raises
after it wrote rows has these rows committed. Where the session is not usable after the run raised
(after a failed flush, and on some databases after a failed statement), it refuses to fail the job.
`processNext_failureAtomic_iff` says that these are the only ways in which a call is not
failure-atomic.
-/

namespace Odis.ReasoningJobs

open Transaction

/-- The rows of a run leave the jobs as they are. -/
@[simp]
theorem jobs_foldl_add (rows : List RunWrite) (db : Database) :
    (rows.foldl Database.add db).jobs = db.jobs := by
  induction rows generalizing db with
  | nil => rfl
  | cons row rows ih =>
      rw [List.foldl_cons, ih]
      cases row <;> rfl

/-- The number of rows other than jobs. -/
def Database.written (db : Database) : ℕ := db.artifacts.length + db.outbox.length

/-- They are counted one by one. -/
@[simp]
theorem written_foldl_add (rows : List RunWrite) (db : Database) :
    (rows.foldl Database.add db).written = db.written + rows.length := by
  induction rows generalizing db with
  | nil => rfl
  | cons row rows ih =>
      rw [List.foldl_cons, ih]
      cases row <;> simp only [Database.add, Database.written, List.length_append,
        List.length_cons, List.length_nil] <;> omega

/-- The status of a job in the database. -/
def Database.jobStatus (db : Database) (jobId : String) : Option ReasoningJobStatus :=
  statusOf db.jobs jobId

/-- A call is failure-atomic: a job that was committed as completed is failed in no later commit,
and a reasoning run that raises has exactly the claim, the failed job and its follow-up
committed. -/
structure FailureAtomic (call : WorkerCall) (db : Database) : Prop where
  completedStays : ∀ jobId, (db :: (processNext call db).2.commits).Pairwise fun d d' =>
    d.jobStatus jobId = some .completed → d'.jobStatus jobId ≠ some .failed
  nothingPartial : ∀ written kind, call.raises = some (.run written kind) →
    ∀ job jobs, claimOldestPending call.tie call.claimedAt db.jobs = .ok (some job, jobs) →
      ∃ result jobs', failAndReschedule call.failFollowUpId call.failedAt job jobs =
          .ok (result, jobs') ∧
        (processNext call db).2.durable = { db with jobs := jobs' }

/-- Whether the session of a call is still usable after its run raised. -/
def WorkerCall.staysUsable (call : WorkerCall) : RaiseKind → Bool
  | .ownCode => true
  | .statement => !call.abortsOnFailedStatement
  | .flush => false

section Calls

variable {call : WorkerCall} {db : Database} {job : ReasoningJob} {jobs jobs' jobs'' : JobTable}
  {result result' : ReasoningJob × Option ReasoningJob} {s : Session Database}

/-- A call of the queue that returns changes the jobs of the working copy. -/
theorem onJobs_ok {α : Type} {f : JobTable → Except DatabaseError (α × JobTable)} {a : α}
    (husable : s.usable = true) (hf : f s.working.jobs = .ok (a, jobs')) :
    onJobs f s = .ok a { s with working := { s.working with jobs := jobs' } } :=
  execute_ok husable (by simp only [hf])

/-- The handler fails the job and commits everything the transaction holds. -/
theorem failJob_ok (husable : s.usable = true)
    (hfail : failAndReschedule call.failFollowUpId call.failedAt job s.working.jobs =
      .ok (result, jobs')) :
    failJob call job s = .ok () { s with
      durable := { s.working with jobs := jobs' }
      working := { s.working with jobs := jobs' }
      commits := s.commits ++ [{ s.working with jobs := jobs' }] } := by
  rw [failJob, bind_ok (onJobs_ok husable hfail)]
  exact commit_ok husable

/-- On a session that is not usable the handler is refused. -/
theorem failJob_refused (husable : s.usable = false) :
    failJob call job s = .error .pendingRollback s := by
  rw [failJob]
  exact bind_error (execute_of_not_usable husable)

/-- The session after the claim. -/
def claimedSession (db : Database) (jobs : JobTable) : Session Database :=
  { durable := db, working := { db with jobs }, usable := true, commits := [] }

/-- After a claim, a call goes by its `try` block and its handler. -/
theorem processNextBody_claimed
    (hclaim : claimOldestPending call.tie call.claimedAt db.jobs = .ok (some job, jobs)) :
    processNextBody call (.begin db) =
      (tryCatch (do processJob call job; pure true)
        (fun error => do failJob call job; throw error) : WorkerM Bool)
        (claimedSession db jobs) := by
  rw [processNextBody, bind_ok (onJobs_ok rfl hclaim)]
  rfl

/-- The session after the reasoning run wrote rows. -/
def ranSession (db : Database) (jobs : JobTable) (rows : List RunWrite) : Session Database :=
  { claimedSession db jobs with working := rows.foldl Database.add { db with jobs } }

/-- The rows of a run are written into the session of the claim. -/
theorem write_claimed (rows : List RunWrite) :
    write rows (claimedSession db jobs) = .ok () (ranSession db jobs rows) :=
  execute_ok rfl rfl

/-- The session after the job was completed and committed. -/
def completedSession (db : Database) (jobs : JobTable) (rows : List RunWrite)
    (jobs' : JobTable) : Session Database :=
  let content : Database := { rows.foldl Database.add { db with jobs } with jobs := jobs' }
  { durable := content, working := content, usable := true, commits := [content] }

/-- The session after the dispatch. -/
def dispatchedSession (call : WorkerCall) (s : Session Database) : Session Database :=
  let content : Database := { s.durable with outbox := call.dispatch s.durable.outbox }
  { s with durable := content, working := content, commits := s.commits ++ [content] }

/-- A run that does not raise writes all its rows. -/
theorem runReasoning_ok (hrun : ∀ written kind, call.raises ≠ some (.run written kind)) :
    runReasoning call (claimedSession db jobs) =
      .ok () (ranSession db jobs (runWrites call.run)) := by
  have hwrite : runReasoning call = write (runWrites call.run) := by
    unfold runReasoning
    split
    · next h => exact absurd h (hrun _ _)
    · next h => exact absurd h (hrun _ _)
    · next h => exact absurd h (hrun _ _)
    · rfl
  rw [hwrite]
  exact write_claimed _

/-- A run that is not interrupted is completed and committed before the dispatch. -/
theorem processJob_committed (hrun : ∀ written kind, call.raises ≠ some (.run written kind))
    (hcommit : call.raises ≠ some .commit)
    (hcomplete : completeAndReschedule call.completeFollowUpId call.completedAt job jobs =
      .ok (result, jobs')) :
    processJob call job (claimedSession db jobs) =
      dispatchOutbox call (completedSession db jobs (runWrites call.run) jobs') := by
  have hjobs : (ranSession db jobs (runWrites call.run)).working.jobs = jobs := jobs_foldl_add ..
  have hcommitted : commitCompleted call = (commit .pendingRollback : WorkerM Unit) := by
    unfold commitCompleted
    split
    · next h => exact absurd h hcommit
    · rfl
  rw [processJob, bind_ok (runReasoning_ok hrun), bind_ok (onJobs_ok rfl (hjobs ▸ hcomplete)),
    hcommitted]
  exact bind_ok (commit_ok rfl)

/-- When the `try` block raises on a usable session, the job is failed and everything the
transaction holds is committed. -/
theorem processNext_failed
    (hclaim : claimOldestPending call.tie call.claimedAt db.jobs = .ok (some job, jobs))
    {error : WorkerError} (hjob : processJob call job (claimedSession db jobs) = .error error s)
    (husable : s.usable = true)
    (hfail : failAndReschedule call.failFollowUpId call.failedAt job s.working.jobs =
      .ok (result, jobs')) :
    (processNext call db).2.commits = s.commits ++ [{ s.working with jobs := jobs' }] ∧
      (processNext call db).2.durable = { s.working with jobs := jobs' } := by
  have hblock : (do processJob call job; pure true : WorkerM Bool) (claimedSession db jobs) =
      .error error s := bind_error hjob
  rw [processNext, processNextBody_claimed hclaim, tryCatch_error hblock,
    bind_ok (failJob_ok husable hfail)]
  exact ⟨rfl, rfl⟩

/-- When the `try` block raises on a session that is not usable, the handler is refused and
nothing more is committed. -/
theorem processNext_refused
    (hclaim : claimOldestPending call.tie call.claimedAt db.jobs = .ok (some job, jobs))
    {error : WorkerError} (hjob : processJob call job (claimedSession db jobs) = .error error s)
    (husable : s.usable = false) :
    (processNext call db).2.commits = s.commits ∧
      (processNext call db).2.durable = s.durable := by
  have hblock : (do processJob call job; pure true : WorkerM Bool) (claimedSession db jobs) =
      .error error s := bind_error hjob
  rw [processNext, processNextBody_claimed hclaim, tryCatch_error hblock,
    bind_error (failJob_refused husable)]
  exact ⟨rfl, rfl⟩

/-- The commits of a call in which nothing raises: the completed job with its run, and the outbox
after the dispatch. -/
theorem commits_of_none (hraises : call.raises = none)
    (hclaim : claimOldestPending call.tie call.claimedAt db.jobs = .ok (some job, jobs))
    (hcomplete : completeAndReschedule call.completeFollowUpId call.completedAt job jobs =
      .ok (result, jobs')) :
    (processNext call db).2.commits =
      (dispatchedSession call (completedSession db jobs (runWrites call.run) jobs')).commits := by
  have hjob : processJob call job (claimedSession db jobs) = _ :=
    processJob_committed (by simp [hraises]) (by simp [hraises]) hcomplete
  have hdispatch : dispatchOutbox call (completedSession db jobs (runWrites call.run) jobs') =
      .ok () (dispatchedSession call (completedSession db jobs (runWrites call.run) jobs')) := by
    rw [dispatchOutbox, hraises]
    rfl
  have hblock : (do processJob call job; pure true : WorkerM Bool) (claimedSession db jobs) =
      .ok true (dispatchedSession call (completedSession db jobs (runWrites call.run) jobs')) :=
    bind_ok (hjob.trans hdispatch)
  rw [processNext, processNextBody_claimed hclaim, tryCatch_ok hblock]
  rfl

/-- The commits of a call whose dispatch raises: the job is completed in the first two and failed
in the last. -/
theorem commits_of_dispatch (hraises : call.raises = some .dispatch)
    (hclaim : claimOldestPending call.tie call.claimedAt db.jobs = .ok (some job, jobs))
    (hcomplete : completeAndReschedule call.completeFollowUpId call.completedAt job jobs =
      .ok (result, jobs'))
    (hfail : failAndReschedule call.failFollowUpId call.failedAt job jobs' =
      .ok (result', jobs'')) :
    let dispatched := dispatchedSession call (completedSession db jobs (runWrites call.run) jobs')
    (processNext call db).2.commits =
      dispatched.commits ++ [{ dispatched.working with jobs := jobs'' }] := by
  intro dispatched
  have hjob : processJob call job (claimedSession db jobs) = .error .dispatch dispatched := by
    rw [processJob_committed (by simp [hraises]) (by simp [hraises]) hcomplete, dispatchOutbox,
      hraises]
    rfl
  exact (processNext_failed hclaim hjob rfl hfail).1

/-- A call whose commit raises commits nothing. -/
theorem commits_of_commit (hraises : call.raises = some .commit)
    (hclaim : claimOldestPending call.tie call.claimedAt db.jobs = .ok (some job, jobs))
    (hcomplete : completeAndReschedule call.completeFollowUpId call.completedAt job jobs =
      .ok (result, jobs')) : (processNext call db).2.commits = [] := by
  have hjobs : (ranSession db jobs (runWrites call.run)).working.jobs = jobs := jobs_foldl_add ..
  have hjob : processJob call job (claimedSession db jobs) = .error .commitFailed
      { ranSession db jobs (runWrites call.run) with
        working := { (ranSession db jobs (runWrites call.run)).working with jobs := jobs' }
        usable := false } := by
    rw [processJob, bind_ok (runReasoning_ok (by simp [hraises])),
      bind_ok (onJobs_ok rfl (hjobs ▸ hcomplete)), commitCompleted, hraises]
    rfl
  exact (processNext_refused hclaim hjob rfl).1

variable (db jobs) in
/-- A run that raises leaves the rows that it wrote to the open transaction. -/
theorem runReasoning_raises {written : ℕ} {kind : RaiseKind}
    (hraises : call.raises = some (.run written kind)) :
    ∃ error, runReasoning call (claimedSession db jobs) = .error error
      { ranSession db jobs ((runWrites call.run).take written) with
        usable := call.staysUsable kind } := by
  unfold runReasoning WorkerCall.staysUsable
  rw [hraises]
  cases kind with
  | ownCode => exact ⟨.reasoning, bind_ok (write_claimed _)⟩
  | statement =>
      refine ⟨.statementFailed, (bind_ok (write_claimed _)).trans ?_⟩
      cases call.abortsOnFailedStatement <;> rfl
  | flush => exact ⟨.flushFailed, bind_ok (write_claimed _)⟩

/-- A call whose run raises on a session that stays usable commits the rows the run wrote. -/
theorem commits_of_usable {written : ℕ} {kind : RaiseKind}
    (hraises : call.raises = some (.run written kind)) (husable : call.staysUsable kind = true)
    (hclaim : claimOldestPending call.tie call.claimedAt db.jobs = .ok (some job, jobs))
    (hfail : failAndReschedule call.failFollowUpId call.failedAt job jobs = .ok (result, jobs')) :
    let content : Database :=
      { ((runWrites call.run).take written).foldl Database.add { db with jobs } with
        jobs := jobs' }
    (processNext call db).2.commits = [content] ∧ (processNext call db).2.durable = content := by
  have hjobs : (ranSession db jobs ((runWrites call.run).take written)).working.jobs = jobs :=
    jobs_foldl_add ..
  obtain ⟨error, hrun⟩ := runReasoning_raises db jobs hraises
  exact processNext_failed hclaim (bind_error hrun) husable (hjobs ▸ hfail)

/-- A call whose run raises on a session that is not usable any more commits nothing. -/
theorem commits_of_unusable {written : ℕ} {kind : RaiseKind}
    (hraises : call.raises = some (.run written kind)) (husable : call.staysUsable kind = false)
    (hclaim : claimOldestPending call.tie call.claimedAt db.jobs = .ok (some job, jobs)) :
    (processNext call db).2.commits = [] ∧ (processNext call db).2.durable = db := by
  obtain ⟨error, hrun⟩ := runReasoning_raises db jobs hraises
  exact processNext_refused hclaim (bind_error hrun) husable

end Calls

/-! ## Exactly when a call is failure-atomic -/

/-- The call claims the pending row `row`, which leaves the job table `jobs`. -/
structure Claims (call : WorkerCall) (db : Database) (row : ReasoningJob) (jobs : JobTable) :
    Prop where
  row_mem : row ∈ db.jobs.rows
  pending : row.status = .pending
  claim : claimOldestPending call.tie call.claimedAt db.jobs =
    .ok (some (row.start call.claimedAt), jobs)
  rows : jobs.rows = rowsWith db.jobs row.id (.start call.claimedAt)

section Claimed

variable {call : WorkerCall} {db : Database} {row : ReasoningJob} {jobs : JobTable}

/-- The claimed job is among the jobs, and is running. -/
theorem Claims.started_mem (h : Claims call db row jobs) :
    row.start call.claimedAt ∈ jobs.rows := by
  rw [h.rows, mem_rowsWith_iff h.row_mem]
  exact .inl rfl

/-- Claiming a job leaves the others as they are. -/
theorem Claims.keepsOthers (h : Claims call db row jobs) : KeepsOthers row.id db.jobs jobs :=
  keepsOthers_of_rows [] h.row_mem rfl (by simp) (by rw [h.rows, List.append_nil])

/-- An id that was new is new after the claim. -/
theorem Claims.fresh (h : Claims call db row jobs) {followUpId : String}
    (hfresh : ∀ r ∈ db.jobs.rows, r.id ≠ followUpId) : ∀ r ∈ jobs.rows, r.id ≠ followUpId := by
  intro r hr
  rw [h.rows, mem_rowsWith_iff h.row_mem] at hr
  rcases hr with rfl | ⟨hr, -⟩
  · exact hfresh row h.row_mem
  · exact hfresh r hr

/-- The claimed row can be finished. It is left clean, and the other jobs are kept. -/
theorem Claims.finish (h : Claims call db row jobs) {followUpId : String} (now : Instant)
    {status : ReasoningJobStatus} (hterminal : status = .completed ∨ status = .failed)
    (hfresh : ∀ r ∈ db.jobs.rows, r.id ≠ followUpId) :
    ∃ result jobs' finished,
      finishAndReschedule followUpId now (row.start call.claimedAt) status jobs =
        .ok (result, jobs') ∧
      finished ∈ jobs'.rows ∧ finished.id = row.id ∧ finished.status = status ∧
      finished.dirty = false ∧ KeepsOthers row.id db.jobs jobs' := by
  obtain ⟨result, jobs', finished, f, more, hfinish, hrows, hid, hmore, hmem, hfid, hstatus,
    hclean⟩ := finishAndReschedule_spec _ _ now hterminal h.started_mem rfl (fun _ => rfl)
      (fun _ => h.fresh hfresh)
  have hkeeps : KeepsOthers (row.start call.claimedAt).id jobs jobs' :=
    keepsOthers_of_rows _ h.started_mem hid hmore hrows
  exact ⟨result, jobs', finished, hfinish, hmem, hfid, hstatus, hclean,
    h.keepsOthers.trans hkeeps⟩

/-- The claimed job is pending in the database, and the others are not failed by its statements,
so no job is failed after it was completed. -/
theorem Claims.stays (h : Claims call db row jobs) {d : Database}
    (hkeeps : KeepsOthers row.id db.jobs d.jobs) (jobId : String)
    (hcompleted : db.jobStatus jobId = some .completed) : d.jobStatus jobId ≠ some .failed := by
  intro hfailed
  by_cases hid : jobId = row.id
  · subst hid
    rw [Database.jobStatus, statusOf_eq_of_mem h.row_mem, h.pending] at hcompleted
    cases hcompleted
  · rw [Database.jobStatus, hkeeps.failed hid hfailed] at hcompleted
    cases hcompleted

/-- A call in which nothing raises completes its job for good. -/
theorem failureAtomic_of_none (h : Claims call db row jobs)
    (hfresh : ∀ r ∈ db.jobs.rows, r.id ≠ call.completeFollowUpId) (hraises : call.raises = none) :
    FailureAtomic call db := by
  obtain ⟨result, jobs', -, hcomplete, -, -, -, -, hkeeps⟩ :=
    h.finish call.completedAt (.inl rfl) hfresh
  refine ⟨fun jobId => ?_, by simp [hraises]⟩
  rw [commits_of_none hraises h.claim hcomplete]
  refine List.Pairwise.cons ?_ (List.Pairwise.cons ?_ (List.pairwise_singleton _ _))
  · intro d hd
    -- both commits behind the first one have the finished job
    have hjobs : d.jobs = jobs' := by
      rcases List.mem_cons.mp hd with rfl | hd
      · rfl
      · rw [List.mem_singleton.mp hd]
        rfl
    exact h.stays (hjobs ▸ hkeeps) jobId
  · intro d hd
    rw [List.mem_singleton.mp hd]
    intro hcompleted hfailed
    have hsame := hcompleted.symm.trans hfailed
    cases hsame

/-- A dispatch that raises fails a job that was committed as completed. -/
theorem not_failureAtomic_of_dispatch (h : Claims call db row jobs)
    (hfresh : ∀ r ∈ db.jobs.rows, r.id ≠ call.completeFollowUpId)
    (hraises : call.raises = some .dispatch) : ¬ FailureAtomic call db := by
  intro hatomic
  obtain ⟨result, jobs', finished, hcomplete, hmem, hid, hstatus, hclean, -⟩ :=
    h.finish call.completedAt (.inl rfl) hfresh
  -- the handler finds the completed row, which owes no follow-up any more
  obtain ⟨result', jobs'', failed, -, -, hfail, -, -, -, hmem', hid', hstatus', -⟩ :=
    finishAndReschedule_spec (row.start call.claimedAt) call.failFollowUpId
      call.failedAt (.inr rfl) hmem hid (by simp [hclean]) (by simp [hclean])
  have hpairs := hatomic.completedStays row.id
  rw [commits_of_dispatch hraises h.claim hcomplete hfail] at hpairs
  have hcompleted : statusOf jobs' row.id = some .completed := by
    rw [← hid, statusOf_eq_of_mem hmem, hstatus]
  have hfailed : statusOf jobs'' row.id = some .failed := by
    rw [← hid, ← hid', statusOf_eq_of_mem hmem', hstatus']
  have hlater := (List.pairwise_append.mp (List.pairwise_cons.mp hpairs).2).2.2
  exact hlater _ List.mem_cons_self _ (List.mem_singleton_self _) hcompleted hfailed

/-- A commit that raises leaves the database as it was. -/
theorem failureAtomic_of_commit (h : Claims call db row jobs)
    (hfresh : ∀ r ∈ db.jobs.rows, r.id ≠ call.completeFollowUpId)
    (hraises : call.raises = some .commit) : FailureAtomic call db := by
  obtain ⟨result, jobs', -, hcomplete, -⟩ := h.finish call.completedAt (.inl rfl) hfresh
  refine ⟨fun jobId => ?_, by simp [hraises]⟩
  rw [commits_of_commit hraises h.claim hcomplete]
  exact List.pairwise_singleton _ _

/-- A run that raises on a session that stays usable is failure-atomic exactly when it wrote
nothing. -/
theorem failureAtomic_usable_iff (h : Claims call db row jobs)
    (hfresh : ∀ r ∈ db.jobs.rows, r.id ≠ call.failFollowUpId) {written : ℕ} {kind : RaiseKind}
    (hraises : call.raises = some (.run written kind)) (husable : call.staysUsable kind = true) :
    FailureAtomic call db ↔ (runWrites call.run).take written = [] := by
  obtain ⟨result, jobs', -, hfail, -, -, -, -, hkeeps⟩ :=
    h.finish call.failedAt (.inr rfl) hfresh
  obtain ⟨hcommits, hdurable⟩ := commits_of_usable hraises husable h.claim hfail
  constructor
  · intro hatomic
    obtain ⟨_, jobs'', -, hexactly⟩ := hatomic.nothingPartial written kind hraises _ _ h.claim
    rw [hdurable] at hexactly
    -- the claim and the failed job add no rows other than jobs
    have hlen := congrArg Database.written hexactly
    have hadded := written_foldl_add ((runWrites call.run).take written) { db with jobs }
    simp only [Database.written] at hlen hadded
    exact List.eq_nil_of_length_eq_zero (by omega)
  -- a run that wrote nothing leaves the claim and the failed job only
  · intro hnone
    rw [hnone] at hcommits hdurable
    refine ⟨fun jobId => ?_, fun _ _ _ job jobs'' hclaim => ?_⟩
    · rw [hcommits]
      refine List.Pairwise.cons ?_ (List.pairwise_singleton _ _)
      intro d hd
      rw [List.mem_singleton.mp hd]
      exact h.stays hkeeps jobId
    · rw [h.claim] at hclaim
      cases hclaim
      exact ⟨result, jobs', hfail, hdurable⟩

/-- A run that raises on a session that is not usable any more leaves the job pending. -/
theorem not_failureAtomic_of_unusable (h : Claims call db row jobs)
    (hfresh : ∀ r ∈ db.jobs.rows, r.id ≠ call.failFollowUpId) {written : ℕ} {kind : RaiseKind}
    (hraises : call.raises = some (.run written kind)) (husable : call.staysUsable kind = false) :
    ¬ FailureAtomic call db := by
  intro hatomic
  obtain ⟨_, jobs'', hfail', hexactly⟩ := hatomic.nothingPartial written kind hraises _ _ h.claim
  rw [(commits_of_unusable hraises husable h.claim).2] at hexactly
  obtain ⟨_, jobs', finished, hfail, hmem, hid, hstatus, -⟩ :=
    h.finish call.failedAt (.inr rfl) hfresh
  obtain rfl : jobs' = jobs'' := by
    have := hfail.symm.trans hfail'
    cases this
    rfl
  have hpending := statusOf_eq_of_mem h.row_mem
  have hsame : db.jobs = jobs' := congrArg Database.jobs hexactly
  rw [hsame, ← hid, statusOf_eq_of_mem hmem, hstatus, h.pending] at hpending
  cases hpending

end Claimed

/-- A call that finds no pending job commits nothing new. -/
theorem failureAtomic_of_nothing {call : WorkerCall} {db : Database}
    (hclaim : claimOldestPending call.tie call.claimedAt db.jobs = .ok (none, db.jobs)) :
    FailureAtomic call db := by
  -- the call returns before it writes
  have hbody : processNextBody call (.begin db) = .ok false (.begin db) := by
    rw [processNextBody, bind_ok (onJobs_ok rfl hclaim)]
    rfl
  have hcommits : (processNext call db).2.commits = [db] := by
    rw [processNext, hbody]
    rfl
  refine ⟨fun jobId => ?_, fun _ _ _ job jobs hclaim' => ?_⟩
  · rw [hcommits]
    refine List.Pairwise.cons ?_ (List.pairwise_singleton _ _)
    intro d hd
    rw [List.mem_singleton.mp hd]
    intro hcompleted hfailed
    have hsame := hcompleted.symm.trans hfailed
    cases hsame
  · rw [hclaim] at hclaim'
    cases hclaim'

/-- A call is failure-atomic exactly when it finds no pending job, or its dispatch does not raise
and its run, if it raises, does so before it writes a row and leaves the session usable. -/
theorem processNext_failureAtomic_iff (call : WorkerCall) (db : Database)
    (hcomplete : ∀ row ∈ db.jobs.rows, row.id ≠ call.completeFollowUpId)
    (hfail : ∀ row ∈ db.jobs.rows, row.id ≠ call.failFollowUpId) :
    FailureAtomic call db ↔
      (∀ row ∈ db.jobs.rows, row.status ≠ .pending) ∨
        call.raises ≠ some .dispatch ∧
          ∀ written kind, call.raises = some (.run written kind) →
            call.staysUsable kind = true ∧ (runWrites call.run).take written = [] := by
  rcases claimOldestPending_cases call.tie call.claimedAt db.jobs with
    ⟨hnone, hidle⟩ | ⟨row, jobs, hrow, hpending, hclaim, hrows⟩
  · exact iff_of_true (failureAtomic_of_nothing hnone) (.inl hidle)
  · have h : Claims call db row jobs := ⟨hrow, hpending, hclaim, hrows⟩
    have hbusy : ¬ ∀ row ∈ db.jobs.rows, row.status ≠ .pending :=
      fun hidle => hidle row hrow hpending
    rw [or_iff_right hbusy]
    cases hraises : call.raises with
    | none => exact iff_of_true (failureAtomic_of_none h hcomplete hraises) (by simp)
    | some point =>
        cases point with
        | dispatch =>
            exact iff_of_false (not_failureAtomic_of_dispatch h hcomplete hraises) (by simp)
        | commit => exact iff_of_true (failureAtomic_of_commit h hcomplete hraises) (by simp)
        -- whether a failed run can be told depends on the session
        | run written kind =>
            cases husable : call.staysUsable kind with
            | true =>
                rw [failureAtomic_usable_iff h hfail hraises husable]
                simp [husable]
            | false =>
                refine iff_of_false (not_failureAtomic_of_unusable h hfail hraises husable) ?_
                rintro ⟨-, hrun⟩
                exact absurd (husable.symm.trans (hrun written kind rfl).1) (by decide)

/-- A database with one pending job. -/
def pendingDatabase : Database where
  jobs := ⟨[newJob "job-1" "stack-1" 0], by decide, by decide⟩
  artifacts := []
  outbox := []

/-- A call of the worker over SQLite that raises at the given point. -/
def raisingCall (raises : Option RaisePoint) : WorkerCall where
  tie := 0
  claimedAt := 1
  completedAt := 2
  failedAt := 3
  completeFollowUpId := "job-2"
  failFollowUpId := "job-3"
  run :=
    { canRun := true, runId := "run-1", situationId := "situation-1", contextId := "context-1"
      planId := "plan-1", trendChanged := false, recommendationUpdated := false
      healthChanged := false, riskChanged := false, notificationCreated := false
      outboxId := fun eventType => "outbox-" ++ eventType }
  raises
  abortsOnFailedStatement := false
  dispatch := id

/-- A call whose first statement fails over SQLite is failure-atomic. -/
theorem processNext_failureAtomic_iff_pending :
    FailureAtomic (raisingCall (some (.run 0 .statement))) pendingDatabase := by
  refine (processNext_failureAtomic_iff (raisingCall (some (.run 0 .statement))) pendingDatabase
    (by decide) (by decide)).mpr (.inr ⟨by decide, ?_⟩)
  rintro written kind ⟨⟩
  exact ⟨rfl, rfl⟩

/-- A dispatch that raises turns a completed job into a failed one, and a run that raises after its
first row has that row committed. -/
theorem processNext_not_failureAtomic :
    (processNext (raisingCall (some .dispatch)) pendingDatabase).2.commits.map
        (fun db => db.jobStatus "job-1") = [some .completed, some .completed, some .failed] ∧
      ¬ FailureAtomic (raisingCall (some .dispatch)) pendingDatabase ∧
      ((processNext (raisingCall (some (.run 1 .ownCode))) pendingDatabase).2.durable.artifacts =
        [⟨.reasoningRun, "run-1"⟩]) ∧
      ¬ FailureAtomic (raisingCall (some (.run 1 .ownCode))) pendingDatabase := by
  have hstatuses : (processNext (raisingCall (some .dispatch)) pendingDatabase).2.commits.map
      (fun db => db.jobStatus "job-1") = [some .completed, some .completed, some .failed] := by
    decide +kernel
  have hpartial : (processNext (raisingCall (some (.run 1 .ownCode)))
      pendingDatabase).2.durable.artifacts = [⟨.reasoningRun, "run-1"⟩] := by
    decide +kernel
  refine ⟨hstatuses, fun h => ?_, hpartial, fun h => ?_⟩
  · have hpairs := h.completedStays "job-1"
    rw [← List.pairwise_map (f := fun db : Database => db.jobStatus "job-1")
      (R := fun status status' => status = some .completed → status' ≠ some .failed),
      List.map_cons, hstatuses] at hpairs
    exact absurd hpairs (by decide)
  · obtain ⟨_, _, -, hexactly⟩ := h.nothingPartial 1 .ownCode rfl _ _ rfl
    rw [hexactly] at hpartial
    cases hpartial

end Odis.ReasoningJobs
