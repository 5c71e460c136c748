import Odis.Library.KeyedTable
import Odis.Python.Datetime

/-!
# The reasoning job table

The rows of `reasoning_jobs` and the statements of
`infrastructure/repositories/reasoning_job_repository.py` on them. At most one row of an asset is
outstanding, by the partial unique index of the model (`jobSchema`); a row that is enqueued while
another is outstanding is absorbed by it, and an outstanding row that absorbed one is followed by
a new row when it finishes.

The identifiers drawn from `uuid4` and the times read from the clock are arguments.
-/

namespace Odis.ReasoningJobs

open KeyedTable

/-- `ReasoningJobStatus`. -/
inductive ReasoningJobStatus where
  | pending
  | running
  | completed
  | failed
  deriving DecidableEq, Repr

/-- The text a status is stored as. -/
def ReasoningJobStatus.value : ReasoningJobStatus → String
  | pending => "PENDING"
  | running => "RUNNING"
  | completed => "COMPLETED"
  | failed => "FAILED"

/-- A row of `reasoning_jobs`. -/
structure ReasoningJob where
  id : String
  assetId : String
  status : ReasoningJobStatus
  createdAt : Instant
  startedAt : Option Instant
  completedAt : Option Instant
  attempts : ℕ
  /-- A request arrived while the job was outstanding. -/
  dirty : Bool
  /-- The number of requests it absorbed. -/
  coalescedCount : ℕ
  deriving DecidableEq, Repr

/-- `_OUTSTANDING_WHERE`: `status IN ('PENDING', 'RUNNING')`. -/
def ReasoningJob.isOutstanding (job : ReasoningJob) : Bool :=
  job.status = .pending || job.status = .running

/-- The primary key and the index `ux_reasoning_jobs_outstanding`. -/
def jobSchema : Schema ReasoningJob String String where
  key := ReasoningJob.id
  covered := ReasoningJob.isOutstanding
  indexKey := ReasoningJob.assetId

/-- The rows of `reasoning_jobs`. -/
abbrev JobTable : Type := Table jobSchema

/-- What a statement of the repository raises: `IntegrityError`, or `NoResultFound` or
`MultipleResultsFound` where exactly one row is asked for. -/
inductive DatabaseError where
  | integrity (conflict : Conflict)
  | noResultFound
  | multipleResultsFound
  deriving DecidableEq, Repr

/-- The row inserted for a request. -/
def newJob (id assetId : String) (now : Instant) : ReasoningJob where
  id
  assetId
  status := .pending
  createdAt := now
  startedAt := none
  completedAt := none
  attempts := 0
  dirty := false
  coalescedCount := 0

/-- A row after it absorbed a request. -/
def ReasoningJob.absorb (job : ReasoningJob) : ReasoningJob :=
  { job with dirty := true, coalescedCount := job.coalescedCount + 1 }

/-- A row after it was claimed. -/
def ReasoningJob.start (now : Instant) (job : ReasoningJob) : ReasoningJob :=
  { job with status := .running, startedAt := some now, attempts := job.attempts + 1 }

/-- A row after it was moved to a terminal status. -/
def ReasoningJob.finish (terminalStatus : ReasoningJobStatus) (now : Instant)
    (job : ReasoningJob) : ReasoningJob :=
  { job with status := terminalStatus, completedAt := some now }

/-- A row after `dirty` was cleared. -/
def ReasoningJob.clean (job : ReasoningJob) : ReasoningJob := { job with dirty := false }

/-- The rows `claim_oldest_pending` may select: pending, with the least `created_at`. -/
def oldestPending (table : JobTable) : List ReasoningJob :=
  let pending := table.rows.filter fun job => job.status = .pending
  pending.filter fun job => pending.all fun other => job.createdAt ≤ other.createdAt

/-- The single row of `.one()`. -/
def one : List ReasoningJob → Except DatabaseError ReasoningJob
  | [] => .error .noResultFound
  | [job] => .ok job
  | _ :: _ :: _ => .error .multipleResultsFound

/-- `UPDATE reasoning_jobs SET f WHERE id = jobId RETURNING *`, asked for one row. -/
def updateById (table : JobTable) (jobId : String) (f : ReasoningJob → ReasoningJob) :
    Except DatabaseError (ReasoningJob × JobTable) := do
  let table' ← (updateWhere table (fun job => job.id = jobId) f).mapError .integrity
  let job ← one ((table.rows.filter fun job => job.id = jobId).map f)
  return (job, table')

/-- `claim_oldest_pending`. The store decides by `tie` between rows created at the same time. -/
def claimOldestPending (tie : ℕ) (now : Instant) (table : JobTable) :
    Except DatabaseError (Option ReasoningJob × JobTable) :=
  match (oldestPending table)[tie % (oldestPending table).length]? with
  | none => .ok (none, table)
  | some job => do
      let (claimed, table) ← updateById table job.id (.start now)
      return (some claimed, table)

/-- `enqueue_or_mark_dirty`: the outstanding row of the asset, and whether it is a new one. -/
def enqueueOrMarkDirty (candidateId : String) (now : Instant) (assetId : String)
    (table : JobTable) : Except DatabaseError ((ReasoningJob × Bool) × JobTable) := do
  let (job, table) ←
    (upsert table (newJob candidateId assetId now) ReasoningJob.absorb).mapError .integrity
  return ((job, job.id = candidateId), table)

/-- `_finish_and_reschedule`: the row leaves the index before its follow-up is inserted. -/
def finishAndReschedule (followUpId : String) (now : Instant) (job : ReasoningJob)
    (terminalStatus : ReasoningJobStatus) (table : JobTable) :
    Except DatabaseError ((ReasoningJob × Option ReasoningJob) × JobTable) := do
  let (finished, table) ← updateById table job.id (.finish terminalStatus now)
  if !finished.dirty then return ((finished, none), table)
  let table ←
    (updateWhere table (fun row => row.id = job.id) ReasoningJob.clean).mapError .integrity
  let finished := finished.clean
  let rescheduled := newJob followUpId finished.assetId now
  let table ← (insert table rescheduled).mapError .integrity
  return ((finished, some rescheduled), table)

/-- `complete_and_reschedule`. -/
def completeAndReschedule (followUpId : String) (now : Instant) (job : ReasoningJob)
    (table : JobTable) : Except DatabaseError ((ReasoningJob × Option ReasoningJob) × JobTable) :=
  finishAndReschedule followUpId now job .completed table

/-- `fail_and_reschedule`. -/
def failAndReschedule (followUpId : String) (now : Instant) (job : ReasoningJob)
    (table : JobTable) : Except DatabaseError ((ReasoningJob × Option ReasoningJob) × JobTable) :=
  finishAndReschedule followUpId now job .failed table

/-! ## What the statements leave -/

section

variable {table : JobTable}

/-- A new job is outstanding. -/
@[simp]
theorem isOutstanding_newJob (id assetId : String) (now : Instant) :
    (newJob id assetId now).isOutstanding = true := rfl

/-- The rows of a table in which the row `jobId` is changed by `f`. -/
def rowsWith (table : JobTable) (jobId : String) (f : ReasoningJob → ReasoningJob) :
    List ReasoningJob :=
  table.rows.map fun job => if job.id = jobId then f job else job

/-- A statement that keeps the key and the asset of a row, and does not make a finished row
outstanding, succeeds. -/
theorem updateById_of_mem {job : ReasoningJob} {f : ReasoningJob → ReasoningJob}
    (hjob : job ∈ table.rows) (hid : ∀ r, (f r).id = r.id) (hasset : ∀ r, (f r).assetId = r.assetId)
    (hout : (f job).isOutstanding → job.isOutstanding) :
    ∃ table', updateById table job.id f = .ok (f job, table') ∧
      table'.rows = rowsWith table job.id f := by
  obtain ⟨table', hupdate, hrows⟩ := updateWhere_of_stable table
    (p := fun r => decide (r.id = job.id)) (f := f) hid
    (fun r hr hp => by
      obtain rfl : r = job := table.eq_of_key hr hjob (of_decide_eq_true hp)
      exact hout)
    hasset
  refine ⟨table', ?_, by simpa [rowsWith] using hrows⟩
  have hone : table.rows.filter (fun r => decide (r.id = job.id)) = [job] :=
    table.filter_key hjob
  simp only [updateById, hupdate, hone]
  rfl

/-- A request for an asset without an outstanding row inserts one. -/
theorem enqueueOrMarkDirty_of_idle {candidateId assetId : String} (now : Instant)
    (hfresh : ∀ job ∈ table.rows, job.id ≠ candidateId)
    (hidle : ∀ job ∈ table.rows, job.isOutstanding → job.assetId ≠ assetId) :
    ∃ table', enqueueOrMarkDirty candidateId now assetId table =
        .ok ((newJob candidateId assetId now, true), table') ∧
      table'.rows = table.rows ++ [newJob candidateId assetId now] := by
  obtain ⟨table', hupsert, hrows⟩ := upsert_of_fresh table
    (newJob candidateId assetId now) (f := ReasoningJob.absorb) hfresh
    (conflicting_eq_none_iff.mpr fun _ => hidle)
  refine ⟨table', ?_, hrows⟩
  simp only [enqueueOrMarkDirty, hupsert]
  simp [Except.mapError, bind, Except.bind, pure, Except.pure, newJob]

/-- A request for an asset with an outstanding row is absorbed by that row. -/
theorem enqueueOrMarkDirty_of_outstanding {candidateId assetId : String} (now : Instant)
    (hfresh : ∀ job ∈ table.rows, job.id ≠ candidateId) {job : ReasoningJob}
    (hjob : job ∈ table.rows) (hout : job.isOutstanding) (hasset : job.assetId = assetId) :
    ∃ table', enqueueOrMarkDirty candidateId now assetId table =
        .ok ((job.absorb, false), table') ∧
      table'.rows = rowsWith table job.id ReasoningJob.absorb := by
  have hsome : conflicting table (newJob candidateId assetId now) = some job := by
    cases hconf : conflicting table (newJob candidateId assetId now) with
    | none => exact absurd hasset (conflicting_eq_none_iff.mp hconf rfl job hjob hout)
    | some old =>
        obtain ⟨hold, hcov, hindex⟩ := of_conflicting_eq_some hconf
        rw [table.eq_of_covered hold hjob hcov hout (hindex.trans hasset.symm)]
  obtain ⟨table', hupsert, hrows⟩ := upsert_of_conflict (f := ReasoningJob.absorb)
    (fun _ => rfl) (fun _ => rfl) (fun _ => rfl) hsome
  refine ⟨table', ?_, hrows⟩
  have hne : ¬ job.absorb.id = candidateId := hfresh job hjob
  simp only [enqueueOrMarkDirty, hupsert]
  simp [Except.mapError, bind, Except.bind, pure, Except.pure, hne]

/-- What is claimed is a pending job of the table. -/
theorem mem_oldestPending {job : ReasoningJob} (hjob : job ∈ oldestPending table) :
    job ∈ table.rows ∧ job.status = .pending := by
  simp only [oldestPending, List.mem_filter, decide_eq_true_eq] at hjob
  exact hjob.1

/-- Among finitely many rows one was created first. -/
theorem exists_oldest {rows : List ReasoningJob} (h : rows ≠ []) :
    ∃ job ∈ rows, ∀ other ∈ rows, job.createdAt ≤ other.createdAt := by
  induction rows with
  | nil => exact absurd rfl h
  | cons first rest ih =>
      by_cases hrest : rest = []
      · exact ⟨first, by simp, by simp [hrest]⟩
      · obtain ⟨job, hjob, hleast⟩ := ih hrest
        by_cases hle : first.createdAt ≤ job.createdAt
        · refine ⟨first, by simp, fun other hother => ?_⟩
          rcases List.mem_cons.mp hother with rfl | hother
          · exact Int.le_refl _
          · exact Int.le_trans hle (hleast other hother)
        · refine ⟨job, List.mem_cons_of_mem _ hjob, fun other hother => ?_⟩
          rcases List.mem_cons.mp hother with rfl | hother
          · exact Int.le_of_lt (Int.not_le.mp hle)
          · exact hleast other hother

/-- There is a row to claim as soon as one is pending. -/
theorem oldestPending_eq_nil_iff :
    oldestPending table = [] ↔ ∀ job ∈ table.rows, job.status ≠ .pending := by
  constructor
  · intro hnil job hjob hpending
    have hmem : job ∈ table.rows.filter fun job => job.status = .pending :=
      List.mem_filter.mpr ⟨hjob, by simpa using hpending⟩
    obtain ⟨oldest, holdest, hleast⟩ := exists_oldest (List.ne_nil_of_mem hmem)
    have : oldest ∈ oldestPending table :=
      List.mem_filter.mpr ⟨holdest, List.all_eq_true.mpr fun other hother =>
        decide_eq_true (hleast other hother)⟩
    rw [hnil] at this
    cases this
  · intro hnone
    refine List.eq_nil_iff_forall_not_mem.mpr fun job hjob => ?_
    exact hnone job (mem_oldestPending hjob).1 (mem_oldestPending hjob).2

/-- A claim selects no row, and there is no pending one, or it starts a pending row. -/
theorem claimOldestPending_cases (tie : ℕ) (now : Instant) (table : JobTable) :
    (claimOldestPending tie now table = .ok (none, table) ∧
      ∀ job ∈ table.rows, job.status ≠ .pending) ∨
      ∃ job table', job ∈ table.rows ∧ job.status = .pending ∧
        claimOldestPending tie now table = .ok (some (job.start now), table') ∧
        table'.rows = rowsWith table job.id (.start now) := by
  unfold claimOldestPending
  split
  · next hselect =>
      refine .inl ⟨rfl, oldestPending_eq_nil_iff.mp ?_⟩
      by_contra hne
      have hlt := Nat.mod_lt tie (List.length_pos_iff.mpr hne)
      rw [List.getElem?_eq_none_iff] at hselect
      omega
  · next job hselect =>
      obtain ⟨hjob, hpending⟩ := mem_oldestPending (List.mem_of_getElem? hselect)
      obtain ⟨table', hupdate, hrows⟩ := updateById_of_mem (f := .start now) hjob
        (fun _ => rfl) (fun _ => rfl) (fun _ => by simp [ReasoningJob.isOutstanding, hpending])
      exact .inr ⟨job, table', hjob, hpending, by rw [hupdate]; rfl, hrows⟩

/-- The rows of an update, with the one that is changed. -/
theorem mem_rowsWith {jobId : String} {f : ReasoningJob → ReasoningJob} {r : ReasoningJob} :
    r ∈ rowsWith table jobId f ↔
      ∃ job ∈ table.rows, (if job.id = jobId then f job else job) = r :=
  List.mem_map

/-- Changing one row of a table leaves the rows with another key. -/
theorem mem_rowsWith_iff {row : ReasoningJob} (hrow : row ∈ table.rows)
    {f : ReasoningJob → ReasoningJob} {r : ReasoningJob} :
    r ∈ rowsWith table row.id f ↔ r = f row ∨ (r ∈ table.rows ∧ r.id ≠ row.id) := by
  rw [mem_rowsWith]
  constructor
  · rintro ⟨job, hjob, rfl⟩
    split_ifs with hid
    · rw [table.eq_of_key hjob hrow hid]
      exact .inl rfl
    · exact .inr ⟨hjob, hid⟩
  · rintro (rfl | ⟨hr, hid⟩)
    · exact ⟨row, hrow, if_pos rfl⟩
    · exact ⟨r, hr, if_neg hid⟩

/-- A finished job is not outstanding. -/
theorem not_isOutstanding_finish {status : ReasoningJobStatus} (now : Instant)
    (hterminal : status = .completed ∨ status = .failed) (job : ReasoningJob) :
    (job.finish status now).isOutstanding = false := by
  rcases hterminal with rfl | rfl <;> rfl

/-- Cleaning a job does not change whether it is outstanding. -/
@[simp]
theorem isOutstanding_clean (job : ReasoningJob) :
    job.clean.isOutstanding = job.isOutstanding := rfl

/-- A row that is not dirty finishes without a follow-up. -/
theorem finishAndReschedule_of_clean {job row : ReasoningJob} {status : ReasoningJobStatus}
    (followUpId : String) (now : Instant) (hterminal : status = .completed ∨ status = .failed)
    (hrow : row ∈ table.rows) (hid : row.id = job.id) (hclean : row.dirty = false) :
    ∃ table', finishAndReschedule followUpId now job status table =
        .ok ((row.finish status now, none), table') ∧
      table'.rows = rowsWith table row.id (.finish status now) := by
  obtain ⟨table', hupdate, hrows⟩ := updateById_of_mem (f := .finish status now) hrow
    (fun _ => rfl) (fun _ => rfl)
    (fun h => by simp [not_isOutstanding_finish now hterminal] at h)
  refine ⟨table', ?_, hrows⟩
  have hdirty : (row.finish status now).dirty = false := hclean
  rw [finishAndReschedule, ← hid, hupdate]
  simp [bind, Except.bind, hdirty, pure, Except.pure]

/-- A dirty row finishes clean, and is followed by one new row of its asset. It has left the
index by then, so the new row does not conflict with it. -/
theorem finishAndReschedule_of_dirty {job row : ReasoningJob} {status : ReasoningJobStatus}
    {followUpId : String} (now : Instant) (hterminal : status = .completed ∨ status = .failed)
    (hrow : row ∈ table.rows) (hid : row.id = job.id) (hdirty : row.dirty = true)
    (hout : row.isOutstanding) (hfresh : ∀ r ∈ table.rows, r.id ≠ followUpId) :
    ∃ table', finishAndReschedule followUpId now job status table =
        .ok (((row.finish status now).clean, some (newJob followUpId row.assetId now)), table') ∧
      table'.rows =
        rowsWith table row.id (fun r => (r.finish status now).clean) ++
          [newJob followUpId row.assetId now] := by
  obtain ⟨table₁, hfinish, hrows₁⟩ := updateById_of_mem (f := .finish status now) hrow
    (fun _ => rfl) (fun _ => rfl)
    (fun h => by simp [not_isOutstanding_finish now hterminal] at h)
  obtain ⟨table₂, hclean, hrows₂⟩ := updateWhere_of_stable table₁
    (p := fun r => decide (r.id = row.id)) (f := ReasoningJob.clean) (fun _ => rfl)
    (fun _ _ _ h => h) (fun _ => rfl)
  have hrows : table₂.rows = rowsWith table row.id (fun r => (r.finish status now).clean) := by
    rw [hrows₂, hrows₁, rowsWith, rowsWith, List.map_map]
    refine List.map_congr_left fun r _ => ?_
    by_cases hr : r.id = row.id <;> simp [hr, ReasoningJob.finish]
  -- the ids are the same as before, and the outstanding rows are the other ones
  have hmem : ∀ r ∈ table₂.rows, (∃ r₀ ∈ table.rows, r₀.id = r.id) ∧
      (r.isOutstanding → r ∈ table.rows ∧ r.id ≠ row.id) := by
    intro r hr
    rw [hrows, mem_rowsWith] at hr
    obtain ⟨r₀, hr₀, rfl⟩ := hr
    split_ifs with heq
    · refine ⟨⟨r₀, hr₀, rfl⟩, fun h => ?_⟩
      rw [isOutstanding_clean, not_isOutstanding_finish now hterminal] at h
      cases h
    · exact ⟨⟨r₀, hr₀, rfl⟩, fun _ => ⟨hr₀, heq⟩⟩
  obtain ⟨table₃, hinsert, hrows₃⟩ := insert_of_fresh table₂
    (newJob followUpId row.assetId now)
    (fun r hr heq => by
      obtain ⟨⟨r₀, hr₀, hid₀⟩, -⟩ := hmem r hr
      exact hfresh r₀ hr₀ (hid₀.trans heq))
    (fun _ r hr hcov hasset => by
      obtain ⟨hr₀, hne⟩ := (hmem r hr).2 hcov
      exact hne (congrArg ReasoningJob.id (table.eq_of_covered hr₀ hrow hcov hout hasset)))
  refine ⟨table₃, ?_, by rw [hrows₃, hrows]⟩
  have hdirty' : (row.finish status now).dirty = true := hdirty
  have hasset : (row.finish status now).clean.assetId = row.assetId := rfl
  rw [finishAndReschedule, ← hid, hfinish]
  simp [bind, Except.bind, hdirty', hclean, Except.mapError, hasset, hinsert, pure, Except.pure]

/-- A row that owes no follow-up, or is outstanding, can be finished. It is left clean, in the
terminal status, and the other rows are kept. -/
theorem finishAndReschedule_spec (job : ReasoningJob) (followUpId : String) (now : Instant)
    {row : ReasoningJob} {status : ReasoningJobStatus}
    (hterminal : status = .completed ∨ status = .failed) (hrow : row ∈ table.rows)
    (hid : row.id = job.id)
    (hout : row.dirty = true → row.isOutstanding)
    (hfresh : row.dirty = true → ∀ r ∈ table.rows, r.id ≠ followUpId) :
    ∃ result table' finished f more,
      finishAndReschedule followUpId now job status table = .ok (result, table') ∧
      table'.rows = rowsWith table row.id f ++ more ∧
      (f row).id = row.id ∧ (∀ r ∈ more, r.status = .pending) ∧
      finished ∈ table'.rows ∧ finished.id = row.id ∧ finished.status = status ∧
      finished.dirty = false := by
  cases hdirty : row.dirty with
  | false =>
      obtain ⟨table', hfinish, hrows⟩ :=
        finishAndReschedule_of_clean followUpId now hterminal hrow hid hdirty
      refine ⟨_, table', row.finish status now, _, [], hfinish, by rw [hrows, List.append_nil],
        rfl, by simp, ?_, rfl, rfl, hdirty⟩
      rw [hrows, mem_rowsWith_iff hrow]
      exact .inl rfl
  -- the dirty mark is taken over by the follow-up
  | true =>
      obtain ⟨table', hfinish, hrows⟩ := finishAndReschedule_of_dirty now hterminal hrow hid
        hdirty (hout hdirty) (hfresh hdirty)
      refine ⟨_, table', (row.finish status now).clean, _, _, hfinish, hrows, rfl, ?_, ?_, rfl,
        rfl, rfl⟩
      · intro r hr
        rw [List.mem_singleton.mp hr]
        rfl
      · rw [hrows, List.mem_append, mem_rowsWith_iff hrow]
        exact .inl (.inl rfl)

/-! ## The status of a job -/

/-- The status of the job `jobId`. -/
def statusOf (table : JobTable) (jobId : String) : Option ReasoningJobStatus :=
  (table.rows.find? fun job => job.id = jobId).map ReasoningJob.status

/-- The status of a job is that of its row. -/
theorem statusOf_eq_of_mem {job : ReasoningJob} (hjob : job ∈ table.rows) :
    statusOf table job.id = some job.status := by
  unfold statusOf
  cases hfind : table.rows.find? fun r => r.id = job.id with
  | none => simpa using List.find?_eq_none.mp hfind job hjob
  | some found =>
      have hid : found.id = job.id := by simpa using List.find?_some hfind
      rw [table.eq_of_key (List.mem_of_find?_eq_some hfind) hjob hid]
      rfl

/-- A job without a row has no status. -/
theorem statusOf_eq_none_iff {jobId : String} :
    statusOf table jobId = none ↔ ∀ job ∈ table.rows, job.id ≠ jobId := by
  simp [statusOf]

/-- The second table has the jobs of the first, all but one in the status they had, and the jobs
it has besides are pending. -/
def KeepsOthers (jobId : String) (before after : JobTable) : Prop :=
  ∀ otherId ≠ jobId, statusOf after otherId = statusOf before otherId ∨
    statusOf before otherId = none ∧ statusOf after otherId = some .pending

/-- Two calls that leave the other jobs leave them. -/
theorem KeepsOthers.trans {jobId : String} {before middle after : JobTable}
    (h : KeepsOthers jobId before middle) (h' : KeepsOthers jobId middle after) :
    KeepsOthers jobId before after := by
  intro otherId hne
  rcases h otherId hne with hsame | ⟨hnone, hpending⟩ <;>
    rcases h' otherId hne with hsame' | ⟨hnone', hpending'⟩
  · exact .inl (hsame'.trans hsame)
  · exact .inr ⟨hsame ▸ hnone', hpending'⟩
  · exact .inr ⟨hnone, hsame'.trans hpending⟩
  · rw [hnone'] at hpending
    cases hpending

/-- A job that another job's statements leave is failed after them only if it was before. -/
theorem KeepsOthers.failed {jobId : String} {before after : JobTable}
    (h : KeepsOthers jobId before after) {otherId : String} (hne : otherId ≠ jobId)
    (hfailed : statusOf after otherId = some .failed) :
    statusOf before otherId = some .failed := by
  rcases h otherId hne with hsame | ⟨-, hpending⟩
  · exact hsame ▸ hfailed
  · rw [hfailed] at hpending
    cases hpending

/-- Changing one row and inserting pending ones keeps the other jobs. -/
theorem keepsOthers_of_rows (more : List ReasoningJob) {table' : JobTable} {row : ReasoningJob}
    {f : ReasoningJob → ReasoningJob} (hrow : row ∈ table.rows)
    (hid : (f row).id = row.id) (hmore : ∀ job ∈ more, job.status = .pending)
    (hrows : table'.rows = rowsWith table row.id f ++ more) : KeepsOthers row.id table table' := by
  intro otherId hne
  -- another job is in its row as before
  by_cases hother : ∃ job ∈ table.rows, job.id = otherId
  · obtain ⟨job, hjob, rfl⟩ := hother
    have hjob' : job ∈ table'.rows := by
      rw [hrows, List.mem_append, mem_rowsWith_iff hrow]
      exact .inl (.inr ⟨hjob, hne⟩)
    exact .inl (by rw [statusOf_eq_of_mem hjob, statusOf_eq_of_mem hjob'])
  · push Not at hother
    have hnone : statusOf table otherId = none := statusOf_eq_none_iff.mpr hother
    -- or it is one of the inserted ones, or there is none
    by_cases hnew : ∃ job ∈ more, job.id = otherId
    · obtain ⟨job, hjob, rfl⟩ := hnew
      have hjob' : job ∈ table'.rows := hrows ▸ List.mem_append_right _ hjob
      exact .inr ⟨hnone, by rw [statusOf_eq_of_mem hjob', hmore job hjob]⟩
    · push Not at hnew
      refine .inl (hnone ▸ statusOf_eq_none_iff.mpr fun job hjob => ?_)
      rw [hrows, List.mem_append, mem_rowsWith_iff hrow] at hjob
      rcases hjob with (rfl | ⟨hjob, -⟩) | hjob
      · exact fun h => hne (h.symm.trans hid)
      · exact hother job hjob
      · exact hnew job hjob

end

end Odis.ReasoningJobs
