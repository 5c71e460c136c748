import Mathlib.Logic.Embedding.Basic
import Odis.Library.Transducer
import Odis.ReasoningJobs.Repository
import Odis.ReasoningJobs.Slot

/-!
# The reasoning job queue

`DatabaseReasoningJobQueue` over the job table, under any interleaving of `enqueue`, `claim`,
`complete` and `fail` calls. Each call is atomic; a worker completes or fails a job it claimed,
once. `step_effect` says what a call does to the table, and two things follow from it: the
invariant of the table and the claimed jobs (`QueueInvariant`), and that the outstanding row of
each asset goes through the slots of the abstract queue (`slotOf_after`).
-/

namespace Odis.ReasoningJobs

/-- The job table, the jobs that workers hold, and how many identifiers were drawn. -/
structure QueueState where
  table : JobTable
  /-- Jobs claimed and not finished, as `claim` returned them. -/
  held : List ReasoningJob
  issued : ℕ

/-- No rows, and no worker holds a job. -/
def QueueState.initial : QueueState := ⟨KeyedTable.Table.empty, [], 0⟩

/-- A call of the queue, with the times and the choices of the store it meets. `complete` and
`fail` are called by the worker that holds the job at a position. -/
inductive QueueCall where
  | enqueue (assetId : String) (now : Instant)
  | claim (tie : ℕ) (now : Instant)
  | complete (position : ℕ) (now : Instant)
  | fail (position : ℕ) (now : Instant)
  deriving DecidableEq, Repr

/-- What a call returns or raises. -/
inductive QueueEvent where
  | enqueued (job : ReasoningJob) (created : Bool)
  | claimed (job : ReasoningJob)
  | nothingToClaim
  | finished (job : ReasoningJob) (rescheduled : Option ReasoningJob)
  | nothingHeld
  | raised (error : DatabaseError)
  deriving DecidableEq, Repr

/-- A worker finishes the job it holds. -/
def finishHeld (uuid4 : ℕ → String) (s : QueueState) (position : ℕ) (now : Instant)
    (terminalStatus : ReasoningJobStatus) : QueueState × QueueEvent :=
  match s.held[position]? with
  | none => (s, .nothingHeld)
  | some job =>
      match finishAndReschedule (uuid4 s.issued) now job terminalStatus s.table with
      | .error error => (s, .raised error)
      | .ok ((finished, rescheduled), table) =>
          (⟨table, s.held.eraseIdx position, s.issued + 1⟩, .finished finished rescheduled)

/-- One call of the queue. A call that raises is rolled back. -/
def step (uuid4 : ℕ → String) (s : QueueState) : QueueCall → QueueState × QueueEvent
  | .enqueue assetId now =>
      match enqueueOrMarkDirty (uuid4 s.issued) now assetId s.table with
      | .error error => (s, .raised error)
      | .ok ((job, created), table) =>
          ({ s with table, issued := s.issued + 1 }, .enqueued job created)
  | .claim tie now =>
      match claimOldestPending tie now s.table with
      | .error error => (s, .raised error)
      | .ok (none, table) => ({ s with table }, .nothingToClaim)
      | .ok (some job, table) => ({ s with table, held := s.held ++ [job] }, .claimed job)
  | .complete position now => finishHeld uuid4 s position now .completed
  | .fail position now => finishHeld uuid4 s position now .failed

/-- What holds of the table and the claimed jobs after every call. -/
structure QueueInvariant (uuid4 : ℕ → String) (s : QueueState) : Prop where
  /-- Every row has an identifier that was drawn. -/
  issued : ∀ row ∈ s.table.rows, ∃ k < s.issued, row.id = uuid4 k
  /-- A row that is not outstanding owes no follow-up. -/
  clean : ∀ row ∈ s.table.rows, row.isOutstanding = false → row.dirty = false
  /-- A job that is held is a running row. -/
  held : ∀ job ∈ s.held, ∃ row ∈ s.table.rows,
    row.id = job.id ∧ row.assetId = job.assetId ∧ row.status = .running
  /-- A running row is held. -/
  running : ∀ row ∈ s.table.rows, row.status = .running → ∃ job ∈ s.held, job.id = row.id
  /-- No two workers hold the same job. -/
  held_nodup : (s.held.map ReasoningJob.id).Nodup

/-- What a call can do to a table and the claimed jobs. -/
inductive Effect (uuid4 : ℕ → String) (s : QueueState) : QueueState → QueueEvent → Prop where
  | created (assetId : String) (now : Instant) (table : JobTable)
      (hidle : ∀ row ∈ s.table.rows, row.isOutstanding → row.assetId ≠ assetId)
      (hrows : table.rows = s.table.rows ++ [newJob (uuid4 s.issued) assetId now]) :
      Effect uuid4 s ⟨table, s.held, s.issued + 1⟩
        (.enqueued (newJob (uuid4 s.issued) assetId now) true)
  | absorbed (row : ReasoningJob) (table : JobTable) (hrow : row ∈ s.table.rows)
      (hout : row.isOutstanding)
      (hrows : table.rows = rowsWith s.table row.id ReasoningJob.absorb) :
      Effect uuid4 s ⟨table, s.held, s.issued + 1⟩ (.enqueued row.absorb false)
  | claimed (row : ReasoningJob) (now : Instant) (table : JobTable) (hrow : row ∈ s.table.rows)
      (hpending : row.status = .pending)
      (hrows : table.rows = rowsWith s.table row.id (.start now)) :
      Effect uuid4 s ⟨table, s.held ++ [row.start now], s.issued⟩ (.claimed (row.start now))
  | nothing (event : QueueEvent) (hevent : event = .nothingToClaim ∨ event = .nothingHeld) :
      Effect uuid4 s s event
  | finished (position : ℕ) (row : ReasoningJob) (status : ReasoningJobStatus) (now : Instant)
      (table : JobTable) (hheld : (s.held[position]?).map ReasoningJob.id = some row.id)
      (hrow : row ∈ s.table.rows) (hrunning : row.status = .running)
      (hterminal : status = .completed ∨ status = .failed) (hclean : row.dirty = false)
      (hrows : table.rows = rowsWith s.table row.id (.finish status now)) :
      Effect uuid4 s ⟨table, s.held.eraseIdx position, s.issued + 1⟩
        (.finished (row.finish status now) none)
  | rescheduled (position : ℕ) (row : ReasoningJob) (status : ReasoningJobStatus) (now : Instant)
      (table : JobTable) (hheld : (s.held[position]?).map ReasoningJob.id = some row.id)
      (hrow : row ∈ s.table.rows) (hrunning : row.status = .running)
      (hterminal : status = .completed ∨ status = .failed) (hdirty : row.dirty = true)
      (hrows : table.rows =
        rowsWith s.table row.id (fun r => (r.finish status now).clean) ++
          [newJob (uuid4 s.issued) row.assetId now]) :
      Effect uuid4 s ⟨table, s.held.eraseIdx position, s.issued + 1⟩
        (.finished (row.finish status now).clean
          (some (newJob (uuid4 s.issued) row.assetId now)))

section Steps

variable {uuid4 : ℕ ↪ String} {s : QueueState}

/-- The next identifier is not in the table. -/
theorem QueueInvariant.fresh (h : QueueInvariant uuid4 s) :
    ∀ row ∈ s.table.rows, row.id ≠ uuid4 s.issued := by
  intro row hrow heq
  obtain ⟨k, hk, hid⟩ := h.issued row hrow
  exact absurd (uuid4.injective (hid.symm.trans heq)) (Nat.ne_of_lt hk)

/-- A worker's call finishes the row of the job it holds. -/
theorem finishHeld_effect (h : QueueInvariant uuid4 s) (position : ℕ) (now : Instant)
    {status : ReasoningJobStatus} (hterminal : status = .completed ∨ status = .failed) :
    Effect uuid4 s (finishHeld uuid4 s position now status).1
      (finishHeld uuid4 s position now status).2 := by
  unfold finishHeld
  split
  · exact .nothing _ (.inr rfl)
  · next job hjob =>
      obtain ⟨row, hrow, hid, -, hrunning⟩ := h.held job (List.mem_of_getElem? hjob)
      have hheld : (s.held[position]?).map ReasoningJob.id = some row.id := by simp [hjob, hid]
      have hout : row.isOutstanding := by simp [ReasoningJob.isOutstanding, hrunning]
      -- a dirty row gets a follow-up, a clean one does not
      cases hdirty : row.dirty with
      | false =>
          obtain ⟨table, hfinish, hrows⟩ := finishAndReschedule_of_clean (uuid4 s.issued) now
            hterminal hrow hid hdirty
          rw [hfinish]
          exact .finished position row status now table hheld hrow hrunning hterminal hdirty hrows
      | true =>
          obtain ⟨table, hfinish, hrows⟩ := finishAndReschedule_of_dirty now hterminal hrow hid
            hdirty hout h.fresh
          rw [hfinish]
          exact .rescheduled position row status now table hheld hrow hrunning hterminal hdirty
            hrows

/-- Every call has one of the effects above. In particular none raises. -/
theorem step_effect (h : QueueInvariant uuid4 s) (call : QueueCall) :
    Effect uuid4 s (step uuid4 s call).1 (step uuid4 s call).2 := by
  cases call with
  | enqueue assetId now =>
      by_cases hidle : ∀ row ∈ s.table.rows, row.isOutstanding → row.assetId ≠ assetId
      · obtain ⟨table, henqueue, hrows⟩ := enqueueOrMarkDirty_of_idle now h.fresh hidle
        rw [step, henqueue]
        exact .created assetId now table hidle hrows
      · push Not at hidle
        obtain ⟨row, hrow, hout, hasset⟩ := hidle
        obtain ⟨table, henqueue, hrows⟩ := enqueueOrMarkDirty_of_outstanding now h.fresh hrow hout
          hasset
        rw [step, henqueue]
        exact .absorbed row table hrow hout hrows
  | claim tie now =>
      rcases claimOldestPending_cases tie now s.table with
        ⟨hnone, -⟩ | ⟨row, table, hrow, hpending, hclaim, hrows⟩
      · rw [step, hnone]
        exact .nothing _ (.inl rfl)
      · rw [step, hclaim]
        exact .claimed row now table hrow hpending hrows
  | complete position now => exact finishHeld_effect h position now (.inl rfl)
  | fail position now => exact finishHeld_effect h position now (.inr rfl)

/-- Finishing a job leaves the others that are held. -/
theorem mem_eraseIdx_held {held : List ReasoningJob} (hnodup : (held.map ReasoningJob.id).Nodup)
    {position : ℕ} {jobId : String}
    (hposition : (held[position]?).map ReasoningJob.id = some jobId) {job : ReasoningJob} :
    job ∈ held.eraseIdx position ↔ job ∈ held ∧ job.id ≠ jobId := by
  rw [← List.getElem?_map] at hposition
  have hlt : position < (held.map ReasoningJob.id).length :=
    (List.getElem?_eq_some_iff.mp hposition).1
  rw [List.mem_eraseIdx_iff_getElem?]
  constructor
  · rintro ⟨i, hne, hi⟩
    refine ⟨List.mem_of_getElem? hi, fun hid => hne ?_⟩
    refine ((List.getElem?_inj hlt hnodup).mp ?_).symm
    rw [hposition, List.getElem?_map, hi, ← hid]
    rfl
  · rintro ⟨hjob, hid⟩
    obtain ⟨i, hi⟩ := List.mem_iff_getElem?.mp hjob
    refine ⟨i, fun heq => hid ?_, hi⟩
    rw [← heq, List.getElem?_map, hi] at hposition
    exact Option.some.inj hposition

section Preserved

variable {row : ReasoningJob} {f : ReasoningJob → ReasoningJob}

/-- A row that is changed keeps its identifier, so identifiers stay drawn. -/
theorem QueueInvariant.issued_rowsWith (h : QueueInvariant uuid4 s) (hrow : row ∈ s.table.rows)
    (hid : (f row).id = row.id) :
    ∀ r ∈ rowsWith s.table row.id f, ∃ k < s.issued, r.id = uuid4 k := by
  intro r hr
  rcases (mem_rowsWith_iff hrow).mp hr with rfl | ⟨hmem, -⟩
  · rw [hid]
    exact h.issued row hrow
  · exact h.issued r hmem

/-- Changing a row keeps the rows of the jobs held by the workers of the other rows. -/
theorem QueueInvariant.held_rowsWith (h : QueueInvariant uuid4 s) (hrow : row ∈ s.table.rows)
    {job : ReasoningJob} (hjob : job ∈ s.held) (hne : job.id ≠ row.id) :
    ∃ r ∈ rowsWith s.table row.id f,
      r.id = job.id ∧ r.assetId = job.assetId ∧ r.status = .running := by
  obtain ⟨r, hr, hid, hasset, hrunning⟩ := h.held job hjob
  exact ⟨r, (mem_rowsWith_iff hrow).mpr (.inr ⟨hr, hid ▸ hne⟩), hid, hasset, hrunning⟩

/-- A row that is changed owes no follow-up once it is not outstanding, if the change sees to it. -/
theorem QueueInvariant.clean_rowsWith (h : QueueInvariant uuid4 s) (hrow : row ∈ s.table.rows)
    (hchanged : (f row).isOutstanding = false → (f row).dirty = false) :
    ∀ r ∈ rowsWith s.table row.id f, r.isOutstanding = false → r.dirty = false := by
  intro r hr hnot
  rcases (mem_rowsWith_iff hrow).mp hr with rfl | ⟨hmem, -⟩
  · exact hchanged hnot
  · exact h.clean r hmem hnot

section Released

variable {position : ℕ}

/-- Where a job is released, those that are still held keep their rows. -/
theorem QueueInvariant.held_released (h : QueueInvariant uuid4 s)
    (hheld : (s.held[position]?).map ReasoningJob.id = some row.id) (hrow : row ∈ s.table.rows) :
    ∀ job ∈ s.held.eraseIdx position, ∃ r ∈ rowsWith s.table row.id f,
      r.id = job.id ∧ r.assetId = job.assetId ∧ r.status = .running := by
  intro job hjob
  obtain ⟨hmem, hne⟩ := (mem_eraseIdx_held h.held_nodup hheld).mp hjob
  exact h.held_rowsWith hrow hmem hne

/-- Where a job is released and its row no longer runs, the running rows are still held. -/
theorem QueueInvariant.running_released (h : QueueInvariant uuid4 s)
    (hheld : (s.held[position]?).map ReasoningJob.id = some row.id) (hrow : row ∈ s.table.rows)
    (hchanged : (f row).isOutstanding = false) :
    ∀ r ∈ rowsWith s.table row.id f, r.status = .running →
      ∃ job ∈ s.held.eraseIdx position, job.id = r.id := by
  intro r hr hrun
  rcases (mem_rowsWith_iff hrow).mp hr with rfl | ⟨hmem, hne⟩
  · simp [ReasoningJob.isOutstanding, hrun] at hchanged
  · obtain ⟨job, hjob, hid⟩ := h.running r hmem hrun
    exact ⟨job, (mem_eraseIdx_held h.held_nodup hheld).mpr ⟨hjob, hid ▸ hne⟩, hid⟩

/-- The jobs that are still held are different ones. -/
theorem QueueInvariant.held_nodup_released (h : QueueInvariant uuid4 s) :
    ((s.held.eraseIdx position).map ReasoningJob.id).Nodup :=
  h.held_nodup.sublist ((List.eraseIdx_sublist _ _).map _)

end Released

end Preserved

/-- The invariant holds of the initial state. -/
theorem queueInvariant_initial : QueueInvariant uuid4 .initial where
  issued := by simp [QueueState.initial]
  clean := by simp [QueueState.initial]
  held := by simp [QueueState.initial]
  running := by simp [QueueState.initial]
  held_nodup := List.nodup_nil

/-! What each effect preserves: a new job, a request that an outstanding job takes up, a claim, and
the end of a job without and with a follow-up. -/

section Effects

variable {row : ReasoningJob} {table : JobTable} {now : Instant} {assetId : String}
  {status : ReasoningJobStatus} {position : ℕ}

/-- A new job keeps the invariant. -/
theorem QueueInvariant.created (h : QueueInvariant uuid4 s)
    (hrows : table.rows = s.table.rows ++ [newJob (uuid4 s.issued) assetId now]) :
    QueueInvariant uuid4 ⟨table, s.held, s.issued + 1⟩ := by
  constructor <;> simp only [hrows, List.mem_append, List.mem_singleton]
  case issued =>
    rintro r (hr | rfl)
    · obtain ⟨k, hk, hid⟩ := h.issued r hr
      exact ⟨k, by omega, hid⟩
    -- the new job has the first id that was not issued
    · exact ⟨s.issued, by omega, rfl⟩
  case clean =>
    rintro r (hr | rfl) hout
    · exact h.clean r hr hout
    · rfl
  case held =>
    intro job hjob
    obtain ⟨r, hr, hjob'⟩ := h.held job hjob
    exact ⟨r, .inl hr, hjob'⟩
  case running =>
    rintro r (hr | rfl) hrunning
    · exact h.running r hr hrunning
    · cases hrunning
  case held_nodup => exact h.held_nodup

/-- So does a request that is absorbed by an outstanding job. -/
theorem QueueInvariant.absorbed (h : QueueInvariant uuid4 s) (hrow : row ∈ s.table.rows)
    (hout : row.isOutstanding) (hrows : table.rows = rowsWith s.table row.id ReasoningJob.absorb) :
    QueueInvariant uuid4 ⟨table, s.held, s.issued + 1⟩ := by
  constructor <;> simp only [hrows]
  case issued =>
    intro r hr
    obtain ⟨k, hk, hid⟩ := h.issued_rowsWith hrow rfl r hr
    exact ⟨k, by omega, hid⟩
  case clean =>
    refine h.clean_rowsWith hrow fun hnot => ?_
    -- the row is as outstanding as before
    have hsame : row.absorb.isOutstanding = row.isOutstanding := rfl
    rw [hsame, hout] at hnot
    cases hnot
  case held =>
    intro job hjob
    by_cases hid : job.id = row.id
    · obtain ⟨r, hr, hid', hasset, hrunning⟩ := h.held job hjob
      obtain rfl : r = row := s.table.eq_of_key hr hrow (hid'.trans hid)
      exact ⟨r.absorb, (mem_rowsWith_iff hrow).mpr (.inl rfl), hid', hasset, hrunning⟩
    · exact h.held_rowsWith hrow hjob hid
  case running =>
    intro r hr hrunning
    rcases (mem_rowsWith_iff hrow).mp hr with rfl | ⟨hmem, -⟩
    · exact h.running row hrow hrunning
    · exact h.running r hmem hrunning
  case held_nodup => exact h.held_nodup

/-- So does a claim, which makes the job a held one. -/
theorem QueueInvariant.claimed (h : QueueInvariant uuid4 s) (hrow : row ∈ s.table.rows)
    (hpending : row.status = .pending)
    (hrows : table.rows = rowsWith s.table row.id (.start now)) :
    QueueInvariant uuid4 ⟨table, s.held ++ [row.start now], s.issued⟩ := by
  -- the held jobs are running, so the claimed row is not one of them
  have hnew : ∀ job ∈ s.held, job.id ≠ row.id := by
    intro job hjob hid
    obtain ⟨r, hr, hid', -, hrunning⟩ := h.held job hjob
    obtain rfl : r = row := s.table.eq_of_key hr hrow (hid'.trans hid)
    rw [hpending] at hrunning
    cases hrunning
  constructor <;> simp only [hrows, List.mem_append, List.mem_singleton]
  case issued => exact h.issued_rowsWith hrow rfl
  case clean =>
    refine h.clean_rowsWith hrow fun hnot => ?_
    cases hnot
  case held =>
    rintro job (hjob | rfl)
    · exact h.held_rowsWith hrow hjob (hnew job hjob)
    · exact ⟨row.start now, (mem_rowsWith_iff hrow).mpr (.inl rfl), rfl, rfl, rfl⟩
  case running =>
    intro r hr hrunning
    rcases (mem_rowsWith_iff hrow).mp hr with rfl | ⟨hmem, -⟩
    · exact ⟨row.start now, .inr rfl, rfl⟩
    · obtain ⟨job, hjob, hid⟩ := h.running r hmem hrunning
      exact ⟨job, .inl hjob, hid⟩
  case held_nodup =>
    rw [List.map_append, List.map_singleton]
    refine List.Nodup.append h.held_nodup (List.nodup_singleton _) ?_
    have hid : (row.start now).id = row.id := rfl
    simpa [List.disjoint_singleton, hid] using hnew

/-- So does a job that finishes clean, and is held no more. -/
theorem QueueInvariant.finished (h : QueueInvariant uuid4 s)
    (hheld : (s.held[position]?).map ReasoningJob.id = some row.id) (hrow : row ∈ s.table.rows)
    (hterminal : status = .completed ∨ status = .failed) (hclean : row.dirty = false)
    (hrows : table.rows = rowsWith s.table row.id (.finish status now)) :
    QueueInvariant uuid4 ⟨table, s.held.eraseIdx position, s.issued + 1⟩ := by
  constructor <;> simp only [hrows]
  case issued =>
    intro r hr
    obtain ⟨k, hk, hid⟩ := h.issued_rowsWith hrow rfl r hr
    exact ⟨k, by omega, hid⟩
  case clean => exact h.clean_rowsWith hrow fun _ => hclean
  case held => exact h.held_released hheld hrow
  case running =>
    exact h.running_released hheld hrow (not_isOutstanding_finish now hterminal row)
  case held_nodup => exact h.held_nodup_released

/-- So does one that is followed by a new job. -/
theorem QueueInvariant.rescheduled (h : QueueInvariant uuid4 s)
    (hheld : (s.held[position]?).map ReasoningJob.id = some row.id) (hrow : row ∈ s.table.rows)
    (hterminal : status = .completed ∨ status = .failed)
    (hrows : table.rows = rowsWith s.table row.id (fun r => (r.finish status now).clean) ++
      [newJob (uuid4 s.issued) row.assetId now]) :
    QueueInvariant uuid4 ⟨table, s.held.eraseIdx position, s.issued + 1⟩ := by
  constructor <;> simp only [hrows, List.mem_append, List.mem_singleton]
  case issued =>
    rintro r (hr | rfl)
    · obtain ⟨k, hk, hid⟩ := h.issued_rowsWith hrow rfl r hr
      exact ⟨k, by omega, hid⟩
    · exact ⟨s.issued, by omega, rfl⟩
  case clean =>
    rintro r (hr | rfl) hnot
    · exact h.clean_rowsWith hrow (fun _ => rfl) r hr hnot
    · rfl
  case held =>
    intro job hjob
    obtain ⟨r, hr, hjob'⟩ := h.held_released hheld hrow job hjob
    exact ⟨r, .inl hr, hjob'⟩
  case running =>
    rintro r (hr | rfl) hrun
    -- the finished row is not running, so no worker need hold it
    · refine h.running_released hheld hrow ?_ r hr hrun
      rw [isOutstanding_clean]
      exact not_isOutstanding_finish now hterminal row
    · cases hrun
  case held_nodup => exact h.held_nodup_released

end Effects

/-- The invariant is preserved by every call. -/
theorem QueueInvariant.of_effect (h : QueueInvariant uuid4 s) {s' : QueueState}
    {event : QueueEvent} (heffect : Effect uuid4 s s' event) : QueueInvariant uuid4 s' := by
  cases heffect with
  | created assetId now table hidle hrows => exact h.created hrows
  | absorbed row table hrow hout hrows => exact h.absorbed hrow hout hrows
  | claimed row now table hrow hpending hrows => exact h.claimed hrow hpending hrows
  | nothing event hevent => exact h
  | finished position row status now table hheld hrow hrunning hterminal hclean hrows =>
      exact h.finished hheld hrow hterminal hclean hrows
  | rescheduled position row status now table hheld hrow hrunning hterminal hdirty hrows =>
      exact h.rescheduled hheld hrow hterminal hrows

end Steps

end Odis.ReasoningJobs
