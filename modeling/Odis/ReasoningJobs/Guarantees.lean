import Odis.ReasoningJobs.Queue

/-!
# No lost request, no duplicate work

The outstanding row of an asset is the slot of the abstract queue that the history of the asset
leads to (`slotOf_after`), so a request that came after the latest claim is always served. The
guarantees of the queue after any interleaving of calls are collected in `QueueGuarantees`.
-/

namespace Odis.ReasoningJobs

/-- The slot an outstanding row stands for. -/
def ReasoningJob.slot (job : ReasoningJob) : Slot :=
  match job.status with
  | .pending => .pending job.dirty
  | .running => .running job.dirty
  | .completed | .failed => .idle

/-- The slot of an asset: that of its outstanding row. -/
def slotOf (table : JobTable) (assetId : String) : Slot :=
  match table.rows.find? fun job => job.isOutstanding && job.assetId = assetId with
  | some job => job.slot
  | none => .idle

/-- What a call means for an asset. -/
def QueueEvent.about (assetId : String) : QueueEvent → Option SlotEvent
  | enqueued job _ => if job.assetId = assetId then some .enqueued else none
  | claimed job => if job.assetId = assetId then some .claimed else none
  | finished job _ => if job.assetId = assetId then some .finished else none
  | nothingToClaim | nothingHeld | raised _ => none

section Slots

variable {table table' : JobTable} {assetId : String}

/-- The slot of an asset is that of its outstanding job. -/
theorem slotOf_eq_of_mem {job : ReasoningJob} (hjob : job ∈ table.rows) (hout : job.isOutstanding)
    (hasset : job.assetId = assetId) : slotOf table assetId = job.slot := by
  unfold slotOf
  split
  · next found hfind =>
      have hfound := List.find?_some hfind
      simp only [Bool.and_eq_true, decide_eq_true_eq] at hfound
      rw [table.eq_of_covered (List.mem_of_find?_eq_some hfind) hjob hfound.1 hout
        (hfound.2.trans hasset.symm)]
  · next hnone =>
      have hnot := List.find?_eq_none.mp hnone job hjob
      simp [hout, hasset] at hnot

/-- An asset without one is idle. -/
theorem slotOf_eq_idle (h : ∀ job ∈ table.rows, job.isOutstanding → job.assetId ≠ assetId) :
    slotOf table assetId = .idle := by
  unfold slotOf
  rw [List.find?_eq_none.mpr]
  intro job hjob
  simpa using h job hjob

/-- The slot of an asset depends on its outstanding rows only. -/
theorem slotOf_congr (h : ∀ job, job.isOutstanding → job.assetId = assetId →
    (job ∈ table'.rows ↔ job ∈ table.rows)) : slotOf table' assetId = slotOf table assetId := by
  by_cases hidle : ∀ job ∈ table.rows, job.isOutstanding → job.assetId ≠ assetId
  · rw [slotOf_eq_idle hidle, slotOf_eq_idle]
    exact fun job hjob hout hasset => hidle job ((h job hout hasset).mp hjob) hout hasset
  · push Not at hidle
    obtain ⟨job, hjob, hout, hasset⟩ := hidle
    rw [slotOf_eq_of_mem hjob hout hasset,
      slotOf_eq_of_mem ((h job hout hasset).mpr hjob) hout hasset]

/-- Changing a row leaves the slots of the other assets. -/
theorem slotOf_rowsWith_of_ne {row : ReasoningJob} {f : ReasoningJob → ReasoningJob}
    {more : List ReasoningJob} (hrow : row ∈ table.rows) (hf : (f row).assetId = row.assetId)
    (hrows : table'.rows = rowsWith table row.id f ++ more)
    (hmore : ∀ job ∈ more, job.assetId ≠ assetId) (hne : row.assetId ≠ assetId) :
    slotOf table' assetId = slotOf table assetId := by
  refine slotOf_congr fun job _ hasset => ?_
  rw [hrows, List.mem_append, mem_rowsWith_iff hrow]
  constructor
  · rintro ((rfl | ⟨hjob, -⟩) | hjob)
    · exact absurd (hf.symm.trans hasset) hne
    · exact hjob
    · exact absurd hasset (hmore job hjob)
  · intro hjob
    refine .inl (.inr ⟨hjob, fun hid => hne ?_⟩)
    rw [← table.eq_of_key hjob hrow hid]
    exact hasset

end Slots

variable {uuid4 : ℕ ↪ String} {s : QueueState}

/-- No call of the queue raises. -/
theorem Effect.ne_raised {s' : QueueState} {event : QueueEvent} (h : Effect uuid4 s s' event)
    (error : DatabaseError) : event ≠ .raised error := by
  cases h with
  | nothing _ hevent => rcases hevent with rfl | rfl <;> simp
  | _ => simp

/-! How each effect moves the slot of an asset: a row of another asset leaves the slot as it is. -/

section Effects

variable {row : ReasoningJob} {table : JobTable} {now : Instant} {asset : String}
  {status : ReasoningJobStatus} (assetId : String)

/-- A new job moves its slot as a request does. -/
theorem slotOf_created (hidle : ∀ row ∈ s.table.rows, row.isOutstanding → row.assetId ≠ asset)
    (hrows : table.rows = s.table.rows ++ [newJob (uuid4 s.issued) asset now]) :
    slotOf table assetId =
      ((QueueEvent.enqueued (newJob (uuid4 s.issued) asset now) true).about assetId).toList.foldl
        Slot.step (slotOf s.table assetId) := by
  have hnew : newJob (uuid4 s.issued) asset now ∈ table.rows := by simp [hrows]
  by_cases hasset : asset = assetId
  · subst hasset
    have hself : (newJob (uuid4 s.issued) asset now).assetId = asset := rfl
    rw [slotOf_eq_of_mem hnew rfl hself, slotOf_eq_idle hidle]
    simp [QueueEvent.about, newJob, ReasoningJob.slot, Slot.step]
  · have hcongr : slotOf table assetId = slotOf s.table assetId := by
      refine slotOf_congr fun job _ hjob => ?_
      rw [hrows, List.mem_append, List.mem_singleton, or_iff_left]
      rintro rfl
      exact hasset hjob
    simp [QueueEvent.about, newJob, hasset, hcongr]

/-- So does a request that is absorbed. -/
theorem slotOf_absorbed (hrow : row ∈ s.table.rows) (hout : row.isOutstanding)
    (hrows : table.rows = rowsWith s.table row.id ReasoningJob.absorb) :
    slotOf table assetId = ((QueueEvent.enqueued row.absorb false).about assetId).toList.foldl
      Slot.step (slotOf s.table assetId) := by
  have hnew : row.absorb ∈ table.rows := by
    rw [hrows]
    exact (mem_rowsWith_iff hrow).mpr (.inl rfl)
  by_cases hasset : row.assetId = assetId
  · have habout : (QueueEvent.enqueued row.absorb false).about assetId = some .enqueued :=
      if_pos hasset
    rw [habout, slotOf_eq_of_mem hnew hout hasset, slotOf_eq_of_mem hrow hout hasset]
    cases hstatus : row.status <;>
      simp_all [ReasoningJob.slot, ReasoningJob.absorb, Slot.step, ReasoningJob.isOutstanding]
  · have habout : (QueueEvent.enqueued row.absorb false).about assetId = none := if_neg hasset
    rw [habout]
    exact slotOf_rowsWith_of_ne hrow rfl (by rw [hrows, List.append_nil]) (by simp) hasset

/-- A claim moves it as a claim does. -/
theorem slotOf_claimed (hrow : row ∈ s.table.rows) (hpending : row.status = .pending)
    (hrows : table.rows = rowsWith s.table row.id (.start now)) :
    slotOf table assetId = ((QueueEvent.claimed (row.start now)).about assetId).toList.foldl
      Slot.step (slotOf s.table assetId) := by
  have hnew : row.start now ∈ table.rows := by
    rw [hrows]
    exact (mem_rowsWith_iff hrow).mpr (.inl rfl)
  have hout : row.isOutstanding := by simp [ReasoningJob.isOutstanding, hpending]
  by_cases hasset : row.assetId = assetId
  · have habout : (QueueEvent.claimed (row.start now)).about assetId = some .claimed :=
      if_pos hasset
    rw [habout, slotOf_eq_of_mem hnew rfl hasset, slotOf_eq_of_mem hrow hout hasset]
    simp [ReasoningJob.slot, ReasoningJob.start, Slot.step, hpending]
  · have habout : (QueueEvent.claimed (row.start now)).about assetId = none := if_neg hasset
    rw [habout]
    exact slotOf_rowsWith_of_ne hrow rfl (by rw [hrows, List.append_nil]) (by simp) hasset

/-- So does a job that is finished. -/
theorem slotOf_finished (hrow : row ∈ s.table.rows) (hrunning : row.status = .running)
    (hterminal : status = .completed ∨ status = .failed) (hclean : row.dirty = false)
    (hrows : table.rows = rowsWith s.table row.id (.finish status now)) :
    slotOf table assetId =
      ((QueueEvent.finished (row.finish status now) none).about assetId).toList.foldl Slot.step
        (slotOf s.table assetId) := by
  have hout : row.isOutstanding := by simp [ReasoningJob.isOutstanding, hrunning]
  by_cases hasset : row.assetId = assetId
  · have habout : (QueueEvent.finished (row.finish status now) none).about assetId =
        some .finished := if_pos hasset
    -- the finished row has left the index, and it was the only one of the asset
    have hidle : slotOf table assetId = .idle := by
      refine slotOf_eq_idle fun job hjob hjobout hjobasset => ?_
      rw [hrows] at hjob
      rcases (mem_rowsWith_iff hrow).mp hjob with rfl | ⟨hmem, hne⟩
      · rw [not_isOutstanding_finish now hterminal] at hjobout
        cases hjobout
      · exact hne (congrArg ReasoningJob.id (s.table.eq_of_covered hmem hrow hjobout hout
          (hjobasset.trans hasset.symm)))
    rw [habout, hidle, slotOf_eq_of_mem hrow hout hasset]
    simp [ReasoningJob.slot, Slot.step, hrunning, hclean]
  · have habout : (QueueEvent.finished (row.finish status now) none).about assetId = none :=
      if_neg hasset
    rw [habout]
    exact slotOf_rowsWith_of_ne hrow rfl (by rw [hrows, List.append_nil]) (by simp) hasset

/-- So does one that is followed by another. -/
theorem slotOf_rescheduled (hrow : row ∈ s.table.rows) (hrunning : row.status = .running)
    (hdirty : row.dirty = true)
    (hrows : table.rows = rowsWith s.table row.id (fun r => (r.finish status now).clean) ++
      [newJob (uuid4 s.issued) row.assetId now]) :
    slotOf table assetId =
      ((QueueEvent.finished (row.finish status now).clean
        (some (newJob (uuid4 s.issued) row.assetId now))).about assetId).toList.foldl Slot.step
          (slotOf s.table assetId) := by
  have hout : row.isOutstanding := by simp [ReasoningJob.isOutstanding, hrunning]
  have hnew : newJob (uuid4 s.issued) row.assetId now ∈ table.rows := by simp [hrows]
  by_cases hasset : row.assetId = assetId
  · have habout : (QueueEvent.finished (row.finish status now).clean
        (some (newJob (uuid4 s.issued) row.assetId now))).about assetId = some .finished :=
      if_pos hasset
    rw [habout, slotOf_eq_of_mem hnew rfl hasset, slotOf_eq_of_mem hrow hout hasset]
    simp [ReasoningJob.slot, Slot.step, hrunning, hdirty, newJob]
  · have habout : (QueueEvent.finished (row.finish status now).clean
        (some (newJob (uuid4 s.issued) row.assetId now))).about assetId = none :=
      if_neg hasset
    rw [habout]
    exact slotOf_rowsWith_of_ne hrow rfl hrows (by simpa [newJob] using hasset) hasset

end Effects

/-- A call moves the slot of each asset as the abstract queue does. -/
theorem slotOf_effect {s' : QueueState} {event : QueueEvent} (heffect : Effect uuid4 s s' event)
    (assetId : String) :
    slotOf s'.table assetId =
      (event.about assetId).toList.foldl Slot.step (slotOf s.table assetId) := by
  cases heffect with
  | created asset now table hidle hrows => exact slotOf_created assetId hidle hrows
  | absorbed row table hrow hout hrows => exact slotOf_absorbed assetId hrow hout hrows
  | claimed row now table hrow hpending hrows =>
      exact slotOf_claimed assetId hrow hpending hrows
  | nothing event hevent => rcases hevent with rfl | rfl <;> rfl
  | finished position row status now table hheld hrow hrunning hterminal hclean hrows =>
      exact slotOf_finished assetId hrow hrunning hterminal hclean hrows
  | rescheduled position row status now table hheld hrow hrunning hterminal hdirty hrows =>
      exact slotOf_rescheduled assetId hrow hrunning hdirty hrows

/-! ## Runs -/

/-- The state after a sequence of calls. -/
abbrev stateAfter (uuid4 : ℕ → String) (calls : List QueueCall) : QueueState :=
  Transducer.after (step uuid4) .initial calls

/-- What a sequence of calls returned or raised. -/
abbrev historyOf (uuid4 : ℕ → String) (calls : List QueueCall) : List QueueEvent :=
  Transducer.outputs (step uuid4) .initial calls

/-- The invariant holds after every sequence of calls. -/
theorem queueInvariant_after (uuid4 : ℕ ↪ String) (calls : List QueueCall) :
    QueueInvariant uuid4 (stateAfter uuid4 calls) :=
  Transducer.after_induction (step uuid4) (P := fun _ s => QueueInvariant uuid4 s) .initial
    queueInvariant_initial (fun _ call h => h.of_effect (step_effect h call)) calls

/-- After every sequence of calls, the slot of an asset is the one its history leads to. -/
theorem slotOf_after (uuid4 : ℕ ↪ String) (calls : List QueueCall) (assetId : String) :
    slotOf (stateAfter uuid4 calls).table assetId =
      ((historyOf uuid4 calls).filterMap (QueueEvent.about assetId)).foldl Slot.step .idle := by
  induction calls using List.reverseRecOn with
  | nil => rfl
  | append_singleton calls call ih =>
      have heffect := step_effect (queueInvariant_after uuid4 calls) call
      rw [historyOf, Transducer.outputs_append, List.filterMap_append, List.foldl_append, ← ih]
      rw [stateAfter, Transducer.after_append]
      refine (slotOf_effect heffect assetId).trans ?_
      congr 1

/-! ## Guarantees -/

/-- What the queue guarantees after the calls in `history`, in the state `s` they lead to. -/
structure QueueGuarantees (uuid4 : ℕ → String) (history : List QueueEvent) (s : QueueState) :
    Prop where
  /-- No call raises. -/
  noError : ∀ error, .raised error ∉ history
  /-- No duplicate work: an asset has at most one outstanding job. -/
  oneOutstanding : ∀ assetId, (s.table.rows.filter fun job =>
    job.isOutstanding && job.assetId = assetId).length ≤ 1
  /-- No lost request: a request that came after the latest claim of its asset has a pending job,
  or a running one that owes a follow-up and is held by a worker. -/
  served : ∀ assetId, RequestedSinceClaim (history.filterMap (QueueEvent.about assetId)) →
    ∃ job ∈ s.table.rows, job.assetId = assetId ∧ (job.status = .pending ∨
      job.status = .running ∧ job.dirty = true ∧ ∃ held ∈ s.held, held.id = job.id)
  /-- No finished job is left dirty. -/
  finishedClean : ∀ job ∈ s.table.rows, job.status = .completed ∨ job.status = .failed →
    job.dirty = false
  /-- When a dirty running job completes or fails, it is left clean and its asset has exactly one
  pending job, the follow-up. -/
  followUp : ∀ row ∈ s.table.rows, row.status = .running → row.dirty = true →
    ∀ position now call, (s.held[position]?).map ReasoningJob.id = some row.id →
      call = .complete position now ∨ call = .fail position now →
      ∃ finished followUp, (step uuid4 s call).2 = .finished finished (some followUp) ∧
        finished.id = row.id ∧ finished.dirty = false ∧
        finished ∈ (step uuid4 s call).1.table.rows ∧
        (step uuid4 s call).1.table.rows.filter
          (fun job => job.status = .pending && job.assetId = row.assetId) = [followUp]

/-- No table has two outstanding jobs of one asset. -/
theorem oneOutstanding_table (table : JobTable) (assetId : String) :
    (table.rows.filter fun job => job.isOutstanding && job.assetId = assetId).length ≤ 1 := by
  by_cases hidle : ∀ job ∈ table.rows, job.isOutstanding → job.assetId ≠ assetId
  · rw [List.filter_eq_nil_iff.mpr fun job hjob => by simpa using hidle job hjob]
    exact Nat.zero_le 1
  · push Not at hidle
    obtain ⟨job, hjob, hout, rfl⟩ := hidle
    exact Nat.le_of_eq (congrArg List.length (table.filter_index hjob hout))

/-- A pending row of an asset is its only pending row. -/
theorem filter_pending_eq {table : JobTable} {job : ReasoningJob} (hjob : job ∈ table.rows)
    (hpending : job.status = .pending) :
    table.rows.filter (fun r => r.status = .pending && r.assetId = job.assetId) = [job] := by
  have hout : job.isOutstanding := by simp [ReasoningJob.isOutstanding, hpending]
  have hsplit : table.rows.filter (fun r => r.status = .pending && r.assetId = job.assetId) =
      (table.rows.filter fun r => r.isOutstanding && r.assetId = job.assetId).filter
        fun r => r.status = .pending := by
    rw [List.filter_filter]
    refine List.filter_congr fun r _ => ?_
    by_cases hr : r.status = .pending <;> simp [hr, ReasoningJob.isOutstanding]
  have hindex : table.rows.filter (fun r => r.isOutstanding && r.assetId = job.assetId) = [job] :=
    table.filter_index hjob hout
  rw [hsplit, hindex]
  simp [hpending]

/-- Finishing the dirty row a worker holds leaves it clean and followed by one pending row. -/
theorem followUp_of_dirty (h : QueueInvariant uuid4 s) {row : ReasoningJob}
    (hrow : row ∈ s.table.rows) (hdirty : row.dirty = true) {position : ℕ} {now : Instant}
    {status : ReasoningJobStatus} (hterminal : status = .completed ∨ status = .failed)
    (hheld : (s.held[position]?).map ReasoningJob.id = some row.id) :
    let result := finishHeld uuid4 s position now status
    ∃ finished followUp, result.2 = .finished finished (some followUp) ∧
      finished.id = row.id ∧ finished.dirty = false ∧ finished ∈ result.1.table.rows ∧
      result.1.table.rows.filter
        (fun job => job.status = .pending && job.assetId = row.assetId) = [followUp] := by
  obtain ⟨job, hjob, hid⟩ := Option.map_eq_some_iff.mp hheld
  obtain ⟨row', hrow', hid', -, hrunning⟩ := h.held job (List.mem_of_getElem? hjob)
  -- the held job is this row
  obtain rfl : row' = row := s.table.eq_of_key hrow' hrow (hid'.trans hid)
  have hout : row'.isOutstanding := by simp [ReasoningJob.isOutstanding, hrunning]
  obtain ⟨table, hfinish, hrows⟩ := finishAndReschedule_of_dirty now hterminal hrow hid.symm
    hdirty hout h.fresh
  have hnew : newJob (uuid4 s.issued) row'.assetId now ∈ table.rows := by simp [hrows]
  have hfinished : (row'.finish status now).clean ∈ table.rows := by
    rw [hrows, List.mem_append, mem_rowsWith_iff hrow]
    exact .inl (.inl rfl)
  simp only [finishHeld, hjob, hfinish]
  exact ⟨_, _, rfl, rfl, rfl, hfinished, filter_pending_eq hnew rfl⟩

/-- Under any interleaving of calls, no request is lost, no work is duplicated, and no call
raises. -/
theorem queueGuarantees_after (uuid4 : ℕ ↪ String) (calls : List QueueCall) :
    QueueGuarantees uuid4 (historyOf uuid4 calls) (stateAfter uuid4 calls) := by
  have hinv := queueInvariant_after uuid4 calls
  constructor
  case noError =>
    intro error hmem
    obtain ⟨i, hi⟩ := List.mem_iff_getElem?.mp hmem
    have hlt : i < calls.length := by
      have := (List.getElem?_eq_some_iff.mp hi).1
      rwa [Transducer.length_outputs] at this
    rw [historyOf, Transducer.getElem?_outputs _ _ _ i hlt] at hi
    exact (step_effect (queueInvariant_after uuid4 (calls.take i)) calls[i]).ne_raised error
      (Option.some.inj hi)
  case oneOutstanding => exact oneOutstanding_table _
  case served =>
    intro assetId hrequested
    have hserves := serves_of_requested hrequested .idle
    rw [← slotOf_after uuid4 calls assetId] at hserves
    by_cases hidle : ∀ job ∈ (stateAfter uuid4 calls).table.rows,
        job.isOutstanding → job.assetId ≠ assetId
    -- an idle slot would not serve the request
    · rw [slotOf_eq_idle hidle] at hserves
      exact hserves.elim
    · push Not at hidle
      obtain ⟨job, hjob, hout, hasset⟩ := hidle
      rw [slotOf_eq_of_mem hjob hout hasset] at hserves
      refine ⟨job, hjob, hasset, ?_⟩
      -- a pending job serves it when it runs, and a running one by its follow-up
      cases hstatus : job.status with
      | pending => exact .inl rfl
      | running =>
          refine .inr ⟨rfl, ?_, hinv.running job hjob hstatus⟩
          simpa [ReasoningJob.slot, hstatus, Slot.Serves] using hserves
      | completed => simp [ReasoningJob.slot, hstatus, Slot.Serves] at hserves
      | failed => simp [ReasoningJob.slot, hstatus, Slot.Serves] at hserves
  case finishedClean =>
    intro job hjob hstatus
    refine hinv.clean job hjob ?_
    rcases hstatus with hstatus | hstatus <;> simp [ReasoningJob.isOutstanding, hstatus]
  case followUp =>
    rintro row hrow - hdirty position now call hheld (rfl | rfl)
    · exact followUp_of_dirty hinv hrow hdirty (.inl rfl) hheld
    · exact followUp_of_dirty hinv hrow hdirty (.inr rfl) hheld

end Odis.ReasoningJobs
