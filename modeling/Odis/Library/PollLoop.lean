import Odis.Library.OrderedDict
import Odis.Library.Transducer

/-!
# Poll loops

A consumer polls batches of records from the partitions of a log and hands the records to a
handler, one at a time. Its client keeps a position in every partition: a poll moves it past every
record the poll returns, and a commit commits the positions of all partitions. The loop commits
after every record that was handled, and gives up the batch at the first that was not.

A loop is safe in a state where every offset below a committed position was handled.
`safe_reached_iff` and `safe_after_iff` say, for all states and for those between two polls, in
which runs it is.
-/

namespace PollLoop

variable {P R C σ E : Type*}

/-- The positions of a consumer in its partitions, and those it has committed. -/
structure Consumer (P : Type*) where
  position : P → ℕ
  committed : P → ℕ

/-- A consumer that starts at committed positions. -/
def Consumer.startingAt (start : P → ℕ) : Consumer P := ⟨start, start⟩

/-- The positions are committed. -/
def Consumer.commit (consumer : Consumer P) : Consumer P :=
  { consumer with committed := consumer.position }

/-- A record, with its partition and its offset. -/
structure Delivery (P R : Type*) where
  partition : P
  offset : ℕ
  record : R

/-- The partition and the offset of a delivery. -/
def Delivery.key (delivery : Delivery P R) : P × ℕ := (delivery.partition, delivery.offset)

/-- The records a poll returns, by partition. -/
abbrev Batch (P R : Type*) : Type _ := OrderedDict (id : P → P) (List R)

/-- The records of a batch, with the offsets they have where the consumer stands at `position`. -/
def deliveries (position : P → ℕ) (batch : Batch P R) : List (Delivery P R) :=
  batch.items.flatMap fun entry =>
    entry.2.mapIdx fun i record => ⟨entry.1, position entry.1 + i, record⟩

/-- The state of a loop. The offsets whose records were handled are kept for the statements. -/
structure Loop (P σ : Type*) where
  worker : σ
  consumer : Consumer P
  handled : List (P × ℕ)

/-- A loop before its first poll. -/
def Loop.startingAt (worker : σ) (start : P → ℕ) : Loop P σ := ⟨worker, .startingAt start, []⟩

section Loop

variable (handle : σ → R → σ × Except E Bool) (finish : C → σ → σ)

/-- A record is handed to the handler. If it was handled, the positions are committed and the loop
goes on. -/
def handleRecord (loop : Loop P σ) (delivery : Delivery P R) : Loop P σ × Bool :=
  match handle loop.worker delivery.record with
  | (worker, .ok true) =>
      (⟨worker, loop.consumer.commit, loop.handled ++ [delivery.key]⟩, true)
  | (worker, _) => ({ loop with worker }, false)

/-- The records are handed over up to the first that is not handled. Whether there was none is
returned. -/
def handleAll (loop : Loop P σ) : List (Delivery P R) → Loop P σ × Bool
  | [] => (loop, true)
  | delivery :: rest =>
      if (handleRecord handle loop delivery).2 then
        handleAll (handleRecord handle loop delivery).1 rest
      else ((handleRecord handle loop delivery).1, false)

/-- The states after each record that is handed over. -/
def statesDuring (loop : Loop P σ) : List (Delivery P R) → List (Loop P σ)
  | [] => []
  | delivery :: rest =>
      (handleRecord handle loop delivery).1 ::
        if (handleRecord handle loop delivery).2 then
          statesDuring (handleRecord handle loop delivery).1 rest
        else []

variable [DecidableEq P]

/-- A poll moves the positions past the records it returns. -/
def Consumer.poll (consumer : Consumer P) (batch : Batch P R) : Consumer P :=
  { consumer with
    position := fun p => consumer.position p + ((batch.get? p).getD []).length }

/-- A batch was polled. -/
def Loop.poll (loop : Loop P σ) (batch : Batch P R) : Loop P σ :=
  { loop with consumer := loop.consumer.poll batch }

/-- The records a batch delivers to a loop. -/
def Loop.deliveries (loop : Loop P σ) (batch : Batch P R) : List (Delivery P R) :=
  PollLoop.deliveries loop.consumer.position batch

/-- A batch is polled and its records handed over. What else a poll does is done where all of them
were handled. -/
def pollOnce (loop : Loop P σ) (polled : Batch P R × C) : Loop P σ :=
  match handleAll handle (loop.poll polled.1) (loop.deliveries polled.1) with
  | (loop, true) => { loop with worker := finish polled.2 loop.worker }
  | (loop, false) => loop

/-- `pollOnce`, as a transducer without outputs. -/
def pollStep (loop : Loop P σ) (polled : Batch P R × C) : Loop P σ × Unit :=
  (pollOnce handle finish loop polled, ())

/-- All states of a run of polls, those in the middle of a batch included. -/
def reached (loop : Loop P σ) : List (Batch P R × C) → List (Loop P σ)
  | [] => [loop]
  | polled :: rest =>
      loop :: loop.poll polled.1 ::
        statesDuring handle (loop.poll polled.1) (loop.deliveries polled.1) ++
          reached (pollOnce handle finish loop polled) rest

end Loop

/-- Every offset from the starting position up to the committed one was handled. -/
def Safe (start : P → ℕ) (loop : Loop P σ) : Prop :=
  ∀ p o, start p ≤ o → o < loop.consumer.committed p → (p, o) ∈ loop.handled

/-- Every record polled so far was handled. -/
def AllHandled (start : P → ℕ) (loop : Loop P σ) : Prop :=
  ∀ p o, start p ≤ o → o < loop.consumer.position p → (p, o) ∈ loop.handled

/-! ## The offsets of a batch -/

section Offsets

variable {position : P → ℕ} {batch : Batch P R}

/-- The keys of a batch count on from the position of each partition. -/
theorem keys_deliveries :
    (deliveries position batch).map Delivery.key = batch.items.flatMap fun entry =>
      (List.range entry.2.length).map fun i => (entry.1, position entry.1 + i) := by
  rw [deliveries, List.map_flatMap]
  congr 1
  funext entry
  apply List.ext_getElem <;> simp [Delivery.key]

/-- No key comes twice in a batch. -/
theorem nodup_keys_deliveries : ((deliveries position batch).map Delivery.key).Nodup := by
  rw [keys_deliveries, List.nodup_flatMap]
  constructor
  · intro entry _
    refine List.nodup_range.map fun i j hij => ?_
    exact Nat.add_left_cancel (congrArg Prod.snd hij)
  · refine (List.pairwise_map.mp batch.nodup).imp fun hne => ?_
    intro key hmem hmem'
    obtain ⟨i, _, rfl⟩ := List.mem_map.mp hmem
    obtain ⟨j, _, heq⟩ := List.mem_map.mp hmem'
    exact hne (congrArg Prod.fst heq).symm

variable [DecidableEq P]

/-- The offsets of a batch are those the positions move past. -/
theorem mem_keys_deliveries {p : P} {o : ℕ} :
    (p, o) ∈ (deliveries position batch).map Delivery.key ↔
      position p ≤ o ∧ o < position p + ((batch.get? p).getD []).length := by
  rw [keys_deliveries, List.mem_flatMap]
  constructor
  · rintro ⟨entry, hentry, hmem⟩
    obtain ⟨i, hi, heq⟩ := List.mem_map.mp hmem
    obtain ⟨rfl, rfl⟩ := Prod.mk.inj heq
    have hget : batch.get? entry.1 = some entry.2 :=
      OrderedDict.get?_eq_some_iff.mpr ⟨entry.1, hentry, rfl⟩
    -- the i-th record of a partition is at its position plus i
    rw [List.mem_range] at hi
    rw [hget, Option.getD_some]
    omega
  · rintro ⟨hle, hlt⟩
    cases hget : batch.get? p with
    | none =>
        rw [hget] at hlt
        simp only [Option.getD_none, List.length_nil] at hlt
        omega
    | some records =>
        obtain ⟨p', hentry, hident⟩ := OrderedDict.get?_eq_some_iff.mp hget
        obtain rfl : p' = p := hident
        rw [hget, Option.getD_some] at hlt
        refine ⟨_, hentry, List.mem_map.mpr ⟨o - position p', ?_, ?_⟩⟩
        · rw [List.mem_range]
          exact Nat.sub_lt_left_of_lt_add hle hlt
        · rw [Nat.add_sub_cancel' hle]

end Offsets

/-! ## One poll -/

section Progress

variable {handle : σ → R → σ × Except E Bool} {loop : Loop P σ}

/-- The first record of a list is handled, if there is one. -/
def FirstHandled (handle : σ → R → σ × Except E Bool) (loop : Loop P σ) :
    List (Delivery P R) → Prop
  | [] => False
  | delivery :: _ => (handle loop.worker delivery.record).2.toOption = some true

/-- The state `reached` when the records `done` were handled, and committed after. -/
structure Progress (loop : Loop P σ) (done : List (Delivery P R)) (reached : Loop P σ) : Prop where
  handled : reached.handled = loop.handled ++ done.map Delivery.key
  position : reached.consumer.position = loop.consumer.position
  committed : reached.consumer.committed =
    if done = [] then loop.consumer.committed else loop.consumer.position

/-- Nothing was handled yet. -/
theorem Progress.refl : Progress loop ([] : List (Delivery P R)) loop :=
  ⟨by simp, rfl, by simp⟩

/-- One more record in front. -/
theorem Progress.cons {delivery : Delivery P R} {done : List (Delivery P R)}
    {next reached : Loop P σ} (hnext : Progress loop [delivery] next)
    (h : Progress next done reached) : Progress loop (delivery :: done) reached where
  handled := by rw [h.handled, hnext.handled]; simp
  position := h.position.trans hnext.position
  committed := by
    rw [h.committed, hnext.committed, hnext.position]
    simp

/-- A record counts as handled if its handler returned True. -/
theorem handleRecord_snd {delivery : Delivery P R} :
    (handleRecord handle loop delivery).2 = true ↔
      (handle loop.worker delivery.record).2.toOption = some true := by
  rw [handleRecord]
  split
  next worker heq => simp [heq, Except.toOption]
  next worker response hnot heq =>
    rw [heq]
    cases response with
    | error error => simp [Except.toOption]
    | ok handled =>
        cases handled with
        | true => exact absurd rfl hnot
        | false => simp [Except.toOption]

/-- One record: it is handled, or nothing is. -/
theorem progress_handleRecord (delivery : Delivery P R) :
    Progress loop (if (handleRecord handle loop delivery).2 then [delivery] else [])
      (handleRecord handle loop delivery).1 := by
  rw [handleRecord]
  split
  · exact ⟨by simp, rfl, by simp [Consumer.commit]⟩
  · exact ⟨by simp, rfl, by simp⟩

/-- A record that was handled is all the progress. -/
theorem progress_of_handled {delivery : Delivery P R}
    (h : (handleRecord handle loop delivery).2 = true) :
    Progress loop [delivery] (handleRecord handle loop delivery).1 := by
  have hprogress : Progress loop (if (handleRecord handle loop delivery).2 then [delivery] else [])
      (handleRecord handle loop delivery).1 := progress_handleRecord delivery
  rwa [if_pos h] at hprogress

/-- A record that was not handled is none. -/
theorem progress_of_not_handled {delivery : Delivery P R}
    (h : ¬ (handleRecord handle loop delivery).2 = true) :
    Progress loop ([] : List (Delivery P R)) (handleRecord handle loop delivery).1 := by
  have hprogress : Progress loop (if (handleRecord handle loop delivery).2 then [delivery] else [])
      (handleRecord handle loop delivery).1 := progress_handleRecord delivery
  rwa [if_neg h] at hprogress

/-- A batch is handled up to some record, and to its end exactly if that is returned. -/
theorem progress_handleAll (records : List (Delivery P R)) :
    ∃ done, done <+: records ∧ Progress loop done (handleAll handle loop records).1 ∧
      ((handleAll handle loop records).2 = true ↔ done = records) ∧
      (done ≠ [] ↔ FirstHandled handle loop records) := by
  induction records generalizing loop with
  | nil => exact ⟨[], List.prefix_rfl, .refl, by simp [handleAll], by simp [FirstHandled]⟩
  | cons delivery rest ih =>
      rw [handleAll, FirstHandled, ← handleRecord_snd]
      split_ifs with hhandled
      · obtain ⟨done, hpart, hprogress, hall, _⟩ :=
          @ih (handleRecord handle loop delivery).1
        refine ⟨delivery :: done, List.cons_prefix_cons.mpr ⟨rfl, hpart⟩,
          (progress_of_handled hhandled).cons hprogress, ?_, ?_⟩
        · rw [hall, List.cons.injEq, and_iff_right rfl]
        · simp [hhandled]
      · exact ⟨[], List.nil_prefix, progress_of_not_handled hhandled, by simp, by simp [hhandled]⟩

/-- Every state within a batch is reached by handling some of its first records. -/
theorem progress_of_mem_statesDuring {records : List (Delivery P R)} {reached : Loop P σ}
    (h : reached ∈ statesDuring handle loop records) :
    ∃ done, done <+: records ∧ Progress loop done reached ∧
      (done ≠ [] → FirstHandled handle loop records) := by
  induction records generalizing loop with
  | nil => simp [statesDuring] at h
  | cons delivery rest ih =>
      rw [FirstHandled, ← handleRecord_snd]
      rw [statesDuring] at h
      split_ifs at h with hhandled
      · rcases List.mem_cons.mp h with rfl | hrest
        · exact ⟨[delivery], by simp, progress_of_handled hhandled, fun _ => hhandled⟩
        · obtain ⟨done, hpart, hprogress, _⟩ := ih hrest
          exact ⟨delivery :: done, List.cons_prefix_cons.mpr ⟨rfl, hpart⟩,
            (progress_of_handled hhandled).cons hprogress, fun _ => hhandled⟩
      · rw [List.mem_singleton.mp h]
        exact ⟨[], List.nil_prefix, progress_of_not_handled hhandled, fun hne => absurd rfl hne⟩

/-- The state after a first record that was handled. -/
theorem exists_mem_statesDuring {delivery : Delivery P R} {rest : List (Delivery P R)}
    (h : FirstHandled handle loop (delivery :: rest)) :
    ∃ reached ∈ statesDuring handle loop (delivery :: rest), Progress loop [delivery] reached :=
  ⟨_, List.mem_cons_self, progress_of_handled (handleRecord_snd.mpr h)⟩

end Progress

/-! ## Runs of polls -/

section Runs

variable [DecidableEq P] {handle : σ → R → σ × Except E Bool} {finish : C → σ → σ}
  {start : P → ℕ} {loop : Loop P σ} {polled : Batch P R × C}

/-- The positions are past the starting positions and past the handled records. -/
structure WellFormed (start : P → ℕ) (loop : Loop P σ) : Prop where
  start_le : ∀ p, start p ≤ loop.consumer.position p
  handled_lt : ∀ key ∈ loop.handled, key.2 < loop.consumer.position key.1

omit [DecidableEq P] in
/-- A loop at its start is well formed. -/
theorem wellFormed_startingAt (worker : σ) (start : P → ℕ) :
    WellFormed start (Loop.startingAt worker start) where
  start_le _ := Nat.le_refl _
  handled_lt _ h := by simp [Loop.startingAt] at h

omit [DecidableEq P] in
/-- It has committed nothing beyond its start. -/
theorem safe_startingAt (worker : σ) (start : P → ℕ) : Safe start (Loop.startingAt worker start) :=
  fun _ _ hle hlt => absurd hle (Nat.not_le.mpr hlt)

/-- When the first record of a batch is handled, nothing polled before it is left unhandled, and
`batchHandled` holds of the batch. -/
def CommitsOnly (batchHandled : Loop P σ → List (Delivery P R) → Prop)
    (handle : σ → R → σ × Except E Bool) (start : P → ℕ) (loop : Loop P σ)
    (polled : Batch P R × C) : Prop :=
  FirstHandled handle (loop.poll polled.1) (loop.deliveries polled.1) →
    AllHandled start loop ∧ batchHandled (loop.poll polled.1) (loop.deliveries polled.1)

/-- The keys of a batch are new to a well-formed loop. -/
theorem WellFormed.not_mem_handled (hwf : WellFormed start loop) {key : P × ℕ}
    (h : key ∈ (loop.deliveries polled.1).map Delivery.key) : key ∉ loop.handled := fun hmem =>
  Nat.not_le.mpr (hwf.handled_lt key hmem) (mem_keys_deliveries.mp h).1

omit [DecidableEq P] in
/-- The first records of a batch are all of it, if every offset of the batch is one of theirs. -/
theorem eq_deliveries_of_keys {done : List (Delivery P R)}
    (hpart : done <+: loop.deliveries polled.1)
    (h : ∀ key ∈ (loop.deliveries polled.1).map Delivery.key, key ∈ done.map Delivery.key) :
    done = loop.deliveries polled.1 := by
  obtain ⟨rest, hrest⟩ := hpart
  have hnodup : ((done ++ rest).map Delivery.key).Nodup := by
    rw [hrest]
    exact nodup_keys_deliveries
  rw [List.map_append, List.nodup_append] at hnodup
  cases rest with
  | nil => rwa [List.append_nil] at hrest
  | cons delivery rest =>
      have hmem : delivery.key ∈ (loop.deliveries polled.1).map Delivery.key := by
        rw [← hrest]
        exact List.mem_map_of_mem (List.mem_append_right _ List.mem_cons_self)
      exact absurd rfl (hnodup.2.2 _ (h _ hmem) _ List.mem_cons_self)

/-- A state within a batch is safe when nothing of the batch was handled, or all of it and
everything before it. -/
theorem Progress.safe_iff {done : List (Delivery P R)} {reached : Loop P σ}
    (hwf : WellFormed start loop) (hsafe : Safe start loop)
    (hpart : done <+: loop.deliveries polled.1) (h : Progress (loop.poll polled.1) done reached) :
    Safe start reached ↔
      (done ≠ [] → AllHandled start loop ∧ done = loop.deliveries polled.1) := by
  have hhandled : reached.handled = loop.handled ++ done.map Delivery.key := h.handled
  by_cases hdone : done = []
  -- nothing handled, nothing committed
  · have hcommitted : reached.consumer.committed = loop.consumer.committed := by
      rw [h.committed, if_pos hdone]
      rfl
    refine iff_of_true ?_ (absurd hdone)
    intro p o hle hlt
    rw [hhandled]
    exact List.mem_append_left _ (hsafe p o hle (by rwa [hcommitted] at hlt))
  -- otherwise a commit goes as far as the batch
  have hcommitted : ∀ p, reached.consumer.committed p =
      loop.consumer.position p + ((polled.1.get? p).getD []).length := by
    rw [h.committed, if_neg hdone]
    exact fun _ => rfl
  -- so what lies in front of the batch and all of the batch must have been handled
  rw [forall_prop_of_true hdone]
  constructor
  · intro hreached
    constructor
    · intro p o hle hlt
      have hmem := hreached p o hle (by rw [hcommitted]; omega)
      rw [hhandled] at hmem
      rcases List.mem_append.mp hmem with hold | hnew
      · exact hold
      · have hkey := (hpart.map Delivery.key).subset hnew
        exact absurd (mem_keys_deliveries.mp hkey).1 (Nat.not_le.mpr hlt)
    · refine eq_deliveries_of_keys hpart ?_
      rintro ⟨p, o⟩ hkey
      obtain ⟨hle, hlt⟩ := mem_keys_deliveries.mp hkey
      have hmem := hreached p o (Nat.le_trans (hwf.start_le p) hle) (by rwa [hcommitted])
      rw [hhandled] at hmem
      exact (List.mem_append.mp hmem).resolve_left (hwf.not_mem_handled hkey)
  · rintro ⟨hall, rfl⟩ p o hle hlt
    rw [hcommitted] at hlt
    rw [hhandled]
    by_cases hold : o < loop.consumer.position p
    · exact List.mem_append_left _ (hall p o hle hold)
    · exact List.mem_append_right _ (mem_keys_deliveries.mpr ⟨Nat.not_lt.mp hold, hlt⟩)

/-- Progress within a batch keeps the loop well formed. -/
theorem Progress.wellFormed {done : List (Delivery P R)} {reached : Loop P σ}
    (hwf : WellFormed start loop) (hpart : done <+: loop.deliveries polled.1)
    (h : Progress (loop.poll polled.1) done reached) : WellFormed start reached := by
  -- the poll has moved the positions behind the whole batch
  have hposition : ∀ p, reached.consumer.position p =
      loop.consumer.position p + ((polled.1.get? p).getD []).length := by
    rw [h.position]
    exact fun _ => rfl
  constructor
  case start_le =>
    intro p
    rw [hposition]
    exact Nat.le_add_right_of_le (hwf.start_le p)
  case handled_lt =>
    intro key hmem
    rw [h.handled] at hmem
    rw [hposition]
    rcases List.mem_append.mp hmem with hold | hnew
    · exact Nat.lt_add_right _ (hwf.handled_lt key hold)
    · exact (mem_keys_deliveries.mp ((hpart.map Delivery.key).subset hnew)).2

/-- A poll keeps the progress its batch made: what is done after it moves the worker alone. -/
theorem progress_pollOnce (loop : Loop P σ) (polled : Batch P R × C) :
    ∃ done, done <+: loop.deliveries polled.1 ∧
      Progress (loop.poll polled.1) done (pollOnce handle finish loop polled) ∧
      ((handleAll handle (loop.poll polled.1) (loop.deliveries polled.1)).2 = true ↔
        done = loop.deliveries polled.1) ∧
      (done ≠ [] ↔ FirstHandled handle (loop.poll polled.1) (loop.deliveries polled.1)) := by
  obtain ⟨done, hpart, hprogress, hall, hfirst⟩ :
      ∃ done, done <+: loop.deliveries polled.1 ∧ Progress (loop.poll polled.1) done
        (handleAll handle (loop.poll polled.1) (loop.deliveries polled.1)).1 ∧ _ :=
    progress_handleAll (loop.deliveries polled.1)
  refine ⟨done, hpart, ?_, hall, hfirst⟩
  rw [pollOnce]
  split
  next reached heq =>
    rw [heq] at hprogress
    exact ⟨hprogress.handled, hprogress.position, hprogress.committed⟩
  next reached heq =>
    rw [heq] at hprogress
    exact hprogress

/-- The batch consists of one record. -/
def OneRecord (_ : Loop P σ) (records : List (Delivery P R)) : Prop := records.length = 1

variable (handle) in
/-- Every record of the batch is handled. -/
def WholeBatch (loop : Loop P σ) (records : List (Delivery P R)) : Prop :=
  (handleAll handle loop records).2 = true

omit [DecidableEq P] in
/-- The first records of a batch of one record are all of it. -/
theorem eq_of_oneRecord {records done : List (Delivery P R)} (h : OneRecord loop records)
    (hpart : done <+: records) (hdone : done ≠ []) : done = records := by
  refine hpart.eq_of_length_le ?_
  rw [show records.length = 1 from h]
  exact List.length_pos_iff.mpr hdone

/-- The states within a batch are safe exactly where a batch whose first record is handled has no
other one, and nothing before it is left unhandled. -/
theorem safe_during_iff (hwf : WellFormed start loop) (hsafe : Safe start loop) :
    (∀ reached ∈ statesDuring handle (loop.poll polled.1) (loop.deliveries polled.1),
      Safe start reached) ↔ CommitsOnly OneRecord handle start loop polled := by
  constructor
  · intro hreached hfirst
    cases hrecords : loop.deliveries polled.1 with
    | nil =>
        rw [hrecords] at hfirst
        exact hfirst.elim
    | cons delivery rest =>
        rw [hrecords] at hfirst
        obtain ⟨reached, hmem, hprogress⟩ := exists_mem_statesDuring hfirst
        -- the state after the first record commits the whole batch
        have hpart : [delivery] <+: loop.deliveries polled.1 := by simp [hrecords]
        obtain ⟨hall, hbatch⟩ := (hprogress.safe_iff hwf hsafe hpart).mp
          (hreached reached (by rwa [hrecords])) (List.cons_ne_nil _ _)
        refine ⟨hall, ?_⟩
        rw [OneRecord, ← hrecords, ← hbatch, List.length_singleton]
  · intro hcommits reached hmem
    obtain ⟨done, hpart, hprogress, hfirst⟩ := progress_of_mem_statesDuring hmem
    refine (hprogress.safe_iff hwf hsafe hpart).mpr fun hdone => ?_
    -- what is handled in a batch of one record is all of it
    obtain ⟨hall, hone⟩ := hcommits (hfirst hdone)
    exact ⟨hall, eq_of_oneRecord hone hpart hdone⟩

variable (finish) in
/-- A poll ends in a safe state exactly where a batch whose first record is handled is handled to
its end, and nothing before it is left unhandled. -/
theorem safe_pollOnce_iff (hwf : WellFormed start loop) (hsafe : Safe start loop) :
    Safe start (pollOnce handle finish loop polled) ↔
      CommitsOnly (WholeBatch handle) handle start loop polled := by
  obtain ⟨done, hpart, hprogress, hall, hfirst⟩ :
      ∃ done, done <+: loop.deliveries polled.1 ∧
        Progress (loop.poll polled.1) done (pollOnce handle finish loop polled) ∧ _ ∧ _ :=
    progress_pollOnce loop polled
  rw [hprogress.safe_iff hwf hsafe hpart, CommitsOnly, WholeBatch, hall, hfirst]

/-- A poll that commits one record only, with all before it handled, is safe. -/
theorem safe_pollOnce_of_oneRecord (hwf : WellFormed start loop) (hsafe : Safe start loop)
    (h : CommitsOnly OneRecord handle start loop polled) :
    Safe start (pollOnce handle finish loop polled) := by
  obtain ⟨done, hpart, hprogress, _, hfirst⟩ :
      ∃ done, done <+: loop.deliveries polled.1 ∧
        Progress (loop.poll polled.1) done (pollOnce handle finish loop polled) ∧ _ ∧ _ :=
    progress_pollOnce loop polled
  refine (hprogress.safe_iff hwf hsafe hpart).mpr fun hdone => ?_
  obtain ⟨hall, hone⟩ := h (hfirst.mp hdone)
  exact ⟨hall, eq_of_oneRecord hone hpart hdone⟩

/-- A poll keeps the loop well formed. -/
theorem wellFormed_pollOnce (hwf : WellFormed start loop) :
    WellFormed start (pollOnce handle finish loop polled) := by
  obtain ⟨done, hpart, hprogress, _⟩ :
      ∃ done, done <+: loop.deliveries polled.1 ∧
        Progress (loop.poll polled.1) done (pollOnce handle finish loop polled) ∧ _ :=
    progress_pollOnce loop polled
  exact hprogress.wellFormed hwf hpart

/-- A run reaches the state that it starts in. -/
theorem mem_reached_self (polls : List (Batch P R × C)) :
    loop ∈ reached handle finish loop polls := by
  cases polls <;> exact List.mem_cons_self

/-- All states of a run are safe exactly where, in every poll whose first record is handled, that
record is the only one, and nothing polled before is left unhandled. -/
theorem safe_reached_iff (hwf : WellFormed start loop) (hsafe : Safe start loop)
    (polls : List (Batch P R × C)) :
    (∀ state ∈ reached handle finish loop polls, Safe start state) ↔
      Transducer.Along (pollStep handle finish) (CommitsOnly OneRecord handle start) loop
        polls := by
  induction polls generalizing loop with
  | nil => simpa [reached, Transducer.Along] using hsafe
  | cons polled rest ih =>
      rw [reached, Transducer.Along, ← safe_during_iff hwf hsafe]
      constructor
      · intro h
        have hnext : ∀ state ∈ reached handle finish (pollOnce handle finish loop polled) rest,
            Safe start state := fun state hmem =>
          h state (List.mem_append_right _ hmem)
        refine ⟨fun state hmem => h state (List.mem_append_left _ ?_), ?_⟩
        · exact List.mem_cons_of_mem _ (List.mem_cons_of_mem _ hmem)
        · exact (ih (wellFormed_pollOnce hwf) (hnext _ (mem_reached_self rest))).mp hnext
      · rintro ⟨hduring, hrest⟩ state hmem
        -- the state after the poll is safe, and the rest of the run goes on from it
        have hafter : Safe start (pollOnce handle finish loop polled) :=
          safe_pollOnce_of_oneRecord hwf hsafe ((safe_during_iff hwf hsafe).mp hduring)
        rcases List.mem_append.mp hmem with hbatch | hnext
        · rcases List.mem_cons.mp hbatch with rfl | hbatch
          · exact hsafe
          rcases List.mem_cons.mp hbatch with rfl | hbatch
          · exact hsafe
          · exact hduring state hbatch
        · exact (ih (wellFormed_pollOnce hwf) hafter).mpr hrest state hnext

/-- The states between the polls of a run are safe exactly where every batch whose first record is
handled is handled to its end, and nothing polled before is left unhandled. -/
theorem safe_after_iff (hwf : WellFormed start loop) (hsafe : Safe start loop)
    (polls : List (Batch P R × C)) :
    (∀ n, Safe start (Transducer.after (pollStep handle finish) loop (polls.take n))) ↔
      Transducer.Along (pollStep handle finish) (CommitsOnly (WholeBatch handle) handle start)
        loop polls := by
  induction polls generalizing loop with
  | nil => simpa [Transducer.Along] using hsafe
  | cons polled rest ih =>
      rw [Transducer.Along]
      -- the state before the polls is safe, so those after the first poll decide
      have hnext : (∀ n, Safe start (Transducer.after (pollStep handle finish) loop
          ((polled :: rest).take n))) ↔
          ∀ n, Safe start (Transducer.after (pollStep handle finish)
            (pollOnce handle finish loop polled) (rest.take n)) := by
        constructor
        · exact fun h n => h (n + 1)
        · intro h n
          cases n with
          | zero => exact hsafe
          | succ n => exact h n
      rw [hnext, ← safe_pollOnce_iff finish hwf hsafe]
      constructor
      · intro h
        have hafter : Safe start (pollOnce handle finish loop polled) := h 0
        exact ⟨hafter, (ih (wellFormed_pollOnce hwf) hafter).mp h⟩
      · rintro ⟨hafter, hrest⟩
        exact (ih (wellFormed_pollOnce hwf) hafter).mpr hrest

end Runs

end PollLoop
