import Odis.InferenceWorker.Assembly
import Odis.Library.Exceptions

/-!
# Completed samples

When an event completes a sample, and what the assembler remembers of it. `Completes` is read off
the state before the event; `ingest_completes` and `ingest_of_not_completes` say that the event
yields a complete sample, and moves the last processed timestamp of its asset, exactly then.
-/

namespace Odis.InferenceWorker

open Features Inference

variable {F : Type} [PyFloat F]

/-- The timestamp of the last sample an asset completed, as far as its buffer remembers. -/
def latestProcessed (assembler : SampleAssembler F) (assetId : String) : Option Datetime :=
  (assembler.get? assetId).bind AssetBuffer.latestProcessedTimestamp

/-- The event is at or before a timestamp. -/
def AtOrBefore (event : TelemetryObservationEvent F) (latest : Option Datetime) : Prop :=
  ∃ last, latest = some last ∧ event.timestamp.instant ≤ last.instant

/-! ## Building the sample -/

/-- The observations of a sample are of the event's asset and instant. -/
theorem observation_of_mem {event : TelemetryObservationEvent F} {pending : PendingSample F}
    {observations : List (Observation F)} (h : observationsOf event pending = .ok observations)
    {observation : Observation F} (hmem : observation ∈ observations) :
    observation.assetId = event.assetId ∧ observation.timestamp = event.timestamp := by
  have hpair : observations.map (fun o => (o.assetId, o.timestamp)) =
      (Measurement.order.filterMap fun m => (pending.readings m).map (m, ·)).map
        fun _ => (event.assetId, event.timestamp) := by
    refine Exceptions.map_eq_of_mapM (fun entry o ho => ?_) h
    simp only [Observation.create] at ho
    split_ifs at ho
    cases ho
    rfl
  have hin : (observation.assetId, observation.timestamp) ∈
      observations.map fun o => (o.assetId, o.timestamp) :=
    List.mem_map_of_mem hmem
  rw [hpair] at hin
  obtain ⟨_, _, heq⟩ := List.mem_map.mp hin
  exact ⟨(congrArg Prod.fst heq).symm, (congrArg Prod.snd heq).symm⟩

/-- A sample built from observations is of the asset and instant of one of them. -/
theorem exists_observation_of_fromObservations {observations : List (Observation F)}
    {sample : TelemetrySample F} (h : TelemetrySample.fromObservations observations = .ok sample) :
    ∃ observation ∈ observations, sample.assetId = observation.assetId ∧
      sample.timestamp = observation.timestamp := by
  cases observations with
  | nil => contradiction
  | cons first rest =>
      simp only [TelemetrySample.fromObservations] at h
      split_ifs at h
      obtain ⟨values, _, h⟩ := Exceptions.bind_eq_ok.mp h
      split_ifs at h
      cases h
      exact ⟨first, List.mem_cons_self, rfl, rfl⟩

/-- The sample an event completes is of the event's asset and instant. -/
theorem of_assemble {event : TelemetryObservationEvent F} {pending : PendingSample F}
    {sample : TelemetrySample F} (h : assemble event pending = .ok sample) :
    sample.assetId = event.assetId ∧ sample.timestamp = event.timestamp := by
  obtain ⟨observations, hobservations, h⟩ := Exceptions.bind_eq_ok.mp h
  obtain ⟨observation, hmem, hasset, htimestamp⟩ :=
    exists_observation_of_fromObservations (Exceptions.mapError_eq_ok.mp h)
  obtain ⟨hasset', htimestamp'⟩ :=
    observation_of_mem (Exceptions.mapError_eq_ok.mp hobservations) hmem
  exact ⟨hasset.trans hasset', htimestamp.trans htimestamp'⟩

/-! ## One event -/

section Buffer

variable {config : AssemblerConfig F} {assembler : SampleAssembler F}
  {event : TelemetryObservationEvent F} {now : F}

/-- One reading does not complete a sample. -/
theorem missing_record_fresh : ((PendingSample.fresh now).record event).missing ≠ [] := by
  have hmem : ∀ m : FeatureMeasurement, event.measurement ≠ .required m →
      m ∈ ((PendingSample.fresh now).record event).missing := by
    intro m hm
    rw [PendingSample.missing, List.mem_filter]
    exact ⟨mem_defaultMeasurements m,
      by simp [PendingSample.record, PendingSample.fresh, hm.symm]⟩
  by_cases hvoltage : event.measurement = .required .voltage
  · exact List.ne_nil_of_mem (hmem .current (by simp [hvoltage]))
  · exact List.ne_nil_of_mem (hmem .voltage hvoltage)

/-- The buffer of an event's asset. It remembers what the assembler did. -/
theorem latest_bufferFor :
    (bufferFor config assembler event.assetId now).1.latestProcessedTimestamp =
      latestProcessed assembler event.assetId := by
  rw [bufferFor, latestProcessed]
  cases assembler.get? event.assetId with
  | some buffer => rfl
  | none => rfl

/-- Opening a buffer keeps what the assembler remembers of another asset, or evicts it. -/
theorem latest_bufferFor_of_ne {assetId : String} (hne : assetId ≠ event.assetId) :
    latestProcessed (bufferFor config assembler event.assetId now).2.1 assetId =
        latestProcessed assembler assetId ∨
      latestProcessed (bufferFor config assembler event.assetId now).2.1 assetId = none := by
  rw [bufferFor]
  cases assembler.get? event.assetId with
  | some buffer => simp [latestProcessed]
  | none =>
      simp only [latestProcessed]
      rw [OrderedDict.get?_set_of_ne (by exact hne)]
      split_ifs
      · split
        next evictedAssetId evictedBuffer kept hpop =>
          obtain ⟨_, rfl⟩ := OrderedDict.popFirst_eq_some hpop
          by_cases hevicted : assetId = evictedAssetId
          · exact Or.inr (by rw [OrderedDict.get?_erase_of_eq (by exact hevicted)]; rfl)
          · exact Or.inl (by rw [OrderedDict.get?_erase_of_ne (by exact hevicted)])
        · exact Or.inl rfl
      · exact Or.inl rfl

/-- Outcomes that report no sample. -/
def NoSample (outcomes : List (AssemblyOutcome F)) : Prop :=
  ∀ outcome ∈ outcomes, outcome.sample? = none

/-- Opening a buffer, and evicting another one for it, yields no sample. -/
theorem noSample_bufferFor : NoSample (bufferFor config assembler event.assetId now).2.2 := by
  rw [bufferFor]
  cases assembler.get? event.assetId with
  | some buffer => simp [NoSample]
  | none =>
      simp only
      split_ifs
      · split
        · intro outcome hmem
          obtain ⟨entry, _, rfl⟩ := List.mem_map.mp hmem
          rfl
        · simp [NoSample]
      · simp [NoSample]

/-- Nor does opening a pending sample. -/
theorem noSample_pendingFor {buffer : AssetBuffer F} :
    NoSample (pendingFor config buffer event now).2.2 := by
  rw [pendingFor]
  cases buffer.pending.get? event.timestamp with
  | some pending => simp [NoSample]
  | none =>
      simp only [makeRoom]
      split_ifs
      · simp [NoSample]
      · split
        · intro outcome hmem
          rw [List.mem_singleton.mp hmem]
          rfl
        · simp [NoSample]

/-- Opening an in-progress sample keeps what the buffer remembers. -/
theorem latest_pendingFor {buffer : AssetBuffer F} :
    (pendingFor config buffer event now).2.1.latestProcessedTimestamp =
      buffer.latestProcessedTimestamp := by
  rw [pendingFor]
  cases buffer.pending.get? event.timestamp <;> rfl

/-- A reading that does not complete its sample yields no sample and keeps what the buffer
remembers. -/
theorem applyReading_of_not_completes (buffer : AssetBuffer F) {pending : PendingSample F}
    (h : ¬ (pending.readings event.measurement = none ∧ (pending.record event).missing = [])) :
    (applyReading buffer pending event).1.latestProcessedTimestamp =
        buffer.latestProcessedTimestamp ∧
      ∃ outcome, (applyReading buffer pending event).2 = .ok outcome ∧ outcome.sample? = none := by
  rw [applyReading]
  cases hreading : pending.readings event.measurement with
  | some existing =>
      simp only
      split_ifs
      · exact ⟨rfl, _, rfl, rfl⟩
      · exact ⟨rfl, _, rfl, rfl⟩
  | none =>
      have hmissing : (pending.record event).missing ≠ [] := fun hnil => h ⟨hreading, hnil⟩
      rw [addReading, if_pos hmissing]
      exact ⟨rfl, _, rfl, rfl⟩

/-- The reading that completes a sample. -/
theorem applyReading_of_completes {buffer : AssetBuffer F} {pending : PendingSample F}
    (hreading : pending.readings event.measurement = none)
    (hmissing : (pending.record event).missing = []) :
    applyReading buffer pending event =
      ({ buffer with
          pending := buffer.pending.erase event.timestamp
          latestProcessedTimestamp := some event.timestamp },
        (assemble event (pending.record event)).map (.complete event.assetId event.timestamp)) := by
  simp only [applyReading, hreading, addReading, hmissing, ne_eq, not_true_eq_false, if_false]

variable (config now) in
/-- A late event is reported as such, and the buffer stays. -/
theorem ingestInto_of_late {buffer : AssetBuffer F}
    (h : AtOrBefore event buffer.latestProcessedTimestamp) :
    ∃ outcome, ingestInto config buffer event now = (buffer, .ok [outcome]) ∧
      outcome.sample? = none := by
  obtain ⟨latest, hlatest, hle⟩ := h
  simp only [ingestInto, hlatest, if_pos hle]
  exact ⟨_, rfl, rfl⟩

/-- Any other event is looked up among the pending samples. -/
theorem ingestInto_of_not_late {buffer : AssetBuffer F}
    (h : ¬ AtOrBefore event buffer.latestProcessedTimestamp) :
    ingestInto config buffer event now = ingestAccepted config buffer event now := by
  rw [ingestInto]
  cases hlatest : buffer.latestProcessedTimestamp with
  | none => rfl
  | some latest => exact if_neg fun hle => h ⟨latest, hlatest, hle⟩

/-- The reading completes a sample in progress of the buffer. -/
def CompletesIn (buffer : AssetBuffer F) (event : TelemetryObservationEvent F)
    (pending : PendingSample F) : Prop :=
  ¬ AtOrBefore event buffer.latestProcessedTimestamp ∧
    buffer.pending.get? event.timestamp = some pending ∧
    pending.readings event.measurement = none ∧ (pending.record event).missing = []

/-- An event that completes no sample yields none, and the buffer remembers what it did. -/
theorem ingestInto_of_not_completes (config : AssemblerConfig F) (now : F) {buffer : AssetBuffer F}
    (h : ∀ pending, ¬ CompletesIn buffer event pending) :
    (ingestInto config buffer event now).1.latestProcessedTimestamp =
        buffer.latestProcessedTimestamp ∧
      ∃ outcomes, (ingestInto config buffer event now).2 = .ok outcomes ∧ NoSample outcomes := by
  by_cases hlate : AtOrBefore event buffer.latestProcessedTimestamp
  · obtain ⟨outcome, heq, hsample⟩ := ingestInto_of_late config now hlate
    rw [heq]
    exact ⟨rfl, _, rfl, by simpa [NoSample] using hsample⟩
  -- a pending sample that has just been opened is not complete after one reading
  · have hreading : ¬ ((pendingFor config buffer event now).1.readings event.measurement = none ∧
        ((pendingFor config buffer event now).1.record event).missing = []) := by
      rintro ⟨hreading, hmissing⟩
      cases hget : buffer.pending.get? event.timestamp with
      | some pending =>
          simp only [pendingFor, hget] at hreading hmissing
          exact h pending ⟨hlate, hget, hreading, hmissing⟩
      | none =>
          simp only [pendingFor, hget] at hmissing
          exact missing_record_fresh hmissing
    obtain ⟨hlatest, outcome, houtcome, hsample⟩ :=
      applyReading_of_not_completes (pendingFor config buffer event now).2.1 hreading
    rw [ingestInto_of_not_late hlate]
    refine ⟨hlatest.trans latest_pendingFor,
      (pendingFor config buffer event now).2.2 ++ [outcome], ?_, ?_⟩
    · simp only [ingestAccepted, houtcome, Except.map]
    · intro o ho
      rcases List.mem_append.mp ho with hevicted | hlast
      · exact noSample_pendingFor o hevicted
      · rwa [List.mem_singleton.mp hlast]

/-- An event that completes a sample yields it, if it can be built, and nothing else. -/
theorem ingestInto_of_completes {buffer : AssetBuffer F} {pending : PendingSample F}
    (h : CompletesIn buffer event pending) :
    ingestInto config buffer event now =
      ({ buffer with
          pending := buffer.pending.erase event.timestamp
          latestProcessedTimestamp := some event.timestamp },
        (assemble event (pending.record event)).map
          fun sample => [.complete event.assetId event.timestamp sample]) := by
  obtain ⟨hlate, hget, hreading, hmissing⟩ := h
  have hpending : pendingFor config buffer event now = (pending, buffer, []) := by
    simp only [pendingFor, hget]
  rw [ingestInto_of_not_late hlate]
  simp only [ingestAccepted, hpending, applyReading_of_completes hreading hmissing]
  cases assemble event (pending.record event) <;> rfl

end Buffer

/-! ## The assembler -/

section Assembler

variable {config : AssemblerConfig F} {assembler : SampleAssembler F}
  {event : TelemetryObservationEvent F} {now : F}

/-- The event completes the sample in progress `pending` of its asset. -/
def Completes (assembler : SampleAssembler F) (event : TelemetryObservationEvent F)
    (pending : PendingSample F) : Prop :=
  ∃ buffer, assembler.get? event.assetId = some buffer ∧ CompletesIn buffer event pending

instance (event : TelemetryObservationEvent F) (latest : Option Datetime) :
    Decidable (AtOrBefore event latest) :=
  decidable_of_iff (∃ last ∈ latest, event.timestamp.instant ≤ last.instant) Iff.rfl

/-- The sample in progress that an event completes, if there is one. -/
def completing (assembler : SampleAssembler F) (event : TelemetryObservationEvent F) :
    Option (PendingSample F) := do
  let buffer ← assembler.get? event.assetId
  let pending ← buffer.pending.get? event.timestamp
  if ¬ AtOrBefore event buffer.latestProcessedTimestamp ∧
      (pending.readings event.measurement).isNone ∧ (pending.record event).missing = [] then
    some pending
  else none

/-- The pending sample that an event completes, computed. -/
theorem completing_eq_some {pending : PendingSample F} :
    completing assembler event = some pending ↔ Completes assembler event pending := by
  simp only [completing, Completes, CompletesIn, Option.bind_eq_bind, Option.bind_eq_some_iff,
    Option.isNone_iff_eq_none, Option.ite_none_right_eq_some, Option.some.injEq]
  constructor
  · rintro ⟨buffer, hbuffer, pending', hpending, ⟨hlate, hreading, hmissing⟩, rfl⟩
    exact ⟨buffer, hbuffer, hlate, hpending, hreading, hmissing⟩
  · rintro ⟨buffer, hbuffer, hlate, hpending, hreading, hmissing⟩
    exact ⟨buffer, hbuffer, pending, hpending, ⟨hlate, hreading, hmissing⟩, rfl⟩

/-- What is remembered of the asset of an event is what its buffer remembers. -/
theorem latestProcessed_ingest_self :
    latestProcessed (ingest config assembler event now).1 event.assetId =
      (ingestInto config
        { (bufferFor config assembler event.assetId now).1 with lastActiveMonotonic := now }
        event now).1.latestProcessedTimestamp := by
  simp [latestProcessed, ingest]

/-- What the assembler remembers of another asset is kept, or lost with its buffer. -/
theorem latestProcessed_ingest_of_ne {assetId : String} (hne : assetId ≠ event.assetId) :
    latestProcessed (ingest config assembler event now).1 assetId =
        latestProcessed assembler assetId ∨
      latestProcessed (ingest config assembler event now).1 assetId = none := by
  have hset : latestProcessed (ingest config assembler event now).1 assetId =
      latestProcessed (bufferFor config assembler event.assetId now).2.1 assetId := by
    rw [latestProcessed, ingest, OrderedDict.get?_set_of_ne (by exact hne)]
    rfl
  rw [hset]
  exact latest_bufferFor_of_ne hne

/-- An event that completes a sample yields it, if it can be built, and nothing else; it is now
the last one its asset completed. -/
theorem ingest_of_completes (config : AssemblerConfig F) (now : F) {pending : PendingSample F}
    (h : Completes assembler event pending) :
    (ingest config assembler event now).2 =
        (assemble event (pending.record event)).map
          (fun sample => [.complete event.assetId event.timestamp sample]) ∧
      latestProcessed (ingest config assembler event now).1 event.assetId =
        some event.timestamp := by
  obtain ⟨buffer, hget, hcompletes⟩ := h
  have hbuffer : bufferFor config assembler event.assetId now =
      (buffer, assembler.moveToEnd event.assetId, []) := by
    simp only [bufferFor, hget]
  have hinto : ingestInto config { buffer with lastActiveMonotonic := now } event now = _ :=
    ingestInto_of_completes hcompletes
  rw [latestProcessed_ingest_self, hbuffer, hinto]
  refine ⟨?_, rfl⟩
  simp only [ingest, hbuffer, hinto]
  cases assemble event (pending.record event) <;> rfl

/-- An event that completes no sample yields none, and what is remembered of its asset stays. -/
theorem ingest_of_not_completes (config : AssemblerConfig F) (now : F)
    (h : ∀ pending, ¬ Completes assembler event pending) :
    latestProcessed (ingest config assembler event now).1 event.assetId =
        latestProcessed assembler event.assetId ∧
      ∃ outcomes, (ingest config assembler event now).2 = .ok outcomes ∧ NoSample outcomes := by
  set opened : AssetBuffer F :=
    { (bufferFor config assembler event.assetId now).1 with lastActiveMonotonic := now }
    with hopened
  -- a buffer that was opened for the event has nothing pending
  have hnot : ∀ pending, ¬ CompletesIn opened event pending := by
    intro pending hcompletes
    cases hget : assembler.get? event.assetId with
    | some buffer =>
        refine h pending ⟨buffer, hget, ?_⟩
        simp only [hopened, bufferFor, hget] at hcompletes
        exact hcompletes
    | none =>
        obtain ⟨-, hpending, -, -⟩ := hcompletes
        simp only [hopened, bufferFor, hget, AssetBuffer.fresh, OrderedDict.get?_empty] at hpending
        contradiction
  obtain ⟨hlatest, outcomes, houtcomes, hsample⟩ :=
    ingestInto_of_not_completes config now hnot
  refine ⟨?_, (bufferFor config assembler event.assetId now).2.2 ++ outcomes, ?_, ?_⟩
  · rw [latestProcessed_ingest_self, hlatest, hopened]
    exact latest_bufferFor
  · simp only [ingest, ← hopened, houtcomes, Except.map]
  · intro o ho
    rcases List.mem_append.mp ho with hevicted | hown
    · exact noSample_bufferFor o hevicted
    · exact hsample o hown

/-- A sweep yields no sample. -/
theorem noSample_sweepTimeouts : NoSample (sweepTimeouts config assembler now).2 := by
  intro outcome hmem
  obtain ⟨entry, _, hentry⟩ := List.mem_flatMap.mp hmem
  obtain ⟨_, _, rfl⟩ := List.mem_map.mp hentry
  rfl

/-- A sweep keeps what is remembered of every asset. -/
theorem latestProcessed_sweepTimeouts (assetId : String) :
    latestProcessed (sweepTimeouts config assembler now).1 assetId =
      latestProcessed assembler assetId := by
  rw [latestProcessed, sweepTimeouts, OrderedDict.get?_map, latestProcessed]
  cases assembler.get? assetId <;> rfl

end Assembler

end Odis.InferenceWorker
