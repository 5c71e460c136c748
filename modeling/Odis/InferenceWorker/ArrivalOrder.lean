import Odis.InferenceWorker.Building
import Odis.InferenceWorker.Events

/-!
# The order of arrival

The measurements of a sample arrive one by one, in any order, among duplicates and the events of
other assets. The last required measurement to arrive completes the sample: an efficiency that comes
after it is late, and the timestamp of the sample is written as that last event wrote it, which the
id of the result depends on.

* `orderIndependent_iff`: the measurements whose sample does not depend on their order.
-/

namespace Odis.InferenceWorker

open Features Inference

variable {F : Type} [PyFloat F]

/-! ## Arrivals -/

/-- The event is of a measurement of the asset at the instant. -/
structure IsEventOf (assetId : String) (instant : Instant) (m : Measurement)
    (event : TelemetryObservationEvent F) : Prop where
  assetId : event.assetId = assetId
  instant : event.timestamp.instant = instant
  measurement : event.measurement = m

/-- The events of an asset at an instant: one for each required measurement, and at most one for the
efficiency. The instant may be written with any offset. -/
structure SampleEvents (F : Type) [PyFloat F] where
  assetId : String
  instant : Instant
  required : FeatureMeasurement → TelemetryObservationEvent F
  efficiency : Option (TelemetryObservationEvent F)
  required_of : ∀ m, IsEventOf assetId instant (.required m) (required m)
  efficiency_of : ∀ event ∈ efficiency, IsEventOf assetId instant .efficiency event

/-- The event of a measurement. -/
def SampleEvents.event? (events : SampleEvents F) :
    Measurement → Option (TelemetryObservationEvent F)
  | .required m => some (events.required m)
  | .efficiency => events.efficiency

/-- The events arrive, given the measurements that arrived before, among exact duplicates of what is
buffered and events of other assets. -/
inductive Arrives (events : SampleEvents F) (assets : List String) :
    List Measurement → List (TelemetryObservationEvent F × F) → Prop
  | nil {seen : List Measurement} (hall : ∀ m, (events.event? m).isSome → m ∈ seen) :
      Arrives events assets seen []
  | original {seen : List Measurement} {m : Measurement} {event : TelemetryObservationEvent F}
      {now : F} {rest : List (TelemetryObservationEvent F × F)}
      (hevent : events.event? m = some event) (hnew : m ∉ seen)
      (hrest : Arrives events assets (m :: seen) rest) :
      Arrives events assets seen ((event, now) :: rest)
  | duplicate {seen : List Measurement} {m : Measurement}
      {original event : TelemetryObservationEvent F} {now : F}
      {rest : List (TelemetryObservationEvent F × F)} (horiginal : events.event? m = some original)
      (hseen : m ∈ seen) (hincomplete : ∃ r, .required r ∉ seen)
      (hof : IsEventOf events.assetId events.instant m event)
      (hvalue : ((original.value : F) == event.value) = true)
      (hrest : Arrives events assets seen rest) : Arrives events assets seen ((event, now) :: rest)
  | other {seen : List Measurement} {event : TelemetryObservationEvent F} {now : F}
      {rest : List (TelemetryObservationEvent F × F)} (hother : event.assetId ≠ events.assetId)
      (htracked : event.assetId ∈ assets) (hrest : Arrives events assets seen rest) :
      Arrives events assets seen ((event, now) :: rest)

/-- An order of arrival, within the limit of tracked assets. -/
def IsArrivalOrder (config : AssemblerConfig F) (assembler : SampleAssembler F)
    (events : SampleEvents F) (arrivals : List (TelemetryObservationEvent F × F)) : Prop :=
  ∃ assets : List String, assets.length ≤ config.maxAssets ∧
    (∀ entry ∈ assembler.items, entry.1 ∈ assets) ∧ events.assetId ∈ assets ∧
      Arrives events assets [] arrivals

/-! ## Outcomes -/

/-- The asset of an outcome. -/
def AssemblyOutcome.assetId : AssemblyOutcome F → String
  | .pending assetId _ => assetId
  | .complete assetId _ _ => assetId
  | .rejected assetId _ _ _ => assetId

/-- The timestamp of an outcome. -/
def AssemblyOutcome.sourceTimestamp : AssemblyOutcome F → Datetime
  | .pending _ sourceTimestamp => sourceTimestamp
  | .complete _ sourceTimestamp _ => sourceTimestamp
  | .rejected _ sourceTimestamp _ _ => sourceTimestamp

/-- The reason of a rejection. -/
def AssemblyOutcome.reason? : AssemblyOutcome F → Option AssemblyReason
  | .rejected _ _ reason _ => some reason
  | _ => none

/-- The outcome is about the sample of the asset at the instant. -/
def AssemblyOutcome.isAbout (assetId : String) (instant : Instant)
    (outcome : AssemblyOutcome F) : Bool :=
  outcome.assetId = assetId ∧ outcome.sourceTimestamp.instant = instant

/-- The outcomes of a call. There are none where it raises. -/
def outcomesOf (result : Except (AssemblyError F) (List (AssemblyOutcome F))) :
    List (AssemblyOutcome F) :=
  match result with
  | .ok outcomes => outcomes
  | .error _ => []

/-- The events are ingested one after the other. -/
def ingestAll (config : AssemblerConfig F) :
    SampleAssembler F → List (TelemetryObservationEvent F × F) →
      SampleAssembler F × List (AssemblyOutcome F)
  | assembler, [] => (assembler, [])
  | assembler, (event, now) :: rest =>
      let current := ingest config assembler event now
      let later := ingestAll config current.1 rest
      (later.1, outcomesOf current.2 ++ later.2)

/-- What is reported about the sample of an asset at an instant. -/
def reportedAbout (assetId : String) (instant : Instant) (outcomes : List (AssemblyOutcome F)) :
    List (AssemblyOutcome F) :=
  outcomes.filter (AssemblyOutcome.isAbout assetId instant)

/-- The outcomes report the sample once, with all values, and reject nothing about it. -/
structure Yields (events : SampleEvents F) (outcomes : List (AssemblyOutcome F))
    (sample : TelemetrySample F) : Prop where
  once : (reportedAbout events.assetId events.instant outcomes).filterMap AssemblyOutcome.sample? =
    [sample]
  notRejected : ∀ outcome ∈ reportedAbout events.assetId events.instant outcomes,
    outcome.reason? = none
  values : ∀ m, sample.values m = (events.required m).value
  efficiency : sample.efficiency = events.efficiency.map TelemetryObservationEvent.value

/-- The results on two samples get the same id, if they agree in their status and their model. -/
def SameResultId (sample sample' : TelemetrySample F) : Prop :=
  ∀ (uuid5 : String → String) (result result' : InferenceResult F) (now now' : Datetime),
    result.assetId = sample.assetId → result.timestamp = sample.timestamp →
    result'.assetId = sample'.assetId → result'.timestamp = sample'.timestamp →
    result.status = result'.status → result.modelHash = result'.modelHash →
      (buildResultEvent uuid5 result now).eventId = (buildResultEvent uuid5 result' now').eventId

/-- Every order of arrival yields the sample, and the results on it get one id. -/
structure OrderIndependent (config : AssemblerConfig F) (assembler : SampleAssembler F)
    (events : SampleEvents F) : Prop where
  yields : ∀ arrivals, IsArrivalOrder config assembler events arrivals →
    ∃ sample, Yields events (ingestAll config assembler arrivals).2 sample
  sameResultId : ∀ arrivals arrivals' sample sample',
    IsArrivalOrder config assembler events arrivals →
    IsArrivalOrder config assembler events arrivals' →
    Yields events (ingestAll config assembler arrivals).2 sample →
    Yields events (ingestAll config assembler arrivals').2 sample' →
      SameResultId sample sample'

/-! ## One event -/

section Step

variable {config : AssemblerConfig F} {assembler : SampleAssembler F}
  {event : TelemetryObservationEvent F} {now : F} {assets : List String}

/-- What is buffered of the sample of an asset at an instant. -/
def bufferedAt (assembler : SampleAssembler F) (assetId : String) (instant : Instant)
    (m : Measurement) : Option (BufferedReading F) :=
  (assembler.get? assetId).bind fun buffer =>
    (buffer.pending.get? (.utc instant)).bind fun pending => pending.readings m

/-- What is buffered, read off the buffer of the asset. -/
theorem bufferedAt_eq {buffer : AssetBuffer F} {timestamp : Datetime}
    {pending : Option (PendingSample F)} {assetId : String}
    (hget : assembler.get? assetId = some buffer)
    (hpending : buffer.pending.get? timestamp = pending) :
    bufferedAt assembler assetId timestamp.instant =
      fun m => pending.bind fun p => p.readings m := by
  funext m
  have hinstant : buffer.pending.get? (.utc timestamp.instant) = buffer.pending.get? timestamp :=
    buffer.pending.get?_congr rfl
  rw [bufferedAt, hget, Option.bind_some, hinstant, hpending]

/-- An asset that is not tracked yet has room, where the tracked assets are among a few. -/
theorem length_lt_of_tracked (hlimit : assets.length ≤ config.maxAssets)
    (htracked : ∀ entry ∈ assembler.items, entry.1 ∈ assets) (hasset : event.assetId ∈ assets)
    (hget : assembler.get? event.assetId = none) : assembler.length < config.maxAssets := by
  have hnodup : (event.assetId :: assembler.items.map Prod.fst).Nodup := by
    refine List.nodup_cons.mpr ⟨fun hmem => ?_, assembler.nodup⟩
    obtain ⟨entry, hentry, heq⟩ := List.mem_map.mp hmem
    exact OrderedDict.get?_eq_none_iff.mp hget entry hentry heq
  have hsubset : event.assetId :: assembler.items.map Prod.fst ⊆ assets := by
    intro key hkey
    rcases List.mem_cons.mp hkey with rfl | hkey
    · exact hasset
    · obtain ⟨entry, hentry, rfl⟩ := List.mem_map.mp hkey
      exact htracked entry hentry
  have hle := (List.subperm_of_subset hnodup hsubset).length_le
  rw [List.length_cons, List.length_map] at hle
  exact Nat.lt_of_lt_of_le (Nat.lt_of_succ_le hle) hlimit

/-- With room, no asset is evicted. -/
theorem bufferFor_of_room
    (hroom : assembler.get? event.assetId = none → assembler.length < config.maxAssets) :
    bufferFor config assembler event.assetId now =
      match assembler.get? event.assetId with
      | some buffer => (buffer, assembler.moveToEnd event.assetId, [])
      | none => (.fresh now, assembler.set event.assetId (.fresh now), []) := by
  rw [bufferFor]
  cases hget : assembler.get? event.assetId with
  | some buffer => rfl
  | none => simp only [not_le_of_gt (hroom hget), if_false]

/-- With room, the buffers of the other assets stay. -/
theorem get?_ingest_of_ne
    (hroom : assembler.get? event.assetId = none → assembler.length < config.maxAssets)
    {assetId : String} (hne : assetId ≠ event.assetId) :
    (ingest config assembler event now).1.get? assetId = assembler.get? assetId := by
  rw [ingest, OrderedDict.get?_set_of_ne (by exact hne), bufferFor_of_room hroom]
  cases assembler.get? event.assetId with
  | some buffer => exact OrderedDict.get?_moveToEnd
  | none => exact OrderedDict.get?_set_of_ne (by exact hne)

/-- An event adds no asset but its own. -/
theorem tracked_ingest (htracked : ∀ entry ∈ assembler.items, entry.1 ∈ assets)
    (hasset : event.assetId ∈ assets)
    (hroom : assembler.get? event.assetId = none → assembler.length < config.maxAssets) :
    ∀ entry ∈ (ingest config assembler event now).1.items, entry.1 ∈ assets := by
  intro entry hentry
  rw [ingest, bufferFor_of_room hroom] at hentry
  rcases OrderedDict.mem_set hentry with ⟨hkey, -⟩ | ⟨hmem, -⟩
  · exact (show entry.1 = event.assetId from hkey) ▸ hasset
  · cases hget : assembler.get? event.assetId with
    | some buffer =>
        rw [hget] at hmem
        exact htracked entry (OrderedDict.mem_moveToEnd.mp hmem)
    | none =>
        rw [hget] at hmem
        rcases OrderedDict.mem_set hmem with ⟨hkey, -⟩ | ⟨hmem, -⟩
        · exact (show entry.1 = event.assetId from hkey) ▸ hasset
        · exact htracked entry hmem

/-- What an event does to the buffer of its asset is reported about this asset. -/
theorem assetId_ingestInto {buffer : AssetBuffer F} :
    ∀ outcome ∈ outcomesOf (ingestInto config buffer event now).2,
      outcome.assetId = event.assetId := by
  have haccepted : ∀ outcome ∈ outcomesOf (ingestAccepted config buffer event now).2,
      outcome.assetId = event.assetId := by
    intro outcome hmem
    -- the sample that is given up for a new one is of the same asset
    have hevicted : ∀ o ∈ (pendingFor config buffer event now).2.2,
        o.assetId = event.assetId := by
      rw [pendingFor]
      cases buffer.pending.get? event.timestamp with
      | some pending => exact fun o ho => absurd ho List.not_mem_nil
      | none =>
          simp only [makeRoom]
          split_ifs
          · exact fun o ho => absurd ho List.not_mem_nil
          · split
            · intro o ho
              rw [List.mem_singleton.mp ho]
              rfl
            · exact fun o ho => absurd ho List.not_mem_nil
    -- and so is the outcome of the event itself, whichever branch it takes
    have hown : ∀ o, (applyReading (pendingFor config buffer event now).2.1
        (pendingFor config buffer event now).1 event).2 = .ok o → o.assetId = event.assetId := by
      intro o ho
      rw [applyReading] at ho
      cases hreading : (pendingFor config buffer event now).1.readings event.measurement with
      | some existing =>
          simp only [hreading] at ho
          split_ifs at ho <;> cases ho <;> rfl
      | none =>
          simp only [hreading, addReading] at ho
          split_ifs at ho
          · cases ho
            rfl
          · obtain ⟨sample, -, rfl⟩ := Exceptions.map_eq_ok.mp ho
            rfl
    simp only [ingestAccepted] at hmem
    cases hresult : (applyReading (pendingFor config buffer event now).2.1
        (pendingFor config buffer event now).1 event).2 with
    | error error =>
        rw [hresult] at hmem
        exact absurd hmem List.not_mem_nil
    | ok o =>
        rw [hresult] at hmem
        rcases List.mem_append.mp hmem with hmem | hmem
        · exact hevicted outcome hmem
        · rw [List.mem_singleton.mp hmem]
          exact hown o hresult
  -- a late event is rejected before anything is opened
  by_cases hlate : AtOrBefore event buffer.latestProcessedTimestamp
  · obtain ⟨latest, hlatest, hle⟩ := hlate
    simp only [ingestInto, hlatest, if_pos hle]
    intro outcome hmem
    rw [List.mem_singleton.mp hmem]
    rfl
  · rw [ingestInto_of_not_late hlate]
    exact haccepted

/-- An event of another asset reports nothing about the sample. -/
theorem reportedAbout_ingest_of_ne
    (hroom : assembler.get? event.assetId = none → assembler.length < config.maxAssets)
    {assetId : String} (hne : event.assetId ≠ assetId) (instant : Instant) :
    reportedAbout assetId instant (outcomesOf (ingest config assembler event now).2) = [] := by
  rw [reportedAbout, List.filter_eq_nil_iff]
  intro outcome hmem
  -- with room no buffer is evicted, so all that is reported comes from the event
  have hevicted : (bufferFor config assembler event.assetId now).2.2 = [] := by
    rw [bufferFor_of_room hroom]
    cases assembler.get? event.assetId <;> rfl
  have hasset : outcome.assetId = event.assetId := by
    simp only [ingest, hevicted] at hmem
    apply assetId_ingestInto outcome
    cases hresult : (ingestInto config
        { (bufferFor config assembler event.assetId now).1 with lastActiveMonotonic := now }
        event now).2 with
    | error error =>
        rw [hresult] at hmem
        exact absurd hmem List.not_mem_nil
    | ok outcomes =>
        rw [hresult] at hmem
        exact hmem
  simp [AssemblyOutcome.isAbout, hasset, hne]

/-- What is given up to open a sample is of another instant. -/
theorem not_isAbout_pendingFor {buffer : AssetBuffer F} :
    ∀ outcome ∈ (pendingFor config buffer event now).2.2,
      outcome.isAbout event.assetId event.timestamp.instant = false := by
  rw [pendingFor]
  cases hget : buffer.pending.get? event.timestamp with
  | some pending => exact fun o ho => absurd ho List.not_mem_nil
  | none =>
      simp only [makeRoom]
      split_ifs
      · exact fun o ho => absurd ho List.not_mem_nil
      · split
        next oldest kept hpop =>
          intro o ho
          rw [List.mem_singleton.mp ho]
          obtain ⟨hmem, -⟩ := OrderedDict.popFirst_eq_some hpop
          have hne := OrderedDict.get?_eq_none_iff.mp hget oldest hmem
          exact decide_eq_false fun h => hne h.2
        · exact fun o ho => absurd ho List.not_mem_nil

variable (now) in
/-- An event that is not late is applied to what is buffered of its sample. -/
theorem ingest_own
    (hroom : assembler.get? event.assetId = none → assembler.length < config.maxAssets)
    (hlate : ¬ AtOrBefore event (latestProcessed assembler event.assetId)) :
    ∃ (buffer : AssetBuffer F) (pending : PendingSample F) (evicted : List (AssemblyOutcome F)),
      pending.readings = bufferedAt assembler event.assetId event.timestamp.instant ∧
      buffer.pending.get? event.timestamp = some pending ∧
      buffer.latestProcessedTimestamp = latestProcessed assembler event.assetId ∧
      (∀ o ∈ evicted, o.isAbout event.assetId event.timestamp.instant = false) ∧
      (ingest config assembler event now).1.get? event.assetId =
        some (applyReading buffer pending event).1 ∧
      (ingest config assembler event now).2 =
        (applyReading buffer pending event).2.map fun outcome => evicted ++ [outcome] := by
  -- the buffer of the asset, as `_buffer_for` returns it
  set opened : AssetBuffer F :=
    { (bufferFor config assembler event.assetId now).1 with lastActiveMonotonic := now }
    with hopened
  have hlatest : opened.latestProcessedTimestamp = latestProcessed assembler event.assetId :=
    latest_bufferFor
  have hevicted : (bufferFor config assembler event.assetId now).2.2 = [] := by
    rw [bufferFor_of_room hroom]
    cases assembler.get? event.assetId <;> rfl
  have hinstant (pendings : PendingSamples F) :
      pendings.get? (.utc event.timestamp.instant) = pendings.get? event.timestamp :=
    pendings.get?_congr rfl
  -- opening the buffer leaves what is buffered of the sample as it is
  have hbuffered : (fun m => (opened.pending.get? event.timestamp).bind fun p => p.readings m) =
      bufferedAt assembler event.assetId event.timestamp.instant := by
    funext m
    rw [bufferedAt, hopened, bufferFor_of_room hroom]
    cases hget : assembler.get? event.assetId with
    | some buffer => simp only [Option.bind_some, hinstant]
    | none => rfl
  -- the event is not late, so the guard of `ingest` lets it through
  have hinto : ingestInto config opened event now = ingestAccepted config opened event now :=
    ingestInto_of_not_late (hlatest ▸ hlate)
  refine ⟨(pendingFor config opened event now).2.1, (pendingFor config opened event now).1,
    (pendingFor config opened event now).2.2, ?_, ?_, ?_, not_isAbout_pendingFor, ?_, ?_⟩
  · rw [← hbuffered, pendingFor]
    cases opened.pending.get? event.timestamp <;> rfl
  · rw [pendingFor]
    cases hget : opened.pending.get? event.timestamp with
    | some pending => exact hget
    | none => exact OrderedDict.get?_set_self
  · rw [latest_pendingFor, hlatest]
  · rw [ingest, OrderedDict.get?_set_self]
    exact congrArg (fun result => some result.1) hinto
  · simp only [ingest, hevicted, List.nil_append, ← hopened, hinto, ingestAccepted]
    cases (applyReading (pendingFor config opened event now).2.1
      (pendingFor config opened event now).1 event).2 <;> rfl

end Step

/-! ## A sample in progress -/

/-- The reading of an event. -/
def readingOf (event : TelemetryObservationEvent F) : BufferedReading F :=
  ⟨event.value, event.eventId⟩

/-- What is buffered when the given measurements have arrived. -/
def SampleEvents.readings (events : SampleEvents F) (seen : List Measurement) (m : Measurement) :
    Option (BufferedReading F) :=
  if m ∈ seen then (events.event? m).map readingOf else none

/-- The sample is in progress, with the measurements that have arrived. -/
structure Progress (events : SampleEvents F) (assets : List String) (assembler : SampleAssembler F)
    (seen : List Measurement) : Prop where
  tracked : ∀ entry ∈ assembler.items, entry.1 ∈ assets
  follows : ∀ last, latestProcessed assembler events.assetId = some last →
    last.instant < events.instant
  buffered : bufferedAt assembler events.assetId events.instant = events.readings seen

/-- The sample is complete. -/
structure Finished (events : SampleEvents F) (assets : List String)
    (assembler : SampleAssembler F) : Prop where
  tracked : ∀ entry ∈ assembler.items, entry.1 ∈ assets
  processed : ∃ last, latestProcessed assembler events.assetId = some last ∧
    last.instant = events.instant

/-- Nothing is completed or rejected. -/
def Quiet (outcomes : List (AssemblyOutcome F)) : Prop :=
  ∀ outcome ∈ outcomes, outcome.sample? = none ∧ outcome.reason? = none

/-- The event that is given for a measurement is one of this measurement, of the asset and the
instant. -/
theorem SampleEvents.of_event? {events : SampleEvents F} {m : Measurement}
    {event : TelemetryObservationEvent F} (h : events.event? m = some event) :
    IsEventOf events.assetId events.instant m event := by
  cases m with
  | required m => exact Option.some.inj h ▸ events.required_of m
  | efficiency => exact events.efficiency_of event h

/-- Recording the event of a measurement leads from the readings of the measurements seen so far to
those with the new one. -/
theorem readings_record {events : SampleEvents F} {seen : List Measurement} {m : Measurement}
    {event : TelemetryObservationEvent F} {pending : PendingSample F}
    (hreadings : pending.readings = events.readings seen) (hevent : events.event? m = some event) :
    (pending.record event).readings = events.readings (m :: seen) := by
  funext m'
  show (if m' = event.measurement then some (readingOf event) else pending.readings m') = _
  rw [(SampleEvents.of_event? hevent).measurement, hreadings, SampleEvents.readings,
    SampleEvents.readings]
  by_cases heq : m' = m
  · subst heq
    rw [if_pos rfl, if_pos List.mem_cons_self, hevent]
    rfl
  · simp only [List.mem_cons, heq, false_or, if_false]

/-- Nothing is missing once all required measurements have been seen. The efficiency is not asked
for. -/
theorem missing_eq_nil_iff {events : SampleEvents F} {seen : List Measurement}
    {pending : PendingSample F} (hreadings : pending.readings = events.readings seen) :
    pending.missing = [] ↔ ∀ r, Measurement.required r ∈ seen := by
  rw [PendingSample.missing, List.filter_eq_nil_iff]
  refine ⟨fun h r => ?_, fun h r _ => ?_⟩
  · have hsome := h r (mem_defaultMeasurements r)
    rw [hreadings, SampleEvents.readings] at hsome
    by_contra hnot
    simp [hnot] at hsome
  · rw [hreadings, SampleEvents.readings, if_pos (h r)]
    exact Bool.false_ne_true

section Progress

variable {config : AssemblerConfig F} {events : SampleEvents F} {assets : List String}
  {assembler : SampleAssembler F} {seen : List Measurement} {m : Measurement}
  {event : TelemetryObservationEvent F} {now : F}

/-- An event of a sample in progress is not late: no later sample of its asset was completed. -/
theorem Progress.not_late (h : Progress events assets assembler seen)
    (hof : IsEventOf events.assetId events.instant m event) :
    ¬ AtOrBefore event (latestProcessed assembler event.assetId) := by
  rintro ⟨last, hlast, hle⟩
  rw [hof.assetId] at hlast
  rw [hof.instant] at hle
  exact absurd hle (not_le_of_gt (h.follows last hlast))

/-- Reported about a sample are, of what opening it gives up and what its event does, the latter. -/
theorem reportedAbout_evicted {assetId : String} {instant : Instant}
    {evicted : List (AssemblyOutcome F)}
    (hevicted : ∀ o ∈ evicted, o.isAbout assetId instant = false)
    (result : Except (AssemblyError F) (AssemblyOutcome F)) :
    reportedAbout assetId instant (outcomesOf (result.map fun o => evicted ++ [o])) =
      reportedAbout assetId instant (outcomesOf (result.map fun o => [o])) := by
  cases result with
  | error error => rfl
  | ok o =>
      have hnone : reportedAbout assetId instant evicted = [] := by
        rw [reportedAbout, List.filter_eq_nil_iff]
        intro o ho
        rw [hevicted o ho]
        exact Bool.false_ne_true
      simp only [Except.map, outcomesOf, reportedAbout, List.filter_append] at hnone ⊢
      rw [hnone, List.nil_append]

/-- An event of another asset leaves the sample as it is. -/
theorem Progress.other (hlimit : assets.length ≤ config.maxAssets)
    (h : Progress events assets assembler seen) (hother : event.assetId ≠ events.assetId)
    (hasset : event.assetId ∈ assets) :
    Progress events assets (ingest config assembler event now).1 seen ∧
      reportedAbout events.assetId events.instant
        (outcomesOf (ingest config assembler event now).2) = [] := by
  have hroom := length_lt_of_tracked hlimit h.tracked hasset
  have hget : (ingest config assembler event now).1.get? events.assetId =
      assembler.get? events.assetId := get?_ingest_of_ne hroom hother.symm
  refine ⟨⟨tracked_ingest h.tracked hasset hroom, ?_, ?_⟩,
    reportedAbout_ingest_of_ne hroom hother _⟩
  · rw [latestProcessed, hget]
    exact h.follows
  · funext m
    rw [bufferedAt, hget]
    exact congrFun h.buffered m

/-- A complete sample stays so on an event of another asset. -/
theorem Finished.other (hlimit : assets.length ≤ config.maxAssets)
    (h : Finished events assets assembler) (hother : event.assetId ≠ events.assetId)
    (hasset : event.assetId ∈ assets) :
    Finished events assets (ingest config assembler event now).1 ∧
      reportedAbout events.assetId events.instant
        (outcomesOf (ingest config assembler event now).2) = [] := by
  have hroom := length_lt_of_tracked hlimit h.tracked hasset
  refine ⟨⟨tracked_ingest h.tracked hasset hroom, ?_⟩, reportedAbout_ingest_of_ne hroom hother _⟩
  rw [latestProcessed, get?_ingest_of_ne hroom hother.symm]
  exact h.processed

/-- A duplicate of what is buffered changes nothing. -/
theorem Progress.duplicate (hlimit : assets.length ≤ config.maxAssets)
    (hasset : events.assetId ∈ assets) (h : Progress events assets assembler seen)
    {original : TelemetryObservationEvent F} (horiginal : events.event? m = some original)
    (hseen : m ∈ seen) (hof : IsEventOf events.assetId events.instant m event)
    (hvalue : ((original.value : F) == event.value) = true) :
    Progress events assets (ingest config assembler event now).1 seen ∧
      Quiet (reportedAbout events.assetId events.instant
        (outcomesOf (ingest config assembler event now).2)) := by
  have hasset' : event.assetId ∈ assets := hof.assetId ▸ hasset
  have hroom := length_lt_of_tracked hlimit h.tracked hasset'
  obtain ⟨buffer, pending, evicted, hreadings, hpending, hlatest, hevicted, hget, hresult⟩ :=
    ingest_own now hroom (h.not_late hof)
  -- the measurement is there already, with the value of the original
  have hexisting : pending.readings event.measurement = some (readingOf original) := by
    rw [hreadings, hof.assetId, hof.instant, h.buffered, hof.measurement, SampleEvents.readings,
      if_pos hseen, horiginal]
    rfl
  -- an equal value changes neither the buffer nor the sample
  have happly : applyReading buffer pending event =
      (buffer, .ok (.pending event.assetId event.timestamp)) := by
    simp only [applyReading, hexisting, readingOf, hvalue, if_true]
  rw [happly] at hget hresult
  -- the three parts of `Progress`, and then what is reported
  refine ⟨⟨tracked_ingest h.tracked hasset' hroom, ?_, ?_⟩, ?_⟩
  · rw [← hof.assetId, latestProcessed, hget]
    show ∀ last, buffer.latestProcessedTimestamp = some last → _
    rw [hlatest, hof.assetId]
    exact h.follows
  · rw [← h.buffered, ← hof.assetId, ← hof.instant, bufferedAt_eq hget hpending, ← hreadings]
    rfl
  · rw [hresult, ← hof.assetId, ← hof.instant, reportedAbout_evicted hevicted]
    intro outcome hmem
    obtain ⟨hmem, -⟩ := List.mem_filter.mp hmem
    rw [List.mem_singleton.mp hmem]
    exact ⟨rfl, rfl⟩

/-- A measurement that is not the last required one is buffered. -/
theorem Progress.original (hlimit : assets.length ≤ config.maxAssets)
    (hasset : events.assetId ∈ assets) (h : Progress events assets assembler seen)
    (hevent : events.event? m = some event) (hnew : m ∉ seen)
    (hincomplete : ∃ r, Measurement.required r ∉ m :: seen) :
    Progress events assets (ingest config assembler event now).1 (m :: seen) ∧
      Quiet (reportedAbout events.assetId events.instant
        (outcomesOf (ingest config assembler event now).2)) := by
  have hof := SampleEvents.of_event? hevent
  have hasset' : event.assetId ∈ assets := hof.assetId ▸ hasset
  have hroom := length_lt_of_tracked hlimit h.tracked hasset'
  obtain ⟨buffer, pending, evicted, hreadings, hpending, hlatest, hevicted, hget, hresult⟩ :=
    ingest_own now hroom (h.not_late hof)
  rw [hof.assetId, hof.instant, h.buffered] at hreadings
  have hrecorded := readings_record hreadings hevent
  -- a required measurement is still to come, so the sample is not assembled
  have hmissing : (pending.record event).missing ≠ [] := by
    rw [Ne, missing_eq_nil_iff hrecorded, not_forall]
    exact hincomplete
  have hnone : pending.readings event.measurement = none := by
    rw [hreadings, hof.measurement, SampleEvents.readings, if_neg hnew]
  -- the reading is stored in the sample in progress
  have happly : applyReading buffer pending event =
      ({ buffer with pending := buffer.pending.set event.timestamp (pending.record event) },
        .ok (.pending event.assetId event.timestamp)) := by
    simp only [applyReading, hnone, addReading, if_pos hmissing]
  rw [happly] at hget hresult
  refine ⟨⟨tracked_ingest h.tracked hasset' hroom, ?_, ?_⟩, ?_⟩
  · rw [← hof.assetId, latestProcessed, hget]
    show ∀ last, buffer.latestProcessedTimestamp = some last → _
    rw [hlatest, hof.assetId]
    exact h.follows
  · rw [← hof.assetId, ← hof.instant, bufferedAt_eq hget OrderedDict.get?_set_self, ← hrecorded]
    rfl
  · rw [hresult, ← hof.assetId, ← hof.instant, reportedAbout_evicted hevicted]
    intro outcome hmem
    obtain ⟨hmem, -⟩ := List.mem_filter.mp hmem
    rw [List.mem_singleton.mp hmem]
    exact ⟨rfl, rfl⟩

/-- The last required measurement completes the sample. -/
theorem Progress.complete (hlimit : assets.length ≤ config.maxAssets)
    (hasset : events.assetId ∈ assets) (h : Progress events assets assembler seen)
    (hevent : events.event? m = some event) (hnew : m ∉ seen)
    (hall : ∀ r, Measurement.required r ∈ m :: seen) :
    ∃ recorded : PendingSample F, recorded.readings = events.readings (m :: seen) ∧
      Finished events assets (ingest config assembler event now).1 ∧
      reportedAbout events.assetId events.instant
          (outcomesOf (ingest config assembler event now).2) =
        outcomesOf ((assemble event recorded).map fun sample =>
          [.complete event.assetId event.timestamp sample]) := by
  have hof := SampleEvents.of_event? hevent
  have hasset' : event.assetId ∈ assets := hof.assetId ▸ hasset
  have hroom := length_lt_of_tracked hlimit h.tracked hasset'
  obtain ⟨buffer, pending, evicted, hreadings, hpending, hlatest, hevicted, hget, hresult⟩ :=
    ingest_own now hroom (h.not_late hof)
  rw [hof.assetId, hof.instant, h.buffered] at hreadings
  have hrecorded := readings_record hreadings hevent
  -- the measurement is new, and nothing is missing with it
  have hnone : pending.readings event.measurement = none := by
    rw [hreadings, hof.measurement, SampleEvents.readings, if_neg hnew]
  rw [applyReading_of_completes hnone ((missing_eq_nil_iff hrecorded).mpr hall)] at hget hresult
  refine ⟨pending.record event, hrecorded, ⟨tracked_ingest h.tracked hasset' hroom, ?_⟩, ?_⟩
  -- the instant of the sample becomes the latest one that was processed
  · refine ⟨event.timestamp, ?_, hof.instant⟩
    rw [← hof.assetId, latestProcessed, hget]
    rfl
  · rw [hresult, ← hof.assetId, ← hof.instant, reportedAbout_evicted hevicted]
    cases assemble event (pending.record event) with
    | error error => rfl
    | ok sample =>
        refine List.filter_eq_self.mpr fun o ho => ?_
        rw [List.mem_singleton.mp ho]
        exact decide_eq_true ⟨rfl, rfl⟩

/-- Once the sample is complete, its events are late. -/
theorem Finished.late (h : Finished events assets assembler)
    (hof : IsEventOf events.assetId events.instant m event) :
    ∃ outcome ∈ reportedAbout events.assetId events.instant
        (outcomesOf (ingest config assembler event now).2), outcome.reason? = some .late := by
  obtain ⟨last, hlast, hinstant⟩ := h.processed
  have hlatest : (bufferFor config assembler event.assetId now).1.latestProcessedTimestamp =
      some last := by
    rw [latest_bufferFor, hof.assetId, hlast]
  have hle : event.timestamp.instant ≤ last.instant := by rw [hof.instant, hinstant]
  obtain ⟨detail, hdetail⟩ : ∃ detail, (ingest config assembler event now).2 =
      .ok ((bufferFor config assembler event.assetId now).2.2 ++
        [.rejected event.assetId event.timestamp .late detail]) := by
    simp only [ingest, ingestInto, hlatest, if_pos hle]
    exact ⟨_, rfl⟩
  refine ⟨.rejected event.assetId event.timestamp .late detail, ?_, rfl⟩
  rw [hdetail, reportedAbout, List.mem_filter]
  exact ⟨List.mem_append_right _ List.mem_cons_self, decide_eq_true ⟨hof.assetId, hof.instant⟩⟩

end Progress

/-! ## A whole order of arrival -/

section Run

variable {config : AssemblerConfig F} {events : SampleEvents F} {assets : List String}
  {assembler : SampleAssembler F} {seen : List Measurement}
  {arrivals : List (TelemetryObservationEvent F × F)}

/-- What is reported about a sample by two parts of a run. -/
theorem reportedAbout_append (assetId : String) (instant : Instant)
    (outcomes outcomes' : List (AssemblyOutcome F)) :
    reportedAbout assetId instant (outcomes ++ outcomes') =
      reportedAbout assetId instant outcomes ++ reportedAbout assetId instant outcomes' :=
  List.filter_append _ _

/-- When all measurements have arrived, nothing more is reported about the sample. -/
theorem reportedAbout_of_finished (hlimit : assets.length ≤ config.maxAssets)
    (harrives : Arrives events assets seen arrivals)
    (hall : ∀ m, (events.event? m).isSome → m ∈ seen) (h : Finished events assets assembler) :
    (∀ arrival ∈ arrivals, arrival.1.assetId ≠ events.assetId) ∧
      Finished events assets (ingestAll config assembler arrivals).1 ∧
      reportedAbout events.assetId events.instant (ingestAll config assembler arrivals).2 = [] := by
  induction harrives generalizing assembler with
  | nil => exact ⟨fun _ hmem => absurd hmem List.not_mem_nil, h, rfl⟩
  | original hevent hnew _ _ =>
      exact absurd (hall _ (by rw [hevent]; rfl)) hnew
  | duplicate _ _ hincomplete _ _ _ _ =>
      obtain ⟨r, hr⟩ := hincomplete
      exact absurd (hall (.required r) rfl) hr
  | other hother htracked _ ih =>
      obtain ⟨hfinished, hreported⟩ := h.other hlimit hother htracked
      obtain ⟨hothers, hafter, hrest⟩ := ih hall hfinished
      refine ⟨List.forall_mem_cons.mpr ⟨hother, hothers⟩, hafter, ?_⟩
      rw [ingestAll, reportedAbout_append, hreported, hrest, List.append_nil]

/-- The last required measurement completes the sample: what is reported about it before is quiet,
and nothing is reported after. -/
structure CompletesAt (config : AssemblerConfig F) (events : SampleEvents F) (assets : List String)
    (assembler : SampleAssembler F) (arrivals : List (TelemetryObservationEvent F × F))
    (last : FeatureMeasurement) (recorded : PendingSample F) : Prop where
  at_last : ∃ (before after : List (TelemetryObservationEvent F × F)) (now : F),
    arrivals = before ++ (events.required last, now) :: after ∧
      ∀ arrival ∈ after, arrival.1.assetId ≠ events.assetId
  recorded_eq : recorded.readings = fun m => (events.event? m).map readingOf
  finished : Finished events assets (ingestAll config assembler arrivals).1
  reported : ∃ quiet : List (AssemblyOutcome F), Quiet quiet ∧
    reportedAbout events.assetId events.instant (ingestAll config assembler arrivals).2 =
      quiet ++ outcomesOf ((assemble (events.required last) recorded).map fun sample =>
        [.complete (events.required last).assetId (events.required last).timestamp sample])

/-- A quiet event before the others changes nothing of this. -/
theorem CompletesAt.cons {event : TelemetryObservationEvent F} {now : F} {last : FeatureMeasurement}
    {recorded : PendingSample F}
    (hquiet : Quiet (reportedAbout events.assetId events.instant
      (outcomesOf (ingest config assembler event now).2)))
    (h : CompletesAt config events assets (ingest config assembler event now).1 arrivals last
      recorded) :
    CompletesAt config events assets assembler ((event, now) :: arrivals) last recorded where
  at_last := by
    obtain ⟨before, after, now', harrivals, hafter⟩ := h.at_last
    exact ⟨(event, now) :: before, after, now', by rw [harrivals]; rfl, hafter⟩
  recorded_eq := h.recorded_eq
  finished := h.finished
  reported := by
    obtain ⟨quiet, hrest, hreported⟩ := h.reported
    refine ⟨_, fun o ho => (List.mem_append.mp ho).elim (hquiet o) (hrest o), ?_⟩
    rw [ingestAll, reportedAbout_append, hreported, List.append_assoc]

/-- A run of a sample without an efficiency: the last required measurement completes it. -/
theorem exists_completesAt (hlimit : assets.length ≤ config.maxAssets)
    (hasset : events.assetId ∈ assets) (hnone : events.efficiency = none)
    (harrives : Arrives events assets seen arrivals)
    (hincomplete : ∃ r, Measurement.required r ∉ seen)
    (h : Progress events assets assembler seen) :
    ∃ last recorded, CompletesAt config events assets assembler arrivals last recorded := by
  -- by induction on the arrivals: quiet ones are put in front of the rest, and the one that makes
  -- the sample complete ends the induction
  induction harrives generalizing assembler with
  | nil hall =>
      obtain ⟨r, hr⟩ := hincomplete
      exact absurd (hall (.required r) rfl) hr
  | duplicate horiginal hseen _ hof hvalue _ ih =>
      obtain ⟨hprogress, hquiet⟩ := h.duplicate hlimit hasset horiginal hseen hof hvalue
      obtain ⟨last, recorded, hrest⟩ := ih hincomplete hprogress
      exact ⟨last, recorded, hrest.cons hquiet⟩
  | other hother htracked _ ih =>
      obtain ⟨hprogress, hreported⟩ := h.other hlimit hother htracked
      obtain ⟨last, recorded, hrest⟩ := ih hincomplete hprogress
      refine ⟨last, recorded, hrest.cons ?_⟩
      rw [hreported]
      exact fun _ hmem => absurd hmem List.not_mem_nil
  | @original seen m event now rest hevent hnew hrest ih =>
      by_cases hmore : ∃ r, Measurement.required r ∉ m :: seen
      · obtain ⟨hprogress, hquiet⟩ := h.original hlimit hasset hevent hnew hmore
        obtain ⟨last, recorded, hrest⟩ := ih hmore hprogress
        exact ⟨last, recorded, hrest.cons hquiet⟩
      · -- all required measurements are there, and there is no efficiency
        have hall : ∀ r, Measurement.required r ∈ m :: seen := by
          simpa only [not_exists, not_not] using hmore
        obtain ⟨last, rfl⟩ : ∃ last, m = .required last := by
          cases m with
          | required last => exact ⟨last, rfl⟩
          | efficiency =>
              rw [SampleEvents.event?, hnone] at hevent
              cases hevent
        obtain rfl : events.required last = event := Option.some.inj hevent
        obtain ⟨recorded, hrecorded, hfinished, hreported⟩ :=
          h.complete hlimit hasset hevent hnew hall
        have hall' : ∀ m', (events.event? m').isSome → m' ∈ Measurement.required last :: seen := by
          intro m' hsome
          cases m' with
          | required r => exact hall r
          | efficiency =>
              rw [SampleEvents.event?, hnone] at hsome
              cases hsome
        obtain ⟨hothers, hafter, hnothing⟩ := reportedAbout_of_finished hlimit hrest hall' hfinished
        refine ⟨last, recorded, ⟨⟨[], rest, now, rfl, hothers⟩, ?_, hafter, [], ?_, ?_⟩⟩
        · rw [hrecorded]
          funext m'
          rw [SampleEvents.readings]
          split_ifs with hmem
          · rfl
          · cases hevent' : events.event? m' with
            | none => rfl
            | some event' => exact absurd (hall' m' (by rw [hevent']; rfl)) hmem
        · exact fun _ hmem => absurd hmem List.not_mem_nil
        · rw [ingestAll, reportedAbout_append, hreported, hnothing, List.append_nil,
            List.nil_append]

end Run

/-! ## Which samples depend on the order -/

/-- The assembler waits for the sample: nothing of it is buffered, a later one was not completed,
and its asset can be tracked. -/
structure Awaits (config : AssemblerConfig F) (assembler : SampleAssembler F)
    (events : SampleEvents F) : Prop where
  follows : ∀ last, latestProcessed assembler events.assetId = some last →
    last.instant < events.instant
  empty : bufferedAt assembler events.assetId events.instant = fun _ => none
  bounded : assembler.length ≤ config.maxAssets
  room : assembler.get? events.assetId = none → assembler.length < config.maxAssets

/-- Results get one id exactly if the timestamps of their samples are written alike. -/
theorem sameResultId_iff {sample sample' : TelemetrySample F}
    (hasset : sample.assetId = sample'.assetId) :
    SameResultId sample sample' ↔ sample.timestamp.isoformat = sample'.timestamp.isoformat := by
  constructor
  · intro h
    have hid := h id
      { status := .warmingUp, assetId := sample.assetId, timestamp := sample.timestamp }
      { status := .warmingUp, assetId := sample'.assetId, timestamp := sample'.timestamp }
      (.utc 0) (.utc 0) rfl rfl rfl rfl rfl rfl
    have hname : "fault_inference.v1" ++ "|" ++ sample.assetId ++ "|" ++
          sample.timestamp.isoformat ++ "|" ++ "" ++ "|" ++ "warming_up" =
        "fault_inference.v1" ++ "|" ++ sample'.assetId ++ "|" ++
          sample'.timestamp.isoformat ++ "|" ++ "" ++ "|" ++ "warming_up" := hid
    rw [hasset] at hname
    simpa [String.append_assoc] using hname
  · intro hiso uuid5 result result' now now' ha ht ha' ht' hstatus hmodel
    simp only [buildResultEvent, ha, ht, ha', ht', hstatus, hmodel, hasset, hiso]

section Main

variable {config : AssemblerConfig F} {events : SampleEvents F} {assets : List String}
  {assembler : SampleAssembler F} {arrivals : List (TelemetryObservationEvent F × F)}

/-- An assembler that waits for a sample has it in progress, with nothing seen. -/
theorem Awaits.progress (h : Awaits config assembler events)
    (htracked : ∀ entry ∈ assembler.items, entry.1 ∈ assets) :
    Progress events assets assembler [] where
  tracked := htracked
  follows := h.follows
  buffered := by
    rw [h.empty]
    funext m
    exact (if_neg List.not_mem_nil).symm

/-- The run of an order of arrival, where there is no efficiency. -/
theorem Awaits.completesAt (h : Awaits config assembler events) (hnone : events.efficiency = none)
    (horder : IsArrivalOrder config assembler events arrivals) :
    ∃ assets last recorded, CompletesAt config events assets assembler arrivals last recorded := by
  obtain ⟨assets, hlimit, htracked, hasset, harrives⟩ := horder
  exact ⟨assets, exists_completesAt hlimit hasset hnone harrives ⟨.voltage, List.not_mem_nil⟩
    (h.progress htracked)⟩

/-- With all its events, nothing of a sample is missing. -/
theorem missing_of_readings {recorded : PendingSample F}
    (h : recorded.readings = fun m => (events.event? m).map readingOf) : recorded.missing = [] := by
  rw [PendingSample.missing, List.filter_eq_nil_iff]
  intro m _
  rw [h]
  exact Bool.false_ne_true

/-- A sample that is completed is the one that is yielded. -/
theorem CompletesAt.assemble_of_yields {last : FeatureMeasurement} {recorded : PendingSample F}
    {sample : TelemetrySample F}
    (h : CompletesAt config events assets assembler arrivals last recorded)
    (hyields : Yields events (ingestAll config assembler arrivals).2 sample) :
    assemble (events.required last) recorded = .ok sample := by
  obtain ⟨quiet, hquiet, hreported⟩ := h.reported
  have honce := hyields.once
  have hnothing : quiet.filterMap AssemblyOutcome.sample? = [] :=
    List.filterMap_eq_nil_iff.mpr fun o ho => (hquiet o ho).1
  rw [hreported, List.filterMap_append, hnothing, List.nil_append] at honce
  cases hassemble : assemble (events.required last) recorded with
  | error error =>
      rw [hassemble] at honce
      cases honce
  | ok sample' =>
      rw [hassemble] at honce
      rw [(List.cons.inj honce).1]

/-- A sample that can be built is yielded. -/
theorem CompletesAt.yields {last : FeatureMeasurement} {recorded : PendingSample F}
    {sample : TelemetrySample F}
    (h : CompletesAt config events assets assembler arrivals last recorded)
    (hassemble : assemble (events.required last) recorded = .ok sample) :
    Yields events (ingestAll config assembler arrivals).2 sample := by
  obtain ⟨quiet, hquiet, hreported⟩ := h.reported
  rw [hassemble] at hreported
  obtain ⟨hof, hefficiency⟩ := of_assemble_complete (missing_of_readings h.recorded_eq) hassemble
  refine ⟨?_, ?_, fun m => ?_, ?_⟩
  -- one complete sample is reported
  · have hnothing : quiet.filterMap AssemblyOutcome.sample? = [] :=
      List.filterMap_eq_nil_iff.mpr fun o ho => (hquiet o ho).1
    rw [hreported, List.filterMap_append, hnothing]
    rfl
  -- nothing is rejected, before or with it
  · rw [hreported]
    intro o ho
    rcases List.mem_append.mp ho with ho | ho
    · exact (hquiet o ho).2
    · rw [List.mem_singleton.mp ho]
      rfl
  -- its values are those of the events
  · have hvalue := hof.values m
    rw [h.recorded_eq] at hvalue
    exact (Option.some.inj hvalue).symm
  · rw [hefficiency, h.recorded_eq]
    exact Option.map_map _ _ _

/-- The required measurements, one after the other. -/
def SampleEvents.requiredArrivals (events : SampleEvents F) (ms : List FeatureMeasurement) :
    List (TelemetryObservationEvent F × F) :=
  ms.map fun m => (events.required m, PyFloat.literal 0)

/-- Required measurements that have not arrived may arrive in any order. -/
theorem arrives_requiredArrivals {tail : List (TelemetryObservationEvent F × F)} :
    ∀ {ms : List FeatureMeasurement} {seen : List Measurement}, ms.Nodup →
      (∀ m ∈ ms, Measurement.required m ∉ seen) →
      Arrives events assets ((ms.map Measurement.required).reverse ++ seen) tail →
        Arrives events assets seen (events.requiredArrivals ms ++ tail)
  | [], _, _, _, htail => htail
  | m :: ms, seen, hnodup, hnew, htail => by
      obtain ⟨hm, hms⟩ := List.nodup_cons.mp hnodup
      obtain ⟨hfirst, hothers⟩ := List.forall_mem_cons.mp hnew
      refine .original (m := .required m) rfl hfirst (arrives_requiredArrivals hms ?_ ?_)
      · intro m' hm' hmem
        rcases List.mem_cons.mp hmem with heq | hmem
        · cases heq
          exact hm hm'
        · exact hothers m' hm' hmem
      · rw [List.map_cons, List.reverse_cons, List.append_assoc] at htail
        exact htail

/-- An assembler that waits for a sample takes its events in any order. -/
theorem Awaits.isArrivalOrder (h : Awaits config assembler events)
    (harrives : ∀ assets, Arrives events assets [] arrivals) :
    IsArrivalOrder config assembler events arrivals := by
  cases hget : assembler.get? events.assetId with
  | none =>
      refine ⟨events.assetId :: assembler.items.map Prod.fst, ?_, ?_, List.mem_cons_self,
        harrives _⟩
      · rw [List.length_cons, List.length_map]
        exact h.room hget
      · exact fun entry hentry => List.mem_cons_of_mem _ (List.mem_map_of_mem hentry)
  | some buffer =>
      refine ⟨assembler.items.map Prod.fst, ?_, ?_, ?_, harrives _⟩
      · rw [List.length_map]
        exact h.bounded
      · exact fun entry hentry => List.mem_map_of_mem hentry
      · obtain ⟨key, hmem, hident⟩ := OrderedDict.get?_eq_some_iff.mp hget
        exact List.mem_map.mpr ⟨_, hmem, hident⟩

/-- An order in which a given required measurement is the last one. -/
def orderEndingIn (last : FeatureMeasurement) : List FeatureMeasurement :=
  defaultMeasurements.erase last ++ [last]

/-- Every required measurement is in the order. -/
theorem mem_orderEndingIn (last m : FeatureMeasurement) : m ∈ orderEndingIn last := by
  cases last <;> cases m <;> decide

/-- No measurement is in the order twice. -/
theorem nodup_orderEndingIn (last : FeatureMeasurement) : (orderEndingIn last).Nodup := by
  cases last <;> decide

/-- The required measurements arrive, the given one last. -/
theorem Awaits.isArrivalOrder_endingIn (h : Awaits config assembler events)
    (hnone : events.efficiency = none) (last : FeatureMeasurement) :
    IsArrivalOrder config assembler events (events.requiredArrivals (orderEndingIn last)) := by
  refine h.isArrivalOrder fun assets => ?_
  rw [← List.append_nil (events.requiredArrivals _)]
  refine arrives_requiredArrivals (nodup_orderEndingIn last) (fun _ _ => List.not_mem_nil)
    (.nil fun m hsome => ?_)
  cases m with
  | required m =>
      exact List.mem_append_left _
        (List.mem_reverse.mpr (List.mem_map_of_mem (mem_orderEndingIn last m)))
  | efficiency =>
      rw [SampleEvents.event?, hnone] at hsome
      cases hsome

/-- In an order that ends with a required measurement, this one completes the sample. -/
theorem CompletesAt.last_eq {last last' : FeatureMeasurement} {recorded : PendingSample F}
    (h : CompletesAt config events assets assembler (events.requiredArrivals (orderEndingIn last))
      last' recorded) : events.required last' = events.required last := by
  obtain ⟨before, after, now, harrivals, hafter⟩ := h.at_last
  have hsplit : events.requiredArrivals (orderEndingIn last) =
      events.requiredArrivals (defaultMeasurements.erase last) ++
        [(events.required last, PyFloat.literal 0)] := by
    rw [SampleEvents.requiredArrivals, orderEndingIn, List.map_append]
    rfl
  rw [hsplit] at harrivals
  rcases List.eq_nil_or_concat after with rfl | ⟨front, arrival, rfl⟩
  · have hlast := (List.append_inj' harrivals rfl).2
    exact (Prod.mk.inj (List.cons.inj hlast).1).1.symm
  · -- nothing of the asset comes after the last required measurement
    rw [List.concat_eq_append, ← List.cons_append, ← List.append_assoc] at harrivals
    have hlast := (List.cons.inj (List.append_inj' harrivals rfl).2).1
    exact absurd (hlast ▸ (events.required_of last).assetId) (hafter arrival (by simp))

/-- Runs are put together. -/
theorem ingestAll_append (first second : List (TelemetryObservationEvent F × F)) :
    (ingestAll config assembler (first ++ second)).2 =
      (ingestAll config assembler first).2 ++
        (ingestAll config (ingestAll config assembler first).1 second).2 := by
  induction first generalizing assembler with
  | nil => rfl
  | cons arrival first ih =>
      rw [List.cons_append, ingestAll, ingestAll, ih, List.append_assoc]

/-- An efficiency that comes last is rejected. -/
theorem Awaits.exists_rejected (h : Awaits config assembler events)
    {event : TelemetryObservationEvent F} (hsome : events.efficiency = some event) :
    ∃ arrivals, IsArrivalOrder config assembler events arrivals ∧
      ∃ outcome ∈ reportedAbout events.assetId events.instant
        (ingestAll config assembler arrivals).2, outcome.reason? ≠ none := by
  let required := events.requiredArrivals (orderEndingIn .voltage)
  -- the events without the efficiency complete the sample
  let others : SampleEvents F :=
    { events with efficiency := none, efficiency_of := fun e h => absurd h (Option.not_mem_none e) }
  have hothers : Awaits config assembler others := ⟨h.follows, h.empty, h.bounded, h.room⟩
  obtain ⟨assets, last, recorded, hcompletes⟩ :=
    hothers.completesAt rfl (hothers.isArrivalOrder_endingIn rfl .voltage)
  refine ⟨required ++ [(event, PyFloat.literal 0)], h.isArrivalOrder fun assets => ?_, ?_⟩
  · refine arrives_requiredArrivals (nodup_orderEndingIn .voltage) (fun _ _ => List.not_mem_nil)
      (.original (m := .efficiency) hsome (by simp) (.nil fun m hm => ?_))
    cases m with
    | required m =>
        exact List.mem_cons_of_mem _ (List.mem_append_left _
          (List.mem_reverse.mpr (List.mem_map_of_mem (mem_orderEndingIn .voltage m))))
    | efficiency => exact List.mem_cons_self
  -- the efficiency finds the sample complete, and is late
  · have hfinished : Finished events assets (ingestAll config assembler required).1 :=
      ⟨hcompletes.finished.tracked, hcompletes.finished.processed⟩
    obtain ⟨outcome, hmem, hreason⟩ : ∃ outcome ∈ reportedAbout events.assetId events.instant
        (outcomesOf (ingest config (ingestAll config assembler required).1 event
          (PyFloat.literal 0)).2), outcome.reason? = some .late :=
      hfinished.late (events.efficiency_of event hsome)
    refine ⟨outcome, ?_, by rw [hreason]; exact Option.some_ne_none _⟩
    rw [ingestAll_append, reportedAbout_append]
    refine List.mem_append_right _ ?_
    rw [ingestAll, reportedAbout_append]
    exact List.mem_append_left _ hmem

/-- The sample does not depend on the order of arrival exactly if there is no efficiency, all events
of required measurements have an id, and they write the instant alike. -/
theorem orderIndependent_iff (h : Awaits config assembler events) :
    OrderIndependent config assembler events ↔
      events.efficiency = none ∧ (∀ m, (events.required m).eventId ≠ "") ∧
        ∀ m m',
          (events.required m).timestamp.isoformat = (events.required m').timestamp.isoformat := by
  constructor
  · intro hindependent
    have hnone : events.efficiency = none := by
      rw [Option.eq_none_iff_forall_ne_some]
      intro event hsome
      obtain ⟨arrivals, horder, outcome, hmem, hreason⟩ := h.exists_rejected hsome
      obtain ⟨sample, hyields⟩ := hindependent.yields arrivals horder
      exact hreason (hyields.notRejected outcome hmem)
    -- an order for each required measurement as the last one
    have hlast : ∀ m, ∃ sample recorded, Yields events
        (ingestAll config assembler (events.requiredArrivals (orderEndingIn m))).2 sample ∧
        assemble (events.required m) recorded = .ok sample ∧
        recorded.readings = fun m => (events.event? m).map readingOf := by
      intro m
      have horder := h.isArrivalOrder_endingIn hnone m
      obtain ⟨assets, last, recorded, hcompletes⟩ := h.completesAt hnone horder
      obtain ⟨sample, hyields⟩ := hindependent.yields _ horder
      have hassemble := hcompletes.assemble_of_yields hyields
      rw [hcompletes.last_eq] at hassemble
      exact ⟨sample, recorded, hyields, hassemble, hcompletes.recorded_eq⟩
    -- each event is the last one of some order, so it has to have an id, and to write the instant
    -- as the last event of any other order does
    refine ⟨hnone, fun m => ?_, fun m m' => ?_⟩
    · obtain ⟨sample, recorded, -, hassemble, hrecorded⟩ := hlast m
      refine (exists_assemble_iff (events.required m) (missing_of_readings hrecorded)).mp
        ⟨sample, hassemble⟩ (.required m) (readingOf (events.required m)) ?_
      rw [hrecorded]
      rfl
    · obtain ⟨sample, recorded, hyields, hassemble, -⟩ := hlast m
      obtain ⟨sample', recorded', hyields', hassemble', -⟩ := hlast m'
      obtain ⟨hasset, htimestamp⟩ := of_assemble hassemble
      obtain ⟨hasset', htimestamp'⟩ := of_assemble hassemble'
      have hsame := hindependent.sameResultId _ _ _ _ (h.isArrivalOrder_endingIn hnone m)
        (h.isArrivalOrder_endingIn hnone m') hyields hyields'
      rw [sameResultId_iff, htimestamp, htimestamp'] at hsame
      · exact hsame
      · rw [hasset, hasset', (events.required_of m).assetId, (events.required_of m').assetId]
  · rintro ⟨hnone, hids, hiso⟩
    -- with ids on all events, the sample that is complete can be built
    have hbuilt {assets : List String} {arrivals : List (TelemetryObservationEvent F × F)}
        {last : FeatureMeasurement} {recorded : PendingSample F}
        (hcompletes : CompletesAt config events assets assembler arrivals last recorded) :
        ∃ sample, assemble (events.required last) recorded = .ok sample := by
      rw [exists_assemble_iff _ (missing_of_readings hcompletes.recorded_eq)]
      intro m reading hreading
      rw [hcompletes.recorded_eq] at hreading
      cases m with
      | required m => exact Option.some.inj hreading ▸ hids m
      | efficiency =>
          have hreading' : (events.event? .efficiency).map readingOf = some reading := hreading
          rw [SampleEvents.event?, hnone] at hreading'
          cases hreading'
    refine ⟨fun arrivals horder => ?_, fun arrivals arrivals' sample sample' horder horder' hyields
      hyields' => ?_⟩
    · obtain ⟨assets, last, recorded, hcompletes⟩ := h.completesAt hnone horder
      obtain ⟨sample, hassemble⟩ := hbuilt hcompletes
      exact ⟨sample, hcompletes.yields hassemble⟩
    · obtain ⟨assets, last, recorded, hcompletes⟩ := h.completesAt hnone horder
      obtain ⟨assets', last', recorded', hcompletes'⟩ := h.completesAt hnone horder'
      obtain ⟨hasset, htimestamp⟩ := of_assemble (hcompletes.assemble_of_yields hyields)
      obtain ⟨hasset', htimestamp'⟩ := of_assemble (hcompletes'.assemble_of_yields hyields')
      rw [sameResultId_iff, htimestamp, htimestamp']
      · exact hiso last last'
      · rw [hasset, hasset', (events.required_of last).assetId, (events.required_of last').assetId]

end Main

/-! ## A sample with an efficiency -/

/-- An event of `stack-1` at the epoch. -/
def stackEvent (m : Measurement) (value : ℚ) : TelemetryObservationEvent ℚ where
  eventId := m.name
  assetId := "stack-1"
  timestamp := .utc 0
  measurement := m
  value := ⟨value, rfl⟩
  assetId_ne := stack1_ne_empty

/-- The events of `stack-1`, with or without an efficiency. -/
def stackEvents (efficiency : Option ℚ) : SampleEvents ℚ where
  assetId := "stack-1"
  instant := 0
  required m := stackEvent (.required m) 1
  efficiency := efficiency.map (stackEvent .efficiency)
  required_of _ := ⟨rfl, rfl, rfl⟩
  efficiency_of event hevent := by
    obtain ⟨value, -, rfl⟩ := Option.map_eq_some_iff.mp hevent
    exact ⟨rfl, rfl, rfl⟩

/-- An assembler with room for many assets. -/
def stackConfig : AssemblerConfig ℚ where
  timeoutSeconds := 30
  maxBuffered := 100
  maxAssets := 1000
  maxBuffered_pos := by decide
  maxAssets_pos := by decide

/-- An empty assembler waits for the events of `stack-1`. -/
theorem awaits_stackEvents (efficiency : Option ℚ) :
    Awaits stackConfig .empty (stackEvents efficiency) where
  follows _ h := absurd h (Option.some_ne_none _).symm
  empty := rfl
  bounded := Nat.zero_le _
  room _ := Nat.zero_lt_succ _

/-- Without an efficiency, and with one way to write the instant, the order does not matter. -/
theorem orderIndependent_stackEvents :
    OrderIndependent stackConfig .empty (stackEvents none) :=
  (orderIndependent_iff (awaits_stackEvents none)).mpr
    ⟨rfl, fun m => by cases m <;> decide, fun _ _ => rfl⟩

/-- An efficiency that comes after the required measurements is rejected. -/
theorem not_orderIndependent_stackEvents :
    ¬ OrderIndependent stackConfig .empty (stackEvents (some 50)) := by
  intro h
  obtain ⟨arrivals, horder, outcome, hmem, hreason⟩ :=
    (awaits_stackEvents (some 50)).exists_rejected rfl
  obtain ⟨sample, hyields⟩ := h.yields arrivals horder
  exact hreason (hyields.notRejected outcome hmem)

end Odis.InferenceWorker
