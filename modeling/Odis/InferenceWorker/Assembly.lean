import Odis.Inference.Telemetry
import Odis.Library.OrderedDict

/-!
# Sample assembly

`SampleAssembler` (`inference_worker/assembly.py`): telemetry arrives one measurement at a time,
and a complete sample is assembled for each asset and instant. The state is an ordered dictionary
of asset buffers, each with an ordered dictionary of the samples in progress; both are bounded, and
what is evicted, times out, conflicts or comes late is reported as rejected.

`ingest` returns the state also when it raises: the in-progress sample is removed, and its instant
recorded as processed, before the observations are built.
-/

namespace Odis.InferenceWorker

open Features Inference

variable {F : Type} [PyFloat F]

/-- A validated telemetry event, as far as it is assembled: its unit is the canonical unit of its
measurement, its value finite and its asset not empty. -/
structure TelemetryObservationEvent (F : Type) [PyFloat F] where
  eventId : String
  assetId : String
  timestamp : Datetime
  measurement : Measurement
  value : FiniteValue F
  assetId_ne : assetId ≠ ""

/-- The reasons an in-progress sample, or an event, is rejected for. -/
inductive AssemblyReason where
  | incompleteTimeout
  | conflictingDuplicate
  | late
  deriving DecidableEq, Repr

/-- The text of a reason. -/
def AssemblyReason.value : AssemblyReason → String
  | incompleteTimeout => "incomplete_timeout"
  | conflictingDuplicate => "conflicting_duplicate"
  | late => "late"

/-- `AssemblyOutcome`, with the fields its status has. -/
inductive AssemblyOutcome (F : Type) [PyFloat F] where
  | pending (assetId : String) (sourceTimestamp : Datetime)
  | complete (assetId : String) (sourceTimestamp : Datetime) (sample : TelemetrySample F)
  | rejected (assetId : String) (sourceTimestamp : Datetime) (reason : AssemblyReason)
      (detail : String)

/-- The sample of a complete outcome. -/
def AssemblyOutcome.sample? : AssemblyOutcome F → Option (TelemetrySample F)
  | .complete _ _ sample => some sample
  | _ => none

/-- What is buffered of one measurement. -/
structure BufferedReading (F : Type) [PyFloat F] where
  value : FiniteValue F
  eventId : String

/-- `_PendingSample`: a sample in progress. Units are canonical, so they are not stored. -/
structure PendingSample (F : Type) [PyFloat F] where
  readings : Measurement → Option (BufferedReading F)
  firstSeenMonotonic : F

/-- A sample before its first reading. -/
def PendingSample.fresh (now : F) : PendingSample F := ⟨fun _ => none, now⟩

/-- The reading of an event is buffered. -/
def PendingSample.record (pending : PendingSample F) (event : TelemetryObservationEvent F) :
    PendingSample F :=
  { pending with
    readings := fun m =>
      if m = event.measurement then some ⟨event.value, event.eventId⟩ else pending.readings m }

/-- `REQUIRED_MEASUREMENTS` not buffered yet. -/
def PendingSample.missing (pending : PendingSample F) : List FeatureMeasurement :=
  defaultMeasurements.filter fun m => (pending.readings (.required m)).isNone

/-- The samples in progress of an asset, by instant. -/
abbrev PendingSamples (F : Type) [PyFloat F] : Type :=
  OrderedDict Datetime.instant (PendingSample F)

/-- `_AssetBuffer`. -/
structure AssetBuffer (F : Type) [PyFloat F] where
  pending : PendingSamples F
  latestProcessedTimestamp : Option Datetime
  lastActiveMonotonic : F

/-- The buffer of an asset met for the first time. -/
def AssetBuffer.fresh (now : F) : AssetBuffer F := ⟨.empty, none, now⟩

/-- The configuration of an assembler. Its limits are positive, as the settings check. -/
structure AssemblerConfig (F : Type) where
  timeoutSeconds : F
  maxBuffered : ℕ
  maxAssets : ℕ
  maxBuffered_pos : 1 ≤ maxBuffered
  maxAssets_pos : 1 ≤ maxAssets

/-- The state of an assembler: the buffers of the tracked assets, the least recently active
first. -/
abbrev SampleAssembler (F : Type) [PyFloat F] : Type :=
  OrderedDict (id : String → String) (AssetBuffer F)

/-- The exceptions of `ingest`, from building the observations and the sample. -/
inductive AssemblyError (F : Type) where
  | observation (field : EmptyField)
  | sample (error : SampleError F)

/-- `sorted(missing)`, written as a Python list. -/
def missingText (pending : PendingSample F) : String :=
  let names := (pending.missing.map FeatureMeasurement.name).mergeSort fun a b => a ≤ b
  "[" ++ ", ".intercalate (names.map fun name => "'" ++ name ++ "'") ++ "]"

/-- The rejection of an in-progress sample that is given up. -/
def incompleteOutcome (assetId cause : String) (entry : Datetime × PendingSample F) :
    AssemblyOutcome F :=
  .rejected assetId entry.1 .incompleteTimeout (cause ++ missingText entry.2)

/-- `_buffer_for`: the buffer of an asset, which becomes the most recently active one. A new
asset takes the place of the least recently active one where there are `max_tracked_assets`. -/
def bufferFor (config : AssemblerConfig F) (buffers : SampleAssembler F) (assetId : String)
    (now : F) : AssetBuffer F × SampleAssembler F × List (AssemblyOutcome F) :=
  match buffers.get? assetId with
  | some buffer => (buffer, buffers.moveToEnd assetId, [])
  | none =>
      let (kept, evicted) :=
        if config.maxAssets ≤ buffers.length then
          -- the first buffer is the one that has been inactive for the longest time
          match buffers.popFirst with
          | some ((evictedAssetId, evictedBuffer), kept) =>
            (kept, evictedBuffer.pending.items.map (incompleteOutcome evictedAssetId
              "asset session evicted to stay within max_tracked_assets; missing measurement(s): "))
          | none => (buffers, [])
        else (buffers, [])
      (.fresh now, kept.set assetId (.fresh now), evicted)

/-- `_make_room`: the oldest sample in progress is given up where there are
`max_buffered_timestamps_per_asset`. -/
def makeRoom (config : AssemblerConfig F) (pending : PendingSamples F) (assetId : String) :
    PendingSamples F × List (AssemblyOutcome F) :=
  if pending.length < config.maxBuffered then (pending, [])
  else
    match pending.popFirst with
    | some (oldest, kept) =>
        (kept, [incompleteOutcome assetId
          "evicted to stay within max_buffered_timestamps_per_asset; missing measurement(s): "
          oldest])
    | none => (pending, [])

/-- The in-progress sample of an event's instant, opened if there is none. -/
def pendingFor (config : AssemblerConfig F) (buffer : AssetBuffer F)
    (event : TelemetryObservationEvent F) (now : F) :
    PendingSample F × AssetBuffer F × List (AssemblyOutcome F) :=
  match buffer.pending.get? event.timestamp with
  | some pending => (pending, buffer, [])
  | none =>
      let (kept, evicted) := makeRoom config buffer.pending event.assetId
      (.fresh now, { buffer with pending := kept.set event.timestamp (.fresh now) }, evicted)

/-- The observations of a complete sample, in `_MEASUREMENT_ORDER`. -/
def observationsOf (event : TelemetryObservationEvent F) (pending : PendingSample F) :
    Except EmptyField (List (Observation F)) :=
  (Measurement.order.filterMap fun m => (pending.readings m).map (m, ·)).mapM
    fun (m, reading) => Observation.create reading.eventId event.assetId event.timestamp m.name
      (reading.value : F) m.canonicalUnit

/-- The sample of a complete in-progress sample. -/
def assemble (event : TelemetryObservationEvent F) (pending : PendingSample F) :
    Except (AssemblyError F) (TelemetrySample F) := do
  let observations ← (observationsOf event pending).mapError .observation
  (TelemetrySample.fromObservations observations).mapError .sample

/-- A reading enters an in-progress sample that has none of its measurement; the last required
one completes it. -/
def addReading (buffer : AssetBuffer F) (pending : PendingSample F)
    (event : TelemetryObservationEvent F) :
    AssetBuffer F × Except (AssemblyError F) (AssemblyOutcome F) :=
  let recorded := pending.record event
  if recorded.missing ≠ [] then
    ({ buffer with pending := buffer.pending.set event.timestamp recorded },
      .ok (.pending event.assetId event.timestamp))
  else
    ({ buffer with
        pending := buffer.pending.erase event.timestamp
        latestProcessedTimestamp := some event.timestamp },
      (assemble event recorded).map (.complete event.assetId event.timestamp))

/-- What an event does to the in-progress sample of its instant: a duplicate changes nothing, a
conflict gives the sample up, a new reading is added. -/
def applyReading (buffer : AssetBuffer F) (pending : PendingSample F)
    (event : TelemetryObservationEvent F) :
    AssetBuffer F × Except (AssemblyError F) (AssemblyOutcome F) :=
  match pending.readings event.measurement with
  | some existing =>
      if (existing.value : F) == event.value then
        (buffer, .ok (.pending event.assetId event.timestamp))
      else
        ({ buffer with pending := buffer.pending.erase event.timestamp },
          .ok (.rejected event.assetId event.timestamp .conflictingDuplicate
            ("measurement '" ++ event.measurement.name ++
              "' conflicts with an already-buffered value for this asset/timestamp")))
  | none => addReading buffer pending event

/-- What an event that is not late does to the buffer of its asset. -/
def ingestAccepted (config : AssemblerConfig F) (buffer : AssetBuffer F)
    (event : TelemetryObservationEvent F) (now : F) :
    AssetBuffer F × Except (AssemblyError F) (List (AssemblyOutcome F)) :=
  let (pending, opened, evicted) := pendingFor config buffer event now
  let (applied, outcome) := applyReading opened pending event
  (applied, outcome.map fun outcome => evicted ++ [outcome])

/-- What an event does to the buffer of its asset. -/
def ingestInto (config : AssemblerConfig F) (buffer : AssetBuffer F)
    (event : TelemetryObservationEvent F) (now : F) :
    AssetBuffer F × Except (AssemblyError F) (List (AssemblyOutcome F)) :=
  match buffer.latestProcessedTimestamp with
  | some latest =>
      if event.timestamp.instant ≤ latest.instant then
        (buffer, .ok [.rejected event.assetId event.timestamp .late
          ("timestamp " ++ event.timestamp.isoformat ++
            " does not follow the asset's last processed sample " ++ latest.isoformat)])
      else ingestAccepted config buffer event now
  | none => ingestAccepted config buffer event now

/-- `SampleAssembler.ingest`. -/
def ingest (config : AssemblerConfig F) (assembler : SampleAssembler F)
    (event : TelemetryObservationEvent F) (now : F) :
    SampleAssembler F × Except (AssemblyError F) (List (AssemblyOutcome F)) :=
  let (buffer, buffers, evicted) := bufferFor config assembler event.assetId now
  let (buffer, outcomes) := ingestInto config { buffer with lastActiveMonotonic := now } event now
  (buffers.set event.assetId buffer, outcomes.map (evicted ++ ·))

/-- The in-progress sample is as old as the timeout. -/
def expired (config : AssemblerConfig F) (now : F) (entry : Datetime × PendingSample F) : Bool :=
  config.timeoutSeconds ≤ now - entry.2.firstSeenMonotonic

/-- `SampleAssembler.sweep_timeouts`. -/
def sweepTimeouts (config : AssemblerConfig F) (assembler : SampleAssembler F) (now : F) :
    SampleAssembler F × List (AssemblyOutcome F) :=
  (assembler.map fun buffer =>
      { buffer with pending := buffer.pending.filter fun entry => !expired config now entry },
    assembler.items.flatMap fun (assetId, buffer) =>
      (buffer.pending.items.filter (expired config now)).map
        (incompleteOutcome assetId "missing measurement(s) after timeout: "))

end Odis.InferenceWorker
