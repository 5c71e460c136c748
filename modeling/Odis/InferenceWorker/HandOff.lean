import Odis.Inference.Parity
import Odis.InferenceWorker.Completion
import Odis.Library.Transducer

/-!
# From the assembler to the sessions

The worker gives every sample the assembler completes to the session of its asset, which refuses a
sample that does not follow its last one. The assembler rejects late events for the same reason,
with a timestamp of its own, which it loses when the buffer of the asset is evicted.

* `handOff_not_safe`: a run of two assets and one buffer in which the session refuses a sample.
* `safeHandOff_after`: in every run whose events, where the assembler has no last timestamp
  for their asset, are later than the last sample of the asset, the samples of every asset
  increase and no session refuses one.
-/

namespace Odis.InferenceWorker

open Features Inference

variable {F : Type} [PyFloat F]

/-- A call of the assembler. -/
inductive AssemblerCall (F : Type) [PyFloat F] where
  | ingest (event : TelemetryObservationEvent F) (now : F)
  | sweepTimeouts (now : F)

/-- The samples among the outcomes of a call. -/
def samplesOf : Except (AssemblyError F) (List (AssemblyOutcome F)) → List (TelemetrySample F)
  | .ok outcomes => outcomes.filterMap AssemblyOutcome.sample?
  | .error _ => []

/-- The state a call leaves, and the samples it completes. -/
def AssemblerCall.perform (config : AssemblerConfig F) (assembler : SampleAssembler F) :
    AssemblerCall F → SampleAssembler F × List (TelemetrySample F)
  | .ingest event now =>
      ((InferenceWorker.ingest config assembler event now).1,
        samplesOf (InferenceWorker.ingest config assembler event now).2)
  | .sweepTimeouts now =>
      ((InferenceWorker.sweepTimeouts config assembler now).1,
        samplesOf (.ok (InferenceWorker.sweepTimeouts config assembler now).2))

/-- What a call does to the last processed timestamps, and the samples it completes. -/
inductive CallEffect (before after : SampleAssembler F) :
    AssemblerCall F → List (TelemetrySample F) → Prop
  /-- Timestamps are kept or lost. -/
  | quiet (call : AssemblerCall F)
      (others : ∀ a, latestProcessed after a = latestProcessed before a ∨
        latestProcessed after a = none) : CallEffect before after call []
  /-- An event that is not late becomes the last one of its asset, with its sample if that could be
  built. -/
  | advanced (event : TelemetryObservationEvent F) (now : F) (sample? : Option (TelemetrySample F))
      (notLate : ¬ AtOrBefore event (latestProcessed before event.assetId))
      (self : latestProcessed after event.assetId = some event.timestamp)
      (others : ∀ a, a ≠ event.assetId → latestProcessed after a = latestProcessed before a ∨
        latestProcessed after a = none)
      (ofEvent : ∀ sample, sample? = some sample →
        sample.assetId = event.assetId ∧ sample.timestamp = event.timestamp) :
      CallEffect before after (.ingest event now) sample?.toList

/-- Outcomes without a sample hand over nothing. -/
theorem samplesOf_of_noSample {outcomes : List (AssemblyOutcome F)} (h : NoSample outcomes) :
    samplesOf (.ok outcomes) = [] :=
  List.filterMap_eq_nil_iff.mpr h

/-- An event that completes a sample yields that sample, if it can be built. -/
theorem samples_of_completes (config : AssemblerConfig F) (now : F) {assembler : SampleAssembler F}
    {event : TelemetryObservationEvent F} {pending : PendingSample F}
    (h : Completes assembler event pending) :
    samplesOf (ingest config assembler event now).2 =
      (assemble event (pending.record event)).toOption.toList := by
  rw [(ingest_of_completes config now h).1]
  cases assemble event (pending.record event) <;> rfl

/-- An event that completes no sample hands over nothing. -/
theorem samples_of_not_completes (config : AssemblerConfig F) (now : F)
    {assembler : SampleAssembler F} {event : TelemetryObservationEvent F}
    (h : ∀ pending, ¬ Completes assembler event pending) :
    samplesOf (ingest config assembler event now).2 = [] := by
  obtain ⟨_, outcomes, houtcomes, hnone⟩ := ingest_of_not_completes config now h
  rw [houtcomes]
  exact samplesOf_of_noSample hnone

/-- A call advances the asset of a sample that it completes, and changes nothing else but by
eviction. -/
theorem perform_effect (config : AssemblerConfig F) (assembler : SampleAssembler F)
    (call : AssemblerCall F) :
    CallEffect assembler (call.perform config assembler).1 call
      (call.perform config assembler).2 := by
  cases call with
  | sweepTimeouts now =>
      rw [AssemblerCall.perform, samplesOf_of_noSample noSample_sweepTimeouts]
      exact .quiet _ fun a => Or.inl (latestProcessed_sweepTimeouts a)
  | ingest event now =>
      have hothers : ∀ a, a ≠ event.assetId →
          latestProcessed (ingest config assembler event now).1 a = latestProcessed assembler a ∨
            latestProcessed (ingest config assembler event now).1 a = none := fun a hne =>
        latestProcessed_ingest_of_ne hne
      rw [AssemblerCall.perform]
      by_cases hcompletes : ∃ pending, Completes assembler event pending
      · obtain ⟨pending, hcompletes⟩ := hcompletes
        rw [samples_of_completes config now hcompletes]
        obtain ⟨_, hself⟩ := ingest_of_completes config now hcompletes
        obtain ⟨buffer, hget, hlate, _⟩ := hcompletes
        -- the asset was not yet as far as the event, which would have been late
        refine .advanced event now _ ?_ hself hothers fun sample hsample => ?_
        · rwa [latestProcessed, hget]
        · cases hassemble : assemble event (pending.record event) with
          | error error => simp [hassemble, Except.toOption] at hsample
          | ok sample' =>
              rw [hassemble] at hsample
              cases hsample
              exact of_assemble hassemble
      · push Not at hcompletes
        rw [samples_of_not_completes config now hcompletes]
        -- without a sample every asset keeps what is remembered of it, or is evicted
        refine .quiet _ fun a => ?_
        by_cases ha : a = event.assetId
        · rw [ha]
          exact Or.inl (ingest_of_not_completes config now hcompletes).1
        · exact hothers a ha

/-! ## Handing samples over -/

/-- The assembler and the sessions of a worker. -/
structure HandOff (F : Type) [PyFloat F] where
  assembler : SampleAssembler F
  manager : FaultInferenceManager F

/-- A worker that was just started. -/
def HandOff.fresh : HandOff F := ⟨.empty, .fresh⟩

/-- A sample handed over, and what the session of its asset made of it. -/
abbrev HandedOver (F : Type) [PyFloat F] : Type :=
  TelemetrySample F × Except (IngestError F) (InferenceResult F)

/-- A sample is given to the session of its asset. -/
def handOver (system : PromotedFaultSystem F) (manager : FaultInferenceManager F)
    (sample : TelemetrySample F) : FaultInferenceManager F × HandedOver F :=
  ((manager.ingest system sample).1, (sample, (manager.ingest system sample).2))

/-- A call of the assembler, whose samples are handed over. -/
def HandOff.step (config : AssemblerConfig F) (system : PromotedFaultSystem F) (state : HandOff F)
    (call : AssemblerCall F) : HandOff F × List (HandedOver F) :=
  let (assembler, samples) := call.perform config state.assembler
  (⟨assembler, Transducer.after (handOver system) state.manager samples⟩,
    Transducer.outputs (handOver system) state.manager samples)

/-- The samples of an asset among those handed over. -/
def samplesFor (assetId : String) (trace : List (HandedOver F)) : List (TelemetrySample F) :=
  (trace.map Prod.fst).filter fun sample => sample.assetId = assetId

/-- The samples of every asset increase, and no session refuses one for its timestamp. -/
structure SafeHandOff (trace : List (HandedOver F)) : Prop where
  increasing : ∀ assetId, (samplesFor assetId trace).Pairwise fun s s' =>
    s.timestamp.instant < s'.timestamp.instant
  accepted : ∀ entry ∈ trace, ∀ assetId previous new,
    entry.2 ≠ .error (.nonMonotonicTimestamp assetId previous new)

/-- An event for whose asset the assembler has no last processed timestamp is later than the last
sample of the asset. -/
def MeetsMemory (state : HandOff F) : AssemblerCall F → Prop
  | .ingest event _ =>
      latestProcessed state.assembler event.assetId = none →
        ∀ last ∈ (state.manager.sessionFor event.assetId event.assetId_ne).lastTimestamp,
          last.instant < event.timestamp.instant
  | .sweepTimeouts _ => True

instance (state : HandOff F) : DecidablePred (MeetsMemory state)
  | .ingest _ _ => inferInstanceAs (Decidable (_ → ∀ last ∈ (_ : Option Datetime), _))
  | .sweepTimeouts _ => inferInstanceAs (Decidable True)

/-- What the assembler and the sessions hold after handing over the samples of `trace`: the last
timestamps of the sessions are those of the samples, and the assembler never remembers an older
one. -/
structure Consistent (trace : List (HandedOver F)) (state : HandOff F) : Prop extends
    SafeHandOff trace where
  last : ∀ assetId (h : assetId ≠ ""), (state.manager.sessionFor assetId h).lastTimestamp =
    (samplesFor assetId trace).getLast?.map TelemetrySample.timestamp
  remembered : ∀ assetId (h : assetId ≠ "") latest last,
    latestProcessed state.assembler assetId = some latest →
      (state.manager.sessionFor assetId h).lastTimestamp = some last →
        last.instant ≤ latest.instant

section Runs

variable {config : AssemblerConfig F} {system : PromotedFaultSystem F} {state : HandOff F}
  {trace : List (HandedOver F)}

/-- At the start nothing was handed over and nothing is remembered. -/
theorem consistent_fresh : Consistent ([] : List (HandedOver F)) HandOff.fresh where
  increasing _ := by simp [samplesFor]
  accepted _ h := by simp at h
  last _ _ := rfl
  remembered _ _ _ _ h := by simp [latestProcessed, HandOff.fresh] at h

/-- Forgetting timestamps, with no sample completed, keeps the state consistent. -/
theorem Consistent.quiet {assembler : SampleAssembler F} (h : Consistent trace state)
    (hothers : ∀ a, latestProcessed assembler a = latestProcessed state.assembler a ∨
      latestProcessed assembler a = none) : Consistent trace ⟨assembler, state.manager⟩ where
  toSafeHandOff := h.toSafeHandOff
  last := h.last
  remembered assetId hne latest last hlatest hlast := by
    rcases hothers assetId with hkept | hlost
    · exact h.remembered assetId hne latest last (hkept ▸ hlatest) hlast
    · rw [hlost] at hlatest
      contradiction

/-- An event that is not late, and meets the memory of the assembler, is later than the last sample
of its asset. -/
theorem Consistent.follows {event : TelemetryObservationEvent F} {now : F}
    (h : Consistent trace state) (hmeets : MeetsMemory state (.ingest event now))
    (hlate : ¬ AtOrBefore event (latestProcessed state.assembler event.assetId))
    (last : Datetime)
    (hlast : (state.manager.sessionFor event.assetId event.assetId_ne).lastTimestamp = some last) :
    last.instant < event.timestamp.instant := by
  cases hlatest : latestProcessed state.assembler event.assetId with
  | none => exact hmeets hlatest last hlast
  | some latest =>
      have hle := h.remembered event.assetId event.assetId_ne latest last hlatest hlast
      have hlt : latest.instant < event.timestamp.instant :=
        Int.not_le.mp fun hle => hlate ⟨latest, hlatest, hle⟩
      exact Int.lt_of_le_of_lt hle hlt

/-- The timestamp of an event that is not late, and whose sample could not be built, is remembered;
it is later than the last sample. -/
theorem Consistent.remember {assembler : SampleAssembler F} {event : TelemetryObservationEvent F}
    (h : Consistent trace state)
    (hfollows : ∀ last, (state.manager.sessionFor event.assetId event.assetId_ne).lastTimestamp =
      some last → last.instant < event.timestamp.instant)
    (hself : latestProcessed assembler event.assetId = some event.timestamp)
    (hothers : ∀ a, a ≠ event.assetId →
      latestProcessed assembler a = latestProcessed state.assembler a ∨
        latestProcessed assembler a = none) : Consistent trace ⟨assembler, state.manager⟩ where
  toSafeHandOff := h.toSafeHandOff
  last := h.last
  remembered assetId hne latest last hlatest hlast := by
    by_cases hasset : assetId = event.assetId
    · subst hasset
      rw [hself] at hlatest
      cases hlatest
      exact Int.le_of_lt (hfollows last hlast)
    · rcases hothers assetId hasset with hkept | hlost
      · exact h.remembered assetId hne latest last (hkept ▸ hlatest) hlast
      · rw [hlost] at hlatest
        contradiction

/-- The samples of an asset, with one more sample handed over. -/
theorem samplesFor_concat (assetId : String) (sample : TelemetrySample F)
    (result : Except (IngestError F) (InferenceResult F)) :
    samplesFor assetId (trace ++ [(sample, result)]) =
      samplesFor assetId trace ++ if sample.assetId = assetId then [sample] else [] := by
  rw [samplesFor, samplesFor, List.map_append, List.filter_append]
  split_ifs with h <;> simp [h]

/-- Increasing samples stay so with one that follows the last of them. -/
theorem increasing_concat {samples : List (TelemetrySample F)} {sample : TelemetrySample F}
    (h : samples.Pairwise fun s s' => s.timestamp.instant < s'.timestamp.instant)
    (hlast : ∀ l, samples.getLast? = some l → l.timestamp.instant < sample.timestamp.instant) :
    (samples ++ [sample]).Pairwise fun s s' => s.timestamp.instant < s'.timestamp.instant := by
  refine List.pairwise_append.mpr ⟨h, List.pairwise_singleton _ _, ?_⟩
  intro s hs s' hs'
  rw [List.mem_singleton.mp hs']
  obtain ⟨l, hl⟩ : ∃ l, samples.getLast? = some l :=
    ⟨_, List.getLast?_eq_some_getLast (List.ne_nil_of_mem hs)⟩
  obtain ⟨before, rfl⟩ := List.getLast?_eq_some_iff.mp hl
  rcases List.mem_append.mp hs with hs | hs
  · exact Int.lt_trans ((List.pairwise_append.mp h).2.2 s hs l (List.mem_singleton_self l))
      (hlast l hl)
  · rw [List.mem_singleton.mp hs]
    exact hlast l hl

/-- A sample later than the last one of its asset is handed over. -/
theorem Consistent.handOver {sample : TelemetrySample F} (system : PromotedFaultSystem F)
    (h : Consistent trace state)
    (hfollows : ∀ last, (state.manager.sessionFor sample.assetId sample.assetId_ne).lastTimestamp =
      some last → last.instant < sample.timestamp.instant)
    (hself : latestProcessed state.assembler sample.assetId = some sample.timestamp) :
    Consistent (trace ++ [(sample, (state.manager.ingest system sample).2)])
      ⟨state.assembler, (state.manager.ingest system sample).1⟩ := by
  have hasset : sample.assetId =
      (state.manager.sessionFor sample.assetId sample.assetId_ne).assetId := by simp
  constructor
  case toSafeHandOff =>
    constructor
    case increasing =>
      intro assetId
      rw [samplesFor_concat]
      by_cases heq : assetId = sample.assetId
      · subst heq
        rw [if_pos rfl]
        -- the session has seen the last sample of the asset, and this one follows it
        refine increasing_concat (h.increasing _) fun l hl => hfollows l.timestamp ?_
        rw [h.last, hl]
        rfl
      · rw [if_neg (Ne.symm heq), List.append_nil]
        exact h.increasing assetId
    case accepted =>
      intro entry hentry assetId previous new
      rcases List.mem_append.mp hentry with hold | hnew
      · exact h.accepted entry hold assetId previous new
      · rw [List.mem_singleton.mp hnew]
        change ((state.manager.sessionFor sample.assetId sample.assetId_ne).ingest
          system sample).2 ≠ _
        -- a sample that follows is not refused for its timestamp
        rw [FaultInferenceSession.ingest_of_follows hasset hfollows]
        exact FaultInferenceSession.evaluate_ne_nonMonotonic
  case last =>
    intro assetId hne
    rw [samplesFor_concat]
    by_cases heq : assetId = sample.assetId
    · subst heq
      simp only [FaultInferenceManager.sessionFor_ingest_self,
        FaultInferenceSession.lastTimestamp_ingest_of_follows hasset hfollows, if_true,
        List.getLast?_append, List.getLast?_singleton]
      rfl
    · rw [if_neg (Ne.symm heq), List.append_nil]
      simp only [FaultInferenceManager.sessionFor_ingest_of_ne hne heq]
      exact h.last assetId hne
  case remembered =>
    intro assetId hne latest last hlatest hlast
    by_cases heq : assetId = sample.assetId
    · subst heq
      simp only [FaultInferenceManager.sessionFor_ingest_self,
        FaultInferenceSession.lastTimestamp_ingest_of_follows hasset hfollows] at hlast
      rw [hself] at hlatest
      cases hlatest
      cases hlast
      -- the assembler remembers the very sample that the session has just seen
      exact Int.le_refl _
    · simp only [FaultInferenceManager.sessionFor_ingest_of_ne hne heq] at hlast
      exact h.remembered assetId hne latest last hlatest hlast

/-- One call keeps a worker consistent when its event meets the memory of the assembler. -/
theorem Consistent.step {call : AssemblerCall F} (config : AssemblerConfig F)
    (system : PromotedFaultSystem F) (h : Consistent trace state)
    (hmeets : MeetsMemory state call) :
    Consistent (trace ++ (state.step config system call).2) (state.step config system call).1 := by
  have heffect := perform_effect config state.assembler call
  rw [HandOff.step]
  generalize call.perform config state.assembler = performed at heffect ⊢
  obtain ⟨assembler, samples⟩ := performed
  cases heffect with
  -- nothing is handed over, and no buffer moves back
  | quiet _ others => simpa using h.quiet others
  | advanced event now sample? notLate self others ofEvent =>
      have hfollows := h.follows hmeets notLate
      have hremembered := h.remember hfollows self others
      cases sample? with
      | none => simpa using hremembered
      | some sample =>
          -- the sample is of the asset and instant of the event, which the session has not seen
          obtain ⟨hasset, htimestamp⟩ := ofEvent sample rfl
          refine hremembered.handOver system (fun last hlast => ?_) ?_
          · rw [htimestamp]
            refine hfollows last ?_
            simpa only [hasset] using hlast
          · rw [hasset, htimestamp]
            exact self

/-- In every run whose events meet the memory of the assembler, the samples of every asset
increase and no session refuses one. -/
theorem safeHandOff_after (config : AssemblerConfig F) (system : PromotedFaultSystem F)
    (calls : List (AssemblerCall F))
    (hmeets : Transducer.Along (HandOff.step config system) MeetsMemory .fresh calls) :
    SafeHandOff (Transducer.outputs (HandOff.step config system) .fresh calls).flatten := by
  suffices hconsistent : Consistent
      (Transducer.outputs (HandOff.step config system) .fresh calls).flatten
      (Transducer.after (HandOff.step config system) .fresh calls) from
    hconsistent.toSafeHandOff
  induction calls using List.reverseRecOn with
  | nil => exact consistent_fresh
  | append_singleton past call ih =>
      obtain ⟨hpast, hcall⟩ := (Transducer.along_concat _).mp hmeets
      simpa using (ih hpast).step config system hcall

end Runs

/-! ## The defect -/

section Eviction

/-- A reading of `asset` at second `i`, of value 1. -/
def reading (asset : String) (h : asset ≠ "") (i : ℕ) (m : FeatureMeasurement) :
    TelemetryObservationEvent Rat where
  eventId := asset ++ "/" ++ m.name
  assetId := asset
  timestamp := .utc (1000000 * i)
  measurement := .required m
  value := ⟨1, rfl⟩
  assetId_ne := h

/-- The seven readings of `stack-1` at second `i`. -/
def completeReadings (i : ℕ) : List (AssemblerCall Rat) :=
  defaultMeasurements.map fun m => .ingest (reading "stack-1" stack1_ne_empty i m) 0

/-- A reading of `stack-2`, at second 1. -/
def otherAsset : AssemblerCall Rat := .ingest (reading "stack-2" (by decide) 1 .current) 0

/-- An assembler that tracks one asset. -/
def singleAssetConfig : AssemblerConfig Rat where
  timeoutSeconds := 30
  maxBuffered := 8
  maxAssets := 1
  maxBuffered_pos := by decide
  maxAssets_pos := by decide

/-- `stack-1` completes a sample, loses its buffer to `stack-2`, and completes a later one. -/
theorem safeHandOff_after_eviction :
    SafeHandOff (Transducer.outputs (HandOff.step singleAssetConfig healthySystem) .fresh
      (completeReadings 1 ++ [otherAsset] ++ completeReadings 2)).flatten :=
  safeHandOff_after singleAssetConfig healthySystem _ (by decide +kernel)

/-- `stack-1` completes a sample and loses its buffer to `stack-2`. Its readings are delivered
again and complete the sample once more, which does not follow the first. -/
theorem handOff_not_safe :
    ¬ SafeHandOff (Transducer.outputs (HandOff.step singleAssetConfig healthySystem) .fresh
      (completeReadings 1 ++ [otherAsset] ++ completeReadings 1)).flatten := by
  intro h
  have hinstants : (samplesFor "stack-1"
      (Transducer.outputs (HandOff.step singleAssetConfig healthySystem) .fresh
        (completeReadings 1 ++ [otherAsset] ++ completeReadings 1)).flatten).map
      (fun s => s.timestamp.instant) = [1000000, 1000000] := by
    decide +kernel
  have hincreasing := List.pairwise_map.mpr (h.increasing "stack-1")
  rw [hinstants] at hincreasing
  exact absurd hincreasing (by decide)

end Eviction

end Odis.InferenceWorker
