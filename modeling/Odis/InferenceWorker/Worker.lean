import Odis.InferenceWorker.Events
import Odis.InferenceWorker.HandOff
import Odis.Library.RetryPublisher

/-!
# The streaming worker

`FaultInferenceStreamingWorker` (`inference_worker/worker.py`) consumes telemetry, assembles
samples, runs the inference on them and publishes what comes of it. A handler returns whether every
publish its record required was accepted; the assembler and the sessions have moved on by then, and
they move exactly as `HandOff.step` moves them (`handOff_step`).

A handler that raises returns the state it leaves, too.
-/

namespace Odis.InferenceWorker

open AlertPolicy Features Inference RetryPublisher

variable {F : Type} [PyFloat F]

/-- The settings of a worker, and what it meets: the UUIDs, whether the broker accepts the attempt
after `n` others, and the clock at that attempt. -/
structure Environment (F : Type) [PyFloat F] where
  config : AssemblerConfig F
  system : PromotedFaultSystem F
  publishMaxRetries : ℕ
  uuid5 : String → String
  accepts : ℕ → Bool
  utcNow : ℕ → Datetime

/-- The state of a worker, and of the broker it publishes to. -/
structure FaultInferenceStreamingWorker (F : Type) [PyFloat F] where
  assembler : SampleAssembler F
  manager : FaultInferenceManager F
  broker : Broker (Message F)

/-- What a handler raises. -/
inductive HandlerError (F : Type) where
  | assembly (error : AssemblyError F)
  | inference (error : IngestError F)
  | report

/-- What the payload of a record comes to: a validated event, a payload that is reported as
malformed, or one whose report raises. -/
inductive DecodedRecord (F : Type) [PyFloat F] where
  | event (event : TelemetryObservationEvent F)
  | malformed (assetId : Option String) (detail : String)
  | unreportable

namespace FaultInferenceStreamingWorker

/-- A worker that was just started. -/
def fresh : FaultInferenceStreamingWorker F := ⟨.empty, .fresh, .fresh⟩

/-- The assembler and the sessions of a worker. -/
def handOff (worker : FaultInferenceStreamingWorker F) : HandOff F :=
  ⟨worker.assembler, worker.manager⟩

variable (env : Environment F)

/-- `publish_with_retry`. -/
def publishWithRetry (worker : FaultInferenceStreamingWorker F) (message : Message F) :
    FaultInferenceStreamingWorker F × Bool :=
  let published := publish env.accepts message env.publishMaxRetries worker.broker
  ({ worker with broker := published.1 }, published.2)

/-- `datetime.now(UTC)`. -/
def now (worker : FaultInferenceStreamingWorker F) : Datetime := env.utcNow worker.broker.attempts

/-- `_publish_data_quality`. -/
def publishDataQuality (worker : FaultInferenceStreamingWorker F) (assetId : Option String)
    (sourceTimestamp : Option Datetime) (reason detail : String) :
    FaultInferenceStreamingWorker F × Bool :=
  publishWithRetry env worker
    (.dataQuality (if assetId.getD "" = "" then "unknown" else assetId.getD "")
      (buildDataQualityEvent env.uuid5 assetId sourceTimestamp reason detail (now env worker)))

/-- The transition event of a result is published, if there is one. -/
def publishTransition (worker : FaultInferenceStreamingWorker F) (result : InferenceResult F) :
    FaultInferenceStreamingWorker F × Bool :=
  match buildTransitionEvent env.uuid5 result (now env worker) with
  | none => (worker, true)
  | some event => publishWithRetry env worker (.alertTransition event.assetId event)

/-- A result is published, and then its transition event. -/
def publishResult (worker : FaultInferenceStreamingWorker F) (result : InferenceResult F) :
    FaultInferenceStreamingWorker F × Bool :=
  let event := buildResultEvent env.uuid5 result (now env worker)
  match publishWithRetry env worker (.result event.assetId event) with
  | (worker, false) => (worker, false)
  | (worker, true) => publishTransition env worker result

/-- `_run_inference`. -/
def runInference (worker : FaultInferenceStreamingWorker F) (sample : TelemetrySample F) :
    FaultInferenceStreamingWorker F × Except (HandlerError F) Bool :=
  match worker.manager.ingest env.system sample with
  | (manager, .error error) => ({ worker with manager }, .error (.inference error))
  | (manager, .ok result) =>
      let published := publishResult env { worker with manager } result
      (published.1, .ok published.2)

/-- `_handle_assembly_outcome`. -/
def handleAssemblyOutcome (worker : FaultInferenceStreamingWorker F) :
    AssemblyOutcome F → FaultInferenceStreamingWorker F × Except (HandlerError F) Bool
  | .pending _ _ => (worker, .ok true)
  | .rejected assetId sourceTimestamp reason detail =>
      let published :=
        publishDataQuality env worker (some assetId) (some sourceTimestamp) reason.value detail
      (published.1, .ok published.2)
  | .complete _ _ sample => runInference env worker sample

/-- `all` over the outcomes of an event: the first that is not handled ends it. -/
def handleOutcomes (worker : FaultInferenceStreamingWorker F) :
    List (AssemblyOutcome F) → FaultInferenceStreamingWorker F × Except (HandlerError F) Bool
  | [] => (worker, .ok true)
  | outcome :: outcomes =>
      match handleAssemblyOutcome env worker outcome with
      | (worker, .ok true) => handleOutcomes worker outcomes
      | unhandled => unhandled

/-- What `_handle_message` does with a validated event. -/
def handleEvent (worker : FaultInferenceStreamingWorker F) (event : TelemetryObservationEvent F)
    (now : F) : FaultInferenceStreamingWorker F × Except (HandlerError F) Bool :=
  match ingest env.config worker.assembler event now with
  | (assembler, .error error) => ({ worker with assembler }, .error (.assembly error))
  | (assembler, .ok outcomes) => handleOutcomes env { worker with assembler } outcomes

/-- `_handle_message`, of a record as it was decoded. -/
def handleMessage (worker : FaultInferenceStreamingWorker F) (record : DecodedRecord F) (now : F) :
    FaultInferenceStreamingWorker F × Except (HandlerError F) Bool :=
  match record with
  | .event event => handleEvent env worker event now
  | .malformed assetId detail =>
      let published := publishDataQuality env worker assetId none "malformed" detail
      (published.1, .ok published.2)
  | .unreportable => (worker, .error .report)

/-- The outcomes of a sweep are handled one by one, whatever comes of their publishes. -/
def handleEach (worker : FaultInferenceStreamingWorker F) :
    List (AssemblyOutcome F) → FaultInferenceStreamingWorker F × Except (HandlerError F) Unit
  | [] => (worker, .ok ())
  | outcome :: outcomes =>
      match handleAssemblyOutcome env worker outcome with
      | (worker, .ok _) => handleEach worker outcomes
      | (worker, .error error) => (worker, .error error)

/-- `_sweep_timeouts`. -/
def sweep (worker : FaultInferenceStreamingWorker F) (now : F) :
    FaultInferenceStreamingWorker F × Except (HandlerError F) Unit :=
  let swept := sweepTimeouts env.config worker.assembler now
  handleEach env { worker with assembler := swept.1 } swept.2

/-- A validated event is handled, or the timeouts are swept. What the handler returned is the
output; a sweep returns nothing. -/
def step (worker : FaultInferenceStreamingWorker F) :
    AssemblerCall F → FaultInferenceStreamingWorker F × Option (Except (HandlerError F) Bool)
  | .ingest event now =>
      let handled := handleEvent env worker event now
      (handled.1, some handled.2)
  | .sweepTimeouts now => ((sweep env worker now).1, none)

/-! ## What a handler changes -/

section Frame

variable {env} {worker : FaultInferenceStreamingWorker F}

/-- The worker differs from `before` in the broker alone, which has kept its log. -/
structure OnlyPublished (before after : FaultInferenceStreamingWorker F) : Prop where
  handOff : after.handOff = before.handOff
  log : before.broker.log <+: after.broker.log

/-- Doing nothing publishes nothing. -/
theorem OnlyPublished.refl : OnlyPublished worker worker := ⟨rfl, List.prefix_rfl⟩

/-- Publishing twice in a row is publishing. -/
theorem OnlyPublished.trans {first second third : FaultInferenceStreamingWorker F}
    (h : OnlyPublished first second) (h' : OnlyPublished second third) :
    OnlyPublished first third :=
  ⟨h'.handOff.trans h.handOff, h.log.trans h'.log⟩

variable (env worker)

/-- A message is appended to the log or refused, and nothing else changes. -/
theorem onlyPublished_publishWithRetry (message : Message F) :
    OnlyPublished worker (publishWithRetry env worker message).1 where
  handOff := rfl
  log := by
    rw [publishWithRetry, log_publish]
    exact List.prefix_append _ _

/-- So it is with the transition of a result. -/
theorem onlyPublished_publishTransition (result : InferenceResult F) :
    OnlyPublished worker (publishTransition env worker result).1 := by
  rw [publishTransition]
  split
  · exact .refl
  · exact onlyPublished_publishWithRetry env worker _

/-- So it is with a result and its transition. -/
theorem onlyPublished_publishResult (result : InferenceResult F) :
    OnlyPublished worker (publishResult env worker result).1 := by
  have hresult := onlyPublished_publishWithRetry env worker
    (.result result.assetId (buildResultEvent env.uuid5 result (now env worker)))
  simp only [publishResult]
  split
  next published heq =>
    rwa [show publishWithRetry env worker (.result result.assetId _) = _ from heq] at hresult
  next published heq =>
    rw [show publishWithRetry env worker (.result result.assetId _) = _ from heq] at hresult
    exact hresult.trans (onlyPublished_publishTransition env published result)

/-- An outcome without a sample is reported at most. -/
theorem handleAssemblyOutcome_of_noSample {outcome : AssemblyOutcome F}
    (h : outcome.sample? = none) :
    OnlyPublished worker (handleAssemblyOutcome env worker outcome).1 ∧
      ∃ handled, (handleAssemblyOutcome env worker outcome).2 = .ok handled := by
  cases outcome with
  | pending assetId sourceTimestamp => exact ⟨.refl, true, rfl⟩
  | rejected assetId sourceTimestamp reason detail =>
      exact ⟨onlyPublished_publishWithRetry env worker _, _, rfl⟩
  | complete assetId sourceTimestamp sample => contradiction

variable {env worker}

/-- Outcomes without a sample lead to no inference. -/
theorem handleOutcomes_of_noSample {outcomes : List (AssemblyOutcome F)} (h : NoSample outcomes) :
    OnlyPublished worker (handleOutcomes env worker outcomes).1 := by
  induction outcomes generalizing worker with
  | nil => exact .refl
  | cons outcome outcomes ih =>
      obtain ⟨hsame, _⟩ :=
        handleAssemblyOutcome_of_noSample env worker (h outcome List.mem_cons_self)
      rw [handleOutcomes]
      split
      next handled heq =>
        rw [heq] at hsame
        exact hsame.trans (ih fun o ho => h o (List.mem_cons_of_mem _ ho))
      · exact hsame

/-- Nor do they one by one. -/
theorem handleEach_of_noSample {outcomes : List (AssemblyOutcome F)} (h : NoSample outcomes) :
    OnlyPublished worker (handleEach env worker outcomes).1 := by
  induction outcomes generalizing worker with
  | nil => exact .refl
  | cons outcome outcomes ih =>
      obtain ⟨hsame, _⟩ :=
        handleAssemblyOutcome_of_noSample env worker (h outcome List.mem_cons_self)
      rw [handleEach]
      split
      next handled _ heq =>
        rw [heq] at hsame
        exact hsame.trans (ih fun o ho => h o (List.mem_cons_of_mem _ ho))
      next handled _ heq =>
        rw [heq] at hsame
        exact hsame

/-- A complete sample is handed to the inference. -/
theorem handleOutcomes_complete (assetId : String) (sourceTimestamp : Datetime)
    (sample : TelemetrySample F) :
    handleOutcomes env worker [.complete assetId sourceTimestamp sample] =
      runInference env worker sample := by
  rw [handleOutcomes, handleAssemblyOutcome]
  split
  next handled heq => rw [heq, handleOutcomes]
  · rfl

end Frame

/-! ## One step -/

section Step

variable {env} {worker : FaultInferenceStreamingWorker F} {event : TelemetryObservationEvent F}
  {now : F}

/-- An event that completes no sample is buffered or reported. -/
theorem handleEvent_of_not_completes
    (h : ∀ pending, ¬ Completes worker.assembler event pending) :
    OnlyPublished
      { worker with assembler := (ingest env.config worker.assembler event now).1 }
      (handleEvent env worker event now).1 := by
  obtain ⟨_, outcomes, houtcomes, hnone⟩ := ingest_of_not_completes env.config now h
  rw [handleEvent]
  split
  next assembler error heq => simp [heq] at houtcomes
  next assembler outcomes' heq =>
    rw [heq] at houtcomes ⊢
    cases houtcomes
    exact handleOutcomes_of_noSample hnone

/-- An event that completes a sample has it diagnosed, if the sample can be built. -/
theorem handleEvent_of_completes {pending : PendingSample F} {sample : TelemetrySample F}
    (h : Completes worker.assembler event pending)
    (hsample : assemble event (pending.record event) = .ok sample) :
    handleEvent env worker event now =
      runInference env
        { worker with assembler := (ingest env.config worker.assembler event now).1 } sample := by
  obtain ⟨houtcomes, _⟩ := ingest_of_completes env.config now h
  rw [hsample] at houtcomes
  rw [handleEvent]
  split
  next assembler error heq => simp [heq, Except.map] at houtcomes
  next assembler outcomes heq =>
    rw [heq] at houtcomes ⊢
    cases houtcomes
    exact handleOutcomes_complete _ _ _

/-- A sample that cannot be built is not diagnosed. -/
theorem handleEvent_of_unbuildable {pending : PendingSample F} {error : AssemblyError F}
    (h : Completes worker.assembler event pending)
    (hsample : assemble event (pending.record event) = .error error) :
    handleEvent env worker event now =
      ({ worker with assembler := (ingest env.config worker.assembler event now).1 },
        .error (.assembly error)) := by
  obtain ⟨houtcomes, _⟩ := ingest_of_completes env.config now h
  rw [hsample] at houtcomes
  rw [handleEvent]
  split
  next assembler error' heq =>
    rw [heq] at houtcomes ⊢
    cases houtcomes
    rfl
  next assembler outcomes heq => simp [heq, Except.map] at houtcomes

/-- The sessions receive the sample, whatever is published. -/
theorem handOff_runInference (sample : TelemetrySample F) :
    (runInference env worker sample).1.handOff =
      ⟨worker.assembler, (worker.manager.ingest env.system sample).1⟩ := by
  rw [runInference]
  split
  next manager error heq => rw [heq]; rfl
  next manager result heq =>
    rw [heq]
    exact (onlyPublished_publishResult env { worker with manager } result).handOff

/-- A handler moves the assembler and the sessions as `HandOff.step` does. -/
theorem handOff_handleEvent :
    (handleEvent env worker event now).1.handOff =
      (HandOff.step env.config env.system worker.handOff (.ingest event now)).1 := by
  simp only [HandOff.step, AssemblerCall.perform, handOff]
  by_cases hcompletes : ∃ pending, Completes worker.assembler event pending
  · obtain ⟨pending, hcompletes⟩ := hcompletes
    rw [samples_of_completes env.config now hcompletes]
    cases hsample : assemble event (pending.record event) with
    | error error =>
        rw [handleEvent_of_unbuildable hcompletes hsample]
        rfl
    | ok sample =>
        rw [handleEvent_of_completes hcompletes hsample]
        exact handOff_runInference sample
  · push Not at hcompletes
    rw [samples_of_not_completes env.config now hcompletes]
    exact (handleEvent_of_not_completes hcompletes).handOff

end Step

/-- One step moves the assembler and the sessions as `HandOff.step` does. -/
theorem handOff_step (env : Environment F) (worker : FaultInferenceStreamingWorker F)
    (call : AssemblerCall F) :
    (step env worker call).1.handOff =
      (HandOff.step env.config env.system worker.handOff call).1 := by
  cases call with
  | ingest event now => exact handOff_handleEvent
  | sweepTimeouts now =>
      simp only [HandOff.step, AssemblerCall.perform,
        samplesOf_of_noSample noSample_sweepTimeouts]
      exact (handleEach_of_noSample noSample_sweepTimeouts).handOff

/-- A worker hands over, in every run, what its assembler and its sessions alone would. -/
theorem handOff_after (env : Environment F) (worker : FaultInferenceStreamingWorker F)
    (calls : List (AssemblerCall F)) :
    (Transducer.after (step env) worker calls).handOff =
      Transducer.after (HandOff.step env.config env.system) worker.handOff calls := by
  induction calls generalizing worker with
  | nil => rfl
  | cons call calls ih =>
      rw [Transducer.after_cons, Transducer.after_cons, ih, handOff_step]

end FaultInferenceStreamingWorker

end Odis.InferenceWorker
