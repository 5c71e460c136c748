import Odis.Inference.Totality
import Odis.InferenceWorker.Worker

/-!
# What the worker delivers

Every sample the worker assembles is to have its result published, and every alert event of the
alert state machine its transition. The assembler and the sessions advance before the publishes,
so a record that is delivered again after a failed publish is late, and handled by reporting it:
what was not published stays unpublished.

* `worker_not_delivered`: a run whose failed record is delivered again, handled, and never
  published.
* `delivered_iff_along`: in every run everything is published exactly if, wherever a sample is
  completed, the session of its asset accepts it and the broker accepts an attempt of each publish
  that the sample requires. No redelivery makes up for a sample that was not.
-/

namespace Odis.InferenceWorker

open AlertPolicy Features Inference RetryPublisher

variable {F : Type} [PyFloat F]

/-- The result event of a result was published. -/
def ResultPublished (uuid5 : String → String) (log : List (Message F))
    (result : InferenceResult F) : Prop :=
  ∃ now, .result result.assetId (buildResultEvent uuid5 result now) ∈ log

/-- The transition event of a result was published, if the result has an alert event. -/
def TransitionPublished (uuid5 : String → String) (log : List (Message F))
    (result : InferenceResult F) : Prop :=
  result.alertEvent.isSome →
    ∃ now event, buildTransitionEvent uuid5 result now = some event ∧
      .alertTransition event.assetId event ∈ log

/-- Every sample handed over has a result, whose events were published. -/
def Delivered (uuid5 : String → String) (trace : List (HandedOver F))
    (log : List (Message F)) : Prop :=
  ∀ entry ∈ trace, ∃ result, entry.2 = .ok result ∧ ResultPublished uuid5 log result ∧
    TransitionPublished uuid5 log result

/-- After `attempts` attempts of earlier publishes the broker accepts one of those of a result
event, and then, if there is a transition event too, one of those of that event. -/
def AcceptsBoth (env : Environment F) (attempts : ℕ) (transition : Bool) : Prop :=
  ∃ refused, refused ≤ env.publishMaxRetries ∧
    AcceptedAt env.accepts env.publishMaxRetries attempts refused ∧
      (transition = true → ∃ refused', refused' ≤ env.publishMaxRetries ∧
        AcceptedAt env.accepts env.publishMaxRetries (attempts + refused + 1) refused')

instance (env : Environment F) (attempts : ℕ) (transition : Bool) :
    Decidable (AcceptsBoth env attempts transition) := by
  unfold AcceptsBoth
  infer_instance

/-- The session of its asset accepts a sample, and the broker the events that the sample requires:
that of the result, and that of the alert event which the alert machine of the session has for the
sample. -/
structure DeliverableSample (env : Environment F) (worker : FaultInferenceStreamingWorker F)
    (sample : TelemetrySample F) : Prop where
  accepted : (worker.manager.sessionFor sample.assetId sample.assetId_ne).Accepts sample
  published : AcceptsBoth env worker.broker.attempts
    ((worker.manager.sessionFor sample.assetId sample.assetId_ne).alertEventFor env.system
      sample).isSome

instance (env : Environment F) (worker : FaultInferenceStreamingWorker F)
    (sample : TelemetrySample F) : Decidable (DeliverableSample env worker sample) :=
  decidable_of_iff (_ ∧ _) ⟨fun h => ⟨h.1, h.2⟩, fun h => ⟨h.accepted, h.published⟩⟩

/-- If the event completes a sample that can be built, that sample is deliverable. -/
def Deliverable (env : Environment F) (worker : FaultInferenceStreamingWorker F) :
    AssemblerCall F → Prop
  | .ingest event _ =>
      ∀ pending ∈ completing worker.assembler event,
        ∀ sample ∈ (assemble event (pending.record event)).toOption,
          DeliverableSample env worker sample
  | .sweepTimeouts _ => True

instance (env : Environment F) (worker : FaultInferenceStreamingWorker F) :
    DecidablePred (Deliverable env worker)
  | .ingest _ _ => by
      unfold Deliverable
      infer_instance
  | .sweepTimeouts _ => inferInstanceAs (Decidable True)

/-- Every record whose handler returned `False` is delivered again, until it returns `True`. -/
def Redelivered (calls : List (AssemblerCall F)) (returned : List (Option Bool)) : Prop :=
  ∀ (i : ℕ) event now,
    calls[i]? = some (AssemblerCall.ingest event now) → returned[i]? = some (some false) →
    ∃ (j : ℕ) (now' : F), i < j ∧ calls[j]? = some (AssemblerCall.ingest event now') ∧
      returned[j]? = some (some true)

/-! ## Messages and what they are about -/

/-- The asset and the source timestamp that a result or a transition is about. -/
def Message.stamp? : Message F → Option (String × Datetime)
  | .result _ event => some (event.assetId, event.sourceTimestamp)
  | .alertTransition _ event => some (event.assetId, event.sourceTimestamp)
  | .dataQuality _ _ => none

section Log

variable {env : Environment F} {worker : FaultInferenceStreamingWorker F}
  {uuid5 : String → String} {log log' : List (Message F)} {result : InferenceResult F}
  {trace : List (HandedOver F)} {now : Datetime}

omit [PyFloat F] in
/-- The transition event of a result is stamped with its asset and its time. -/
theorem stamp?_transition {event : FaultAlertTransitionEvent F}
    (h : buildTransitionEvent uuid5 result now = some event) :
    (Message.alertTransition event.assetId event).stamp? =
      some (result.assetId, result.timestamp) := by
  obtain ⟨alertEvent, -, rfl⟩ := Option.map_eq_some_iff.mp h
  rfl

omit [PyFloat F] in
/-- Only messages about the result can publish it. -/
theorem resultPublished_congr
    (hlog : ∀ message : Message F, message.stamp? = some (result.assetId, result.timestamp) →
      (message ∈ log' ↔ message ∈ log)) :
    ResultPublished uuid5 log' result ↔ ResultPublished uuid5 log result :=
  exists_congr fun _ => hlog _ rfl

omit [PyFloat F] in
/-- Whether a transition is published depends on the messages with its stamp only. -/
theorem transitionPublished_congr
    (hlog : ∀ message : Message F, message.stamp? = some (result.assetId, result.timestamp) →
      (message ∈ log' ↔ message ∈ log)) :
    TransitionPublished uuid5 log' result ↔ TransitionPublished uuid5 log result := by
  refine imp_congr_right fun _ => exists_congr fun now => exists_congr fun event => ?_
  exact and_congr_right fun hevent => hlog _ (stamp?_transition hevent)

/-- The samples of a trace are delivered by the messages about them. -/
theorem delivered_congr
    (hlog : ∀ entry ∈ trace, ∀ result, entry.2 = .ok result → ∀ message : Message F,
      message.stamp? = some (result.assetId, result.timestamp) →
        (message ∈ log' ↔ message ∈ log)) :
    Delivered uuid5 trace log' ↔ Delivered uuid5 trace log := by
  refine forall₂_congr fun entry hentry => exists_congr fun result => and_congr_right fun hok => ?_
  exact and_congr (resultPublished_congr (hlog entry hentry result hok))
    (transitionPublished_congr (hlog entry hentry result hok))

/-- One more entry is delivered exactly if its result and its transition are published. -/
theorem delivered_concat {entry : HandedOver F} :
    Delivered uuid5 (trace ++ [entry]) log ↔ Delivered uuid5 trace log ∧
      ∃ result, entry.2 = .ok result ∧ ResultPublished uuid5 log result ∧
        TransitionPublished uuid5 log result := by
  unfold Delivered
  rw [List.forall_mem_append, List.forall_mem_singleton]

end Log

namespace FaultInferenceStreamingWorker

variable {env : Environment F} {worker : FaultInferenceStreamingWorker F}
  {result : InferenceResult F}

variable (env worker) in
/-- Publishing a message adds no other to the log. -/
theorem mem_log_publishWithRetry (message other : Message F) :
    other ∈ (publishWithRetry env worker message).1.broker.log →
      other ∈ worker.broker.log ∨ other = message := by
  rw [publishWithRetry, log_publish]
  split_ifs
  · simp
  · simpa using Or.inl

/-! ## Outcomes without a sample -/

variable (env worker) in
/-- What an outcome without a sample has published is no result and no transition. -/
theorem stamp?_handleAssemblyOutcome {outcome : AssemblyOutcome F} (h : outcome.sample? = none)
    {message : Message F}
    (hmem : message ∈ (handleAssemblyOutcome env worker outcome).1.broker.log) :
    message ∈ worker.broker.log ∨ message.stamp? = none := by
  cases outcome with
  | pending assetId sourceTimestamp => exact .inl hmem
  | rejected assetId sourceTimestamp reason detail =>
      refine (mem_log_publishWithRetry env worker _ _ hmem).imp_right ?_
      rintro rfl
      rfl
  | complete assetId sourceTimestamp sample => cases h

/-- Outcomes without a sample publish no message with a stamp. -/
theorem stamp?_handleOutcomes {outcomes : List (AssemblyOutcome F)} (h : NoSample outcomes)
    {message : Message F}
    (hmem : message ∈ (handleOutcomes env worker outcomes).1.broker.log) :
    message ∈ worker.broker.log ∨ message.stamp? = none := by
  induction outcomes generalizing worker with
  | nil => exact .inl hmem
  | cons outcome outcomes ih =>
      have hfirst := h outcome List.mem_cons_self
      rw [handleOutcomes] at hmem
      split at hmem
      next handled heq =>
        rcases ih (fun o ho => h o (List.mem_cons_of_mem _ ho)) hmem with hold | hnone
        · exact stamp?_handleAssemblyOutcome env worker hfirst (by rw [heq]; exact hold)
        · exact .inr hnone
      · exact stamp?_handleAssemblyOutcome env worker hfirst hmem

/-- Nor do they one by one, as the sweep handles them. -/
theorem stamp?_handleEach {outcomes : List (AssemblyOutcome F)} (h : NoSample outcomes)
    {message : Message F} (hmem : message ∈ (handleEach env worker outcomes).1.broker.log) :
    message ∈ worker.broker.log ∨ message.stamp? = none := by
  induction outcomes generalizing worker with
  | nil => exact .inl hmem
  | cons outcome outcomes ih =>
      have hfirst := h outcome List.mem_cons_self
      rw [handleEach] at hmem
      split at hmem
      next handled _ heq =>
        rcases ih (fun o ho => h o (List.mem_cons_of_mem _ ho)) hmem with hold | hnone
        · exact stamp?_handleAssemblyOutcome env worker hfirst (by rw [heq]; exact hold)
        · exact .inr hnone
      next handled _ heq =>
        exact stamp?_handleAssemblyOutcome env worker hfirst (by rw [heq]; exact hmem)

/-- An event that completes no sample publishes no message with a stamp. -/
theorem stamp?_handleEvent {event : TelemetryObservationEvent F} {now : F}
    (h : ∀ pending, ¬ Completes worker.assembler event pending) {message : Message F}
    (hmem : message ∈ (handleEvent env worker event now).1.broker.log) :
    message ∈ worker.broker.log ∨ message.stamp? = none := by
  obtain ⟨_, outcomes, houtcomes, hnone⟩ := ingest_of_not_completes env.config now h
  rw [handleEvent] at hmem
  split at hmem
  next assembler error heq => simp [heq] at houtcomes
  next assembler outcomes' heq =>
    rw [heq] at houtcomes
    cases houtcomes
    have hstamp : message ∈ { worker with assembler }.broker.log ∨ message.stamp? = none :=
      stamp?_handleOutcomes hnone hmem
    exact hstamp

/-! ## Publishing a result -/

/-- What a result has published is about it. -/
theorem mem_log_publishResult {message : Message F}
    (hmem : message ∈ (publishResult env worker result).1.broker.log) :
    message ∈ worker.broker.log ∨ message.stamp? = some (result.assetId, result.timestamp) := by
  have hresult := mem_log_publishWithRetry env worker
    (.result result.assetId (buildResultEvent env.uuid5 result (now env worker))) message
  simp only [publishResult] at hmem
  split at hmem
  -- only the result has been published, or the transition after it
  next published heq =>
    rw [show publishWithRetry env worker (.result result.assetId _) = _ from heq] at hresult
    refine (hresult hmem).imp_right ?_
    rintro rfl
    rfl
  next published heq =>
    rw [show publishWithRetry env worker (.result result.assetId _) = _ from heq] at hresult
    have hold (h : message ∈ published.broker.log) : message ∈ worker.broker.log ∨
        message.stamp? = some (result.assetId, result.timestamp) := by
      refine (hresult h).imp_right ?_
      rintro rfl
      rfl
    rw [publishTransition] at hmem
    split at hmem
    · exact hold hmem
    next event hevent =>
      rcases mem_log_publishWithRetry env published _ _ hmem with h | rfl
      · exact hold h
      · exact .inr (stamp?_transition hevent)

/-- The transition event of a result is published exactly if the broker accepts it, where no
transition is about the result yet. -/
theorem transitionPublished_publishTransition_iff
    (hnew : ∀ key event, .alertTransition key event ∈ worker.broker.log →
      (event.assetId, event.sourceTimestamp) ≠ (result.assetId, result.timestamp)) :
    TransitionPublished env.uuid5 (publishTransition env worker result).1.broker.log result ↔
      (result.alertEvent.isSome = true → ∃ refused,
        AcceptedAt env.accepts env.publishMaxRetries worker.broker.attempts refused) := by
  refine imp_congr_right fun halert => ?_
  -- a result with an alert has an event to publish
  obtain ⟨event, hevent⟩ : ∃ event,
      buildTransitionEvent env.uuid5 result (now env worker) = some event := by
    rw [← Option.isSome_iff_exists, buildTransitionEvent, Option.isSome_map]
    exact halert
  rw [publishTransition]
  simp only [hevent, publishWithRetry]
  rcases exists_acceptedAt_or env.accepts env.publishMaxRetries worker.broker.attempts with
    haccepted | hrefused
  · refine iff_of_true ⟨now env worker, event, hevent, ?_⟩ haccepted
    obtain ⟨refused, haccepted⟩ := haccepted
    rw [publish_of_accepted haccepted]
    exact List.mem_append_right _ (List.mem_singleton_self _)
  · rw [publish_of_refused hrefused]
    refine iff_of_false ?_ ?_
    -- the log is as before, and no transition in it is about the result
    · rintro ⟨later, other, hother, hmem⟩
      exact hnew _ _ hmem (Option.some.inj (stamp?_transition hother))
    · rintro ⟨_, haccepted⟩
      exact haccepted.not_refused hrefused

variable (env) in
/-- The events of a result that no message is about yet are published exactly if the broker
accepts them. -/
theorem published_publishResult_iff (hnew : ∀ message ∈ worker.broker.log,
      message.stamp? ≠ some (result.assetId, result.timestamp)) :
    (ResultPublished env.uuid5 (publishResult env worker result).1.broker.log result ∧
      TransitionPublished env.uuid5 (publishResult env worker result).1.broker.log result) ↔
      AcceptsBoth env worker.broker.attempts result.alertEvent.isSome := by
  simp only [publishResult, publishWithRetry]
  rcases exists_acceptedAt_or env.accepts env.publishMaxRetries worker.broker.attempts with
    ⟨refused, haccepted⟩ | hrefused
  · rw [publish_of_accepted haccepted]
    dsimp only
    set event := buildResultEvent env.uuid5 result (now env worker)
    set after : FaultInferenceStreamingWorker F :=
      { worker with
        broker := ⟨worker.broker.attempts + refused + 1,
          worker.broker.log ++ [.result event.assetId event]⟩ }
    have hresult : ResultPublished env.uuid5 (publishTransition env after result).1.broker.log
        result := by
      refine ⟨now env worker, (onlyPublished_publishTransition env after result).log.subset ?_⟩
      exact List.mem_append_right _ (List.mem_singleton_self _)
    rw [and_iff_right hresult]
    -- with the result accepted, what is left is whether the transition is
    have hboth : AcceptsBoth env worker.broker.attempts result.alertEvent.isSome ↔
        (result.alertEvent.isSome = true → ∃ refused',
          AcceptedAt env.accepts env.publishMaxRetries after.broker.attempts refused') := by
      constructor
      · rintro ⟨refused', -, haccepted', htransition⟩ hsome
        obtain ⟨later, -, hlater⟩ := htransition hsome
        rw [haccepted'.unique haccepted] at hlater
        exact ⟨later, hlater⟩
      · intro htransition
        refine ⟨refused, haccepted.1, haccepted, fun hsome => ?_⟩
        obtain ⟨later, hlater⟩ := htransition hsome
        exact ⟨later, hlater.1, hlater⟩
    rw [hboth]
    refine transitionPublished_publishTransition_iff fun key other hmem hstamp => ?_
    rcases List.mem_append.mp hmem with hold | hlast
    · exact hnew _ hold (congrArg some hstamp)
    · cases List.mem_singleton.mp hlast
  -- a refused result is not published, and was not published before
  · rw [publish_of_refused hrefused]
    refine iff_of_false (fun h => ?_) ?_
    · obtain ⟨now, hmem⟩ := h.1
      exact hnew _ hmem rfl
    · rintro ⟨_, -, haccepted, -⟩
      exact haccepted.not_refused hrefused

end FaultInferenceStreamingWorker

/-! ## What is behind the sessions -/

/-- The session of an asset has seen a sample of this timestamp, or a later one. -/
def Seen (manager : FaultInferenceManager F) (assetId : String) (timestamp : Datetime) : Prop :=
  ∀ h : assetId ≠ "", ∃ last, (manager.sessionFor assetId h).lastTimestamp = some last ∧
    timestamp.instant ≤ last.instant

/-- Everything that has a result, and every message about one, is behind the last timestamp of the
session of its asset. -/
structure Behind (trace : List (HandedOver F)) (worker : FaultInferenceStreamingWorker F) :
    Prop where
  phase : worker.manager.InSomePhase
  traced : ∀ entry ∈ trace, ∀ result, entry.2 = .ok result →
    result.assetId ≠ "" ∧ Seen worker.manager result.assetId result.timestamp
  logged : ∀ message ∈ worker.broker.log, ∀ assetId timestamp,
    message.stamp? = some (assetId, timestamp) → Seen worker.manager assetId timestamp

section Seen

variable {manager : FaultInferenceManager F} {system : PromotedFaultSystem F}
  {sample : TelemetrySample F} {assetId : String} {timestamp : Datetime}
  {result : InferenceResult F}

/-- Sessions only move on. -/
theorem Seen.ingest (h : Seen manager assetId timestamp) :
    Seen (manager.ingest system sample).1 assetId timestamp := by
  intro hne
  obtain ⟨last, hlast, hle⟩ := h hne
  by_cases heq : assetId = sample.assetId
  · subst heq
    rw [FaultInferenceManager.sessionFor_ingest_self]
    have hasset := (manager.sessionFor_assetId sample.assetId hne).symm
    by_cases hstale : sample.timestamp.instant ≤ last.instant
    -- a stale sample is refused and leaves the session as it was
    · rw [FaultInferenceSession.ingest_of_stale hasset hlast hstale]
      exact ⟨last, hlast, hle⟩
    · rw [FaultInferenceSession.lastTimestamp_ingest_of_follows hasset fun last' hlast' => by
        rw [hlast] at hlast'
        cases hlast'
        exact Int.not_le.mp hstale]
      exact ⟨_, rfl, hle.trans (Int.not_le.mp hstale).le⟩
  -- the sample is of another asset
  · rw [FaultInferenceManager.sessionFor_ingest_of_ne hne heq]
    exact ⟨last, hlast, hle⟩

/-- A result describes the sample, which was ahead of all that its session had seen. -/
theorem ahead_of_ingest (h : (manager.ingest system sample).2 = .ok result) :
    result.assetId = sample.assetId ∧ result.timestamp = sample.timestamp ∧
      result.alertEvent =
        (manager.sessionFor sample.assetId sample.assetId_ne).alertEventFor system sample ∧
      ¬ Seen manager sample.assetId sample.timestamp ∧
      Seen (manager.ingest system sample).1 sample.assetId sample.timestamp := by
  obtain ⟨hdescribes, hasset, hfollows⟩ := FaultInferenceSession.describes_ingest h
  refine ⟨hdescribes.assetId.trans hasset.symm, hdescribes.timestamp, hdescribes.alertEvent,
    fun hseen => ?_, fun hne => ?_⟩
  · obtain ⟨last, hlast, hle⟩ := hseen sample.assetId_ne
    exact absurd (hfollows last hlast) (Int.not_lt.mpr hle)
  · rw [FaultInferenceManager.sessionFor_ingest_self]
    exact ⟨_, FaultInferenceSession.lastTimestamp_ingest_of_follows hasset hfollows, le_rfl⟩

end Seen

namespace FaultInferenceStreamingWorker

variable {env : Environment F} {worker after : FaultInferenceStreamingWorker F}
  {trace : List (HandedOver F)}

/-- Where only messages about no result are new, the same samples are delivered. -/
theorem behind_of_reported (h : Behind trace worker) (hmanager : after.manager = worker.manager)
    (hlog : worker.broker.log <+: after.broker.log)
    (hnew : ∀ message ∈ after.broker.log, message ∈ worker.broker.log ∨ message.stamp? = none) :
    Behind trace after ∧
      (Delivered env.uuid5 trace after.broker.log ↔
        Delivered env.uuid5 trace worker.broker.log) := by
  refine ⟨⟨hmanager ▸ h.phase, hmanager ▸ h.traced,
      fun message hmem assetId timestamp hstamp => ?_⟩,
    delivered_congr fun _ _ _ _ message hstamp => ⟨fun hmem => ?_, fun hmem => hlog.subset hmem⟩⟩
  · rw [hmanager]
    refine h.logged message ((hnew message hmem).resolve_right ?_) assetId timestamp hstamp
    simp [hstamp]
  · exact (hnew message hmem).resolve_right (by simp [hstamp])

section RunInference

variable {sample : TelemetrySample F} {result : InferenceResult F}

/-- The worker once the session of the sample has taken it. -/
abbrev afterIngest (env : Environment F) (worker : FaultInferenceStreamingWorker F)
    (sample : TelemetrySample F) : FaultInferenceStreamingWorker F :=
  { worker with manager := (worker.manager.ingest env.system sample).1 }

/-- A sample whose session raises has no result, and publishes nothing. -/
theorem runInference_of_error {error : IngestError F}
    (hresult : (worker.manager.ingest env.system sample).2 = .error error) :
    runInference env worker sample =
      (afterIngest env worker sample, .error (.inference error)) := by
  have hpair : worker.manager.ingest env.system sample =
      ((worker.manager.ingest env.system sample).1, .error error) := Prod.ext rfl hresult
  rw [runInference, hpair]

/-- The result of a sample is published. -/
theorem runInference_of_ok (hresult : (worker.manager.ingest env.system sample).2 = .ok result) :
    (runInference env worker sample).1 =
      (publishResult env (afterIngest env worker sample) result).1 := by
  have hpair : worker.manager.ingest env.system sample =
      ((worker.manager.ingest env.system sample).1, .ok result) := Prod.ext rfl hresult
  rw [runInference, hpair]

/-- A sample whose session raises is behind nothing, is not deliverable and delivers nothing. -/
theorem behind_runInference_of_error (h : Behind trace worker) {error : IngestError F}
    (hresult : (worker.manager.ingest env.system sample).2 = .error error) :
    Behind (trace ++ [(sample, (worker.manager.ingest env.system sample).2)])
        (afterIngest env worker sample) ∧
      (Delivered env.uuid5 (trace ++ [(sample, (worker.manager.ingest env.system sample).2)])
          worker.broker.log ↔
        Delivered env.uuid5 trace worker.broker.log ∧ DeliverableSample env worker sample) := by
  obtain ⟨hphase, hexists⟩ := h.phase.ingest env.system sample
  have hnone : ∀ result, (worker.manager.ingest env.system sample).2 ≠ .ok result := by
    intro result hok
    cases hresult.symm.trans hok
  rw [delivered_concat]
  refine ⟨⟨hphase, ?_, fun message hmem assetId timestamp hstamp =>
    (h.logged message hmem assetId timestamp hstamp).ingest⟩, ?_⟩
  -- only earlier samples have results
  · intro other hother result hok
    rcases List.mem_append.mp hother with hold | hlast
    · exact (h.traced other hold result hok).imp_right Seen.ingest
    · rw [List.mem_singleton.mp hlast] at hok
      exact absurd hok (hnone result)
  · refine iff_of_false ?_ ?_
    · rintro ⟨-, result, hok, -⟩
      exact hnone result hok
    · rintro ⟨-, haccepted, -⟩
      obtain ⟨result, hok⟩ := hexists.mpr haccepted
      exact hnone result hok

/-- The session of a sample that has a result moves on to it, so its own result and the messages
about it are behind. -/
theorem behind_publishResult (h : Behind trace worker)
    (hresult : (worker.manager.ingest env.system sample).2 = .ok result) :
    Behind (trace ++ [(sample, (worker.manager.ingest env.system sample).2)])
      (publishResult env (afterIngest env worker sample) result).1 := by
  obtain ⟨hasset, htimestamp, -, -, hseen⟩ := ahead_of_ingest hresult
  have hmanager : (publishResult env (afterIngest env worker sample) result).1.manager =
      (worker.manager.ingest env.system sample).1 :=
    congrArg HandOff.manager (onlyPublished_publishResult env _ result).handOff
  constructor
  case phase =>
    rw [hmanager]
    exact (h.phase.ingest env.system sample).1
  case traced =>
    rw [hmanager]
    intro other hother result' hok
    -- earlier results were behind already, and the new one is the last that the session has seen
    rcases List.mem_append.mp hother with hold | hlast
    · exact (h.traced other hold result' hok).imp_right Seen.ingest
    · rw [List.mem_singleton.mp hlast] at hok
      obtain rfl := Except.ok.inj (hresult.symm.trans hok)
      rw [hasset, htimestamp]
      exact ⟨sample.assetId_ne, hseen⟩
  case logged =>
    rw [hmanager]
    intro message hmem assetId timestamp hstamp
    -- likewise for the messages, since the new ones are about the new result
    rcases mem_log_publishResult hmem with hold | hnewStamp
    · exact (h.logged message hold assetId timestamp hstamp).ingest
    · obtain ⟨rfl, rfl⟩ := Prod.mk.inj (Option.some.inj (hnewStamp.symm.trans hstamp))
      rw [hasset, htimestamp]
      exact hseen

/-- The messages of a result are about no sample handed over earlier, whose session has seen them,
so they deliver none of these. -/
theorem delivered_publishResult_iff (h : Behind trace worker)
    (hresult : (worker.manager.ingest env.system sample).2 = .ok result) :
    Delivered env.uuid5 trace
        (publishResult env (afterIngest env worker sample) result).1.broker.log ↔
      Delivered env.uuid5 trace worker.broker.log := by
  obtain ⟨hasset, htimestamp, -, hahead, -⟩ := ahead_of_ingest hresult
  have hlog : worker.broker.log <+:
      (publishResult env (afterIngest env worker sample) result).1.broker.log :=
    (onlyPublished_publishResult env (afterIngest env worker sample) result).log
  refine delivered_congr fun other hother result' hok message hstamp =>
    ⟨fun hmem => ?_, fun hmem => hlog.subset hmem⟩
  refine (mem_log_publishResult hmem).resolve_right fun hnewStamp => hahead ?_
  obtain ⟨hsame, hsameTime⟩ := Prod.mk.inj (Option.some.inj (hnewStamp.symm.trans hstamp))
  rw [← hasset, ← htimestamp, hsame, hsameTime]
  exact (h.traced other hother result' hok).2

/-- The messages of a result are published exactly if the sample is deliverable. -/
theorem published_publishResult_iff_deliverable (h : Behind trace worker)
    (hresult : (worker.manager.ingest env.system sample).2 = .ok result) :
    (ResultPublished env.uuid5
          (publishResult env (afterIngest env worker sample) result).1.broker.log result ∧
        TransitionPublished env.uuid5
          (publishResult env (afterIngest env worker sample) result).1.broker.log result) ↔
      DeliverableSample env worker sample := by
  obtain ⟨hasset, htimestamp, halert, hahead, -⟩ := ahead_of_ingest hresult
  -- no message is about the sample before its own are published
  have hnew : ∀ message ∈ worker.broker.log,
      message.stamp? ≠ some (result.assetId, result.timestamp) := by
    intro message hmem hstamp
    rw [hasset, htimestamp] at hstamp
    exact hahead (h.logged message hmem _ _ hstamp)
  have hafter : ∀ message ∈ (afterIngest env worker sample).broker.log,
      message.stamp? ≠ some (result.assetId, result.timestamp) := hnew
  have hpublished := published_publishResult_iff env hafter
  have haccepted := (h.phase.ingest env.system sample).2.mp ⟨result, hresult⟩
  rw [hpublished, halert]
  exact ⟨fun hboth => ⟨haccepted, hboth⟩, fun hdeliverable => hdeliverable.2⟩

end RunInference

variable (env) in
/-- A sample is delivered exactly if it is deliverable, and no earlier one is delivered by it. -/
theorem behind_runInference (h : Behind trace worker) (sample : TelemetrySample F) :
    let entry := (sample, (worker.manager.ingest env.system sample).2)
    Behind (trace ++ [entry]) (runInference env worker sample).1 ∧
      (Delivered env.uuid5 (trace ++ [entry]) (runInference env worker sample).1.broker.log ↔
        Delivered env.uuid5 trace worker.broker.log ∧ DeliverableSample env worker sample) := by
  intro entry
  cases hresult : (worker.manager.ingest env.system sample).2 with
  | error error =>
      rw [runInference_of_error hresult]
      exact behind_runInference_of_error h hresult
  | ok result =>
      rw [runInference_of_ok hresult, delivered_concat]
      refine ⟨behind_publishResult h hresult,
        and_congr (delivered_publishResult_iff h hresult) ?_⟩
      -- the result of the sample is the one that is published
      rw [← published_publishResult_iff_deliverable h hresult]
      constructor
      · rintro ⟨result', hok, hevents⟩
        obtain rfl := Except.ok.inj (hresult.symm.trans hok)
        exact hevents
      · exact fun hevents => ⟨result, hresult, hevents⟩

variable (env) in
/-- A step delivers what it hands over exactly if that is deliverable. -/
theorem behind_step (h : Behind trace worker) (call : AssemblerCall F) :
    Behind (trace ++ (HandOff.step env.config env.system worker.handOff call).2)
        (step env worker call).1 ∧
      (Delivered env.uuid5
          (trace ++ (HandOff.step env.config env.system worker.handOff call).2)
          (step env worker call).1.broker.log ↔
        Delivered env.uuid5 trace worker.broker.log ∧ Deliverable env worker call) := by
  cases call with
  | sweepTimeouts now =>
      simp only [HandOff.step, AssemblerCall.perform, samplesOf_of_noSample noSample_sweepTimeouts,
        Transducer.outputs_nil, List.append_nil, step, sweep, Deliverable, and_true]
      set swept : FaultInferenceStreamingWorker F :=
        { worker with assembler := (sweepTimeouts env.config worker.assembler now).1 }
      have hnone : NoSample (sweepTimeouts env.config worker.assembler now).2 :=
        noSample_sweepTimeouts
      have hswept : OnlyPublished swept (handleEach env swept _).1 := handleEach_of_noSample hnone
      have hstamp : ∀ message ∈ (handleEach env swept
          (sweepTimeouts env.config worker.assembler now).2).1.broker.log,
          message ∈ swept.broker.log ∨ message.stamp? = none :=
        fun message hmem => stamp?_handleEach hnone hmem
      exact behind_of_reported h (congrArg HandOff.manager hswept.handOff) hswept.log hstamp
  | ingest event now =>
      simp only [HandOff.step, AssemblerCall.perform, handOff, step, Deliverable]
      by_cases hcompletes : ∃ pending, Completes worker.assembler event pending
      · obtain ⟨pending, hcompletes⟩ := hcompletes
        rw [samples_of_completes env.config now hcompletes, completing_eq_some.mpr hcompletes]
        cases hsample : assemble event (pending.record event) with
        | error error =>
            -- a sample that cannot be built is handed over to no session
            rw [handleEvent_of_unbuildable hcompletes hsample]
            have hassembled : Behind trace
                { worker with assembler := (ingest env.config worker.assembler event now).1 } :=
              ⟨h.phase, h.traced, h.logged⟩
            simpa [hsample, Except.toOption] using hassembled
        | ok sample =>
            rw [handleEvent_of_completes hcompletes hsample]
            have hassembled : Behind trace
                { worker with assembler := (ingest env.config worker.assembler event now).1 } :=
              ⟨h.phase, h.traced, h.logged⟩
            -- a complete one is, and its result is delivered if its messages are accepted
            obtain ⟨hbehind, hdelivered⟩ := behind_runInference env hassembled sample
            refine ⟨hbehind, hdelivered.trans (and_congr_right fun _ => ?_)⟩
            simp only [Option.mem_some_iff, forall_eq', hsample, Except.toOption]
            exact ⟨fun hs => ⟨hs.accepted, hs.published⟩, fun hs => ⟨hs.accepted, hs.published⟩⟩
      · push Not at hcompletes
        -- an event that completes nothing is deliverable, and hands over nothing
        have hidle : completing worker.assembler event = none := by
          by_contra hsome
          obtain ⟨pending, hpending⟩ := Option.ne_none_iff_exists'.mp hsome
          exact hcompletes pending (completing_eq_some.mp hpending)
        rw [samples_of_not_completes env.config now hcompletes, Transducer.outputs_nil,
          List.append_nil, hidle]
        simp only [Option.not_mem_none, false_implies, implies_true, and_true]
        have hquiet : OnlyPublished
            { worker with assembler := (ingest env.config worker.assembler event now).1 }
            (handleEvent env worker event now).1 := handleEvent_of_not_completes hcompletes
        exact behind_of_reported h (congrArg HandOff.manager hquiet.handOff) hquiet.log
          fun message hmem => stamp?_handleEvent hcompletes hmem

end FaultInferenceStreamingWorker

open FaultInferenceStreamingWorker in
/-- In every run, everything handed over is delivered exactly if every sample was deliverable when
it was completed. -/
theorem delivered_iff_along (env : Environment F) (calls : List (AssemblerCall F)) :
    Delivered env.uuid5
        (Transducer.outputs (HandOff.step env.config env.system) .fresh calls).flatten
        (Transducer.after (step env) fresh calls).broker.log ↔
      Transducer.Along (step env) (Deliverable env) fresh calls := by
  -- by induction on the calls: what is behind has been delivered once and for all
  have hrun : Behind (Transducer.outputs (HandOff.step env.config env.system) .fresh calls).flatten
        (Transducer.after (step env) fresh calls) ∧
      (Delivered env.uuid5
          (Transducer.outputs (HandOff.step env.config env.system) .fresh calls).flatten
          (Transducer.after (step env) fresh calls).broker.log ↔
        Transducer.Along (step env) (Deliverable env) fresh calls) := by
    induction calls using List.reverseRecOn with
    | nil =>
        refine ⟨⟨FaultInferenceManager.inSomePhase_fresh, by simp, ?_⟩, ?_⟩
        · intro message hmem
          cases hmem
        · simp [Delivered, Transducer.Along]
    | append_singleton past call ih =>
        obtain ⟨hbehind, hdelivered⟩ := ih
        have hstate : (Transducer.after (step env) fresh past).handOff =
            Transducer.after (HandOff.step env.config env.system) .fresh past :=
          handOff_after env fresh past
        have hstep := behind_step env hbehind call
        rw [hstate] at hstep
        rw [Transducer.along_concat, ← hdelivered]
        simpa using hstep
  exact hrun.2

/-! ## The defect -/

section PublishFailure

/-- A broker that refuses the first `n` attempts and accepts the others. -/
def refusingEnvironment (n : ℕ) : Environment Rat where
  config := singleAssetConfig
  system := healthySystem
  publishMaxRetries := 3
  uuid5 := id
  accepts attempts := n ≤ attempts
  utcNow attempts := .utc attempts

/-- The last reading of the first sample is delivered again. -/
def redelivery : List (AssemblerCall Rat) := completeReadings 1 ++ (completeReadings 1).drop 6

open FaultInferenceStreamingWorker in
/-- Three attempts to publish the first result are refused. -/
theorem delivered_after_retries :
    Delivered id
      (Transducer.outputs (HandOff.step singleAssetConfig healthySystem) .fresh redelivery).flatten
      (Transducer.after (step (refusingEnvironment 3)) fresh redelivery).broker.log :=
  (delivered_iff_along (refusingEnvironment 3) redelivery).mpr (by decide +kernel)

/-- What a run of handlers returned. -/
def returnedBy (env : Environment Rat) (calls : List (AssemblerCall Rat)) : List (Option Bool) :=
  (Transducer.outputs (FaultInferenceStreamingWorker.step env) .fresh calls).map
    fun response => response.bind Except.toOption

/-- A message of the results topic. -/
def Message.isResult : Message F → Bool
  | .result _ _ => true
  | _ => false

open FaultInferenceStreamingWorker in
/-- All four attempts to publish the first result are refused. The reading that completed the
sample is delivered again and handled, as a late one; the result is never published. -/
theorem worker_not_delivered :
    Redelivered redelivery (returnedBy (refusingEnvironment 4) redelivery) ∧
      ¬ Delivered id
        (Transducer.outputs (HandOff.step singleAssetConfig healthySystem) .fresh
          redelivery).flatten
        (Transducer.after (step (refusingEnvironment 4)) fresh redelivery).broker.log := by
  have hreturned : returnedBy (refusingEnvironment 4) redelivery =
      [some true, some true, some true, some true, some true, some true, some false,
        some true] := by
    decide +kernel
  constructor
  · intro i event now hcall hfalse
    rw [hreturned] at hfalse ⊢
    -- only the call that completes the sample returned False, and it is made again
    have honly : ∀ i < 8, [some true, some true, some true, some true, some true, some true,
        some false, some true][i]? = some (some false) → i = 6 := by
      decide
    obtain ⟨hlt, _⟩ := List.getElem?_eq_some_iff.mp hfalse
    have hi := honly i hlt hfalse
    subst hi
    exact ⟨7, now, by decide, hcall, rfl⟩
  · intro h
    -- no result is in the log, but one was handed over
    have hlog : ((Transducer.after (step (refusingEnvironment 4)) fresh
        redelivery).broker.log.any Message.isResult) = false := by
      decide +kernel
    have htrace : ((Transducer.outputs (HandOff.step singleAssetConfig healthySystem) .fresh
        redelivery).flatten).length = 1 := by
      decide +kernel
    obtain ⟨entry, hentry⟩ := List.length_eq_one_iff.mp htrace
    obtain ⟨result, _, ⟨now, hmem⟩, _⟩ := h entry (by rw [hentry]; exact List.mem_singleton_self _)
    exact List.any_eq_false.mp hlog _ hmem rfl

end PublishFailure

end Odis.InferenceWorker
