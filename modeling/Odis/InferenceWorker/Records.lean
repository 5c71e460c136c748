import Odis.Inference.Totality
import Odis.InferenceWorker.Building
import Odis.InferenceWorker.Delivery
import Odis.InferenceWorker.InputEvents

/-!
# Records of any kind

`_handle_message` (`inference_worker/worker.py`) from the payload of a record on: the payload is
decoded, the value validated, the event handled or its rejection reported. A handler that raises
ends the worker, which then meets the same record again.

* `returns_handleEvent_iff`: the events whose handling raises nothing.
* `robust_iff_digests`: the runs in which no record raises, and every record is handled while the
  broker accepts.
-/

namespace Odis.InferenceWorker

open AlertPolicy Features Inference RetryPublisher

variable {F : Type} [PyFloat F]

/-- What `json.loads` makes of the bytes of a record: a value, one of the exceptions that are
caught, or another one. The texts of a value have no lone surrogates. -/
inductive Payload (F : Type) where
  | value (raw : Json F)
  | undecodable (detail : String)
  | refused

/-- What the handling of a record raises. -/
inductive RecordError (F : Type) where
  | decode
  | validation (exception : PyException)
  | handler (error : HandlerError F)

/-- A record is handled, or the timeouts are swept. -/
inductive WorkerStep (F : Type) where
  | record (payload : Payload F) (now : F)
  | sweepTimeouts (now : F)

namespace FaultInferenceStreamingWorker

/-- The report of a rejected value, with `raw.get("asset_id")` of a dict. The id of the report is
joined of its texts, of which a true value that is no string is none; a false one counts as none. -/
def rejectedRecord (raw : Json F) (detail : String) : DecodedRecord F :=
  match raw with
  | .obj fields =>
      match (Json.lookup fields "asset_id").getD .null with
      | .str s => .malformed (some s) detail
      | v => if v.truthy then .unreportable else .malformed none detail
  | _ => .malformed none detail

variable [JsonText F] (env : Environment F)

/-- `_handle_message`, of the payload of a record. -/
def handleRecord (worker : FaultInferenceStreamingWorker F) (payload : Payload F) (now : F) :
    FaultInferenceStreamingWorker F × Except (RecordError F) Bool :=
  let handle (record : DecodedRecord F) :=
    let handled := handleMessage env worker record now
    (handled.1, handled.2.mapError .handler)
  match payload with
  | .refused => (worker, .error .decode)
  | .undecodable detail => handle (.malformed none ("invalid JSON payload: " ++ detail))
  | .value raw =>
      match validateTelemetryEvent raw with
      | .error (.raised exception) => (worker, .error (.validation exception))
      | .error (.rejected reason) => handle (rejectedRecord raw reason.message)
      | .ok event => handle (.event event)

/-- A step of a worker. A sweep returns nothing. -/
def consume (worker : FaultInferenceStreamingWorker F) :
    WorkerStep F → FaultInferenceStreamingWorker F × Option (Except (RecordError F) Bool)
  | .record payload now =>
      let handled := handleRecord env worker payload now
      (handled.1, some handled.2)
  | .sweepTimeouts now => ((sweep env worker now).1, none)

/-! ## What is expected of a record -/

/-- The broker accepts every attempt from now on. -/
def Accepting (worker : FaultInferenceStreamingWorker F) : Prop :=
  ∀ attempts, worker.broker.attempts ≤ attempts → env.accepts attempts = true

/-- A handler returns, and returns `true` while the broker accepts. -/
def Returns {E : Type} (worker : FaultInferenceStreamingWorker F)
    (handled : FaultInferenceStreamingWorker F × Except E Bool) : Prop :=
  ∃ b, handled.2 = .ok b ∧ (Accepting env worker → b = true ∧ Accepting env handled.1)

/-- The validator returns or rejects, and the handler returns. -/
structure Robust (worker : FaultInferenceStreamingWorker F) (payload : Payload F) (now : F) :
    Prop where
  validated : ∀ raw, payload = .value raw →
    ∀ exception, validateTelemetryEvent raw ≠ .error (.raised exception)
  returns : Returns env worker (handleRecord env worker payload now)

/-- The event completes a sample that can be built, and that its session accepts. -/
structure Completable (worker : FaultInferenceStreamingWorker F)
    (event : TelemetryObservationEvent F) (pending : PendingSample F) : Prop where
  ids : ∀ m reading, (pending.record event).readings m = some reading → reading.eventId ≠ ""
  accepts : ∀ sample, IsSampleOf event (pending.record event) sample →
    (worker.manager.sessionFor event.assetId event.assetId_ne).Accepts sample

/-- The value has no `asset_id`, a string, or a false one. -/
def Reportable (raw : Json F) : Prop :=
  ∀ fields v, raw = .obj fields → Json.lookup fields "asset_id" = some v →
    (∃ s, v = .str s) ∨ v.truthy = false

/-- The values that the worker can handle in a state. -/
structure Digestible (worker : FaultInferenceStreamingWorker F) (raw : Json F) : Prop where
  foreseen : ¬ Hazard raw
  reportable : Reportable raw
  completable : ∀ (subject : TelemetrySubject) (value : FiniteValue F), subject.ReadFrom raw →
    (raw.item "value").toFloat = .ok value.val →
    let event := ⟨(raw.item "event_id").text, subject.assetId, subject.timestamp,
      subject.measurement, value, subject.assetId_ne⟩
    ∀ pending, Completes worker.assembler event pending → Completable worker event pending

/-- The steps that a worker can take in a state: its payloads are decoded, and to a value that it
can handle. -/
def Digests (worker : FaultInferenceStreamingWorker F) : WorkerStep F → Prop
  | .record (.value raw) _ => Digestible worker raw
  | .record (.undecodable _) _ => True
  | .record .refused _ => False
  | .sweepTimeouts _ => True

/-- The step is a sweep, or its record is met by no exception. -/
def StepRobust (worker : FaultInferenceStreamingWorker F) : WorkerStep F → Prop
  | .record payload now => Robust env worker payload now
  | .sweepTimeouts _ => True

section Returns

variable {env} {worker : FaultInferenceStreamingWorker F} {E : Type}

omit [JsonText F] in
/-- A broker that accepts a message goes on accepting. -/
theorem accepting_publishWithRetry (h : Accepting env worker) (message : Message F) :
    (publishWithRetry env worker message).2 = true ∧
      Accepting env (publishWithRetry env worker message).1 := by
  rw [publishWithRetry, publish_of_accepts (h _ (Nat.le_refl _))]
  exact ⟨rfl, fun attempts hle => h attempts (Nat.le_of_succ_le hle)⟩

omit [JsonText F] in
/-- Publishing returns, whether the broker accepts the message or not. -/
theorem returns_publishWithRetry (env : Environment F) (worker : FaultInferenceStreamingWorker F)
    (message : Message F) :
    Returns (E := E) env worker ((publishWithRetry env worker message).1,
      .ok (publishWithRetry env worker message).2) :=
  ⟨_, rfl, fun h => accepting_publishWithRetry h message⟩

omit [JsonText F] in
/-- So does publishing a transition, if there is one to publish. -/
theorem returns_publishTransition (env : Environment F) (worker : FaultInferenceStreamingWorker F)
    (result : InferenceResult F) :
    Returns (E := E) env worker ((publishTransition env worker result).1,
      .ok (publishTransition env worker result).2) := by
  rw [publishTransition]
  split
  · exact ⟨true, rfl, fun h => ⟨rfl, h⟩⟩
  · exact returns_publishWithRetry env worker _

omit [JsonText F] in
/-- So does publishing a result and its transition. -/
theorem returns_publishResult (env : Environment F) (worker : FaultInferenceStreamingWorker F)
    (result : InferenceResult F) :
    Returns (E := E) env worker ((publishResult env worker result).1,
      .ok (publishResult env worker result).2) := by
  refine ⟨_, rfl, fun h => ?_⟩
  obtain ⟨hpublished, hnext⟩ := accepting_publishWithRetry h
    (.result result.assetId (buildResultEvent env.uuid5 result (now env worker)))
  rw [publishResult]
  split
  next published heq =>
    rw [show publishWithRetry env worker (.result result.assetId _) = _ from heq] at hpublished
    cases hpublished
  next published heq =>
    rw [show publishWithRetry env worker (.result result.assetId _) = _ from heq] at hnext
    obtain ⟨b, hb, htransition⟩ := returns_publishTransition (E := Empty) env published result
    cases hb
    exact htransition hnext

omit [JsonText F] in
/-- An outcome without a sample is reported at most. -/
theorem returns_handleAssemblyOutcome (env : Environment F)
    (worker : FaultInferenceStreamingWorker F) {outcome : AssemblyOutcome F}
    (h : outcome.sample? = none) :
    Returns env worker (handleAssemblyOutcome env worker outcome) := by
  cases outcome with
  | pending assetId sourceTimestamp => exact ⟨true, rfl, fun h => ⟨rfl, h⟩⟩
  | rejected assetId sourceTimestamp reason detail => exact returns_publishWithRetry env worker _
  | complete assetId sourceTimestamp sample => contradiction

omit [JsonText F] in
/-- Outcomes without a sample are handled without raising. -/
theorem returns_handleOutcomes (env : Environment F) (worker : FaultInferenceStreamingWorker F)
    {outcomes : List (AssemblyOutcome F)} (h : NoSample outcomes) :
    Returns env worker (handleOutcomes env worker outcomes) := by
  induction outcomes generalizing worker with
  | nil => exact ⟨true, rfl, fun h => ⟨rfl, h⟩⟩
  | cons outcome outcomes ih =>
      obtain ⟨b, hb, haccepting⟩ :=
        returns_handleAssemblyOutcome env worker (h outcome List.mem_cons_self)
      rw [handleOutcomes]
      split
      next handled heq =>
        rw [heq] at haccepting
        obtain ⟨b', hb', hnext⟩ := ih handled fun o ho => h o (List.mem_cons_of_mem _ ho)
        exact ⟨b', hb', fun h => hnext (haccepting h).2⟩
      next handled hne =>
        exact ⟨b, hb, haccepting⟩

omit [JsonText F] in
/-- A sample is diagnosed and published exactly if its session accepts it. -/
theorem returns_runInference_iff (env : Environment F)
    {worker : FaultInferenceStreamingWorker F} (hphase : worker.manager.InSomePhase)
    (sample : TelemetrySample F) :
    Returns env worker (runInference env worker sample) ↔
      (worker.manager.sessionFor sample.assetId sample.assetId_ne).Accepts sample := by
  rw [← (hphase.ingest env.system sample).2, runInference]
  split
  next manager error heq =>
    rw [heq]
    refine iff_of_false ?_ ?_
    · rintro ⟨_, ⟨⟩, _⟩
    · rintro ⟨_, ⟨⟩⟩
  next manager result heq =>
    rw [heq]
    exact iff_of_true (returns_publishResult env { worker with manager } result) ⟨result, rfl⟩

end Returns

section Events

variable {env} {worker : FaultInferenceStreamingWorker F} {event : TelemetryObservationEvent F}
  {pending : PendingSample F} {now : F}

omit [JsonText F] in
/-- An event completes one pending sample at most. -/
theorem completes_unique {pending' : PendingSample F} (h : Completes worker.assembler event pending)
    (h' : Completes worker.assembler event pending') : pending = pending' :=
  Option.some.inj ((completing_eq_some.mpr h).symm.trans (completing_eq_some.mpr h'))

omit [JsonText F] in
/-- Whether a session accepts a sample depends on what the sample is of. -/
theorem accepts_congr {sample sample' : TelemetrySample F}
    (h : IsSampleOf event pending sample) (h' : IsSampleOf event pending sample')
    {session : FaultInferenceSession F} (haccepts : session.Accepts sample) :
    session.Accepts sample' := by
  have htimestamp : sample'.timestamp = sample.timestamp := h'.timestamp.trans h.timestamp.symm
  have hvalues : sample'.values = sample.values := by
    funext m
    exact Option.some.inj ((h'.values m).symm.trans (h.values m))
  have hrecorded : session.recordSample sample' = session.recordSample sample := by
    rw [FaultInferenceSession.recordSample, FaultInferenceSession.recordSample, htimestamp, hvalues]
  constructor
  · rw [htimestamp]
    exact haccepts.follows
  · rw [hrecorded]
    exact haccepts.computable

omit [JsonText F] in
/-- The handling of an event returns exactly if the sample that it completes, if any, can be built
and is accepted. -/
theorem returns_handleEvent_iff (hphase : worker.manager.InSomePhase) :
    Returns env worker (handleEvent env worker event now) ↔
      ∀ pending, Completes worker.assembler event pending → Completable worker event pending := by
  by_cases hcompletes : ∃ pending, Completes worker.assembler event pending
  · obtain ⟨pending, hcompletes⟩ := hcompletes
    have hmissing : (pending.record event).missing = [] := by
      obtain ⟨_, _, _, _, _, hmissing⟩ := hcompletes
      exact hmissing
    -- only this pending sample is completed, so the condition is about it alone
    have honly : (∀ pending', Completes worker.assembler event pending' →
        Completable worker event pending') ↔ Completable worker event pending := by
      constructor
      · exact fun h => h pending hcompletes
      · intro h pending' hcompletes'
        rwa [← completes_unique hcompletes hcompletes']
    rw [honly]
    cases hsample : assemble event (pending.record event) with
    | error error =>
        rw [handleEvent_of_unbuildable hcompletes hsample]
        refine iff_of_false ?_ fun h => ?_
        · rintro ⟨_, ⟨⟩, _⟩
        · obtain ⟨sample, hsample'⟩ := (exists_assemble_iff event hmissing).mpr h.ids
          cases hsample.symm.trans hsample'
    | ok sample =>
        -- what is built is a sample of the event, and goes to the session of its asset
        have hof := isSampleOf_assemble hmissing hsample
        have hsession : worker.manager.sessionFor sample.assetId sample.assetId_ne =
            worker.manager.sessionFor event.assetId event.assetId_ne := by
          simp only [hof.assetId]
        rw [handleEvent_of_completes hcompletes hsample]
        -- the assembler has moved on, the sessions have not
        let assembled : FaultInferenceStreamingWorker F :=
          { worker with assembler := (ingest env.config worker.assembler event now).1 }
        have hassembled : assembled.manager.InSomePhase := hphase
        refine Iff.trans (returns_runInference_iff env hassembled sample) ?_
        change (worker.manager.sessionFor sample.assetId sample.assetId_ne).Accepts sample ↔ _
        rw [hsession]
        constructor
        · intro haccepts
          exact ⟨(exists_assemble_iff event hmissing).mp ⟨sample, hsample⟩,
            fun sample' hof' => accepts_congr hof hof' haccepts⟩
        · exact fun h => h.accepts sample hof
  · push Not at hcompletes
    refine iff_of_true ?_ fun pending h => absurd h (hcompletes pending)
    obtain ⟨_, outcomes, houtcomes, hnone⟩ := ingest_of_not_completes env.config now hcompletes
    rw [handleEvent]
    split
    next assembler error heq =>
      rw [heq] at houtcomes
      cases houtcomes
    next assembler outcomes' heq =>
      rw [heq] at houtcomes
      cases houtcomes
      exact returns_handleOutcomes env { worker with assembler } hnone

end Events

/-! ## One record -/

section Step

variable {env} {worker : FaultInferenceStreamingWorker F} {payload : Payload F} {raw : Json F}
  {now : F}

omit [JsonText F] in
/-- Renaming the exceptions does not change whether a call returns. -/
theorem returns_mapError_iff {E E' : Type} {f : E → E'}
    {handled : FaultInferenceStreamingWorker F × Except E Bool} :
    Returns env worker (handled.1, handled.2.mapError f) ↔ Returns env worker handled := by
  simp only [Returns, Exceptions.mapError_eq_ok]

omit [JsonText F] in
/-- A rejection is reported exactly if the id of the report can be joined. -/
theorem returns_rejectedRecord_iff (detail : String) :
    Returns env worker (handleMessage env worker (rejectedRecord raw detail) now) ↔
      Reportable raw := by
  have hmalformed : ∀ assetId,
      Returns env worker (handleMessage env worker (.malformed assetId detail) now) :=
    fun assetId => returns_publishWithRetry env worker _
  cases raw with
  | obj fields =>
      rw [rejectedRecord]
      cases hlookup : Json.lookup fields "asset_id" with
      | none =>
          refine iff_of_true (hmalformed none) fun fields' v hobj hv => ?_
          cases hobj
          exact nomatch hlookup.symm.trans hv
      | some v =>
          -- the id is the last one that the object has under this name
          have hreportable : Reportable (.obj fields) ↔ (∃ s, v = .str s) ∨ v.truthy = false := by
            constructor
            · exact fun h => h fields v rfl hlookup
            · intro h fields' v' hobj hv'
              cases hobj
              cases hlookup.symm.trans hv'
              exact h
          rw [hreportable, Option.getD_some]
          -- a string is joined as it is, any other value only if it is falsy and so left out
          cases v with
          | str s => exact iff_of_true (hmalformed (some s)) (Or.inl ⟨s, rfl⟩)
          | _ =>
              simp only [reduceCtorEq, exists_false, false_or]
              split_ifs with htruthy
              · refine iff_of_false (fun ⟨_, h, _⟩ => nomatch h) fun h => ?_
                exact absurd (htruthy.symm.trans h) Bool.noConfusion
              · exact iff_of_true (hmalformed none) (Bool.eq_false_of_not_eq_true htruthy)
  | _ => exact iff_of_true (hmalformed none) fun _ _ h => nomatch h

/-- A record raises nothing exactly if it is decoded, and to a value that the worker can handle. -/
theorem robust_iff (hphase : worker.manager.InSomePhase) :
    Robust env worker payload now ↔ Digests worker (.record payload now) := by
  cases payload with
  | refused => exact iff_of_false (fun h => nomatch h.returns) id
  | undecodable detail =>
      refine iff_of_true ⟨fun _ h => (nomatch h), ?_⟩ trivial
      exact returns_mapError_iff.mpr (returns_publishWithRetry env worker _)
  | value raw =>
      cases hvalid : validateTelemetryEvent raw with
      | error failure =>
          -- the validator raises, rejects or accepts, and the message is handled accordingly
          cases failure with
          | raised exception =>
              refine iff_of_false (fun h => h.validated raw rfl exception hvalid) fun h => ?_
              exact h.foreseen (validate_raised_iff.mp ⟨exception, hvalid⟩)
          | rejected reason =>
              have hhandled : handleRecord env worker (.value raw) now =
                  ((handleMessage env worker (rejectedRecord raw reason.message) now).1,
                    (handleMessage env worker (rejectedRecord raw reason.message) now).2.mapError
                      .handler) := by
                simp only [handleRecord, hvalid]
              constructor
              · rintro ⟨hvalidated, hreturns⟩
                rw [hhandled, returns_mapError_iff, returns_rejectedRecord_iff] at hreturns
                refine ⟨fun hazard => ?_, hreturns, fun subject value hread hvalue => ?_⟩
                · obtain ⟨exception, hraised⟩ := validate_raised_iff.mpr hazard
                  exact hvalidated raw rfl exception hraised
                · -- a value that reads as an event is not rejected
                  exact nomatch hvalid.symm.trans
                    (validate_eq_ok_iff.mpr ⟨subject, value, hread, hvalue, rfl⟩)
              · rintro ⟨hforeseen, hreportable, -⟩
                refine ⟨fun raw' heq exception hraised => ?_, ?_⟩
                · cases heq
                  exact hforeseen (validate_raised_iff.mp ⟨exception, hraised⟩)
                · rw [hhandled, returns_mapError_iff, returns_rejectedRecord_iff]
                  exact hreportable
      | ok event =>
          have hhandled : handleRecord env worker (.value raw) now =
              ((handleEvent env worker event now).1,
                (handleEvent env worker event now).2.mapError .handler) := by
            simp only [handleRecord, hvalid, handleMessage]
          have hforeseen :
              ∀ exception, validateTelemetryEvent raw ≠ .error (.raised exception) := by
            intro exception hraised
            exact nomatch hvalid.symm.trans hraised
          -- an accepted event is handed to the assembler
          obtain ⟨subject, value, hread, hvalue, rfl⟩ := validate_eq_ok_iff.mp hvalid
          constructor
          · rintro ⟨-, hreturns⟩
            rw [hhandled, returns_mapError_iff, returns_handleEvent_iff hphase] at hreturns
            refine ⟨fun hazard => ?_, fun fields v hobj hv => ?_,
              fun subject' value' hread' hvalue' => ?_⟩
            · obtain ⟨exception, hraised⟩ := validate_raised_iff.mpr hazard
              exact hforeseen exception hraised
            · have hasset := hread.assetId
              rw [hobj, Json.item, Json.field_obj, hv] at hasset
              exact Or.inl ⟨_, hasset⟩
            · have hvalid' := validate_eq_ok_iff.mpr ⟨subject', value', hread', hvalue', rfl⟩
              rw [← Except.ok.inj (hvalid.symm.trans hvalid')]
              exact hreturns
          · rintro ⟨-, -, hcompletable⟩
            refine ⟨fun raw' heq exception => ?_, ?_⟩
            · cases heq
              exact hforeseen exception
            · rw [hhandled, returns_mapError_iff, returns_handleEvent_iff hphase]
              exact hcompletable subject value hread hvalue

end Step

/-! ## Runs -/

section Runs

variable {env} {worker : FaultInferenceStreamingWorker F}

omit [JsonText F] in
/-- Handing samples over leaves the machines in a phase. -/
theorem inSomePhase_after_handOver {system : PromotedFaultSystem F}
    {manager : FaultInferenceManager F} (h : manager.InSomePhase)
    (samples : List (TelemetrySample F)) :
    (Transducer.after (handOver system) manager samples).InSomePhase := by
  induction samples generalizing manager with
  | nil => exact h
  | cons sample samples ih => exact ih (h.ingest system sample).1

omit [JsonText F] in
/-- What the assembler is called for leaves the machines in a phase. -/
theorem inSomePhase_step (h : worker.manager.InSomePhase) (call : AssemblerCall F) :
    (step env worker call).1.manager.InSomePhase := by
  have hmanager := congrArg HandOff.manager (handOff_step env worker call)
  rw [show (step env worker call).1.manager = (step env worker call).1.handOff.manager from rfl,
    hmanager]
  exact inSomePhase_after_handOver h _

omit [JsonText F] in
/-- A rejected record is not handled as an event. -/
theorem rejectedRecord_ne_event {raw : Json F} {detail : String}
    {event : TelemetryObservationEvent F} : rejectedRecord raw detail ≠ .event event := by
  unfold rejectedRecord
  split
  · split
    · exact fun h => nomatch h
    · split_ifs <;> exact fun h => nomatch h
  · exact fun h => nomatch h

/-- Every step leaves the machines in a phase, whatever it raises. -/
theorem inSomePhase_consume (h : worker.manager.InSomePhase) (s : WorkerStep F) :
    (consume env worker s).1.manager.InSomePhase := by
  -- a record that is reported does not reach the sessions
  have hreported : ∀ record, (∀ event, record ≠ .event event) →
      ∀ now, (handleMessage env worker record now).1.manager.InSomePhase := by
    intro record hrecord now
    cases record with
    | event event => exact absurd rfl (hrecord event)
    | malformed assetId detail => exact h
    | unreportable => exact h
  cases s with
  | sweepTimeouts now => exact inSomePhase_step h (.sweepTimeouts now)
  | record payload now =>
      cases payload with
      | refused => exact h
      | undecodable detail => exact h
      | value raw =>
          simp only [consume, handleRecord]
          split
          · exact h
          · exact hreported _ (fun event => rejectedRecord_ne_event) now
          next event _ => exact inSomePhase_step h (.ingest event now)

/-- A run raises on none of its records, and handles them all while the broker accepts, exactly if
the worker can handle each of them where it meets it. -/
theorem robust_iff_digests (env : Environment F) (steps : List (WorkerStep F)) :
    Transducer.Along (consume env) (StepRobust env) fresh steps ↔
      Transducer.Along (consume env) Digests fresh steps := by
  have hagree : ∀ (worker : FaultInferenceStreamingWorker F) s, worker.manager.InSomePhase →
      (StepRobust env worker s ↔ Digests worker s) := by
    intro worker s hphase
    cases s with
    | record payload now => exact robust_iff hphase
    | sweepTimeouts now => exact Iff.rfl
  exact Transducer.along_congr (consume env) hagree
    (fun worker s hphase => inSomePhase_consume hphase s)
    FaultInferenceManager.inSomePhase_fresh steps

end Runs

/-! ## The defects -/

section Defects

/-- A reading of `stack-1` whose event has an empty id. -/
def unnamedReading (m : FeatureMeasurement) : Payload Rat :=
  .value (.obj [("event_id", .str ""), ("event_version", .str "v1"),
    ("asset_id", .str "stack-1"), ("timestamp", .str "2026-01-01T00:00:00Z"),
    ("measurement_name", .str m.name), ("value", .int 2),
    ("unit", .str (Measurement.required m).canonicalUnit), ("source", .str "plant")])

/-- A number is met with an exception. So is the last of seven readings that are accepted but have
empty ids: no observation can be built of them. -/
theorem not_robust_unnamedReadings :
    ¬ Transducer.Along (consume (refusingEnvironment 0)) (StepRobust (refusingEnvironment 0)) fresh
        [.record (.value (.int 5)) 0] ∧
      ¬ Transducer.Along (consume (refusingEnvironment 0)) (StepRobust (refusingEnvironment 0))
        fresh (defaultMeasurements.map fun m => .record (unnamedReading m) 0) := by
  constructor
  · rintro ⟨hrobust, -⟩
    exact hrobust.validated (.int 5) rfl .typeError rfl
  · intro h
    -- the first six are buffered, and the seventh completes the sample
    have hlast : StepRobust (refusingEnvironment 0)
        (Transducer.after (consume (refusingEnvironment 0)) fresh
          ((defaultMeasurements.take 6).map fun m => .record (unnamedReading m) 0))
        (.record (unnamedReading .coolantFlow) 0) :=
      ((Transducer.along_concat (consume (refusingEnvironment 0))).mp h).2
    obtain ⟨b, hb, -⟩ := hlast.returns
    have hraised : (handleRecord (refusingEnvironment 0)
        (Transducer.after (consume (refusingEnvironment 0)) fresh
          ((defaultMeasurements.take 6).map fun m => .record (unnamedReading m) 0))
        (unnamedReading .coolantFlow) 0).2.toOption = none := by
      decide +kernel
    rw [hb] at hraised
    exact nomatch hraised

end Defects

end FaultInferenceStreamingWorker

end Odis.InferenceWorker
