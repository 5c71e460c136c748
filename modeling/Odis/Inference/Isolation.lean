import Odis.Inference.Totality

/-!
# Assets and refused samples

A manager keeps one session for each asset, and the samples of the others do not reach it. A sample
that a session refuses leaves it as it was; one that raises later has been recorded.

* `isolatedAndAtomic_iff`: the results of an asset are always those of its own samples, and a call
  that raises changes nothing exactly if it is one of the two checks that raises.
-/

namespace Odis.Inference

open AlertPolicy Features

variable {F : Type} [PyFloat F]

/-- The results of an asset among those of all samples. -/
def resultsOf (assetId : String) (samples : List (TelemetrySample F))
    (results : List (Except (IngestError F) (InferenceResult F))) :
    List (Except (IngestError F) (InferenceResult F)) :=
  ((samples.zip results).filter fun entry => entry.1.assetId = assetId).map Prod.snd

namespace FaultInferenceManager

/-- The results of an asset are those of a fresh session that is fed with its samples alone. -/
theorem resultsOf_outputs (system : PromotedFaultSystem F) {assetId : String} (hne : assetId ≠ "")
    (samples : List (TelemetrySample F)) :
    resultsOf assetId samples (Transducer.outputs (ingest system) fresh samples) =
      Transducer.outputs (FaultInferenceSession.ingest system) (.fresh assetId hne)
        (samples.filter fun sample => sample.assetId = assetId) := by
  apply Transducer.outputs_of_component (ingest system)
    (fun manager : FaultInferenceManager F => manager.sessionFor assetId hne)
    (fun sample : TelemetrySample F => sample.assetId = assetId)
  · intro manager sample hown
    obtain rfl : sample.assetId = assetId := of_decide_eq_true hown
    rw [sessionFor_ingest_self]
    rfl
  · intro manager sample hother
    exact sessionFor_ingest_of_ne hne (Ne.symm (of_decide_eq_false hother))

end FaultInferenceManager

namespace FaultInferenceSession

/-- If the session raises on a sample, the call leaves it as it was, and every later sample gets the
result it would have got without the call. -/
def AtomicOn (system : PromotedFaultSystem F) (session : FaultInferenceSession F)
    (sample : TelemetrySample F) : Prop :=
  ∀ error, (session.ingest system sample).2 = .error error →
    (session.ingest system sample).1 = session ∧
      ∀ next, ((session.ingest system sample).1.ingest system next).2 =
        (session.ingest system next).2

/-- The sample is of another asset, or not after the last one. -/
def Refuses (session : FaultInferenceSession F) (sample : TelemetrySample F) : Prop :=
  sample.assetId ≠ session.assetId ∨
    ∃ last, session.lastTimestamp = some last ∧ sample.timestamp.instant ≤ last.instant

variable {system : PromotedFaultSystem F} {session : FaultInferenceSession F}
  {sample : TelemetrySample F}

theorem ingest_of_foreign (h : sample.assetId ≠ session.assetId) :
    session.ingest system sample =
      (session, .error (.foreignAsset sample.assetId session.assetId)) := if_pos h

/-- A sample that is refused leaves the session as it was. -/
theorem ingest_of_refuses (h : session.Refuses sample) :
    (session.ingest system sample).1 = session := by
  by_cases hasset : sample.assetId = session.assetId
  · obtain hforeign | ⟨last, hlast, hstale⟩ := h
    · exact absurd hasset hforeign
    · rw [ingest_of_stale hasset hlast hstale]
  · rw [ingest_of_foreign hasset]

theorem follows_of_not_refuses (h : ¬ session.Refuses sample) :
    sample.assetId = session.assetId ∧ ∀ last, session.lastTimestamp = some last →
      last.instant < sample.timestamp.instant := by
  rw [Refuses, not_or] at h
  refine ⟨not_not.mp h.1, fun last hlast => ?_⟩
  by_contra hstale
  exact h.2 ⟨last, hlast, Int.not_lt.mp hstale⟩

/-- A sample that passes the checks is counted, whatever is raised after. -/
theorem sampleCount_ingest_of_not_refuses (h : ¬ session.Refuses sample) :
    (session.ingest system sample).1.sampleCount = session.sampleCount + 1 := by
  obtain ⟨hasset, hfollows⟩ := follows_of_not_refuses h
  obtain ⟨m, hframe⟩ : ∃ m, (evaluate system (session.recordSample sample) sample).1 =
    { session.recordSample sample with machineState := m } := evaluate_frame
  rw [ingest_of_follows hasset hfollows, hframe]
  rfl

/-- The alert machine of a session stays in a phase. -/
theorem InSomePhase.after (h : session.InSomePhase) (samples : List (TelemetrySample F)) :
    (Transducer.after (FaultInferenceSession.ingest system) session samples).InSomePhase := by
  induction samples generalizing session with
  | nil => exact h
  | cons sample samples ih =>
      apply ih
      show (session.ingest system sample).1.InSomePhase
      by_cases hasset : sample.assetId = session.assetId
      · exact (h.ingest system hasset).1
      · rw [ingest_of_foreign hasset]
        exact h

/-- A call is atomic exactly if the sample is refused or gets a result. -/
theorem InSomePhase.atomicOn_iff (h : session.InSomePhase) :
    AtomicOn system session sample ↔ session.Refuses sample ∨ session.Accepts sample := by
  by_cases hrefuses : session.Refuses sample
  · refine iff_of_true (fun error _ => ?_) (.inl hrefuses)
    rw [ingest_of_refuses hrefuses]
    exact ⟨rfl, fun _ => rfl⟩
  · have hresult := (h.ingest system (follows_of_not_refuses hrefuses).1).2
    rw [or_iff_right hrefuses, ← hresult]
    constructor
    · intro hatomic
      cases hcall : (session.ingest system sample).2 with
      | ok result => exact ⟨result, rfl⟩
      | error error =>
          -- the sample has been counted, so the session is another one
          have hcount : (session.ingest system sample).1.sampleCount = session.sampleCount + 1 :=
            sampleCount_ingest_of_not_refuses hrefuses
          rw [(hatomic error hcall).1] at hcount
          exact absurd hcount.symm (Nat.succ_ne_self _)
    · rintro ⟨result, hok⟩ error herror
      rw [hok] at herror
      cases herror

end FaultInferenceSession

/-- The results of an asset are those of its samples alone, and the session that any samples lead to
is left as it was by a further sample on which it raises. -/
structure IsolatedAndAtomic (system : PromotedFaultSystem F) (assetId : String)
    (hne : assetId ≠ "") (samples : List (TelemetrySample F)) (sample : TelemetrySample F) :
    Prop where
  isolated : resultsOf assetId samples
      (Transducer.outputs (FaultInferenceManager.ingest system) .fresh samples) =
    Transducer.outputs (FaultInferenceSession.ingest system) (.fresh assetId hne)
      (samples.filter fun sample => sample.assetId = assetId)
  atomic : FaultInferenceSession.AtomicOn system
    (Transducer.after (FaultInferenceSession.ingest system) (.fresh assetId hne) samples) sample

/-- The assets are always isolated. A call is atomic exactly if the session refuses the sample, or
the feature row of the sample can be computed once it is due. -/
theorem isolatedAndAtomic_iff (system : PromotedFaultSystem F) (assetId : String)
    (hne : assetId ≠ "") (samples : List (TelemetrySample F)) (sample : TelemetrySample F) :
    let session := Transducer.after (FaultInferenceSession.ingest system)
      (FaultInferenceSession.fresh assetId hne) samples
    IsolatedAndAtomic system assetId hne samples sample ↔
      session.Refuses sample ∨ session.Accepts sample := by
  intro session
  have hphase : (FaultInferenceSession.fresh assetId hne : FaultInferenceSession F).InSomePhase :=
    ⟨.fresh, rfl⟩
  rw [← (hphase.after samples).atomicOn_iff]
  exact ⟨fun h => h.atomic,
    fun h => ⟨FaultInferenceManager.resultsOf_outputs system hne samples, h⟩⟩

/-- The results of two assets, and a sample that is refused as it is not after the last one. -/
theorem isolatedAndAtomic_steady :
    IsolatedAndAtomic healthySystem "stack-1" (by decide) [steadySample 1, steadySample 2]
      (steadySample 2) :=
  (isolatedAndAtomic_iff healthySystem "stack-1" (by decide) _ _).mpr
    (.inl (.inr ⟨.utc 2000000, rfl, by decide⟩))

/-! ## Features that overflow -/

section Overflow

open PyFloat

/-- A system that finds every row healthy. -/
def overflowingSystem : PromotedFaultSystem RangedRat where
  classes := plantAlphaClasses
  featureOrder := featureColumnOrder
  featureOrder_sub := fun _ hcolumn => hcolumn
  predictProba := fun _ => ⟨[(0 : Rat), (1 : Rat), (0 : Rat), (0 : Rat)], rfl⟩
  alertPolicyConfig := ⟨(3 / 5 : Rat), 3, (3 / 5 : Rat), 2⟩
  entryPersistence_pos := by decide
  exitPersistence_pos := by decide
  systemVersion := "plant_alpha_fault_v1"
  modelHash := "model"
  policyHash := "policy"
  featureSchemaVersion := Features.featureSchemaVersion

theorem isfinite_extreme (negative : Bool) :
    isfinite (F := RangedRat) (if negative then (-(2 ^ 1023) : Rat) else (2 ^ 1023 : Rat)) =
      true := by
  cases negative <;> decide +kernel

/-- The sample of `stack-1` at second `i`, all of whose values are at one end of the range. -/
def extremeSample (negative : Bool) (i : ℕ) : TelemetrySample RangedRat where
  assetId := "stack-1"
  timestamp := .utc (1000000 * i)
  values := fun _ => ⟨if negative then (-(2 ^ 1023) : Rat) else (2 ^ 1023 : Rat),
    isfinite_extreme negative⟩
  efficiency := none
  assetId_ne := stack1_ne_empty

/-- The twelfth sample differs from the eleventh by more than a `float` can hold. The session
raises, and has counted the sample. -/
theorem not_isolatedAndAtomic_overflow :
    ¬ IsolatedAndAtomic overflowingSystem "stack-1" (by decide)
      ((List.range 11).map (extremeSample false)) (extremeSample true 11) := by
  intro h
  have hraised : ((Transducer.after (FaultInferenceSession.ingest overflowingSystem)
      (.fresh "stack-1" (by decide)) ((List.range 11).map (extremeSample false))).ingest
        overflowingSystem (extremeSample true 11)).2.toBool = false := by
    decide +kernel
  obtain ⟨error, herror⟩ := Exceptions.exists_error_of_toBool hraised
  have hcount := congrArg FaultInferenceSession.sampleCount (h.atomic error herror).1
  exact absurd hcount (by decide +kernel)

end Overflow

end Odis.Inference
