import Odis.Python.DoubleFormat
import Odis.Python.Statistics
import Odis.Simulator.Runner

/-!
# Labels and physics of a run

The progress of a fault is computed twice, before a step from the time that is predicted and after
it from the time that is reached. The results are about the rounded arithmetic of any number format;
when a ramp is complete depends on how a quotient is rounded, so that one is about floats.

* `aligned_of_iterSamples`: the effect that a step applies is the one that its sample is labelled
  with.
* `progress_eq_one_iff`: the ramp is complete once the time since its start, as it is subtracted,
  has come to its duration.
* `labels_aligned_iff`: when it is complete in every sample from its end on.
-/

namespace Odis.Simulator

open Arithmetic

variable {format : NumberFormat}

/-! ## The clamps -/

section Ramp

variable {start maxEnd lower q : ℚ} {severity progress : Number format}

/-- A literal is rounded. -/
theorem val_literal (q : ℚ) : (literal q : Number format).val = format.round q := rfl

/-- Zero is not changed. -/
theorem literal_zero : (literal 0.0 : Number format).val = 0 := by
  rw [val_literal, show (0.0 : ℚ) = 0 by norm_num, format.round_zero]

/-- Nor is one. -/
theorem literal_one : (literal 1.0 : Number format).val = 1 := by
  rw [val_literal, show (1.0 : ℚ) = 1 by norm_num, format.round_one]

/-- How far a result up to one is rounded. -/
def roundingUnit : ℚ := 1 / 2 ^ 53

/-- Between minus one and one, rounding is off by less than a unit. -/
theorem round_mem (h₀ : -1 ≤ q) (h₁ : q ≤ 1) :
    q - roundingUnit ≤ format.round q ∧ format.round q ≤ q + roundingUnit := by
  have hnear := format.round_near q (abs_le.mpr ⟨h₀, h₁⟩)
  rw [abs_le] at hnear
  rw [roundingUnit]
  exact ⟨by linarith [hnear.1], by linarith [hnear.2]⟩

/-- The end of a ramp is between the end at full severity, up to rounding, and the start. -/
theorem rampEnd_mem (hends : 0 ≤ maxEnd ∧ maxEnd ≤ start ∧ start ≤ 1)
    (hunit : 3 * roundingUnit ≤ maxEnd) (hseverity : 0 ≤ severity.val ∧ severity.val ≤ 1) :
    maxEnd - 3 * roundingUnit ≤ (rampEnd severity (literal start) (literal maxEnd)).val ∧
      rampEnd severity (literal start) (literal maxEnd) ≤ literal start := by
  obtain ⟨hmaxEnd, hle, hstart⟩ := hends
  let S : Number format := literal start
  let M : Number format := literal maxEnd
  have hS : S.val ≤ 1 := format.round_one ▸ format.round_mono hstart
  have hMS : M.val ≤ S.val := format.round_mono hle
  have hM : maxEnd - roundingUnit ≤ M.val := (round_mem (by linarith) (by linarith)).1
  have hMnonneg : 0 ≤ M.val := format.round_zero ▸ format.round_mono hmaxEnd
  -- the full drop, rounded
  have hdrop : (S - M).val ≤ S.val - M.val + roundingUnit :=
    (round_mem (by linarith) (by linarith)).2
  have hdropnonneg : 0 ≤ (S - M).val :=
    format.round_zero ▸ format.round_mono (sub_nonneg.mpr hMS)
  -- the drop of the severity is no more than the full one
  have hpart : severity * (S - M) ≤ S - M :=
    Number.ofRat_le (mul_le_of_le_one_left hdropnonneg hseverity.2)
  have hpartnonneg : 0 ≤ (severity * (S - M)).val :=
    format.round_zero ▸ format.round_mono (mul_nonneg hseverity.1 hdropnonneg)
  rw [Number.le_iff] at hpart
  show _ ≤ (S - severity * (S - M)).val ∧ S - severity * (S - M) ≤ S
  constructor
  · have hend : S.val - (severity * (S - M)).val - roundingUnit ≤ (S - severity * (S - M)).val :=
      (round_mem (by linarith) (by linarith)).1
    linarith
  -- and the drop is not negative
  · exact Number.ofRat_le (sub_le_self _ hpartnonneg)

/-- A value of a ramp is between its ends, up to rounding. -/
theorem rampValue_mem {S E : Number format} (hS : S.val ≤ 1) (hES : E ≤ S)
    (hE : 2 * roundingUnit ≤ E.val) (hprogress : 0 ≤ progress.val ∧ progress.val ≤ 1) :
    E.val - 2 * roundingUnit ≤ (rampValue (S, E) progress).val ∧ rampValue (S, E) progress ≤ S := by
  rw [Number.le_iff] at hES
  have hunit : 0 ≤ roundingUnit := by decide +kernel
  -- the slope of the ramp, rounded
  have hslope : E.val - S.val - roundingUnit ≤ (E - S).val :=
    (round_mem (by linarith) (by linarith)).1
  have hslopeneg : (E - S).val ≤ 0 :=
    format.round_zero ▸ format.round_mono (sub_nonpos.mpr hES)
  have hpart : E - S ≤ (E - S) * progress :=
    Number.le_ofRat (le_mul_of_le_one_right hslopeneg hprogress.2)
  have hpartneg : ((E - S) * progress).val ≤ 0 :=
    format.round_zero ▸ format.round_mono (mul_nonpos_of_nonpos_of_nonneg hslopeneg hprogress.1)
  rw [Number.le_iff] at hpart
  show _ ≤ (S + (E - S) * progress).val ∧ S + (E - S) * progress ≤ S
  constructor
  · have hvalue : S.val + ((E - S) * progress).val - roundingUnit ≤
        (S + (E - S) * progress).val := (round_mem (by linarith) (by linarith)).1
    linarith
  · exact Number.ofRat_le (add_le_of_nonpos_right hpartneg)

/-- The clamps of the machine leave alone the values of a ramp that ends well above their lower
bound. -/
theorem clamp_rampValue (hends : 0 ≤ maxEnd ∧ maxEnd ≤ start ∧ start ≤ 1)
    (hlower : 0 ≤ lower ∧ lower + 6 * roundingUnit ≤ maxEnd)
    (hseverity : 0 ≤ severity.val ∧ severity.val ≤ 1)
    (hprogress : 0 ≤ progress.val ∧ progress.val ≤ 1) :
    clamp (rampValue (literal start, rampEnd severity (literal start) (literal maxEnd)) progress)
        (literal lower) (literal 1.0) =
      rampValue (literal start, rampEnd severity (literal start) (literal maxEnd)) progress := by
  have hunit : 0 ≤ roundingUnit := by decide +kernel
  obtain ⟨hend, hendstart⟩ := rampEnd_mem hends (by linarith [hlower.1, hlower.2]) hseverity
  have hstart : (literal start : Number format).val ≤ 1 :=
    format.round_one ▸ format.round_mono hends.2.2
  obtain ⟨hvalue, hvaluestart⟩ := rampValue_mem hstart hendstart
    (by linarith [hlower.1, hlower.2]) hprogress
  have hliteral : (literal lower : Number format).val ≤ lower + roundingUnit :=
    (round_mem (by linarith [hlower.1]) (by linarith [hlower.2, hends.2.1, hends.2.2])).2
  refine clamp_eq_self ?_ (hvaluestart.trans ?_)
  · rw [Number.le_iff]
    linarith [hlower.2]
  · rw [Number.le_iff, literal_one]
    exact hstart

end Ramp

/-! ## The progress -/

section Progress

variable {config : RunConfig (Number format)} {target : PlantAsset}
  {elapsed elapsed' progress : Number format}

/-- The fault window of a run in which an effect is applied. -/
theorem exists_window (h : config.appliedProgress? elapsed = some progress) :
    ∃ faultStart faultDuration, config.faultStartSimSeconds = some faultStart ∧
      config.faultDurationSimSeconds = some faultDuration ∧ 0 < faultDuration.val ∧
      faultStart ≤ elapsed ∧
      progress = min (literal 1.0) ((elapsed - faultStart) / faultDuration) := by
  have hfault := normalOperation_of_appliedProgress h
  obtain ⟨hnormal, -⟩ | ⟨-, faultStart, faultDuration, hstart, hduration, hpositive⟩ :=
    config.window
  · exact absurd hnormal hfault
  · rw [RunConfig.appliedProgress?, if_neg hfault, hstart, hduration] at h
    simp only [Option.ite_none_right_eq_some, Option.some.injEq] at h
    refine ⟨faultStart, faultDuration, hstart, hduration, ?_, h.1, h.2.symm⟩
    rwa [Number.lt_iff, val_literal, format.round_zero] at hpositive

/-- Progress is between zero and one. -/
theorem progress_mem (h : config.appliedProgress? elapsed = some progress) :
    0 ≤ progress.val ∧ progress.val ≤ 1 := by
  obtain ⟨faultStart, faultDuration, -, -, hpositive, hle, rfl⟩ := exists_window h
  have hsince : 0 ≤ (elapsed - faultStart).val :=
    format.round_zero ▸ format.round_mono (sub_nonneg.mpr hle)
  have hratio : 0 ≤ ((elapsed - faultStart) / faultDuration).val :=
    format.round_zero ▸ format.round_mono (div_nonneg hsince hpositive.le)
  constructor
  · rcases min_choice (literal 1.0) ((elapsed - faultStart) / faultDuration) with hmin | hmin
    · rw [hmin, literal_one]
      exact zero_le_one
    · rwa [hmin]
  · have hone : (literal 1.0 : Number format).val = 1 := literal_one
    exact hone ▸ Number.le_iff.mp (min_le_left _ _)

/-- The progress does not fall as time passes. -/
theorem progress_mono (h : config.appliedProgress? elapsed = some progress)
    (hle : elapsed ≤ elapsed') :
    ∃ progress', config.appliedProgress? elapsed' = some progress' ∧ progress ≤ progress' := by
  have hfault := normalOperation_of_appliedProgress h
  obtain ⟨faultStart, faultDuration, hstart, hduration, hpositive, hfrom, rfl⟩ := exists_window h
  refine ⟨_, ?_, min_le_min_left (literal 1.0)
    (Number.div_mono_left (Number.sub_mono_left hle faultStart) hpositive)⟩
  rw [RunConfig.appliedProgress?, if_neg hfault, hstart, hduration]
  exact if_pos (hfrom.trans hle)

/-- The label of the target computes the progress that the step computed, from the time that the
step predicted. -/
theorem activeRamp_eq (config : RunConfig (Number format))
    (htarget : target.id = config.targetAssetId)
    (elapsed : Number format) :
    (activeRamp? config target elapsed).map Prod.snd = config.appliedProgress? elapsed := by
  obtain ⟨hnormal, hstart, -⟩ | ⟨hfault, faultStart, faultDuration, hstart, hduration, -⟩ :=
    config.window
  · rw [activeRamp?, RunConfig.appliedProgress?, if_pos hnormal, hstart]
    rfl
  · rw [activeRamp?, RunConfig.appliedProgress?, if_neg hfault, hstart, hduration]
    simp only [htarget, true_and]
    by_cases hle : faultStart ≤ elapsed
    · rw [if_pos hle, if_pos hle]
      rfl
    · rw [if_neg hle, if_neg hle]
      rfl

/-- No other asset is labelled with a fault. -/
theorem activeRamp_of_ne (config : RunConfig (Number format)) {asset : PlantAsset}
    (hne : asset.id ≠ config.targetAssetId)
    (elapsed : Number format) : activeRamp? config asset elapsed = none := by
  rw [activeRamp?]
  split
  · exact if_neg fun h => hne h.1
  · rfl

end Progress

/-! ## Alignment -/

section Alignment

/-- The label of an asset that no fault is injected into. -/
structure LabelledHealthy (truth : GroundTruthRecord (Number format)) : Prop where
  faultType_eq : truth.faultType = .none
  inactive : truth.faultActive = false
  severity_eq : truth.faultSeverity = literal 0.0
  since_eq : truth.secondsSinceFaultStart = none
  corruption_eq : truth.sensorCorruptionType = .none

/-- The sample of a step from a fleet says of the target what the step did to it, and of the other
assets that they are healthy. The progress is that of the call of `apply_fault_effect`, if the step
makes one. -/
structure AlignedSample (config : RunConfig (Number format)) (target : PlantAsset)
    (before : PlantAlphaFleet (Number format)) (progress? : Option (Number format))
    (sample : SimulationSample (Number format)) : Prop where
  /-- The effect is applied before the physics of the step, with the progress. -/
  applied : ∀ progress, progress? = some progress →
    ∃ fleet', applyFaultEffect before config target progress = .ok fleet' ∧
      sample.fleet = fleet'.normalOperationTick config.profile config.step
  /-- No effect is applied otherwise, and none has been before. -/
  not_applied : progress? = none →
    sample.fleet = before.normalOperationTick config.profile config.step ∧
      sample.fleet.faultParameters target = config.initialFleet.faultParameters target
  /-- There is one label for each asset. -/
  labels : sample.groundTruth.map GroundTruthRecord.assetId = PlantAsset.all.map PlantAsset.id
  active : ∀ truth ∈ sample.groundTruth, truth.assetId = config.targetAssetId →
    truth.faultActive = progress?.isSome
  severity : ∀ truth ∈ sample.groundTruth, truth.assetId = config.targetAssetId →
    ∀ progress, progress? = some progress →
      truth.faultSeverity = config.faultSeverity * progress
  /-- The commanded parameter is on the ramp: no clamp alters it. -/
  commanded : ∀ progress, progress? = some progress →
    ∃ endpoints, faultRampEndpoints config = .ok endpoints ∧
      commandedParameter config.scenarioName sample.fleet target =
        some (rampValue endpoints progress)
  /-- Nothing that a fault drives has been touched in any other asset. -/
  others : ∀ asset ≠ target,
    sample.fleet.faultParameters asset = config.initialFleet.faultParameters asset
  healthy : ∀ truth ∈ sample.groundTruth, truth.assetId ≠ config.targetAssetId →
    LabelledHealthy truth

/-- Labels and physics are aligned in all samples of a run, along which the progress does not
fall. -/
structure LabelsAligned (config : RunConfig (Number format)) (target : PlantAsset)
    (samples : List (SimulationSample (Number format))) : Prop where
  /-- Each sample is aligned with the fleet before it, and with the progress that it was stepped
  with. -/
  sample : ∀ k sample, samples[k]? = some sample →
    AlignedSample config target (config.fleetBefore samples k) (config.called? samples k) sample
  /-- Once the fault has begun, later samples have a progress that is no less. -/
  monotone : ∀ i j progress, i ≤ j → j < samples.length →
    config.called? samples i = some progress →
    ∃ progress', config.called? samples j = some progress' ∧ progress ≤ progress'

variable {config : RunConfig (Number format)} {target : PlantAsset}
  {fleet before : PlantAlphaFleet (Number format)}
  {sample : SimulationSample (Number format)} {progress : Number format} {k : ℕ}

/-- The code asks whether a value is negative. -/
theorem literal_nonneg_iff {x : Number format} : literal 0.0 ≤ x ↔ 0 ≤ x.val := by
  rw [Number.le_iff, literal_zero]

/-- And it asks whether it is more than one. -/
theorem le_literal_one_iff {x : Number format} : x ≤ literal 1.0 ↔ x.val ≤ 1 := by
  rw [Number.le_iff, literal_one]

/-- The severity of a config is between zero and one. -/
theorem severity_mem (config : RunConfig (Number format)) :
    0 ≤ config.faultSeverity.val ∧ config.faultSeverity.val ≤ 1 :=
  ⟨literal_nonneg_iff.mp config.common.2.1, le_literal_one_iff.mp config.common.2.2⟩

/-- A tick of the normal operation commands no fault. -/
theorem commandedParameter_normalOperationTick (scenario : DatasetScenario)
    (profile : NormalOperationProfile (Number format)) (dt : TimeStep (Number format)) :
    commandedParameter scenario (fleet.normalOperationTick profile dt) target =
      commandedParameter scenario fleet target := by
  cases scenario <;> rfl

/-- The parameter that an effect commands is the value of its ramp. -/
theorem commandedParameter_of_effect {fleet' : PlantAlphaFleet (Number format)}
    {endpoints : Number format × Number format}
    (heffect : Effect config target progress fleet fleet' endpoints)
    (hfault : config.scenarioName ≠ .normalOperation)
    (hprogress : 0 ≤ progress.val ∧ progress.val ≤ 1) :
    commandedParameter config.scenarioName fleet' target = some (rampValue endpoints progress) := by
  have hendpoints := heffect.endpoints_eq
  rw [faultRampEndpoints] at hendpoints
  cases hscenario : config.scenarioName with
  | normalOperation => exact absurd hscenario hfault
  | coolingDegradation =>
      rw [hscenario, Except.ok.injEq] at hendpoints
      subst hendpoints
      -- the ramp stays within the bounds that the command is clamped to
      rw [commandedParameter, heffect.cooling hscenario]
      exact congrArg some (clamp_rampValue (by norm_num) (by norm_num [roundingUnit])
        (severity_mem config) hprogress)
  | hydrogenSupplyIssue =>
      rw [hscenario, Except.ok.injEq] at hendpoints
      subst hendpoints
      rw [commandedParameter, heffect.fuel hscenario]
      exact congrArg some (clamp_rampValue (by norm_num) (by norm_num [roundingUnit])
        (severity_mem config) hprogress)
  | sensorAnomaly => exact heffect.bias hscenario

/-- What holds of the fleet before every step: only the target may have been touched, and only once
its fault has started. -/
structure Untouched (config : RunConfig (Number format)) (target : PlantAsset)
    (fleet : PlantAlphaFleet (Number format)) : Prop where
  others : ∀ asset ≠ target, fleet.faultParameters asset = config.initialFleet.faultParameters asset
  target_eq : config.appliedProgress? fleet.elapsedSimSeconds = none →
    fleet.faultParameters target = config.initialFleet.faultParameters target

/-- Time does not run backwards. -/
theorem elapsed_le_of_stepRun (h : config.stepRun target fleet = .ok sample) :
    fleet.elapsedSimSeconds ≤ sample.fleet.elapsedSimSeconds := by
  rw [(eq_sampleOf_of_stepRun h).2]
  have hdt := config.common.1
  rw [Number.lt_iff, val_literal, format.round_zero] at hdt
  exact Number.le_add hdt.le

/-- A step keeps the other machines free of the fault, and the target up to the onset. -/
theorem untouched_step (hbefore : Untouched config target fleet)
    (h : config.stepRun target fleet = .ok sample) : Untouched config target sample.fleet where
  others asset hne := (faultParameters_of_stepRun h hne).trans (hbefore.others asset hne)
  target_eq hnone := by
    -- where the fault has not started after the step, it had not before
    have hnone' : config.appliedProgress? fleet.elapsedSimSeconds = none := by
      by_contra hsome
      obtain ⟨progress, hprogress⟩ := Option.ne_none_iff_exists'.mp hsome
      obtain ⟨progress', hprogress', -⟩ := progress_mono hprogress (elapsed_le_of_stepRun h)
      rw [hnone] at hprogress'
      cases hprogress'
    rw [(eq_sampleOf_of_stepRun h).2] at hnone
    rw [stepRun_of_none target hnone] at h
    obtain ⟨-, rfl⟩ := observe_eq_ok_iff.mp h
    exact hbefore.target_eq hnone'

/-- The sample of a step is aligned with the progress at its end. -/
theorem aligned_of_stepRun (htarget : target.id = config.targetAssetId)
    (hbefore : Untouched config target before) (h : config.stepRun target before = .ok sample) :
    AlignedSample config target before
      (config.appliedProgress? (before.elapsedSimSeconds + config.dtSeconds)) sample := by
  have hafter := untouched_step hbefore h
  obtain ⟨hsample, helapsed⟩ := eq_sampleOf_of_stepRun h
  have htruth : ∀ truth ∈ sample.groundTruth, ∃ asset : PlantAsset, truth =
      computeGroundTruth config asset (config.timestampAt sample.fleet.elapsedSimSeconds)
        sample.fleet.elapsedSimSeconds := by
    intro truth hmem
    rw [hsample] at hmem
    obtain ⟨asset, -, rfl⟩ := List.mem_map.mp hmem
    exact ⟨asset, rfl⟩
  -- labels and commands read the same ramp, at the same time
  have hlabel := activeRamp_eq config htarget sample.fleet.elapsedSimSeconds
  rw [helapsed] at hlabel
  refine ⟨?_, ?_, ?_, ?_, ?_, ?_, hafter.others, ?_⟩
  · intro progress hprogress
    obtain ⟨fleet', -, happly, -, hstep⟩ := exists_stepRun_of_some target hprogress
    obtain ⟨-, rfl⟩ := observe_eq_ok_iff.mp (hstep.symm.trans h)
    exact ⟨fleet', happly, rfl⟩
  · intro hnone
    have hstep := stepRun_of_none target hnone
    have hfleet := congrArg SimulationSample.fleet
      (observe_eq_ok_iff.mp (hstep.symm.trans h)).2
    exact ⟨hfleet, hafter.target_eq (helapsed ▸ hnone)⟩
  · rw [hsample]
    rfl
  · intro truth hmem hid
    obtain ⟨asset, rfl⟩ := htruth truth hmem
    obtain rfl : asset = target := PlantAsset.id_injective (hid.trans htarget.symm)
    rw [← hlabel, Option.isSome_map]
    show (activeRamp? config asset sample.fleet.elapsedSimSeconds).isSome = _
    rw [helapsed]
  -- the severity of the target is that of the applied progress
  · intro truth hmem hid progress hprogress
    obtain ⟨asset, rfl⟩ := htruth truth hmem
    obtain rfl : asset = target := PlantAsset.id_injective (hid.trans htarget.symm)
    rw [← hlabel, Option.map_eq_some_iff] at hprogress
    obtain ⟨ramp, hramp, rfl⟩ := hprogress
    show reportedSeverity config (activeRamp? config asset sample.fleet.elapsedSimSeconds) = _
    rw [helapsed, hramp]
    rfl
  · intro progress hprogress
    obtain ⟨fleet', endpoints, -, heffect, hstep⟩ := exists_stepRun_of_some target hprogress
    obtain ⟨-, rfl⟩ := observe_eq_ok_iff.mp (hstep.symm.trans h)
    refine ⟨endpoints, heffect.endpoints_eq, ?_⟩
    show commandedParameter _ (fleet'.normalOperationTick _ _) _ = _
    rw [commandedParameter_normalOperationTick]
    exact commandedParameter_of_effect heffect (normalOperation_of_appliedProgress hprogress)
      (progress_mem hprogress)
  · intro truth hmem hid
    obtain ⟨asset, rfl⟩ := htruth truth hmem
    -- the other assets have no ramp, so their labels are those of a healthy one
    have hnone := activeRamp_of_ne config hid sample.fleet.elapsedSimSeconds
    refine ⟨if_pos hid, ?_, ?_, ?_, if_pos hid⟩
    · show (activeRamp? config asset sample.fleet.elapsedSimSeconds).isSome = _
      rw [hnone]
      rfl
    · show reportedSeverity config (activeRamp? config asset sample.fleet.elapsedSimSeconds) = _
      rw [hnone]
      rfl
    · show (activeRamp? config asset sample.fleet.elapsedSimSeconds).map Prod.fst = _
      rw [hnone]
      rfl

/-- No machine starts with a fault. -/
theorem untouched_initialFleet (config : RunConfig (Number format)) (target : PlantAsset) :
    Untouched config target config.initialFleet := ⟨fun _ _ => rfl, fun _ => rfl⟩

/-- Time does not run backwards. -/
theorem elapsed_mono (htarget : PlantAsset.ofId? config.targetAssetId = some target) {i j : ℕ}
    (hij : i ≤ j) (hj : j < config.iterSamples.1.length) :
    (config.fleetBefore config.iterSamples.1 i).elapsedSimSeconds ≤
      (config.fleetBefore config.iterSamples.1 j).elapsedSimSeconds := by
  induction j, hij using Nat.le_induction with
  | base => exact le_rfl
  | succ j hij ih =>
      have hj' : j < config.iterSamples.1.length := Nat.lt_of_succ_lt hj
      have hsample : config.iterSamples.1[j]? = some config.iterSamples.1[j] :=
        List.getElem?_eq_getElem hj'
      have hstep := RunConfig.stepRun_of_iterSamples htarget hsample
      rw [RunConfig.fleetBefore_succ hsample]
      exact (ih hj').trans (elapsed_le_of_stepRun hstep)

/-- Labels and physics are aligned in all samples of a run that has a target. -/
theorem aligned_of_iterSamples (htarget : PlantAsset.ofId? config.targetAssetId = some target) :
    LabelsAligned config target config.iterSamples.1 where
  sample k sample hsample := by
    have hk : k ≤ config.iterSamples.1.length := (List.getElem?_eq_some_iff.mp hsample).1.le
    have hbefore : Untouched config target (config.fleetBefore config.iterSamples.1 k) :=
      RunConfig.fleetBefore_induction htarget (untouched_initialFleet config target)
        (fun _ _ => untouched_step) hk
    exact aligned_of_stepRun (PlantAsset.id_of_ofId? htarget) hbefore
      (RunConfig.stepRun_of_iterSamples htarget hsample)
  monotone i j progress hij hj hprogress := by
    exact progress_mono hprogress
      (Number.add_mono_left (elapsed_mono htarget hij hj) config.dtSeconds)

end Alignment

/-! ## The end of the ramp -/

/-- `ramp_end_sim_seconds`. -/
def RunConfig.rampEndSimSeconds (config : RunConfig (Number format)) : Option (Number format) :=
  match config.faultStartSimSeconds, config.faultDurationSimSeconds with
  | some faultStart, some faultDuration => some (faultStart + faultDuration)
  | _, _ => none

/-- The ramp is complete in every sample from its end on. -/
def CompleteFromRampEnd (config : RunConfig (Number format))
    (samples : List (SimulationSample (Number format))) : Prop :=
  ∀ rampEnd, config.rampEndSimSeconds = some rampEnd →
    ∀ k sample, samples[k]? = some sample → rampEnd ≤ sample.elapsedSimSeconds →
      config.called? samples k = some (literal 1.0)

/-- At every tick with a sample from the end of the ramp on, the time since the fault start, as it
is subtracted, has come to the duration of the ramp. -/
def SinceReachesDuration (config : RunConfig (Number format)) : Prop :=
  ∀ faultStart faultDuration, config.faultStartSimSeconds = some faultStart →
    config.faultDurationSimSeconds = some faultDuration →
    ∀ tick, config.SampledAt tick → faultStart + faultDuration ≤ config.elapsedAt tick →
      faultDuration ≤ config.elapsedAt tick - faultStart

section RampEnd

variable {exp sin : ℚ → ℚ} {pi : ℚ} {config : RunConfig (Number (.double exp sin pi))}
  {target : PlantAsset} {elapsed faultStart faultDuration : Number (.double exp sin pi)}

/-- A ramp has an end if it has a start and a duration. -/
theorem rampEndSimSeconds_eq_some_iff {format : NumberFormat} {config : RunConfig (Number format)}
    {rampEnd : Number format} : config.rampEndSimSeconds = some rampEnd ↔
      ∃ faultStart faultDuration, config.faultStartSimSeconds = some faultStart ∧
        config.faultDurationSimSeconds = some faultDuration ∧
          rampEnd = faultStart + faultDuration := by
  rw [RunConfig.rampEndSimSeconds]
  cases config.faultStartSimSeconds <;> cases config.faultDurationSimSeconds <;> simp [eq_comm]

/-- The quotient is rounded to one or more exactly if the time since the start has come to the
duration. -/
theorem literal_one_le_div_iff (hpositive : 0 < faultDuration.val) (hle : faultStart ≤ elapsed) :
    literal 1.0 ≤ (elapsed - faultStart) / faultDuration ↔
      faultDuration ≤ elapsed - faultStart := by
  have hone : (literal 1.0 : Number (.double exp sin pi)).val = 1 := literal_one
  constructor
  · intro hratio
    by_contra hless
    have hsince : 0 ≤ (elapsed - faultStart).val :=
      Number.val_zero.ge.trans (Number.ofRat_mono (sub_nonneg.mpr hle))
    have hlt : ((elapsed - faultStart) / faultDuration).val < 1 :=
      roundDouble_div_lt_one (elapsed - faultStart).round_val faultDuration.round_val hsince
        (Number.lt_iff.mp (lt_of_not_ge hless))
    rw [Number.le_iff, hone] at hratio
    exact not_lt_of_ge hratio hlt
  · intro hreached
    refine Number.le_ofRat ?_
    rw [hone, le_div_iff₀ hpositive, one_mul]
    exact hreached

/-- From the fault start on, the ramp is complete exactly if the time since then has come to its
duration. -/
theorem progress_eq_one_iff (hstart : config.faultStartSimSeconds = some faultStart)
    (hduration : config.faultDurationSimSeconds = some faultDuration) (hle : faultStart ≤ elapsed) :
    config.appliedProgress? elapsed = some (literal 1.0) ↔
      faultDuration ≤ elapsed - faultStart := by
  obtain ⟨-, hnone, -⟩ | ⟨hfault, start, duration, hstart', hduration', hpositive⟩ := config.window
  · rw [hstart] at hnone
    cases hnone
  obtain rfl : faultStart = start := Option.some.inj (hstart.symm.trans hstart')
  obtain rfl : faultDuration = duration := Option.some.inj (hduration.symm.trans hduration')
  rw [Number.lt_iff, val_literal, NumberFormat.round_zero] at hpositive
  rw [RunConfig.appliedProgress?, if_neg hfault, hstart, hduration]
  show (if faultStart ≤ elapsed then _ else _) = _ ↔ _
  rw [if_pos hle, Option.some.injEq, min_eq_left_iff, literal_one_le_div_iff hpositive hle]

/-- The fault has started at the end of its ramp. -/
theorem faultStart_le_of_rampEnd_le
    (hduration : config.faultDurationSimSeconds = some faultDuration)
    (hle : faultStart + faultDuration ≤ elapsed) : faultStart ≤ elapsed := by
  obtain ⟨-, -, hnone⟩ | ⟨-, -, duration, -, hduration', hpositive⟩ := config.window
  · rw [hduration] at hnone
    cases hnone
  obtain rfl : faultDuration = duration := Option.some.inj (hduration.symm.trans hduration')
  rw [Number.lt_iff, val_literal, NumberFormat.round_zero] at hpositive
  exact (Number.le_add hpositive.le).trans hle

/-- The progress of the step to a sample is that of its tick. -/
theorem called_eq (htarget : PlantAsset.ofId? config.targetAssetId = some target) {k : ℕ}
    (hk : k < config.iterSamples.1.length) :
    config.called? config.iterSamples.1 k =
      config.appliedProgress? (config.elapsedAt (k + 1)) := by
  rw [RunConfig.called?, RunConfig.elapsed_fleetBefore htarget hk.le, RunConfig.elapsedAt]

/-- From the end of the ramp on the fault is complete exactly if the time since its start, as the
code subtracts it, reaches the duration. -/
theorem completeFromRampEnd_iff (htarget : PlantAsset.ofId? config.targetAssetId = some target) :
    CompleteFromRampEnd config config.iterSamples.1 ↔ SinceReachesDuration config := by
  constructor
  · intro hcomplete faultStart faultDuration hstart hduration tick hsampled hle
    obtain ⟨k, rfl⟩ : ∃ k, tick = k + 1 := ⟨tick - 1, by have := hsampled.1; omega⟩
    have hk : k < config.iterSamples.1.length :=
      (RunConfig.lt_length_iterSamples_iff htarget).mpr hsampled
    have hsample : config.iterSamples.1[k]? = some config.iterSamples.1[k] :=
      List.getElem?_eq_getElem hk
    have helapsed : config.iterSamples.1[k].elapsedSimSeconds = config.elapsedAt (k + 1) := by
      have hstep := RunConfig.stepRun_of_iterSamples htarget hsample
      rw [(eq_sampleOf_of_stepRun hstep).1]
      show config.iterSamples.1[k].fleet.elapsedSimSeconds = _
      rw [(eq_sampleOf_of_stepRun hstep).2, RunConfig.elapsed_fleetBefore htarget hk.le,
        RunConfig.elapsedAt]
    -- the sample of the tick is past the end, so its progress is one
    have hone := hcomplete _ (rampEndSimSeconds_eq_some_iff.mpr
      ⟨faultStart, faultDuration, hstart, hduration, rfl⟩) k _ hsample (helapsed ▸ hle)
    rw [called_eq htarget hk] at hone
    exact (progress_eq_one_iff hstart hduration (faultStart_le_of_rampEnd_le hduration hle)).mp hone
  · intro hreaches rampEnd hrampEnd k sample hsample hle
    obtain ⟨faultStart, faultDuration, hstart, hduration, rfl⟩ :=
      rampEndSimSeconds_eq_some_iff.mp hrampEnd
    have hk : k < config.iterSamples.1.length := (List.getElem?_eq_some_iff.mp hsample).1
    have hstep := RunConfig.stepRun_of_iterSamples htarget hsample
    have helapsed : sample.elapsedSimSeconds = config.elapsedAt (k + 1) := by
      rw [(eq_sampleOf_of_stepRun hstep).1]
      show sample.fleet.elapsedSimSeconds = _
      rw [(eq_sampleOf_of_stepRun hstep).2, RunConfig.elapsed_fleetBefore htarget hk.le,
        RunConfig.elapsedAt]
    rw [helapsed] at hle
    -- conversely, progress is one where the quotient is
    rw [called_eq htarget hk, progress_eq_one_iff hstart hduration
      (faultStart_le_of_rampEnd_le hduration hle)]
    exact hreaches faultStart faultDuration hstart hduration (k + 1)
      ((RunConfig.lt_length_iterSamples_iff htarget).mp hk) hle

end RampEnd

/-- A run whose target is not an asset of the plant is refused. In every other run, labels and
physics are aligned in all samples that it yields; and the ramp is complete in every sample from its
end on, if and only if the time since the fault start is not rounded below its duration there. -/
theorem labels_aligned_iff (exp sin : ℚ → ℚ) (pi : ℚ)
    (config : RunConfig (Number (.double exp sin pi))) :
    (PlantAsset.ofId? config.targetAssetId = none ∧
      config.iterSamples = ([], some (.unknownTarget config.targetAssetId))) ∨
    ∃ target, PlantAsset.ofId? config.targetAssetId = some target ∧
      LabelsAligned config target config.iterSamples.1 ∧
      (CompleteFromRampEnd config config.iterSamples.1 ↔ SinceReachesDuration config) := by
  cases htarget : PlantAsset.ofId? config.targetAssetId with
  | none =>
      refine .inl ⟨rfl, ?_⟩
      rw [RunConfig.iterSamples, htarget]
  | some target =>
      exact .inr ⟨target, rfl, aligned_of_iterSamples htarget, completeFromRampEnd_iff htarget⟩

/-! ## A ramp that is not complete at its end -/

section Example

/-- Steps of a tenth of a second, and a ramp of half a second from the second step on. -/
def tenthsFields : RunConfigFields (Number .plainDouble) where
  simulationRunId := "run"
  scenarioName := .coolingDegradation
  targetAssetId := "fuel-cell-stack-01"
  durationSimSeconds := literal 1
  dtSeconds := literal 0.1
  runStartTime := .utc 0
  faultStartSimSeconds := some (literal 0.2)
  faultDurationSimSeconds := some (literal 0.5)
  faultSeverity := literal 0.5
  operatingConditions := ⟨literal 60, literal 5, literal 120, literal 0, literal 0, literal 0⟩

/-- The config of the example is valid. -/
theorem tenthsFields_valid : tenthsFields.validate = .ok () := by decide +kernel

/-- A ramp of half a second from 0.2 on, sampled every tenth of a second. -/
def tenths : RunConfig (Number .plainDouble) := ⟨tenthsFields, tenthsFields_valid⟩

/-- The ramp ends at 0.7 seconds, where its progress is 0.9999999999999999. -/
theorem not_completeFromRampEnd :
    ¬ ∀ config : RunConfig (Number .plainDouble),
      CompleteFromRampEnd config config.iterSamples.1 := by
  intro h
  have hsampled : tenths.SampledAt 7 := by
    refine ⟨by decide, by decide +kernel, fun t hone hle => ?_⟩
    have hdates : ∀ t < 8, (tenths.timestampAt (tenths.elapsedAt t)).InRange := by decide +kernel
    exact hdates t (by omega)
  have htarget : PlantAsset.ofId? tenths.targetAssetId = some .stack01 := by decide +kernel
  have hreached := (completeFromRampEnd_iff htarget).mp (h tenths)
    (literal 0.2) (literal 0.5) rfl rfl 7 hsampled (by decide +kernel)
  revert hreached
  decide +kernel

end Example

end Odis.Simulator
