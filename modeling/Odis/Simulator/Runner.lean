import Odis.Library.Exceptions
import Odis.Python.Isoformat
import Odis.Simulator.RunConfig

/-!
# Simulation runs

`iter_samples` (`dataset/runner.py`) advances the fleet step by step and labels what comes out. It
is a generator: what it yields before it raises has been yielded.

* `RunConfig.stepRun_of_iterSamples`: every sample is that of a step from the fleet before it.
* `RunConfig.lt_length_iterSamples_iff`: which ticks there are samples of.
* `RunConfig.iterSamples_ended_iff`: a run with a target goes on to its last step unless it comes to
  a time that is no date.
-/

namespace Odis.Simulator

open Arithmetic

variable {N : Type} [Arithmetic N]

/-! ## The runner -/

/-- What `iter_samples` raises. -/
inductive RunnerError where
  | unknownTarget (assetId : String)
  | unsupportedScenario (error : UnsupportedScenario)
  /-- `OverflowError` of `run_start_time + timedelta(...)`. -/
  | dateOutOfRange

/-- `SimulationSample`, with the fleet that its observations are read off. -/
structure SimulationSample (N : Type) [Arithmetic N] where
  elapsedSimSeconds : N
  fleet : PlantAlphaFleet N
  groundTruth : List (GroundTruthRecord N)

namespace RunConfig

variable (config : RunConfig N)

/-- The fleet at the start of a run. -/
def initialFleet : PlantAlphaFleet N :=
  .create config.simulationRunId
    (fun asset => if asset.id = config.targetAssetId then
      some (literal 50.0 + config.operatingConditions.loadOffsetPercent) else none)
    (fun asset => if asset.id = config.targetAssetId then
      some (literal 65.0 + config.operatingConditions.stackTemperatureOffsetCelsius) else none)

/-- The load profile of a run. -/
def profile : NormalOperationProfile N where
  loadBaselinePercent := config.operatingConditions.loadBaselinePercent
  loadAmplitudePercent := config.operatingConditions.loadAmplitudePercent
  loadPeriodSeconds := config.operatingConditions.loadPeriodSeconds
  loadPhaseRadians := config.operatingConditions.loadPhaseRadians

/-- `total_steps`. -/
def totalSteps : ℕ := (nearestInt (config.durationSimSeconds / config.dtSeconds)).toNat

/-- The progress with which a step to a predicted time calls `apply_fault_effect`, if it does. -/
def appliedProgress? (predictedElapsed : N) : Option N :=
  if config.scenarioName = .normalOperation then none
  else
    match config.faultStartSimSeconds, config.faultDurationSimSeconds with
    | some faultStart, some faultDuration =>
        if faultStart ≤ predictedElapsed then
          some (min (literal 1.0) ((predictedElapsed - faultStart) / faultDuration))
        else none
    | _, _ => none

/-- `run_start_time + timedelta(seconds=elapsed)`. -/
def timestampAt (elapsed : N) : Datetime :=
  { config.runStartTime with instant := config.runStartTime.instant + microseconds elapsed }

/-- The elapsed time after some ticks. -/
def elapsedAt : ℕ → N
  | 0 => literal 0.0
  | tick + 1 => elapsedAt tick + config.dtSeconds

/-- The sample of a fleet. -/
def sampleOf (fleet : PlantAlphaFleet N) : SimulationSample N where
  elapsedSimSeconds := fleet.elapsedSimSeconds
  fleet
  groundTruth := PlantAsset.all.map fun asset =>
    computeGroundTruth config asset (config.timestampAt fleet.elapsedSimSeconds)
      fleet.elapsedSimSeconds

/-- The sample of a fleet, if its time is a date. -/
def observe (fleet : PlantAlphaFleet N) : Except RunnerError (SimulationSample N) :=
  if (config.timestampAt fleet.elapsedSimSeconds).InRange then .ok (config.sampleOf fleet)
  else .error .dateOutOfRange

/-- One round of the loop: the fault first, then the physics, then the sample. -/
def stepRun (target : PlantAsset) (fleet : PlantAlphaFleet N) :
    Except RunnerError (SimulationSample N) := do
  let fleet ← match config.appliedProgress? (fleet.elapsedSimSeconds + config.dtSeconds) with
    | some progress =>
        (applyFaultEffect fleet config target progress).mapError .unsupportedScenario
    | none => pure fleet
  config.observe (fleet.normalOperationTick config.profile config.step)

/-- The rounds of the loop from a fleet on: the samples that are yielded, and what is raised after
them. -/
def iterFrom (target : PlantAsset) : ℕ → PlantAlphaFleet N →
    List (SimulationSample N) × Option RunnerError
  | 0, _ => ([], none)
  | steps + 1, fleet =>
      match config.stepRun target fleet with
      | .error error => ([], some error)
      | .ok sample =>
          let rest := iterFrom target steps sample.fleet
          (sample :: rest.1, rest.2)

/-- `iter_samples`: the samples that are yielded, and what is raised after them. -/
def iterSamples : List (SimulationSample N) × Option RunnerError :=
  match PlantAsset.ofId? config.targetAssetId with
  | none => ([], some (.unknownTarget config.targetAssetId))
  | some target => config.iterFrom target config.totalSteps config.initialFleet

/-- The fleet that a step starts from. -/
def fleetBefore (samples : List (SimulationSample N)) (k : ℕ) : PlantAlphaFleet N :=
  match (config.initialFleet :: samples.map SimulationSample.fleet)[k]? with
  | some fleet => fleet
  | none => config.initialFleet

/-- The call of `apply_fault_effect` that a step makes. -/
def called? (samples : List (SimulationSample N)) (k : ℕ) : Option N :=
  config.appliedProgress? ((config.fleetBefore samples k).elapsedSimSeconds + config.dtSeconds)

end RunConfig

/-- The parameter that the fault of a scenario drives. -/
def commandedParameter (scenario : DatasetScenario) (fleet : PlantAlphaFleet N)
    (target : PlantAsset) : Option N :=
  match scenario with
  | .coolingDegradation => some (fleet.machines target).targetCoolingEfficiency
  | .hydrogenSupplyIssue => some (fleet.machines target).targetFuelSupplyFactor
  | .sensorAnomaly => (fleet.telemetryContexts target).sensorBias.get? "stack_temperature"
  | .normalOperation => none

/-! ## What a step does -/

section Step

variable {config : RunConfig N} {target : PlantAsset} {fleet fleet' : PlantAlphaFleet N}
  {progress : N} {sample : SimulationSample N}

/-- Every scenario with a fault has its endpoints. -/
theorem exists_faultRampEndpoints (h : config.scenarioName ≠ .normalOperation) :
    ∃ endpoints, faultRampEndpoints config = .ok endpoints := by
  rw [faultRampEndpoints]
  cases hscenario : config.scenarioName with
  | normalOperation => exact absurd hscenario h
  | coolingDegradation => exact ⟨_, rfl⟩
  | hydrogenSupplyIssue => exact ⟨_, rfl⟩
  | sensorAnomaly => exact ⟨_, rfl⟩

/-- Where the effect of a fault is applied, the commanded parameter is on the ramp unless the clamps
of the machine alter it. Nothing of the other assets is touched. -/
structure Effect (config : RunConfig N) (target : PlantAsset) (progress : N)
    (fleet fleet' : PlantAlphaFleet N) (endpoints : N × N) : Prop where
  endpoints_eq : faultRampEndpoints config = .ok endpoints
  elapsed_eq : fleet'.elapsedSimSeconds = fleet.elapsedSimSeconds
  others : ∀ asset ≠ target, fleet'.faultParameters asset = fleet.faultParameters asset
  cooling : config.scenarioName = .coolingDegradation →
    (fleet'.machines target).targetCoolingEfficiency =
      clamp (rampValue endpoints progress) (literal 0.4) (literal 1.0)
  fuel : config.scenarioName = .hydrogenSupplyIssue →
    (fleet'.machines target).targetFuelSupplyFactor =
      clamp (rampValue endpoints progress) minFuelSupplyFactor (literal 1.0)
  bias : config.scenarioName = .sensorAnomaly →
    (fleet'.telemetryContexts target).sensorBias.get? "stack_temperature" =
      some (rampValue endpoints progress)

variable (target fleet progress) in
/-- The effect of a fault is on its target, and on the parameter of its scenario. -/
theorem exists_applyFaultEffect (h : config.scenarioName ≠ .normalOperation) :
    ∃ fleet' endpoints, applyFaultEffect fleet config target progress = .ok fleet' ∧
      Effect config target progress fleet fleet' endpoints := by
  obtain ⟨endpoints, hendpoints⟩ := exists_faultRampEndpoints h
  simp only [applyFaultEffect, hendpoints, bind, Except.bind]
  -- one parameter for each scenario, and none for the normal operation
  cases hscenario : config.scenarioName with
  | normalOperation => exact absurd hscenario h
  | coolingDegradation =>
      refine ⟨_, endpoints, rfl, hendpoints, rfl, ?_, ?_, ?_, ?_⟩
      · intro asset hne
        simp only [PlantAlphaFleet.faultParameters, Function.update_of_ne hne]
      · intro _
        simp only [Function.update_self]
        rfl
      · rw [hscenario]
        rintro ⟨⟩
      · rw [hscenario]
        rintro ⟨⟩
  | hydrogenSupplyIssue =>
      refine ⟨_, endpoints, rfl, hendpoints, rfl, ?_, ?_, ?_, ?_⟩
      · intro asset hne
        simp only [PlantAlphaFleet.faultParameters, Function.update_of_ne hne]
      · rw [hscenario]
        rintro ⟨⟩
      · intro _
        simp only [Function.update_self]
        rfl
      · rw [hscenario]
        rintro ⟨⟩
  | sensorAnomaly =>
      refine ⟨_, endpoints, rfl, hendpoints, rfl, ?_, ?_, ?_, ?_⟩
      · intro asset hne
        simp only [PlantAlphaFleet.faultParameters, Function.update_of_ne hne]
      · rw [hscenario]
        rintro ⟨⟩
      · rw [hscenario]
        rintro ⟨⟩
      · intro _
        simp only [Function.update_self, OrderedDict.get?_set_self]

/-- A fleet is observed exactly if its time is a date. -/
theorem observe_eq_ok_iff : config.observe fleet = .ok sample ↔
    (config.timestampAt fleet.elapsedSimSeconds).InRange ∧ sample = config.sampleOf fleet := by
  rw [RunConfig.observe]
  split_ifs with hdate
  · simp [hdate, eq_comm]
  · simp [hdate]

variable (target) in
/-- Where a step applies no effect, it leaves alone what a fault drives. -/
theorem stepRun_of_none (h : config.appliedProgress? (fleet.elapsedSimSeconds + config.dtSeconds) =
    none) : config.stepRun target fleet =
      config.observe (fleet.normalOperationTick config.profile config.step) := by
  rw [RunConfig.stepRun, h]
  rfl

/-- A scenario with progress is none of normal operation. -/
theorem normalOperation_of_appliedProgress {elapsed : N}
    (h : config.appliedProgress? elapsed = some progress) :
    config.scenarioName ≠ .normalOperation := by
  intro hnormal
  rw [RunConfig.appliedProgress?, if_pos hnormal] at h
  cases h

variable (target) in
/-- Where a step applies the effect of a fault, the effect is still there after the physics. -/
theorem exists_stepRun_of_some
    (h : config.appliedProgress? (fleet.elapsedSimSeconds + config.dtSeconds) = some progress) :
    ∃ fleet' endpoints, applyFaultEffect fleet config target progress = .ok fleet' ∧
      Effect config target progress fleet fleet' endpoints ∧
      config.stepRun target fleet =
        config.observe (fleet'.normalOperationTick config.profile config.step) := by
  obtain ⟨fleet', endpoints, happly, heffect⟩ :=
    exists_applyFaultEffect target fleet progress (normalOperation_of_appliedProgress h)
  refine ⟨fleet', endpoints, happly, heffect, ?_⟩
  rw [RunConfig.stepRun, h]
  simp only [happly]
  rfl

/-- A step takes the sample of a fleet at the time that was predicted. -/
theorem exists_stepRun (config : RunConfig N) (target : PlantAsset) (fleet : PlantAlphaFleet N) :
    ∃ fleet', config.stepRun target fleet = config.observe fleet' ∧
      fleet'.elapsedSimSeconds = fleet.elapsedSimSeconds + config.dtSeconds := by
  cases h : config.appliedProgress? (fleet.elapsedSimSeconds + config.dtSeconds) with
  | none => exact ⟨_, stepRun_of_none target h, rfl⟩
  | some progress =>
      obtain ⟨fleet', endpoints, -, heffect, hstep⟩ :=
        exists_stepRun_of_some target h
      refine ⟨_, hstep, ?_⟩
      rw [PlantAlphaFleet.elapsedSimSeconds_normalOperationTick, heffect.elapsed_eq]
      rfl

/-- A step gives the sample of its fleet, one tick later. -/
theorem eq_sampleOf_of_stepRun (h : config.stepRun target fleet = .ok sample) :
    sample = config.sampleOf sample.fleet ∧
      sample.fleet.elapsedSimSeconds = fleet.elapsedSimSeconds + config.dtSeconds := by
  obtain ⟨fleet', hstep, helapsed⟩ := exists_stepRun config target fleet
  obtain ⟨-, rfl⟩ := observe_eq_ok_iff.mp (hstep.symm.trans h)
  exact ⟨rfl, helapsed⟩

variable (target) in
/-- A step raises exactly if it comes to a time that is no date. -/
theorem exists_stepRun_iff : (∃ sample, config.stepRun target fleet = .ok sample) ↔
    (config.timestampAt (fleet.elapsedSimSeconds + config.dtSeconds)).InRange := by
  obtain ⟨fleet', hstep, helapsed⟩ := exists_stepRun config target fleet
  simp only [hstep, observe_eq_ok_iff, helapsed, exists_and_left, exists_eq, and_true]

/-- A step touches the parameters of its target only. -/
theorem faultParameters_of_stepRun (h : config.stepRun target fleet = .ok sample)
    {asset : PlantAsset} (hne : asset ≠ target) :
    sample.fleet.faultParameters asset = fleet.faultParameters asset := by
  cases happlied : config.appliedProgress? (fleet.elapsedSimSeconds + config.dtSeconds) with
  | none =>
      rw [stepRun_of_none target happlied] at h
      obtain ⟨-, rfl⟩ := observe_eq_ok_iff.mp h
      rfl
  | some progress =>
      obtain ⟨fleet', endpoints, -, heffect, hstep⟩ :=
        exists_stepRun_of_some target happlied
      obtain ⟨-, rfl⟩ := observe_eq_ok_iff.mp (hstep.symm.trans h)
      exact heffect.others asset hne

end Step

/-! ## Runs -/

namespace RunConfig

variable {config : RunConfig N} {target : PlantAsset} {fleet before : PlantAlphaFleet N}
  {samples : List (SimulationSample N)} {sample : SimulationSample N} {k : ℕ}

/-- Every sample is that of a step from the fleet before it. -/
theorem stepRun_of_iterFrom {steps : ℕ}
    (hsample : (config.iterFrom target steps fleet).1[k]? = some sample) :
    ∃ before, (fleet :: (config.iterFrom target steps fleet).1.map SimulationSample.fleet)[k]? =
        some before ∧ config.stepRun target before = .ok sample := by
  induction steps generalizing fleet k with
  -- the first sample is that of a step from the fleet at the start
  | zero => cases hsample
  | succ steps ih =>
      rw [iterFrom] at hsample ⊢
      cases hstep : config.stepRun target fleet with
      | error error =>
          rw [hstep] at hsample
          cases hsample
      | ok first =>
          rw [hstep] at hsample
          cases k with
          | zero =>
              obtain rfl : first = sample := Option.some.inj hsample
              exact ⟨fleet, rfl, hstep⟩
          | succ k =>
              obtain ⟨before, hbefore, hnext⟩ := ih hsample
              exact ⟨before, hbefore, hnext⟩

/-- The samples of the rounds go on as long as the times of the ticks are dates. -/
theorem lt_length_iterFrom_iff {steps tick : ℕ}
    (h : fleet.elapsedSimSeconds = config.elapsedAt tick) :
    k < (config.iterFrom target steps fleet).1.length ↔ k < steps ∧
      ∀ t, tick < t → t ≤ tick + k + 1 → (config.timestampAt (config.elapsedAt t)).InRange := by
  induction steps generalizing fleet tick k with
  -- the first sample depends on its own tick only, the later ones on the rest of the rounds
  | zero => simp [iterFrom]
  | succ steps ih =>
      have hnext : config.timestampAt (fleet.elapsedSimSeconds + config.dtSeconds) =
          config.timestampAt (config.elapsedAt (tick + 1)) := by rw [h, elapsedAt]
      rw [iterFrom]
      cases hstep : config.stepRun target fleet with
      | error error =>
          -- the first tick is none of a date
          have hraised : ¬ (config.timestampAt (config.elapsedAt (tick + 1))).InRange := by
            rw [← hnext, ← exists_stepRun_iff target, hstep]
            simp
          refine iff_of_false (Nat.not_lt_zero k) fun hdates => hraised ?_
          exact hdates.2 (tick + 1) (Nat.lt_succ_self tick) (by omega)
      | ok first =>
          have hdate : (config.timestampAt (config.elapsedAt (tick + 1))).InRange := by
            rw [← hnext]
            exact (exists_stepRun_iff target).mp ⟨first, hstep⟩
          have hfirst : first.fleet.elapsedSimSeconds = config.elapsedAt (tick + 1) := by
            rw [(eq_sampleOf_of_stepRun hstep).2, h, elapsedAt]
          simp only [List.length_cons]
          cases k with
          | zero =>
              refine iff_of_true (Nat.succ_pos _) ⟨Nat.succ_pos steps, fun t hlt hle => ?_⟩
              obtain rfl : t = tick + 1 := by omega
              exact hdate
          | succ k =>
              rw [Nat.succ_lt_succ_iff, Nat.succ_lt_succ_iff, ih hfirst]
              refine and_congr_right fun _ =>
                ⟨fun hdates t hlt hle => ?_, fun hdates t hlt hle => ?_⟩
              · rcases eq_or_lt_of_le (Nat.succ_le_of_lt hlt) with rfl | hlt
                · exact hdate
                · exact hdates t hlt (by omega)
              · exact hdates t (by omega) (by omega)

/-- The rounds end with the last one, or with an exception. -/
theorem iterFrom_ended_iff {steps : ℕ} : (config.iterFrom target steps fleet).2 = none ↔
    (config.iterFrom target steps fleet).1.length = steps := by
  induction steps generalizing fleet with
  | zero => simp [iterFrom]
  | succ steps ih =>
      rw [iterFrom]
      cases config.stepRun target fleet with
      | error error => simp
      | ok first => simp [ih]

/-- The fleet before a step is that of the sample before it. -/
theorem fleetBefore_succ (hsample : samples[k]? = some sample) :
    config.fleetBefore samples (k + 1) = sample.fleet := by
  rw [fleetBefore, List.getElem?_cons_succ, List.getElem?_map, hsample]
  rfl

/-- The time of a tick at which there is a sample, and that of every tick before it, is a date. -/
def SampledAt (config : RunConfig N) (tick : ℕ) : Prop :=
  1 ≤ tick ∧ tick ≤ config.totalSteps ∧
    ∀ t, 1 ≤ t → t ≤ tick → (config.timestampAt (config.elapsedAt t)).InRange

/-- The times of all ticks of a run are dates. -/
def Datable (config : RunConfig N) : Prop :=
  ∀ tick, 1 ≤ tick → tick ≤ config.totalSteps →
    (config.timestampAt (config.elapsedAt tick)).InRange

instance (config : RunConfig N) : Decidable config.Datable :=
  decidable_of_iff (∀ tick < config.totalSteps + 1, 1 ≤ tick →
      (config.timestampAt (config.elapsedAt tick)).InRange)
    ⟨fun h tick hone hle => h tick (Nat.lt_succ_of_le hle) hone,
      fun h tick hlt hone => h tick hone (Nat.le_of_lt_succ hlt)⟩

variable (htarget : PlantAsset.ofId? config.targetAssetId = some target)
include htarget

/-- The samples are those of all rounds. -/
theorem iterSamples_eq :
    config.iterSamples = config.iterFrom target config.totalSteps config.initialFleet := by
  rw [iterSamples, htarget]

/-- Each sample is that of a step from the fleet before it. -/
theorem stepRun_of_iterSamples (hsample : config.iterSamples.1[k]? = some sample) :
    config.stepRun target (config.fleetBefore config.iterSamples.1 k) = .ok sample := by
  rw [iterSamples_eq htarget] at hsample ⊢
  obtain ⟨before, hbefore, hstep⟩ := stepRun_of_iterFrom hsample
  rw [fleetBefore, hbefore]
  exact hstep

/-- There is a sample of every tick up to the last step, or up to the end of all dates. -/
theorem lt_length_iterSamples_iff : k < config.iterSamples.1.length ↔ config.SampledAt (k + 1) := by
  rw [iterSamples_eq htarget, lt_length_iterFrom_iff (rfl : _ = config.elapsedAt 0), SampledAt,
    zero_add]
  simp only [Nat.succ_le_iff, Nat.succ_pos, true_and]

/-- A run goes on to its last step unless it comes to a time that is no date. -/
theorem iterSamples_ended_iff : config.iterSamples.2 = none ↔ config.Datable := by
  have hsteps := lt_length_iterSamples_iff htarget (k := config.totalSteps - 1)
  have hnone := lt_length_iterSamples_iff htarget (k := config.totalSteps)
  rw [SampledAt] at hsteps hnone
  have hended : config.iterSamples.2 = none ↔
      config.iterSamples.1.length = config.totalSteps := by
    rw [iterSamples_eq htarget, iterFrom_ended_iff]
  rw [hended, Datable]
  constructor
  · intro hlength tick hone hle
    exact (hsteps.mp (by omega)).2.2 tick hone (by omega)
  · intro hdates
    by_cases hzero : config.totalSteps = 0
    · omega
    · have hlast := hsteps.mpr ⟨by omega, by omega, fun t hone hle => hdates t hone (by omega)⟩
      omega

/-- What holds of the fleet at the start, and after every step from a fleet of which it holds, holds
of the fleet before every step. -/
theorem fleetBefore_induction {P : PlantAlphaFleet N → Prop} (hinitial : P config.initialFleet)
    (hstep : ∀ fleet sample, P fleet → config.stepRun target fleet = .ok sample → P sample.fleet)
    (hk : k ≤ config.iterSamples.1.length) : P (config.fleetBefore config.iterSamples.1 k) := by
  induction k with
  | zero => exact hinitial
  | succ k ih =>
      have hsample : config.iterSamples.1[k]? = some config.iterSamples.1[k] :=
        List.getElem?_eq_getElem hk
      rw [fleetBefore_succ hsample]
      exact hstep _ _ (ih (Nat.le_of_succ_le hk)) (stepRun_of_iterSamples htarget hsample)

/-- The fleet before a step has taken the ticks before it. -/
theorem elapsed_fleetBefore (hk : k ≤ config.iterSamples.1.length) :
    (config.fleetBefore config.iterSamples.1 k).elapsedSimSeconds = config.elapsedAt k := by
  induction k with
  | zero => rfl
  | succ k ih =>
      have hsample : config.iterSamples.1[k]? = some config.iterSamples.1[k] :=
        List.getElem?_eq_getElem hk
      rw [fleetBefore_succ hsample,
        (eq_sampleOf_of_stepRun (stepRun_of_iterSamples htarget hsample)).2,
        ih (Nat.le_of_succ_le hk), elapsedAt]

end RunConfig

end Odis.Simulator
