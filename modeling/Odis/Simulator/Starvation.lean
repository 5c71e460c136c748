import Mathlib.Analysis.Complex.ExponentialBounds
import Mathlib.Analysis.SpecialFunctions.Trigonometric.Basic
import Odis.Simulator.Machine

/-!
# Starvation and the voltage

Two machines that receive the same commands, but for the fuel supply: one of them is given less of
it. Starvation lowers the target voltage by a penalty and raises it through the current that it
limits. In exact arithmetic, the effects are compared over whole runs.

* `neverNetsIncrease_iff`: when the voltage of the limited machine stays below that of the other.
* `not_neverNetsIncrease_recovery`: it does not while the current recovers after the fuel has.
-/

namespace Odis.Simulator

/-! ## Exact arithmetic -/

noncomputable instance : Arithmetic ℝ where
  literal q := q
  exp := Real.exp
  sin := Real.sin
  pi := Real.pi
  nearestInt x := if Int.fract x = 1 / 2 ∧ Even ⌊x⌋ then ⌊x⌋ else round x
  microseconds x :=
    if Int.fract (x * 1000000) = 1 / 2 ∧ Even ⌊x * 1000000⌋ then ⌊x * 1000000⌋
    else round (x * 1000000)

open Arithmetic

/-- Literals are exact over the reals. -/
theorem literal_real (q : ℚ) : (literal q : ℝ) = q := rfl

/-- A lag keeps of the distance to its target what the exponential leaves. -/
theorem lagToward_real {current target dt timeConstant : ℝ} (h : 0 < timeConstant) :
    lagToward current target dt timeConstant =
      target + (current - target) * Real.exp (-dt / timeConstant) := by
  have hpositive : ¬ timeConstant ≤ (literal 0 : ℝ) := by
    rw [literal_real, Rat.cast_zero]
    exact not_le.mpr h
  rw [lagToward, if_neg hpositive]
  show current + (target - current) * ((literal 1.0 : ℝ) - Real.exp (-dt / timeConstant)) = _
  rw [literal_real]
  norm_num
  ring

/-! ## Two machines -/

section Pair

variable {N : Type} [Arithmetic N]

/-- The commands of a tick to both machines. The fuel supply that is commanded is no more in the
second one. -/
structure PairTick (N : Type) [Arithmetic N] where
  targetLoad : Option N
  coolingEfficiency : Option N
  fuelSupplyFactor : N
  limitedFuelSupplyFactor : N
  limited_le : limitedFuelSupplyFactor ≤ fuelSupplyFactor
  dt : TimeStep N

/-- The commands to a machine before a tick. -/
def FuelCellMachine.command (machine : FuelCellMachine N) (targetLoad coolingEfficiency : Option N)
    (fuelSupplyFactor : N) : FuelCellMachine N :=
  let machine := targetLoad.elim machine machine.setTargetLoad
  let machine := coolingEfficiency.elim machine machine.setCoolingEfficiency
  machine.setFuelSupplyFactor fuelSupplyFactor

/-- The commands of a tick to both machines. -/
def commandPair (machines : FuelCellMachine N × FuelCellMachine N) (tick : PairTick N) :
    FuelCellMachine N × FuelCellMachine N :=
  (machines.1.command tick.targetLoad tick.coolingEfficiency tick.fuelSupplyFactor,
    machines.2.command tick.targetLoad tick.coolingEfficiency tick.limitedFuelSupplyFactor)

/-- One tick of both machines. -/
def stepPair (machines : FuelCellMachine N × FuelCellMachine N) (tick : PairTick N) :
    FuelCellMachine N × FuelCellMachine N :=
  ((commandPair machines tick).1.tick tick.dt, (commandPair machines tick).2.tick tick.dt)

/-- Both machines after a sequence of ticks from the default state. -/
def runPair (ticks : List (PairTick N)) : FuelCellMachine N × FuelCellMachine N :=
  ticks.foldl stepPair (.default "reference", .default "limited")

/-- After every tick, the voltage of the limited machine is at most that of the other one. -/
def NeverNetsIncrease (ticks : List (PairTick N)) : Prop :=
  ∀ before after, ticks = before ++ after →
    (runPair before).2.voltage ≤ (runPair before).1.voltage

end Pair

/-! ## What the fuel supply leaves alone -/

/-- The machines agree on the load, and on the number of the tick. -/
structure SameLoad {N : Type} (machines : FuelCellMachine N × FuelCellMachine N) : Prop where
  load_eq : machines.2.load = machines.1.load
  targetLoad_eq : machines.2.targetLoad = machines.1.targetLoad
  tickCount_eq : machines.2.tickCount = machines.1.tickCount

section SameLoad

variable {N : Type} [Arithmetic N] {machines : FuelCellMachine N × FuelCellMachine N}

/-- Commands keep the two machines at the same load. -/
theorem sameLoad_commandPair (h : SameLoad machines) (tick : PairTick N) :
    SameLoad (commandPair machines tick) := by
  obtain ⟨targetLoad, coolingEfficiency, _, _, _, _⟩ := tick
  obtain ⟨hload, htarget, hcount⟩ := h
  cases targetLoad with
  | none => cases coolingEfficiency <;> exact ⟨hload, htarget, hcount⟩
  | some targetLoad => cases coolingEfficiency <;> exact ⟨hload, rfl, hcount⟩

/-- So does a tick. -/
theorem sameLoad_stepPair (h : SameLoad machines) (tick : PairTick N) :
    SameLoad (stepPair machines tick) := by
  obtain ⟨hload, htarget, hcount⟩ := sameLoad_commandPair h tick
  refine ⟨?_, htarget, congrArg (· + 1) hcount⟩
  show lagToward _ _ _ _ = lagToward _ _ _ _
  rw [hload, htarget]

/-- One more tick comes after the others. -/
theorem runPair_concat (ticks : List (PairTick N)) (tick : PairTick N) :
    runPair (ticks ++ [tick]) = stepPair (runPair ticks) tick := by
  rw [runPair, List.foldl_append]
  rfl

/-- So the machines have the same load at all times. -/
theorem sameLoad_runPair (ticks : List (PairTick N)) : SameLoad (runPair ticks) := by
  induction ticks using List.reverseRecOn with
  | nil => exact ⟨rfl, rfl, rfl⟩
  | append_singleton ticks tick ih =>
      rw [runPair_concat]
      exact sameLoad_stepPair ih tick

end SameLoad

/-! ## The net rise of the target voltage -/

section Voltage

variable (machines : FuelCellMachine ℝ × FuelCellMachine ℝ) (dt : ℝ)

/-- The fuel supply factor after a tick. -/
noncomputable def fuelSupplyFactorAfter (machine : FuelCellMachine ℝ) : ℝ :=
  lagToward machine.fuelSupplyFactor machine.targetFuelSupplyFactor dt loadTimeConstantSeconds

/-- The current that the load of a tick asks for. -/
noncomputable def targetCurrent (machine : FuelCellMachine ℝ) : ℝ :=
  lagToward machine.load machine.targetLoad dt loadTimeConstantSeconds / literal 100.0 *
    maxCurrentAmps

/-- The current in a tick, before starvation limits it. -/
noncomputable def laggedCurrent (machine : FuelCellMachine ℝ) : ℝ :=
  lagToward machine.current (targetCurrent dt machine) dt loadTimeConstantSeconds

/-- The target voltage of a tick. -/
noncomputable def targetVoltage (machine : FuelCellMachine ℝ) : ℝ :=
  openCircuitVoltage - laggedCurrent dt machine / maxCurrentAmps * voltageLoadCoefficient -
    FuelCellMachine.fuelStarvationVoltagePenalty (fuelSupplyFactorAfter dt machine) +
    microVariation (machine.tickCount + 1) 1 (literal 0.002)

/-- What the current that starvation has cost gives back of the target voltage: the part of it that
the machine has not made up for during a tick. -/
noncomputable def givenBack : ℝ :=
  (machines.1.current - machines.2.current) * Real.exp (-dt / 30) / 200 * 0.06

/-- What starvation takes off the target voltage. -/
noncomputable def extraPenalty : ℝ :=
  FuelCellMachine.fuelStarvationVoltagePenalty (fuelSupplyFactorAfter dt machines.2) -
    FuelCellMachine.fuelStarvationVoltagePenalty (fuelSupplyFactorAfter dt machines.1)

/-- The net rise of the target voltage is covered by the distance that the voltages still have. -/
def Covered : Prop :=
  (givenBack machines dt - extraPenalty machines dt) * (1 - Real.exp (-dt / 15)) ≤
    (machines.1.voltage - machines.2.voltage) * Real.exp (-dt / 15)

variable {machines dt}

theorem loadTimeConstantSeconds_real : (loadTimeConstantSeconds : ℝ) = 30 := by
  rw [loadTimeConstantSeconds, literal_real]
  norm_num

theorem maxCurrentAmps_real : (maxCurrentAmps : ℝ) = 200 := by
  rw [maxCurrentAmps, literal_real]
  norm_num

theorem voltageLoadCoefficient_real : (voltageLoadCoefficient : ℝ) = 0.06 := by
  rw [voltageLoadCoefficient, literal_real]
  norm_num

/-- The time constant of the voltage. -/
theorem halfTimeConstant_real : (loadTimeConstantSeconds : ℝ) / literal 2.0 = 15 := by
  rw [loadTimeConstantSeconds_real, literal_real]
  norm_num

/-- The voltage lags toward its target. -/
theorem voltage_tick (machine : FuelCellMachine ℝ) (dt : TimeStep ℝ) :
    (machine.tick dt).voltage = lagToward machine.voltage (targetVoltage dt.seconds machine)
      dt.seconds (loadTimeConstantSeconds / literal 2.0) := rfl

/-- The current lags twice where the fuel is short. -/
theorem current_tick (machine : FuelCellMachine ℝ) (dt : TimeStep ℝ) :
    (machine.tick dt).current =
      if fuelSupplyFactorAfter dt.seconds machine < fuelStarvationThreshold then
        lagToward (laggedCurrent dt.seconds machine)
          (min (laggedCurrent dt.seconds machine)
            (targetCurrent dt.seconds machine * fuelSupplyFactorAfter dt.seconds machine))
          dt.seconds (loadTimeConstantSeconds / literal 2.0)
      else laggedCurrent dt.seconds machine := rfl

/-- The target voltages differ by the net rise. -/
theorem targetVoltage_gap (h : SameLoad machines) : targetVoltage dt machines.2 =
    targetVoltage dt machines.1 + (givenBack machines dt - extraPenalty machines dt) := by
  obtain ⟨hload, htarget, hcount⟩ := h
  simp only [targetVoltage, laggedCurrent, targetCurrent, hload, htarget, hcount,
    maxCurrentAmps_real, voltageLoadCoefficient_real, loadTimeConstantSeconds_real,
    lagToward_real (show (0 : ℝ) < 30 by norm_num), givenBack, extraPenalty]
  ring

/-- A tick keeps part of the distance of the voltages, and takes off it the net rise of the target
voltage of the limited machine. -/
theorem voltage_gap (h : SameLoad machines) (dt : TimeStep ℝ) :
    (machines.1.tick dt).voltage - (machines.2.tick dt).voltage =
      (machines.1.voltage - machines.2.voltage) * Real.exp (-dt.seconds / 15) -
        (givenBack machines dt.seconds - extraPenalty machines dt.seconds) *
          (1 - Real.exp (-dt.seconds / 15)) := by
  rw [voltage_tick, voltage_tick, targetVoltage_gap h, halfTimeConstant_real,
    lagToward_real (by norm_num), lagToward_real (by norm_num)]
  ring

/-- A tick keeps the voltage of the limited machine below the other exactly if the net rise of its
target voltage is covered. -/
theorem voltage_le_iff (h : SameLoad machines) (dt : TimeStep ℝ) :
    (machines.2.tick dt).voltage ≤ (machines.1.tick dt).voltage ↔ Covered machines dt.seconds := by
  rw [← sub_nonneg, voltage_gap h, sub_nonneg]
  rfl

end Voltage

/-! ## Runs -/

/-- A tick nets no increase exactly if the penalty covers what the current gives back. -/
theorem voltage_stepPair_iff {machines : FuelCellMachine ℝ × FuelCellMachine ℝ}
    (h : SameLoad machines) (tick : PairTick ℝ) :
    (stepPair machines tick).2.voltage ≤ (stepPair machines tick).1.voltage ↔
      Covered (commandPair machines tick) tick.dt.seconds :=
  voltage_le_iff (sameLoad_commandPair h tick) tick.dt

/-- Starvation never nets a voltage increase in a run exactly if, at every tick, what the limited
current gives back of the target voltage is covered by the penalty and by the distance that the
voltages had before the tick. -/
theorem neverNetsIncrease_iff (ticks : List (PairTick ℝ)) :
    NeverNetsIncrease ticks ↔ ∀ before tick after, ticks = before ++ tick :: after →
      Covered (commandPair (runPair before) tick) tick.dt.seconds := by
  constructor
  · intro h before tick after hticks
    rw [List.append_cons] at hticks
    have hafter := h _ _ hticks
    rw [runPair_concat] at hafter
    exact (voltage_stepPair_iff (sameLoad_runPair before) tick).mp hafter
  · intro h before after hticks
    obtain rfl | ⟨ticks', tick, rfl⟩ := List.eq_nil_or_concat' before
    · exact le_rfl
    · rw [List.append_assoc] at hticks
      rw [runPair_concat]
      exact (voltage_stepPair_iff (sameLoad_runPair ticks') tick).mpr (h _ _ _ hticks)

/-! ## The recovery from a starvation -/

section Recovery

theorem literal_zero_lt {x : ℝ} (h : 0 < x) : (literal 0 : ℝ) < x := by
  rw [literal_real, Rat.cast_zero]
  exact h

/-- What is at its target stays there. -/
theorem lagToward_self {x dt timeConstant : ℝ} (h : 0 < timeConstant) :
    lagToward x x dt timeConstant = x := by
  rw [lagToward_real h, sub_self, zero_mul, add_zero]

theorem literal_one_real : (literal 1.0 : ℝ) = 1 := by
  rw [literal_real]
  norm_num

theorem minFuelSupplyFactor_real : (minFuelSupplyFactor : ℝ) = 0.4 := by
  rw [minFuelSupplyFactor, literal_real]
  norm_num

theorem fuelStarvationThreshold_real : (fuelStarvationThreshold : ℝ) = 0.98 := by
  rw [fuelStarvationThreshold, literal_real]
  norm_num

/-- The load of a machine by default asks for the current that it has. -/
theorem current_default (machine : FuelCellMachine ℝ) (hload : machine.load = literal 50.0)
    (htarget : machine.targetLoad = literal 50.0) (hcurrent : machine.current = literal 100.0)
    (dt : ℝ) : targetCurrent dt machine = 100 ∧ laggedCurrent dt machine = 100 := by
  have htargetCurrent : targetCurrent dt machine = 100 := by
    rw [targetCurrent, hload, htarget, loadTimeConstantSeconds_real, lagToward_self (by norm_num),
      maxCurrentAmps_real, literal_real, literal_real]
    norm_num
  have hhundred : (literal 100.0 : ℝ) = 100 := by
    rw [literal_real]
    norm_num
  refine ⟨htargetCurrent, ?_⟩
  rw [laggedCurrent, htargetCurrent, hcurrent, hhundred, loadTimeConstantSeconds_real,
    lagToward_self (by norm_num)]

/-- The decay over one time constant. -/
theorem exp_bounds : 0.36 < Real.exp (-1) ∧ Real.exp (-1) < 0.37 :=
  ⟨lt_trans (by norm_num) Real.exp_neg_one_gt_d9, lt_trans Real.exp_neg_one_lt_d9 (by norm_num)⟩

/-- The decay over several of them. -/
theorem exp_neg_natCast (n : ℕ) : Real.exp (-n) = Real.exp (-1) ^ n := by
  rw [← Real.exp_nat_mul]
  ring_nf

/-- Half a minute with the least supply in the limited machine. -/
noncomputable def starvation : PairTick ℝ :=
  ⟨none, none, 1, 0.4, by norm_num, ⟨30, literal_zero_lt (by norm_num)⟩⟩

/-- Two and a half minutes with the full supply in both. -/
noncomputable def refill : PairTick ℝ :=
  ⟨none, none, 1, 1, le_rfl, ⟨150, literal_zero_lt (by norm_num)⟩⟩

/-- The machines after the starvation. -/
noncomputable def starved : FuelCellMachine ℝ × FuelCellMachine ℝ := runPair [starvation]

/-- The fuel supply after the starvation. -/
theorem starved_fuelSupplyFactor :
    starved.1.fuelSupplyFactor = 1 ∧ starved.2.fuelSupplyFactor = 0.4 + 0.6 * Real.exp (-1) := by
  constructor
  · show lagToward (literal 1.0) (clamp 1 minFuelSupplyFactor (literal 1.0)) 30
      loadTimeConstantSeconds = _
    rw [minFuelSupplyFactor_real, literal_one_real, clamp_eq_self (by norm_num) le_rfl,
      loadTimeConstantSeconds_real, lagToward_self (by norm_num)]
  · show lagToward (literal 1.0) (clamp 0.4 minFuelSupplyFactor (literal 1.0)) 30
      loadTimeConstantSeconds = _
    rw [minFuelSupplyFactor_real, literal_one_real, clamp_eq_self le_rfl (by norm_num),
      loadTimeConstantSeconds_real, lagToward_real (by norm_num)]
    norm_num

/-- The limited machine has lost a quarter of its current. -/
theorem starved_current : starved.1.current = 100 ∧ starved.2.current < 75 := by
  obtain ⟨hfirst, hsecond⟩ := starved_fuelSupplyFactor
  obtain ⟨hlower, hupper⟩ := exp_bounds
  constructor
  -- the machine with all its fuel has the current that it had
  · have hcurrent := current_tick (commandPair (runPair []) starvation).1 starvation.dt
    obtain ⟨-, hlagged⟩ := current_default (commandPair (runPair []) starvation).1
      rfl rfl rfl starvation.dt.seconds
    rw [show fuelSupplyFactorAfter starvation.dt.seconds (commandPair (runPair []) starvation).1 = 1
      from hfirst, fuelStarvationThreshold_real, if_neg (by norm_num), hlagged] at hcurrent
    exact hcurrent
  · have hcurrent := current_tick (commandPair (runPair []) starvation).2 starvation.dt
    -- the other one is limited by its supply, which has fallen below the threshold
    obtain ⟨htarget, hlagged⟩ := current_default (commandPair (runPair []) starvation).2
      rfl rfl rfl starvation.dt.seconds
    rw [show fuelSupplyFactorAfter starvation.dt.seconds (commandPair (runPair []) starvation).2 =
      0.4 + 0.6 * Real.exp (-1) from hsecond, fuelStarvationThreshold_real, if_pos (by linarith),
      htarget, hlagged, halfTimeConstant_real, min_eq_right (by linarith),
      lagToward_real (by norm_num)] at hcurrent
    show (stepPair (runPair []) starvation).2.current < 75
    rw [show (stepPair (runPair []) starvation).2.current = _ from hcurrent,
      show -starvation.dt.seconds / 15 = -(2 : ℕ) by norm_num [starvation], exp_neg_natCast]
    nlinarith

/-- The penalty has a greatest value. -/
theorem penalty_le (fuelSupplyFactor : ℝ) :
    FuelCellMachine.fuelStarvationVoltagePenalty fuelSupplyFactor ≤ 0.06 := by
  rw [FuelCellMachine.fuelStarvationVoltagePenalty]
  split_ifs
  · rw [literal_real]
    norm_num
  · show (maxStarvationVoltagePenalty : ℝ) * min (literal 1.0) _ ≤ 0.06
    rw [maxStarvationVoltagePenalty, voltageLoadCoefficient_real, literal_one_real]
    have hmin : min 1 ((fuelStarvationThreshold - fuelSupplyFactor) /
        (fuelStarvationThreshold - minFuelSupplyFactor)) ≤ (1 : ℝ) := min_le_left _ _
    linarith

/-- With enough fuel there is none. -/
theorem penalty_of_le {fuelSupplyFactor : ℝ} (h : 0.98 ≤ fuelSupplyFactor) :
    FuelCellMachine.fuelStarvationVoltagePenalty fuelSupplyFactor = 0 := by
  rw [FuelCellMachine.fuelStarvationVoltagePenalty, fuelStarvationThreshold_real, if_pos h,
    literal_real]
  norm_num

/-- The distance of the voltages after the starvation is at most the penalty. -/
theorem starved_voltage : starved.1.voltage - starved.2.voltage ≤ 0.06 := by
  have hgap := voltage_gap (sameLoad_commandPair (sameLoad_runPair []) starvation) starvation.dt
  have hstart : (commandPair (runPair []) starvation).1.voltage -
      (commandPair (runPair []) starvation).2.voltage = 0 := sub_self _
  -- both machines start with the same current, so nothing is given back
  have hgiven : givenBack (commandPair (runPair []) starvation) starvation.dt.seconds = 0 := by
    rw [givenBack, show (commandPair (runPair []) starvation).1.current =
      (commandPair (runPair []) starvation).2.current from rfl]
    ring
  have hfirst : fuelSupplyFactorAfter starvation.dt.seconds
      (commandPair (runPair []) starvation).1 = 1 := starved_fuelSupplyFactor.1
  have hextra :
      extraPenalty (commandPair (runPair []) starvation) starvation.dt.seconds ≤ 0.06 := by
    rw [extraPenalty, hfirst, penalty_of_le (show (0.98 : ℝ) ≤ 1 by norm_num), sub_zero]
    exact penalty_le _
  have hdecay : -starvation.dt.seconds / 15 = -(2 : ℕ) := by norm_num [starvation]
  rw [hstart, hgiven, hdecay, exp_neg_natCast] at hgap
  obtain ⟨hlower, hupper⟩ := exp_bounds
  show (stepPair (runPair []) starvation).1.voltage -
    (stepPair (runPair []) starvation).2.voltage ≤ _
  rw [show (stepPair (runPair []) starvation).1.voltage -
    (stepPair (runPair []) starvation).2.voltage = _ from hgap]
  have hkept : 0 ≤ 1 - Real.exp (-1) ^ 2 := by nlinarith
  have hpart := mul_le_mul_of_nonneg_right hextra hkept
  nlinarith

/-- After the refill both machines have fuel enough. -/
theorem refill_fuelSupplyFactor :
    fuelSupplyFactorAfter 150 (commandPair starved refill).1 = 1 ∧
      0.98 ≤ fuelSupplyFactorAfter 150 (commandPair starved refill).2 := by
  obtain ⟨hfirst, hsecond⟩ := starved_fuelSupplyFactor
  obtain ⟨hlower, hupper⟩ := exp_bounds
  constructor
  · show lagToward starved.1.fuelSupplyFactor (clamp 1 minFuelSupplyFactor (literal 1.0)) 150
      loadTimeConstantSeconds = _
    rw [hfirst, minFuelSupplyFactor_real, literal_one_real, clamp_eq_self (by norm_num) le_rfl,
      loadTimeConstantSeconds_real, lagToward_self (by norm_num)]
  · show _ ≤ lagToward starved.2.fuelSupplyFactor (clamp 1 minFuelSupplyFactor (literal 1.0)) 150
      loadTimeConstantSeconds
    rw [hsecond, minFuelSupplyFactor_real, literal_one_real, clamp_eq_self (by norm_num) le_rfl,
      loadTimeConstantSeconds_real, lagToward_real (by norm_num),
      show (-150 : ℝ) / 30 = -(5 : ℕ) by norm_num, exp_neg_natCast]
    have hfive : Real.exp (-1) ^ 5 ≤ 0.37 ^ 5 := pow_le_pow_left₀ (by linarith) hupper.le 5
    have hnonneg : 0 ≤ Real.exp (-1) ^ 5 := by positivity
    nlinarith

/-- While the current recovers after the fuel has, the voltage of the limited machine is the higher
one. -/
theorem not_neverNetsIncrease_recovery : ¬ NeverNetsIncrease [starvation, refill] := by
  intro h
  have hcovered := (voltage_stepPair_iff (sameLoad_runPair [starvation]) refill).mp
    (h [starvation, refill] [] rfl)
  obtain ⟨hfirst, hsecond⟩ := refill_fuelSupplyFactor
  obtain ⟨hlower, hupper⟩ := exp_bounds
  obtain ⟨hcurrent, hlimited⟩ := starved_current
  -- with fuel enough the penalty is over
  have hextra : extraPenalty (commandPair starved refill) 150 = 0 := by
    rw [extraPenalty, hfirst, penalty_of_le hsecond, penalty_of_le (by norm_num), sub_zero]
  -- but the current is not back yet, since it lags more slowly
  have hgiven : 0.0075 * Real.exp (-1) ^ 5 ≤ givenBack (commandPair starved refill) 150 := by
    show _ ≤ (starved.1.current - starved.2.current) * Real.exp (-150 / 30) / 200 * 0.06
    rw [show (-150 : ℝ) / 30 = -(5 : ℕ) by norm_num, exp_neg_natCast, hcurrent]
    have hfive : 0 ≤ Real.exp (-1) ^ 5 := by positivity
    nlinarith
  have hvoltage := starved_voltage
  -- the voltages have nearly converged, and the current has not
  have hcovered' : (givenBack (commandPair starved refill) 150 -
      extraPenalty (commandPair starved refill) 150) * (1 - Real.exp (-150 / 15)) ≤
      (starved.1.voltage - starved.2.voltage) * Real.exp (-150 / 15) := hcovered
  rw [hextra, sub_zero, show (-150 : ℝ) / 15 = -(10 : ℕ) by norm_num, exp_neg_natCast,
    show Real.exp (-1) ^ 10 = Real.exp (-1) ^ 5 * Real.exp (-1) ^ 5 by ring] at hcovered'
  have hfive : Real.exp (-1) ^ 5 ≤ 0.37 ^ 5 := pow_le_pow_left₀ (by linarith) hupper.le 5
  have hpos : 0 < Real.exp (-1) ^ 5 := by positivity
  generalize Real.exp (-1) ^ 5 = decay at hcovered' hgiven hfive hpos
  have hkept : 0 ≤ 1 - decay * decay := by nlinarith
  have hrise := mul_le_mul_of_nonneg_right hgiven hkept
  have hdistance := mul_le_mul_of_nonneg_right hvoltage (mul_nonneg hpos.le hpos.le)
  nlinarith

end Recovery

end Odis.Simulator
