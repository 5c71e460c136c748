import Mathlib.Algebra.Order.Round
import Mathlib.Analysis.Convex.Basic
import Odis.Simulator.Starvation

/-!
# The physical envelope

A caller sets the targets of a machine to any numbers, and ticks it, in any order. In exact
arithmetic, every part of the machine that such a caller reaches stays between fixed bounds, and the
operating mode tells whether the load is on its way.

* `lagToward_mem`: a lag stays in every convex set that has its start and its target.
* `Envelope`: the bounds, with those of the targets, which carry the induction.
* `envelope_run`: the machine is within them after all commands and ticks.
-/

namespace Odis.Simulator

open Arithmetic Set

/-! ## Runs -/

/-- What a caller does to a machine. -/
inductive Command (N : Type) [Arithmetic N] where
  | setTargetLoad (targetLoad : N)
  | setCoolingEfficiency (coolingEfficiency : N)
  | setFuelSupplyFactor (fuelSupplyFactor : N)
  | tick (dt : TimeStep N)

namespace FuelCellMachine

variable {N : Type} [Arithmetic N]

/-- A command, or a tick. -/
def perform (machine : FuelCellMachine N) : Command N → FuelCellMachine N
  | .setTargetLoad targetLoad => machine.setTargetLoad targetLoad
  | .setCoolingEfficiency coolingEfficiency => machine.setCoolingEfficiency coolingEfficiency
  | .setFuelSupplyFactor fuelSupplyFactor => machine.setFuelSupplyFactor fuelSupplyFactor
  | .tick dt => machine.tick dt

/-- The machine after commands and ticks, in their order. -/
def run (machine : FuelCellMachine N) (commands : List (Command N)) : FuelCellMachine N :=
  commands.foldl perform machine

end FuelCellMachine

/-! ## The coolant flow -/

/-- `round(x, digits)`. -/
noncomputable def roundTo (digits : ℕ) (x : ℝ) : ℝ := nearestInt (x * 10 ^ digits) / 10 ^ digits

/-- `_coolant_flow`. -/
noncomputable def coolantFlow (loadPercent coolingEfficiency : ℝ) : ℝ :=
  let loadFraction := loadPercent / literal 100.0
  roundTo 4 (literal 8.0 + loadFraction * literal 18.0 +
    (literal 0.85 - coolingEfficiency) * literal 12.0)

/-- The nearest integer is one of the two neighbours. -/
theorem nearestInt_mem (x : ℝ) : nearestInt x ∈ Icc ⌊x⌋ ⌈x⌉ := by
  show (if Int.fract x = 1 / 2 ∧ Even ⌊x⌋ then ⌊x⌋ else round x) ∈ _
  split_ifs
  · exact ⟨le_rfl, Int.floor_le_ceil x⟩
  · unfold round
    split_ifs
    · exact ⟨le_rfl, Int.floor_le_ceil x⟩
    · exact ⟨Int.floor_le_ceil x, le_rfl⟩

/-- Rounding does not cross a bound with as many digits. -/
theorem roundTo_mem {digits : ℕ} {lower upper : ℤ} {x : ℝ}
    (h : x * 10 ^ digits ∈ Icc (lower : ℝ) upper) :
    roundTo digits x ∈ Icc (lower / 10 ^ digits : ℝ) (upper / 10 ^ digits) := by
  obtain ⟨hlower, hupper⟩ := nearestInt_mem (x * 10 ^ digits)
  constructor
  · have hfloor : lower ≤ nearestInt (x * 10 ^ digits) := (Int.le_floor.mpr h.1).trans hlower
    unfold roundTo
    gcongr
  · have hceil : nearestInt (x * 10 ^ digits) ≤ upper := hupper.trans (Int.ceil_le.mpr h.2)
    unfold roundTo
    gcongr

/-- The flow of coolant is bounded by load and cooling efficiency. -/
theorem coolantFlow_mem {loadPercent coolingEfficiency : ℝ} (hload : loadPercent ∈ Icc (0 : ℝ) 100)
    (hcooling : coolingEfficiency ∈ Icc (0.4 : ℝ) 1) :
    coolantFlow loadPercent coolingEfficiency ∈ Icc (6.2 : ℝ) 31.4 := by
  obtain ⟨hload0, hload100⟩ := hload
  obtain ⟨hcooling0, hcooling1⟩ := hcooling
  have hround : roundTo 4 (8 + loadPercent / 100 * 18 + (0.85 - coolingEfficiency) * 12) ∈
      Icc (((62000 : ℤ) : ℝ) / 10 ^ 4) (((314000 : ℤ) : ℝ) / 10 ^ 4) := by
    apply roundTo_mem
    constructor
    · push_cast
      linarith
    · push_cast
      linarith
  unfold coolantFlow
  simp only [literal_real]
  norm_num at hround ⊢
  exact hround

/-! ## Lags and clamps -/

/-- Literals are exact over the reals. -/
theorem literal_zero_real : (literal 0.0 : ℝ) = 0 := by
  rw [literal_real]
  norm_num

theorem literal_hundred_real : (literal 100.0 : ℝ) = 100 := by
  rw [literal_real]
  norm_num

/-- So is the absolute value. -/
theorem absolute_real (x : ℝ) : absolute x = |x| := by
  rw [absolute, literal_real, Rat.cast_zero]
  split_ifs with h
  · exact (abs_of_neg h).symm
  · exact (abs_of_nonneg (not_lt.mp h)).symm

/-- What is clamped is within its bounds. -/
theorem clamp_mem (value : ℝ) {lower upper : ℝ} (h : lower ≤ upper) :
    clamp value lower upper ∈ Icc lower upper :=
  ⟨le_max_left _ _, max_le h (min_le_right _ _)⟩

section Lag

variable {current target dt timeConstant : ℝ}

/-- What a lag leaves of a distance. -/
theorem decay_mem (hdt : 0 < dt) (htime : 0 < timeConstant) :
    Real.exp (-dt / timeConstant) ∈ Ioo (0 : ℝ) 1 :=
  ⟨Real.exp_pos _, Real.exp_lt_one_iff.mpr (div_neg_of_neg_of_pos (neg_lt_zero.mpr hdt) htime)⟩

/-- A lag is a mean of its start and its target. -/
theorem lagToward_mem {s : Set ℝ} (hs : Convex ℝ s) (hcurrent : current ∈ s) (htarget : target ∈ s)
    (hdt : 0 < dt) (htime : 0 < timeConstant) : lagToward current target dt timeConstant ∈ s := by
  obtain ⟨hpos, hlt⟩ := decay_mem hdt htime
  have hmean : lagToward current target dt timeConstant =
      Real.exp (-dt / timeConstant) • current + (1 - Real.exp (-dt / timeConstant)) • target := by
    rw [lagToward_real htime, smul_eq_mul, smul_eq_mul]
    ring
  rw [hmean]
  exact hs hcurrent htarget hpos.le (sub_nonneg.mpr hlt.le) (by ring)

/-- A lag comes closer to its target. -/
theorem abs_sub_lagToward_le (hdt : 0 < dt) (htime : 0 < timeConstant) :
    |target - lagToward current target dt timeConstant| ≤ |target - current| := by
  obtain ⟨hpos, hlt⟩ := decay_mem hdt htime
  have hdistance : target - lagToward current target dt timeConstant =
      (target - current) * Real.exp (-dt / timeConstant) := by
    rw [lagToward_real htime]
    ring
  rw [hdistance, abs_mul, abs_of_pos hpos]
  exact mul_le_of_le_one_right (abs_nonneg _) hlt.le

end Lag

/-- A variation does not exceed its amplitude. -/
theorem microVariation_mem (tick channel : ℕ) {amplitude : ℝ} (h : 0 ≤ amplitude) :
    microVariation tick channel amplitude ∈ Icc (-amplitude) amplitude := by
  show Real.sin _ * amplitude ∈ _
  constructor
  · nlinarith [Real.neg_one_le_sin (literal tick * literal 0.17 + literal channel * literal 1.3)]
  · nlinarith [Real.sin_le_one (literal tick * literal 0.17 + literal channel * literal 1.3)]

/-- Starvation costs voltage and never adds any. -/
theorem penalty_nonneg (fuelSupplyFactor : ℝ) :
    0 ≤ FuelCellMachine.fuelStarvationVoltagePenalty fuelSupplyFactor := by
  rw [FuelCellMachine.fuelStarvationVoltagePenalty]
  split_ifs with h
  · rw [literal_real]
    norm_num
  · show 0 ≤ (maxStarvationVoltagePenalty : ℝ) * min (literal 1.0)
      ((fuelStarvationThreshold - fuelSupplyFactor) /
        (fuelStarvationThreshold - minFuelSupplyFactor))
    rw [maxStarvationVoltagePenalty, voltageLoadCoefficient_real, literal_one_real,
      fuelStarvationThreshold_real, minFuelSupplyFactor_real]
    rw [fuelStarvationThreshold_real, not_le] at h
    have hdepth : 0 ≤ (0.98 - fuelSupplyFactor) / (0.98 - 0.4) :=
      div_nonneg (by linarith) (by norm_num)
    have hmin : 0 ≤ min 1 ((0.98 - fuelSupplyFactor) / (0.98 - 0.4)) :=
      le_min zero_le_one hdepth
    positivity

/-! ## The envelope -/

/-- The bounds of a machine. -/
structure Envelope (machine : FuelCellMachine ℝ) : Prop where
  load : machine.load ∈ Icc (0 : ℝ) 100
  targetLoad : machine.targetLoad ∈ Icc (0 : ℝ) 100
  coolingEfficiency : machine.coolingEfficiency ∈ Icc (0.4 : ℝ) 1
  targetCoolingEfficiency : machine.targetCoolingEfficiency ∈ Icc (0.4 : ℝ) 1
  fuelSupplyFactor : machine.fuelSupplyFactor ∈ Icc (0.4 : ℝ) 1
  targetFuelSupplyFactor : machine.targetFuelSupplyFactor ∈ Icc (0.4 : ℝ) 1
  current : machine.current ∈ Icc (0 : ℝ) 200
  voltage : machine.voltage ∈ Icc (0.658 : ℝ) 0.782
  hydrogenFlow : 0 < machine.hydrogenFlow
  operatingMode : machine.operatingMode = .ramping ↔ 1 < |machine.targetLoad - machine.load|

/-- A machine starts within the envelope. -/
theorem envelope_default (assetId : String) : Envelope (.default assetId) := by
  unfold FuelCellMachine.default FuelCellMachine.create
  constructor <;> simp only [literal_real] <;> norm_num
  exact OperatingMode.noConfusion

namespace Envelope

variable {machine : FuelCellMachine ℝ} (h : Envelope machine)

include h

/-- A target load keeps it there. -/
theorem setTargetLoad (targetLoad : ℝ) : Envelope (machine.setTargetLoad targetLoad) := by
  have htarget : clamp targetLoad (literal 0.0) (literal 100.0) ∈ Icc (0 : ℝ) 100 := by
    rw [literal_zero_real, literal_hundred_real]
    exact clamp_mem targetLoad (by norm_num)
  refine { h with targetLoad := htarget, operatingMode := ?_ }
  show (if literal 1.0 < absolute (_ - machine.load) then OperatingMode.ramping
    else if machine.operatingMode = .ramping then .running
      else machine.operatingMode) = .ramping ↔ _
  rw [absolute_real, literal_one_real]
  by_cases hfar : 1 < |clamp targetLoad (literal 0.0) (literal 100.0) - machine.load|
  · rw [if_pos hfar]
    exact iff_of_true rfl hfar
  · -- a machine that was ramping is running now, any other keeps its mode
    rw [if_neg hfar]
    refine iff_of_false ?_ hfar
    split_ifs with hramping
    · exact not_false
    · exact hramping

/-- So does a cooling efficiency, which is clamped. -/
theorem setCoolingEfficiency (coolingEfficiency : ℝ) :
    Envelope (machine.setCoolingEfficiency coolingEfficiency) := by
  refine { h with targetCoolingEfficiency := ?_ }
  show clamp coolingEfficiency (literal 0.4) (literal 1.0) ∈ _
  rw [show (literal 0.4 : ℝ) = 0.4 from minFuelSupplyFactor_real, literal_one_real]
  exact clamp_mem _ (by norm_num)

/-- So does a fuel supply factor, which is clamped too. -/
theorem setFuelSupplyFactor (fuelSupplyFactor : ℝ) :
    Envelope (machine.setFuelSupplyFactor fuelSupplyFactor) := by
  refine { h with targetFuelSupplyFactor := ?_ }
  show clamp fuelSupplyFactor minFuelSupplyFactor (literal 1.0) ∈ _
  rw [minFuelSupplyFactor_real, literal_one_real]
  exact clamp_mem _ (by norm_num)

section Tick

variable (dt : TimeStep ℝ)

omit h in
/-- A tick takes some time. -/
theorem seconds_pos : 0 < dt.seconds := by
  have hpositive := dt.positive
  rwa [literal_real, Rat.cast_zero] at hpositive

/-- The load moves between bounds. -/
theorem load_tick : (machine.tick dt).load ∈ Icc (0 : ℝ) 100 := by
  show lagToward machine.load machine.targetLoad dt.seconds loadTimeConstantSeconds ∈ _
  rw [loadTimeConstantSeconds_real]
  exact lagToward_mem (convex_Icc 0 100) h.load h.targetLoad (seconds_pos dt) (by norm_num)

/-- So does the cooling efficiency. -/
theorem coolingEfficiency_tick : (machine.tick dt).coolingEfficiency ∈ Icc (0.4 : ℝ) 1 := by
  show lagToward machine.coolingEfficiency machine.targetCoolingEfficiency dt.seconds
    temperatureTimeConstantSeconds ∈ _
  rw [show (temperatureTimeConstantSeconds : ℝ) = 60 by
    rw [temperatureTimeConstantSeconds, literal_real]; norm_num]
  exact lagToward_mem (convex_Icc 0.4 1) h.coolingEfficiency h.targetCoolingEfficiency
    (seconds_pos dt) (by norm_num)

/-- So does the fuel supply. -/
theorem fuelSupplyFactor_tick : fuelSupplyFactorAfter dt.seconds machine ∈ Icc (0.4 : ℝ) 1 := by
  rw [fuelSupplyFactorAfter, loadTimeConstantSeconds_real]
  exact lagToward_mem (convex_Icc 0.4 1) h.fuelSupplyFactor h.targetFuelSupplyFactor
    (seconds_pos dt) (by norm_num)

/-- The current is aimed at within its bounds. -/
theorem targetCurrent_mem : targetCurrent dt.seconds machine ∈ Icc (0 : ℝ) 200 := by
  obtain ⟨hload0, hload100⟩ := h.load_tick dt
  show (machine.tick dt).load / literal 100.0 * maxCurrentAmps ∈ _
  rw [literal_hundred_real, maxCurrentAmps_real]
  constructor <;> linarith

/-- Lagging behind, it is within them too. -/
theorem laggedCurrent_mem : laggedCurrent dt.seconds machine ∈ Icc (0 : ℝ) 200 := by
  rw [laggedCurrent, loadTimeConstantSeconds_real]
  exact lagToward_mem (convex_Icc 0 200) h.current (h.targetCurrent_mem dt) (seconds_pos dt)
    (by norm_num)

/-- The second update of the current only lowers it, towards a current that is not negative. -/
theorem current_tick_mem : (machine.tick dt).current ∈ Icc (0 : ℝ) 200 := by
  obtain ⟨hlagged0, hlagged200⟩ := h.laggedCurrent_mem dt
  have hlimited : min (laggedCurrent dt.seconds machine)
      (targetCurrent dt.seconds machine * fuelSupplyFactorAfter dt.seconds machine) ∈
        Icc (0 : ℝ) 200 := by
    have hfuel : 0 ≤ fuelSupplyFactorAfter dt.seconds machine :=
      le_trans (by norm_num) (h.fuelSupplyFactor_tick dt).1
    exact ⟨le_min hlagged0 (mul_nonneg (h.targetCurrent_mem dt).1 hfuel),
      (min_le_left _ _).trans hlagged200⟩
  rw [current_tick]
  split_ifs
  · rw [halfTimeConstant_real]
    exact lagToward_mem (convex_Icc 0 200) ⟨hlagged0, hlagged200⟩ hlimited (seconds_pos dt)
      (by norm_num)
  · exact ⟨hlagged0, hlagged200⟩

/-- The current and the starvation take at most `0.06` each off the target voltage. -/
theorem targetVoltage_mem : targetVoltage dt.seconds machine ∈ Icc (0.658 : ℝ) 0.782 := by
  obtain ⟨hlagged0, hlagged200⟩ := h.laggedCurrent_mem dt
  have hpenalty0 := penalty_nonneg (fuelSupplyFactorAfter dt.seconds machine)
  have hpenalty := penalty_le (fuelSupplyFactorAfter dt.seconds machine)
  obtain ⟨hvariation0, hvariation⟩ := microVariation_mem (machine.tickCount + 1) 1
    (show (0 : ℝ) ≤ 0.002 by norm_num)
  rw [targetVoltage, maxCurrentAmps_real, voltageLoadCoefficient_real,
    show (openCircuitVoltage : ℝ) = 0.78 by rw [openCircuitVoltage, literal_real]; norm_num,
    show (literal 0.002 : ℝ) = 0.002 by rw [literal_real]; norm_num]
  constructor <;> linarith

/-- The voltage stays between that of full load, less the penalty, and that of no load. -/
theorem voltage_tick_mem : (machine.tick dt).voltage ∈ Icc (0.658 : ℝ) 0.782 := by
  rw [voltage_tick, halfTimeConstant_real]
  exact lagToward_mem (convex_Icc 0.658 0.782) h.voltage (h.targetVoltage_mem dt) (seconds_pos dt)
    (by norm_num)

/-- Hydrogen flows at all times. -/
theorem hydrogenFlow_tick : 0 < (machine.tick dt).hydrogenFlow := by
  show lagToward machine.hydrogenFlow
    ((baseFuelFlowSlpm + (machine.tick dt).load / literal 100.0 * fuelFlowLoadCoefficient) *
      fuelSupplyFactorAfter dt.seconds machine) dt.seconds loadTimeConstantSeconds ∈ Ioi (0 : ℝ)
  have hload := (h.load_tick dt).1
  have hfuel : 0 < fuelSupplyFactorAfter dt.seconds machine :=
    lt_of_lt_of_le (by norm_num) (h.fuelSupplyFactor_tick dt).1
  rw [loadTimeConstantSeconds_real]
  apply lagToward_mem (convex_Ioi 0) h.hydrogenFlow _ (seconds_pos dt) (by norm_num)
  rw [literal_hundred_real,
    show (baseFuelFlowSlpm : ℝ) = 1.5 by rw [baseFuelFlowSlpm, literal_real]; norm_num,
    show (fuelFlowLoadCoefficient : ℝ) = 1 from literal_one_real]
  show 0 < (1.5 + (machine.tick dt).load / 100 * 1) * fuelSupplyFactorAfter dt.seconds machine
  positivity

/-- A machine leaves the ramping mode when the load is near its target, and is in it before, since
the load was farther away then. -/
theorem operatingMode_tick : (machine.tick dt).operatingMode = .ramping ↔
    1 < |(machine.tick dt).targetLoad - (machine.tick dt).load| := by
  show (if absolute (machine.targetLoad - (machine.tick dt).load) ≤ literal 1.0 then
    OperatingMode.running else machine.operatingMode) = .ramping ↔
      1 < |machine.targetLoad - (machine.tick dt).load|
  rw [absolute_real, literal_one_real]
  by_cases hnear : |machine.targetLoad - (machine.tick dt).load| ≤ 1
  · rw [if_pos hnear]
    exact iff_of_false (fun heq => OperatingMode.noConfusion heq) (not_lt.mpr hnear)
  · rw [if_neg hnear]
    have hfar : 1 < |machine.targetLoad - (machine.tick dt).load| := not_le.mp hnear
    have hcloser : |machine.targetLoad - (machine.tick dt).load| ≤
        |machine.targetLoad - machine.load| := by
      apply abs_sub_lagToward_le (seconds_pos dt)
      rw [loadTimeConstantSeconds_real]
      norm_num
    exact iff_of_true (h.operatingMode.mpr (hfar.trans_le hcloser)) hfar

/-- A tick keeps the machine within the envelope. -/
theorem tick : Envelope (machine.tick dt) where
  load := h.load_tick dt
  targetLoad := h.targetLoad
  coolingEfficiency := h.coolingEfficiency_tick dt
  targetCoolingEfficiency := h.targetCoolingEfficiency
  fuelSupplyFactor := h.fuelSupplyFactor_tick dt
  targetFuelSupplyFactor := h.targetFuelSupplyFactor
  current := h.current_tick_mem dt
  voltage := h.voltage_tick_mem dt
  hydrogenFlow := h.hydrogenFlow_tick dt
  operatingMode := h.operatingMode_tick dt

end Tick

/-- Whatever a caller does keeps the machine within its bounds. -/
theorem perform (command : Command ℝ) : Envelope (machine.perform command) := by
  cases command with
  | setTargetLoad targetLoad => exact h.setTargetLoad targetLoad
  | setCoolingEfficiency coolingEfficiency => exact h.setCoolingEfficiency coolingEfficiency
  | setFuelSupplyFactor fuelSupplyFactor => exact h.setFuelSupplyFactor fuelSupplyFactor
  | tick dt => exact h.tick dt

/-- So does every run of commands and ticks. -/
theorem run (commands : List (Command ℝ)) : Envelope (machine.run commands) := by
  induction commands generalizing machine with
  | nil => exact h
  | cons command commands ih => exact ih (h.perform command)

end Envelope

/-- After any commands and ticks, a machine that was created by default is within its physical
envelope, and so is its coolant flow. -/
theorem envelope_run (assetId : String) (commands : List (Command ℝ)) :
    let machine := (FuelCellMachine.default assetId).run commands
    Envelope machine ∧ coolantFlow machine.load machine.coolingEfficiency ∈ Icc (6.2 : ℝ) 31.4 := by
  intro machine
  have henvelope : Envelope machine := (envelope_default assetId).run commands
  exact ⟨henvelope, coolantFlow_mem henvelope.load henvelope.coolingEfficiency⟩

end Odis.Simulator
