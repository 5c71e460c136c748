import Odis.Library.Rounding
import Odis.Python.Double

/-!
# The fuel cell machine

`FuelCellMachine` (`simulator/machine.py`): the state of a stack, the commands that set the targets
of its parameters, and the step that moves every part of it towards its target. The numbers are
those of a class, so the same definitions stand for exact and for rounded arithmetic.
-/

namespace Odis.Simulator

/-- The numbers that the simulator computes with, none of them `nan`. It divides by positive
constants and by durations that are checked to be positive. -/
class Arithmetic (N : Type) extends LinearOrder N, Add N, Sub N, Mul N, Div N, Neg N where
  /-- The number nearest to a literal of the source. -/
  literal : ℚ → N
  /-- `math.exp`. -/
  exp : N → N
  /-- `math.sin`. -/
  sin : N → N
  /-- `math.pi`. -/
  pi : N
  /-- `round(x)`. -/
  nearestInt : N → ℤ
  /-- The microseconds of `timedelta(seconds=x)`. -/
  microseconds : N → ℤ

/-- The arithmetic of a number format. -/
instance {format : NumberFormat} : Arithmetic (Number format) where
  literal := Number.ofRat format
  exp x := Number.ofRat format (format.exp x.val)
  sin x := Number.ofRat format (format.sin x.val)
  pi := Number.ofRat format format.pi
  nearestInt x := roundHalfEven x.val
  microseconds x :=
    -- whole seconds are exact, the rest is scaled as a `float`
    let whole := x.val.num.tdiv x.val.den
    whole * 1000000 + roundHalfEven (format.round ((x.val - whole) * 1000000))

open Arithmetic

variable {N : Type} [Arithmetic N]

/-- `OperatingMode`. -/
inductive OperatingMode where
  | idle
  | running
  | ramping
  deriving DecidableEq, Repr

/-- `FuelCellMachine`: the state of a stack between two ticks, with the targets that it moves
towards. -/
structure FuelCellMachine (N : Type) where
  assetId : String
  load : N
  targetLoad : N
  current : N
  voltage : N
  stackTemperature : N
  stackPressure : N
  hydrogenFlow : N
  airFlow : N
  coolingEfficiency : N
  targetCoolingEfficiency : N
  fuelSupplyFactor : N
  targetFuelSupplyFactor : N
  operatingMode : OperatingMode
  tickCount : ℕ

/-! ## Constants -/

def maxCurrentAmps : N := literal 200.0

def openCircuitVoltage : N := literal 0.78

def voltageLoadCoefficient : N := literal 0.06

def fuelStarvationThreshold : N := literal 0.98

def minFuelSupplyFactor : N := literal 0.4

def maxStarvationVoltagePenalty : N := voltageLoadCoefficient

def baseFuelFlowSlpm : N := literal 1.5

def fuelFlowLoadCoefficient : N := literal 1.0

def airStoichiometryRatio : N := literal 4.0

def baseTemperatureCelsius : N := literal 55.0

def temperatureLoadCoefficient : N := literal 20.0

def basePressureKpa : N := literal 160.0

def pressureTemperatureCoefficient : N := literal 0.5

def loadTimeConstantSeconds : N := literal 30.0

def temperatureTimeConstantSeconds : N := literal 60.0

/-! ## Helpers -/

/-- `abs(x)`. -/
def absolute (x : N) : N := if x < literal 0 then -x else x

/-- `_clamp`. -/
def clamp (value lower upper : N) : N := max lower (min value upper)

/-- A clamp leaves alone a value between its bounds. -/
theorem clamp_eq_self {value lower upper : N} (hlower : lower ≤ value) (hupper : value ≤ upper) :
    clamp value lower upper = value := by
  rw [clamp, min_eq_left hupper, max_eq_right hlower]

/-- `_lag_toward`. -/
def lagToward (current target dtSeconds timeConstantSeconds : N) : N :=
  if timeConstantSeconds ≤ literal 0 then target
  else
    let alpha := literal 1.0 - exp (-dtSeconds / timeConstantSeconds)
    current + (target - current) * alpha

/-- `_micro_variation`. -/
def microVariation (tick channel : ℕ) (amplitude : N) : N :=
  sin (literal tick * literal 0.17 + literal channel * literal 1.3) * amplitude

/-! ## The machine -/

/-- A step that `tick` accepts: it raises `ValueError` on any other. -/
structure TimeStep (N : Type) [Arithmetic N] where
  seconds : N
  positive : literal 0 < seconds

namespace FuelCellMachine

/-- The constructor, with a load and a stack temperature of its own and all other defaults. -/
def create (assetId : String) (load stackTemperature : N) : FuelCellMachine N where
  assetId
  load
  targetLoad := literal 50.0
  current := literal 100.0
  voltage := literal 0.76
  stackTemperature
  stackPressure := literal 152.0
  hydrogenFlow := literal 2.0
  airFlow := literal 8.0
  coolingEfficiency := literal 0.85
  targetCoolingEfficiency := literal 0.85
  fuelSupplyFactor := literal 1.0
  targetFuelSupplyFactor := literal 1.0
  operatingMode := .running
  tickCount := 0

/-- `FuelCellMachine.default`. -/
def default (assetId : String) : FuelCellMachine N := create assetId (literal 50.0) (literal 65.0)

/-- `set_target_load`. -/
def setTargetLoad (machine : FuelCellMachine N) (targetLoad : N) : FuelCellMachine N :=
  let target := clamp targetLoad (literal 0.0) (literal 100.0)
  { machine with
    targetLoad := target
    operatingMode :=
      if literal 1.0 < absolute (target - machine.load) then .ramping
      else if machine.operatingMode = .ramping then .running else machine.operatingMode }

/-- `set_cooling_efficiency`. -/
def setCoolingEfficiency (machine : FuelCellMachine N) (coolingEfficiency : N) :
    FuelCellMachine N :=
  { machine with targetCoolingEfficiency := clamp coolingEfficiency (literal 0.4) (literal 1.0) }

/-- `set_fuel_supply_factor`. -/
def setFuelSupplyFactor (machine : FuelCellMachine N) (fuelSupplyFactor : N) :
    FuelCellMachine N :=
  { machine with
    targetFuelSupplyFactor := clamp fuelSupplyFactor minFuelSupplyFactor (literal 1.0) }

/-- `_fuel_starvation_voltage_penalty`, of a fuel supply factor. -/
def fuelStarvationVoltagePenalty (fuelSupplyFactor : N) : N :=
  if fuelStarvationThreshold ≤ fuelSupplyFactor then literal 0.0
  else
    let starvationRange := fuelStarvationThreshold - minFuelSupplyFactor
    let depth := (fuelStarvationThreshold - fuelSupplyFactor) / starvationRange
    maxStarvationVoltagePenalty * min (literal 1.0) depth

/-- `tick`. -/
def tick (machine : FuelCellMachine N) (dt : TimeStep N) : FuelCellMachine N :=
  let dtSeconds := dt.seconds
  let tickCount := machine.tickCount + 1
  let coolingEfficiency := lagToward machine.coolingEfficiency machine.targetCoolingEfficiency
    dtSeconds temperatureTimeConstantSeconds
  let fuelSupplyFactor := lagToward machine.fuelSupplyFactor machine.targetFuelSupplyFactor
    dtSeconds loadTimeConstantSeconds
  let load := lagToward machine.load machine.targetLoad dtSeconds loadTimeConstantSeconds
  let operatingMode :=
    if absolute (machine.targetLoad - load) ≤ literal 1.0 then .running else machine.operatingMode
  let loadFraction := load / literal 100.0
  let targetCurrent := loadFraction * maxCurrentAmps
  let laggedCurrent := lagToward machine.current targetCurrent dtSeconds loadTimeConstantSeconds
  let currentFraction := laggedCurrent / maxCurrentAmps
  let targetVoltage := openCircuitVoltage - currentFraction * voltageLoadCoefficient -
    fuelStarvationVoltagePenalty fuelSupplyFactor + microVariation tickCount 1 (literal 0.002)
  let voltage := lagToward machine.voltage targetVoltage dtSeconds
    (loadTimeConstantSeconds / literal 2.0)
  let targetFuelFlow :=
    (baseFuelFlowSlpm + loadFraction * fuelFlowLoadCoefficient) * fuelSupplyFactor
  let hydrogenFlow := lagToward machine.hydrogenFlow targetFuelFlow dtSeconds
    loadTimeConstantSeconds
  -- the current is limited only once the voltage has been computed
  let current :=
    if fuelSupplyFactor < fuelStarvationThreshold then
      lagToward laggedCurrent (min laggedCurrent (targetCurrent * fuelSupplyFactor)) dtSeconds
        (loadTimeConstantSeconds / literal 2.0)
    else laggedCurrent
  let targetAirFlow := hydrogenFlow * airStoichiometryRatio
  let airFlow := lagToward machine.airFlow targetAirFlow dtSeconds loadTimeConstantSeconds
  let coolingBonus := (coolingEfficiency - literal 0.8) * literal 10.0
  let targetTemperature := baseTemperatureCelsius + loadFraction * temperatureLoadCoefficient -
    coolingBonus + microVariation tickCount 2 (literal 0.15)
  let stackTemperature := lagToward machine.stackTemperature targetTemperature dtSeconds
    temperatureTimeConstantSeconds
  let targetPressure := basePressureKpa -
    (stackTemperature - literal 60.0) * pressureTemperatureCoefficient +
    microVariation tickCount 3 (literal 0.2)
  let stackPressure := lagToward machine.stackPressure targetPressure dtSeconds
    (temperatureTimeConstantSeconds / literal 2.0)
  { machine with
    load, current, voltage, stackTemperature, stackPressure, hydrogenFlow, airFlow,
    coolingEfficiency, fuelSupplyFactor, operatingMode, tickCount }

/-! ## What a command sets -/

section Frame

variable (machine : FuelCellMachine N) (value : N) (dt : TimeStep N)

/-- The commanded parameters that a fault drives. -/
def commands (machine : FuelCellMachine N) : N × N :=
  (machine.targetCoolingEfficiency, machine.targetFuelSupplyFactor)

/-- A target load is no command of a fault. -/
@[simp]
theorem commands_setTargetLoad : (machine.setTargetLoad value).commands = machine.commands := rfl

/-- Nor does a tick change the commands. -/
@[simp]
theorem commands_tick : (machine.tick dt).commands = machine.commands := rfl

/-- A cooling efficiency is commanded, clamped to its bounds. -/
@[simp]
theorem commands_setCoolingEfficiency : (machine.setCoolingEfficiency value).commands =
    (clamp value (literal 0.4) (literal 1.0), machine.targetFuelSupplyFactor) := rfl

/-- So is a fuel supply factor. -/
@[simp]
theorem commands_setFuelSupplyFactor : (machine.setFuelSupplyFactor value).commands =
    (machine.targetCoolingEfficiency, clamp value minFuelSupplyFactor (literal 1.0)) := rfl

end Frame

end FuelCellMachine

end Odis.Simulator
