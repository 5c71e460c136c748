import Odis.Library.OrderedDict
import Odis.Simulator.Machine

/-!
# Plant Alpha

The fleet of four stacks with a telemetry context for each (`simulator/plant.py`), and the scenario
of normal operation that moves its loads (`simulator/scenarios/normal_operation.py`). Neither
touches what a fault drives.
-/

namespace Odis.Simulator

open Arithmetic

variable {N : Type}

/-- `_DEFAULT_ASSET_IDS`. -/
inductive PlantAsset where
  | stack01
  | stack02
  | stack03
  | stack04
  deriving DecidableEq, Repr

namespace PlantAsset

/-- The id of an asset. -/
def id : PlantAsset → String
  | stack01 => "fuel-cell-stack-01"
  | stack02 => "fuel-cell-stack-02"
  | stack03 => "fuel-cell-stack-03"
  | stack04 => "fuel-cell-stack-04"

/-- The assets, in the order of the fleet. -/
def all : List PlantAsset := [stack01, stack02, stack03, stack04]

/-- The position of an asset in the fleet. -/
def index : PlantAsset → ℕ
  | stack01 => 0
  | stack02 => 1
  | stack03 => 2
  | stack04 => 3

/-- The asset of an id. -/
def ofId? (s : String) : Option PlantAsset := all.find? fun asset => asset.id = s

/-- Every asset has an id. -/
theorem id_ne_empty (asset : PlantAsset) : asset.id ≠ "" := by
  cases asset <;> decide

/-- All assets are listed. -/
@[simp]
theorem mem_all (asset : PlantAsset) : asset ∈ all := by
  cases asset <;> decide

/-- No two assets have the same id. -/
theorem id_injective : Function.Injective id := by
  intro a b h
  cases a <;> cases b <;> first | rfl | exact absurd h (by decide)

/-- An asset that is found by an id has it. -/
theorem id_of_ofId? {s : String} {asset : PlantAsset} (h : ofId? s = some asset) :
    asset.id = s := by
  simpa using List.find?_some h

end PlantAsset

/-- `TelemetryContext`. -/
structure TelemetryContext (N : Type) where
  runId : String
  sensorBias : OrderedDict (id : String → String) N

/-- `PlantAlphaFleet`. -/
structure PlantAlphaFleet (N : Type) where
  machines : PlantAsset → FuelCellMachine N
  telemetryContexts : PlantAsset → TelemetryContext N
  elapsedSimSeconds : N

/-- `NormalOperationProfile`. -/
structure NormalOperationProfile (N : Type) where
  loadBaselinePercent : N
  loadAmplitudePercent : N
  loadPeriodSeconds : N
  loadPhaseRadians : N

variable [Arithmetic N]

/-- `_FLEET_BASELINES`: the target load and the cooling efficiency. -/
def fleetBaseline : PlantAsset → N × N
  | .stack01 => (literal 60.0, literal 0.85)
  | .stack02 => (literal 63.0, literal 0.87)
  | .stack03 => (literal 58.0, literal 0.84)
  | .stack04 => (literal 65.0, literal 0.85)

namespace PlantAlphaFleet

/-- `create`, with the initial loads and stack temperatures that are given. -/
def create (runId : String) (initialLoad initialStackTemperature : PlantAsset → Option N) :
    PlantAlphaFleet N where
  machines asset :=
    let machine := FuelCellMachine.create asset.id ((initialLoad asset).getD (literal 50.0))
      ((initialStackTemperature asset).getD (literal 65.0))
    (machine.setTargetLoad (fleetBaseline asset).1).setCoolingEfficiency (fleetBaseline asset).2
  telemetryContexts _ := ⟨runId, .empty⟩
  elapsedSimSeconds := literal 0.0

/-- `tick`. -/
def tick (fleet : PlantAlphaFleet N) (dt : TimeStep N) : PlantAlphaFleet N :=
  { fleet with
    elapsedSimSeconds := fleet.elapsedSimSeconds + dt.seconds
    machines := fun asset => (fleet.machines asset).tick dt }

/-- `NormalOperationScenario.tick`. -/
def normalOperationTick (profile : NormalOperationProfile N) (fleet : PlantAlphaFleet N)
    (dt : TimeStep N) : PlantAlphaFleet N :=
  let fleet := fleet.tick dt
  let cycleFraction := fleet.elapsedSimSeconds / profile.loadPeriodSeconds
  let phase := literal 2.0 * pi * cycleFraction + profile.loadPhaseRadians
  { fleet with
    machines := fun asset =>
      let baseline := profile.loadBaselinePercent + literal asset.index * literal 2.0
      let amplitude :=
        profile.loadAmplitudePercent * sin (phase + literal asset.index * literal 0.4)
      (fleet.machines asset).setTargetLoad (baseline + amplitude) }

/-- What a fault drives in an asset: the commanded cooling efficiency and fuel supply factor, and
the biases of its sensors. -/
def faultParameters (fleet : PlantAlphaFleet N) (asset : PlantAsset) :
    (N × N) × OrderedDict (id : String → String) N :=
  ((fleet.machines asset).commands, (fleet.telemetryContexts asset).sensorBias)

section Frame

variable (profile : NormalOperationProfile N) (fleet : PlantAlphaFleet N) (dt : TimeStep N)

/-- A tick adds its seconds to the time. -/
@[simp]
theorem elapsedSimSeconds_normalOperationTick :
    (fleet.normalOperationTick profile dt).elapsedSimSeconds =
      fleet.elapsedSimSeconds + dt.seconds := rfl

/-- Normal operation leaves alone what a fault drives. -/
@[simp]
theorem faultParameters_normalOperationTick (asset : PlantAsset) :
    (fleet.normalOperationTick profile dt).faultParameters asset = fleet.faultParameters asset :=
  rfl

end Frame

end PlantAlphaFleet

end Odis.Simulator
