import Odis.Inference.Telemetry
import Odis.Library.Separator
import Odis.Python.Binary64
import Odis.Simulator.Labels
import Odis.Simulator.RunPlan

/-!
# Simulated telemetry

The observations of a sample (`simulator/telemetry.py`, `dataset/telemetry.py`): five core
measurements are read off the state of a machine, with the bias of their sensors and with noise
(`dataset/sensor_noise.py`), and three are derived from others. They have the names and the units
that the inference expects. The numbers are of any type: noise can be so large that the power is
infinite, and then the inference refuses the sample.

* `exists_buildSampleObservations`: what is emitted for one asset at one instant.
* `exists_fromObservations`: the inference takes finite values for a complete sample.
* `exists_nonFiniteValue`: it raises `NonFiniteTelemetryValueError` on any others.
-/

namespace Odis.Simulator

open Exceptions Features Inference PyFloat

/-- What telemetry computes with besides: quotients by numbers that are not zero, and rounding. -/
class SensorArithmetic (N : Type) [PyFloat N] extends Div N where
  /-- `round(x, 4)`. -/
  roundFour : N → N

/-- The telemetry of a number format. -/
instance {format : NumberFormat} : SensorArithmetic (Number format) where
  roundFour x := Number.ofRat format (roundHalfEven (x.val * 10000) / 10000)

/-- The telemetry of `float`: infinities and `nan` are not rounded. -/
instance : SensorArithmetic Binary64 where
  roundFour
    | .finite x _ => .ofRat (roundHalfEven (x.val * 10000) / 10000)
    | x => x

open SensorArithmetic

variable {N : Type} [PyFloat N] [SensorArithmetic N]

/-! ## Channels -/

/-- The measurements of `_CORE_MEASUREMENT_SPECS` and of `derived_values`. -/
inductive Channel where
  | stackTemperature
  | stackPressure
  | current
  | voltage
  | fuelFlow
  | powerOutput
  | efficiency
  | coolantFlow
  deriving DecidableEq, Repr

namespace Channel

/-- The name of a measurement. -/
def name : Channel → String
  | stackTemperature => "stack_temperature"
  | stackPressure => "stack_pressure"
  | current => "current"
  | voltage => "voltage"
  | fuelFlow => "fuel_flow"
  | powerOutput => "power_output"
  | efficiency => "efficiency"
  | coolantFlow => "coolant_flow"

/-- The unit of a measurement. -/
def unit : Channel → String
  | stackTemperature => "celsius"
  | stackPressure => "kPa"
  | current => "A"
  | voltage => "V"
  | fuelFlow => "SLPM"
  | powerOutput => "kW"
  | efficiency => "percent"
  | coolantFlow => "L/min"

/-- Every channel has a unit. -/
theorem unit_ne_empty (channel : Channel) : channel.unit ≠ "" := by
  cases channel <;> decide

/-- No two channels have the same name. -/
theorem name_injective : Function.Injective name := by
  intro a b h
  cases a <;> cases b <;> first | rfl | exact absurd h (by decide)

/-- The measurement that the inference takes a channel for. -/
def measurement : Channel → Measurement
  | stackTemperature => .required .stackTemperature
  | stackPressure => .required .stackPressure
  | current => .required .current
  | voltage => .required .voltage
  | fuelFlow => .required .fuelFlow
  | powerOutput => .required .powerOutput
  | efficiency => .efficiency
  | coolantFlow => .required .coolantFlow

/-- Simulator and inference call a measurement by one name, and report it in one unit. -/
theorem measurement_spec (channel : Channel) :
    channel.measurement.name = channel.name ∧ channel.measurement.canonicalUnit = channel.unit := by
  cases channel <;> decide

/-- Nor do they measure the same. -/
theorem measurement_injective : Function.Injective measurement := by
  intro a b h
  cases a <;> cases b <;> first | rfl | cases h

/-- The channels of a sample, in the order in which they are emitted. -/
def all : List Channel :=
  [stackTemperature, stackPressure, current, voltage, fuelFlow, powerOutput, efficiency,
    coolantFlow]

/-- All channels are listed. -/
@[simp]
theorem mem_all (channel : Channel) : channel ∈ all := by
  cases channel <;> decide

/-- None is listed twice. -/
theorem nodup_all : all.Nodup := by decide

end Channel

/-- `_CORE_MEASUREMENT_SPECS`: the fields of the state that the core measurements are read off. -/
def coreMeasurementSpecs : List (Channel × (FuelCellMachine N → N)) :=
  [(.stackTemperature, FuelCellMachine.stackTemperature),
    (.stackPressure, FuelCellMachine.stackPressure), (.current, FuelCellMachine.current),
    (.voltage, FuelCellMachine.voltage), (.fuelFlow, FuelCellMachine.hydrogenFlow)]

/-! ## Observations -/

/-- `observation_id`. -/
def observationId (runId assetId : String) (tick : ℕ) (measurementType : String) : String :=
  "sim-" ++ runId ++ "-" ++ assetId ++ "-t" ++ toString tick ++ "-" ++ measurementType

/-- Every observation has an id. -/
theorem observationId_ne (runId assetId : String) (tick : ℕ) (channel : Channel) :
    observationId runId assetId tick channel.name ≠ "" :=
  append_ne_empty (by cases channel <;> decide)

/-- Padding to no width adds nothing. -/
theorem zeroPadded_zero (n : ℕ) : Datetime.zeroPadded 0 n = toString n := by
  simp [Datetime.zeroPadded]

/-- The parts of an id, joined one after the other. -/
theorem toList_observationId (runId assetId : String) (tick : ℕ) (measurementType : String) :
    (observationId runId assetId tick measurementType).toList =
      (("sim-".toList ++ runId.toList ++ '-' :: assetId.toList) ++
        '-' :: 't' :: (Datetime.zeroPadded 0 tick).toList) ++ '-' :: measurementType.toList := by
  rw [zeroPadded_zero]
  simp [observationId]

/-- An id tells the run, the asset, the tick and the channel. -/
theorem observationId_inj {runId runId' : String} {asset asset' : PlantAsset} {tick tick' : ℕ}
    {channel channel' : Channel}
    (h : observationId runId asset.id tick channel.name =
      observationId runId' asset'.id tick' channel'.name) :
    runId = runId' ∧ asset = asset' ∧ tick = tick' ∧ channel = channel' := by
  -- no hyphen is in the name of a channel or in a tick
  have hname : ∀ channel : Channel, '-' ∉ channel.name.toList := by
    intro channel
    cases channel <;> decide
  have htick : ∀ n : ℕ, '-' ∉ 't' :: (Datetime.zeroPadded 0 n).toList := by
    intro n hmem
    rcases List.mem_cons.mp hmem with h | hmem
    · exact absurd h (by decide)
    · exact absurd (Json.isDigit_of_mem_zeroPadded hmem) (by decide)
  have hlength : ∀ asset : PlantAsset, asset.id.toList.length = 18 := by
    intro asset
    cases asset <;> decide
  have hlist := congrArg String.toList h
  rw [toList_observationId, toList_observationId] at hlist
  -- from the right: the channel, the tick, then the asset, as all their ids are of one length
  obtain ⟨hlist, hchannel⟩ :=
    (Separator.join_eq_join_iff_of_notMem (hname channel) (hname channel')).mp hlist
  obtain ⟨hlist, hdigits⟩ :=
    (Separator.join_eq_join_iff_of_notMem (htick tick) (htick tick')).mp hlist
  obtain ⟨hrun, hasset⟩ := List.append_inj' hlist (by simp [hlength])
  refine ⟨String.toList_inj.mp (List.append_cancel_left hrun), ?_, ?_, ?_⟩
  · exact PlantAsset.id_injective (String.toList_inj.mp (List.cons.inj hasset).2)
  · exact zeroPadded_injective (String.toList_inj.mp (List.cons.inj hdigits).2)
  · exact Channel.name_injective (String.toList_inj.mp hchannel)

variable (asset : PlantAsset) (machine : FuelCellMachine N) (timestamp : Datetime)
  (context : TelemetryContext N)

/-- The observation of a channel. A machine of the fleet has the id of its asset. -/
def observe (tick : ℕ) (channel : Channel) (value : N) :
    Observation N where
  id := observationId context.runId asset.id tick channel.name
  assetId := asset.id
  timestamp
  measurementType := channel.name
  value
  unit := channel.unit
  id_ne := observationId_ne _ _ _ _
  assetId_ne := asset.id_ne_empty
  unit_ne := channel.unit_ne_empty

/-- `core_observations_from_machine`. -/
def coreObservationsFromMachine : List (Observation N) :=
  coreMeasurementSpecs.map fun (channel, state) =>
    let bias := (context.sensorBias.get? channel.name).getD (literal 0.0)
    observe asset timestamp context machine.tickCount channel (roundFour (state machine + bias))

/-- `derived_observations_from_values`. -/
def derivedObservationsFromValues (tick : ℕ)
    (voltage current hydrogenFlow coolantFlow : N) : List (Observation N) :=
  let powerKw := voltage * current / literal 1000.0
  let fuelEnergy := maximum (hydrogenFlow * literal 0.033) [literal 1e-6]
  let efficiencyPercent := minimum (literal 100.0) [powerKw / fuelEnergy * literal 100.0]
  [observe asset timestamp context tick .powerOutput (roundFour powerKw),
    observe asset timestamp context tick .efficiency (roundFour efficiencyPercent),
    observe asset timestamp context tick .coolantFlow coolantFlow]

/-- `_coolant_flow`, of the state of a machine. -/
def coolantFlowOf : N :=
  roundFour (literal 8.0 + machine.load / literal 100.0 * literal 18.0 +
    (literal 0.85 - machine.coolingEfficiency) * literal 12.0)

/-- `observations_from_machine`. -/
def observationsFromMachine : List (Observation N) :=
  coreObservationsFromMachine asset machine timestamp context ++
    derivedObservationsFromValues asset timestamp context machine.tickCount machine.voltage
      machine.current machine.hydrogenFlow (coolantFlowOf machine)

/-! ## Noise -/

/-- `random.Random`, as far as the noise of sensors draws from it. -/
structure NoiseSource (N : Type) where
  State : Type
  /-- `random.Random(seed)`. -/
  seeded : String → State
  /-- `rng.gauss(0.0, standard_deviation)`. -/
  gauss : N → State → N × State

/-- `KeyError`. -/
structure MissingChannel where
  name : String
  deriving DecidableEq, Repr

variable (source : NoiseSource N)

/-- A program that draws noise. -/
abbrev Noisy (α : Type) : Type := StateT source.State (Except MissingChannel) α

/-- `noise_by_measurement.get`: of two entries for one measurement the last one counts. -/
def noiseOf (noiseConfigs : List (SensorNoiseConfig N)) (name : String) :
    Option (SensorNoiseConfig N) :=
  noiseConfigs.reverse.find? fun config => config.val.measurementName = name

/-- A round of the loop of `apply_sensor_noise`. -/
def addNoise (noiseConfigs : List (SensorNoiseConfig N))
    (observation : Observation N) : Noisy source (Observation N) := do
  match noiseOf noiseConfigs observation.measurementType with
  | none => return observation
  | some config =>
      let drawn ← modifyGet (source.gauss config.val.standardDeviation)
      let noise :=
        match config.val.clipStdMultiple with
        | none => drawn
        | some multiple =>
            let bound := multiple * config.val.standardDeviation
            maximum (-bound) [minimum bound [drawn]]
      return { observation with
        value := roundFour (maximum (literal 0.0) [observation.value + noise]) }

/-- `apply_sensor_noise`. -/
def applySensorNoise (noiseConfigs : List (SensorNoiseConfig N))
    (observations : List (Observation N)) :
    Noisy source (List (Observation N)) :=
  if noiseConfigs = [] then pure observations
  else observations.mapM (addNoise source noiseConfigs)

/-- `values_by_measurement[name]`. -/
def valueByMeasurement (observations : List (Observation N)) (name : String) :
    Except MissingChannel N :=
  match observations.reverse.find? fun observation => observation.measurementType = name with
  | some observation => .ok observation.value
  | none => .error ⟨name⟩

/-- `build_sample_observations`: with noise, what is derived is derived from the noisy values. -/
def buildSampleObservations (noiseConfigs : List (SensorNoiseConfig N)) :
    Noisy source (List (Observation N)) := do
  if noiseConfigs = [] then return observationsFromMachine asset machine timestamp context
  let core := coreObservationsFromMachine asset machine timestamp context
  let noisyCore ← applySensorNoise source noiseConfigs core
  let voltage ← valueByMeasurement noisyCore "voltage"
  let current ← valueByMeasurement noisyCore "current"
  let hydrogenFlow ← valueByMeasurement noisyCore "fuel_flow"
  let derived := derivedObservationsFromValues asset timestamp context machine.tickCount voltage
    current hydrogenFlow (coolantFlowOf machine)
  return noisyCore ++ derived

/-! ## What is emitted -/

/-- There is one observation for each of the channels, in their order. -/
def Emitted (tick : ℕ) (channels : List Channel)
    (observations : List (Observation N)) : Prop :=
  channels.Forall₂ (fun channel observation =>
    ∃ value, observation = observe asset timestamp context tick channel value) observations

section Emission

variable {asset machine timestamp context source} {tick : ℕ} {channels : List Channel}
  {noiseConfigs : List (SensorNoiseConfig N)}
  {observations : List (Observation N)}

variable (asset machine timestamp context) in
/-- A machine emits five channels of its own. -/
theorem emitted_coreObservationsFromMachine :
    Emitted asset timestamp context machine.tickCount
      [.stackTemperature, .stackPressure, .current, .voltage, .fuelFlow]
      (coreObservationsFromMachine asset machine timestamp context) :=
  .cons ⟨_, rfl⟩ (.cons ⟨_, rfl⟩ (.cons ⟨_, rfl⟩ (.cons ⟨_, rfl⟩ (.cons ⟨_, rfl⟩ .nil))))

/-- Three more are derived from them. -/
theorem emitted_derivedObservationsFromValues
    (voltage current hydrogenFlow coolantFlow : N) :
    Emitted asset timestamp context tick [.powerOutput, .efficiency, .coolantFlow]
      (derivedObservationsFromValues asset timestamp context tick voltage current hydrogenFlow
        coolantFlow) :=
  .cons ⟨_, rfl⟩ (.cons ⟨_, rfl⟩ (.cons ⟨_, rfl⟩ .nil))

variable (source noiseConfigs) in
/-- Noise changes nothing but the values. -/
theorem exists_applySensorNoise (h : Emitted asset timestamp context tick channels observations)
    (s : source.State) : ∃ noisy s', applySensorNoise source noiseConfigs observations s =
      .ok (noisy, s') ∧ Emitted asset timestamp context tick channels noisy := by
  unfold applySensorNoise
  split_ifs
  · exact ⟨observations, s, rfl, h⟩
  -- one observation, with noise or without
  have hround : ∀ observation ∈ observations, ∀ s, ∃ observation' s',
      addNoise source noiseConfigs observation s = .ok (observation', s') ∧
        ∃ value, observation' = { observation with value := value } := by
    intro observation _ s
    unfold addNoise
    cases noiseOf noiseConfigs observation.measurementType with
    | none => exact ⟨observation, s, rfl, observation.value, rfl⟩
    | some config => exact ⟨_, _, rfl, _, rfl⟩
  obtain ⟨noisy, s', hrun, hnoisy⟩ := exists_run_mapM hround s
  refine ⟨noisy, s', hrun, ?_⟩
  clear hrun hround
  -- an observation with another value still is one of its channel
  induction h generalizing noisy with
  | nil =>
      cases hnoisy
      exact .nil
  | cons hfirst hrest ih =>
      obtain ⟨value, rfl⟩ := hfirst
      cases hnoisy with
      | cons hobservation hothers =>
          obtain ⟨value', rfl⟩ := hobservation
          exact .cons ⟨value', rfl⟩ (ih _ hothers)

omit [PyFloat N] [SensorArithmetic N] in
/-- The value of a channel is found among the observations. -/
theorem exists_valueByMeasurement
    (h : Emitted asset timestamp context tick channels observations) {channel : Channel}
    (hchannel : channel ∈ channels) :
    ∃ value, valueByMeasurement observations channel.name = .ok value := by
  obtain ⟨observation, hmem, hname⟩ :
      ∃ observation ∈ observations, observation.measurementType = channel.name := by
    induction h with
    | nil => cases hchannel
    | cons hfirst hrest ih =>
        obtain ⟨value, rfl⟩ := hfirst
        rcases List.mem_cons.mp hchannel with rfl | hchannel
        · exact ⟨_, List.mem_cons_self, rfl⟩
        · obtain ⟨observation, hmem, hname⟩ := ih hchannel
          exact ⟨observation, List.mem_cons_of_mem _ hmem, hname⟩
  unfold valueByMeasurement
  cases hfind : observations.reverse.find? fun observation =>
      observation.measurementType = channel.name with
  | some found => exact ⟨found.value, rfl⟩
  | none =>
      -- the loop over the reversed list would have found the observation
      have hnone := List.find?_eq_none.mp hfind observation (List.mem_reverse.mpr hmem)
      exact absurd hname (by simpa using hnone)

variable (asset machine timestamp context source noiseConfigs) in
/-- What is emitted for an asset at an instant: one observation for each channel. -/
theorem exists_buildSampleObservations (s : source.State) : ∃ observations s',
    buildSampleObservations asset machine timestamp context source noiseConfigs s =
      .ok (observations, s') ∧
    Emitted asset timestamp context machine.tickCount Channel.all observations := by
  have hcore := emitted_coreObservationsFromMachine asset machine timestamp context
  unfold buildSampleObservations
  split_ifs
  · exact ⟨_, s, rfl, List.rel_append hcore (emitted_derivedObservationsFromValues _ _ _ _)⟩
  -- noise changes the values and nothing else, so each channel is found in what it returns
  obtain ⟨noisy, s', hnoisy, hemitted⟩ := exists_applySensorNoise source noiseConfigs hcore s
  obtain ⟨voltage, hvoltage⟩ : ∃ value, valueByMeasurement noisy "voltage" = .ok value :=
    exists_valueByMeasurement hemitted (by decide : Channel.voltage ∈ _)
  obtain ⟨current, hcurrent⟩ : ∃ value, valueByMeasurement noisy "current" = .ok value :=
    exists_valueByMeasurement hemitted (by decide : Channel.current ∈ _)
  obtain ⟨flow, hflow⟩ : ∃ value, valueByMeasurement noisy "fuel_flow" = .ok value :=
    exists_valueByMeasurement hemitted (by decide : Channel.fuelFlow ∈ _)
  refine ⟨_, s', ?_, List.rel_append hemitted
    (emitted_derivedObservationsFromValues voltage current flow (coolantFlowOf machine))⟩
  dsimp only
  rw [run_bind_of_ok hnoisy, hvoltage, hcurrent, hflow]
  rfl

/-! ## Samples of the inference -/

omit [SensorArithmetic N] in
/-- The value of a new channel is collected if it is finite. -/
theorem collect_observe {values : CollectedValues N} {channel : Channel} {value : N}
    (hfresh : values channel.measurement = none) :
    collect values (observe asset timestamp context tick channel value) =
      if hfinite : isfinite value = true then
        .ok (Function.update values channel.measurement (some ⟨value, hfinite⟩))
      else .error (.nonFiniteValue channel.measurement value) := by
  obtain ⟨hname, hunit⟩ := channel.measurement_spec
  have hofName : Measurement.ofName? channel.name = some channel.measurement :=
    hname ▸ Measurement.ofName?_name _
  unfold collect observe
  dsimp only
  rw [hofName]
  dsimp only
  rw [hfresh, if_neg (by simp), if_neg (by simp [hunit])]
  by_cases hfinite : isfinite value = true
  · rw [dif_pos hfinite, dif_pos hfinite]
    congr 1
    ext m : 1
    rw [Function.update_apply]
  · rw [dif_neg hfinite, dif_neg hfinite]

omit [SensorArithmetic N] in
/-- A channel that comes later is still new. -/
theorem update_measurement_eq_none {values : CollectedValues N} {channel : Channel}
    (hnew : channel ∉ channels) (hfresh : ∀ other ∈ channels, values other.measurement = none)
    (value : Option (FiniteValue N)) : ∀ other ∈ channels,
      Function.update values channel.measurement value other.measurement = none := by
  intro other hother
  rw [Function.update_of_ne]
  · exact hfresh other hother
  · intro heq
    exact hnew (Channel.measurement_injective heq ▸ hother)

omit [SensorArithmetic N] in
/-- Finite observations of distinct channels are collected, and nothing else is. -/
theorem exists_foldlM_collect (h : Emitted asset timestamp context tick channels observations)
    (hnodup : channels.Nodup) (hfinite : ∀ o ∈ observations, isfinite o.value = true)
    (values : CollectedValues N)
    (hfresh : ∀ channel ∈ channels, values channel.measurement = none) :
    ∃ values', observations.foldlM collect values = .ok values' ∧
      (∀ m, (∀ channel ∈ channels, channel.measurement ≠ m) → values' m = values m) ∧
      ∀ channel ∈ channels, ∃ value : FiniteValue N,
        observe asset timestamp context tick channel value.val ∈ observations ∧
          values' channel.measurement = some value := by
  induction h generalizing values with
  | nil => exact ⟨values, rfl, fun _ _ => rfl, fun _ hmem => absurd hmem List.not_mem_nil⟩
  | @cons channel observation channels observations hfirst hrest ih =>
      obtain ⟨value, rfl⟩ := hfirst
      obtain ⟨hnew, hnodup⟩ := List.nodup_cons.mp hnodup
      obtain ⟨hvalue, hfinite⟩ := List.forall_mem_cons.mp hfinite
      obtain ⟨hfirst, hfresh⟩ := List.forall_mem_cons.mp hfresh
      -- the other channels are still free after the first one
      have hlater := update_measurement_eq_none hnew hfresh (some ⟨value, hvalue⟩)
      obtain ⟨values', hrun, hframe, hvalues⟩ := ih hnodup hfinite _ hlater
      refine ⟨values', ?_, ?_, ?_⟩
      · rw [List.foldlM_cons, collect_observe hfirst,
          dif_pos (show isfinite value = true from hvalue)]
        exact hrun
      · intro m hm
        obtain ⟨hne, hm⟩ := List.forall_mem_cons.mp hm
        rw [hframe m hm, Function.update_of_ne hne.symm]
      · refine List.forall_mem_cons.mpr ⟨⟨⟨value, hvalue⟩, List.mem_cons_self, ?_⟩, ?_⟩
        · rw [hframe, Function.update_self]
          intro other hother heq
          exact hnew (Channel.measurement_injective heq ▸ hother)
        · intro other hother
          obtain ⟨value', hmem, hvalue'⟩ := hvalues other hother
          exact ⟨value', List.mem_cons_of_mem _ hmem, hvalue'⟩

omit [SensorArithmetic N] in
/-- Of distinct channels, the first whose value is not finite is refused. -/
theorem exists_foldlM_collect_eq_error
    (h : Emitted asset timestamp context tick channels observations) (hnodup : channels.Nodup)
    (hnot : ¬ ∀ o ∈ observations, isfinite o.value = true) (values : CollectedValues N)
    (hfresh : ∀ channel ∈ channels, values channel.measurement = none) :
    ∃ channel value, observe asset timestamp context tick channel value ∈ observations ∧
      isfinite value = false ∧
      observations.foldlM collect values = .error (.nonFiniteValue channel.measurement value) := by
  induction h generalizing values with
  | nil => exact absurd (fun o ho => absurd ho List.not_mem_nil) hnot
  | @cons channel observation channels observations hfirst hrest ih =>
      obtain ⟨value, rfl⟩ := hfirst
      obtain ⟨hnew, hnodup⟩ := List.nodup_cons.mp hnodup
      obtain ⟨hfirst, hfresh⟩ := List.forall_mem_cons.mp hfresh
      -- a finite value is collected and the loop goes on; any other one ends it
      by_cases hvalue : isfinite value = true
      · have hnot : ¬ ∀ o ∈ observations, isfinite o.value = true :=
          fun hall => hnot (List.forall_mem_cons.mpr ⟨hvalue, hall⟩)
        obtain ⟨channel', value', hmem, hinfinite, hrun⟩ := ih hnodup hnot _
          (update_measurement_eq_none hnew hfresh (some ⟨value, hvalue⟩))
        refine ⟨channel', value', List.mem_cons_of_mem _ hmem, hinfinite, ?_⟩
        rw [List.foldlM_cons, collect_observe hfirst, dif_pos hvalue]
        exact hrun
      · refine ⟨channel, value, List.mem_cons_self, Bool.eq_false_of_not_eq_true hvalue, ?_⟩
        rw [List.foldlM_cons, collect_observe hfirst, dif_neg hvalue]
        rfl

omit [PyFloat N] [SensorArithmetic N] in
/-- Every observation is one of a channel. -/
theorem exists_of_emitted (h : Emitted asset timestamp context tick channels observations)
    {observation : Observation N} (hmem : observation ∈ observations) :
    ∃ channel ∈ channels, ∃ value,
      observation = observe asset timestamp context tick channel value := by
  induction h with
  | nil => cases hmem
  | cons hfirst hrest ih =>
      rcases List.mem_cons.mp hmem with rfl | hmem
      · exact ⟨_, List.mem_cons_self, hfirst⟩
      · obtain ⟨channel, hchannel, hvalue⟩ := ih hmem
        exact ⟨channel, List.mem_cons_of_mem _ hchannel, hvalue⟩

/-- The channel of a required measurement. -/
theorem exists_channel (m : FeatureMeasurement) : ∃ channel : Channel,
    channel.measurement = .required m := by
  cases m
  · exact ⟨.stackTemperature, rfl⟩
  · exact ⟨.stackPressure, rfl⟩
  · exact ⟨.current, rfl⟩
  · exact ⟨.voltage, rfl⟩
  · exact ⟨.fuelFlow, rfl⟩
  · exact ⟨.powerOutput, rfl⟩
  · exact ⟨.coolantFlow, rfl⟩

omit [SensorArithmetic N] in
/-- What is emitted is of one asset and of one instant, so the sample depends on what is
collected. -/
theorem fromObservations_of_emitted
    (h : Emitted asset timestamp context tick Channel.all observations) :
    TelemetrySample.fromObservations observations =
      (observations.foldlM collect fun _ => none).bind fun values =>
        if hmissing : missingMeasurements values = [] then
          .ok {
            assetId := asset.id
            timestamp
            values := fun m =>
              (values (.required m)).get (isSome_of_missingMeasurements_eq_nil hmissing m)
            efficiency := values .efficiency
            assetId_ne := asset.id_ne_empty }
        else .error (.missingMeasurement (missingMeasurements values)) := by
  -- all observations have the asset and the time of the first
  have hall : ∀ o ∈ observations, o.assetId = asset.id ∧ o.timestamp = timestamp := by
    intro o hmem
    obtain ⟨channel, -, value, rfl⟩ := exists_of_emitted h hmem
    exact ⟨rfl, rfl⟩
  have hassets : ¬ (observations.any fun o => o.assetId ≠ asset.id) = true := by
    simp only [List.any_eq_true, decide_eq_true_eq, not_exists, not_and, not_not]
    exact fun o hmem => (hall o hmem).1
  have hinstants :
      ¬ (observations.any fun o => o.timestamp.instant ≠ timestamp.instant) = true := by
    simp only [List.any_eq_true, decide_eq_true_eq, not_exists, not_and, not_not]
    intro o hmem
    rw [(hall o hmem).2]
  cases h with
  | cons hfirst hrest =>
      obtain ⟨value, rfl⟩ := hfirst
      exact (if_neg hassets).trans (if_neg hinstants)

variable (asset timestamp context tick observations) in
/-- A sample of an asset at an instant has the values that are emitted. -/
structure Sampled (sample : TelemetrySample N) : Prop where
  ofAsset : sample.assetId = asset.id
  atInstant : sample.timestamp = timestamp
  required : ∀ channel m, channel.measurement = .required m →
    observe asset timestamp context tick channel (sample.values m).val ∈ observations
  efficiency : ∃ value, sample.efficiency = some value ∧
    observe asset timestamp context tick .efficiency value.val ∈ observations

omit [SensorArithmetic N] in
/-- The inference takes finite values for a complete sample, with the values that are emitted. -/
theorem exists_fromObservations
    (h : Emitted asset timestamp context tick Channel.all observations)
    (hfinite : ∀ o ∈ observations, isfinite o.value = true) :
    ∃ sample, TelemetrySample.fromObservations observations = .ok sample ∧
      Sampled asset timestamp context tick observations sample := by
  obtain ⟨values, hvalues, -, hfound⟩ :=
    exists_foldlM_collect h Channel.nodup_all hfinite (fun _ => none) fun _ _ => rfl
  -- every measurement is that of a channel
  have hmissing : missingMeasurements values = [] := by
    refine List.filter_eq_nil_iff.mpr fun m _ => ?_
    obtain ⟨channel, hchannel⟩ := exists_channel m
    obtain ⟨value, -, hvalue⟩ := hfound channel channel.mem_all
    rw [← hchannel, hvalue]
    simp
  rw [fromObservations_of_emitted h, hvalues, Except.bind, dif_pos hmissing]
  refine ⟨_, rfl, rfl, rfl, ?_, ?_⟩
  · intro channel m hchannel
    obtain ⟨value, hmem, hvalue⟩ := hfound channel channel.mem_all
    rw [hchannel] at hvalue
    simp only [Option.get_of_eq_some _ hvalue]
    exact hmem
  · obtain ⟨value, hmem, hvalue⟩ := hfound .efficiency (by decide)
    exact ⟨value, hvalue, hmem⟩

omit [SensorArithmetic N] in
/-- The inference refuses what is emitted if some value is not finite. -/
theorem exists_nonFiniteValue
    (h : Emitted asset timestamp context tick Channel.all observations)
    (hnot : ¬ ∀ o ∈ observations, isfinite o.value = true) :
    ∃ channel value, observe asset timestamp context tick channel value ∈ observations ∧
      isfinite value = false ∧ TelemetrySample.fromObservations observations =
        .error (.nonFiniteValue channel.measurement value) := by
  obtain ⟨channel, value, hmem, hinfinite, hrun⟩ :=
    exists_foldlM_collect_eq_error h Channel.nodup_all hnot (fun _ => none) fun _ _ => rfl
  refine ⟨channel, value, hmem, hinfinite, ?_⟩
  rw [fromObservations_of_emitted h, hrun]
  rfl

variable (asset machine timestamp context source noiseConfigs) in
/-- What is emitted for an asset at an instant, whatever its state and its noise, is a complete
sample for the inference if all values are finite, and is refused otherwise. -/
theorem buildSampleObservations_sampled (s : source.State) : ∃ observations s',
    buildSampleObservations asset machine timestamp context source noiseConfigs s =
      .ok (observations, s') ∧
    Emitted asset timestamp context machine.tickCount Channel.all observations ∧
    ((∀ o ∈ observations, isfinite o.value = true) →
      ∃ sample, TelemetrySample.fromObservations observations = .ok sample ∧
        Sampled asset timestamp context machine.tickCount observations sample) ∧
    (¬ (∀ o ∈ observations, isfinite o.value = true) →
      ∃ channel value,
        observe asset timestamp context machine.tickCount channel value ∈ observations ∧
        isfinite value = false ∧ TelemetrySample.fromObservations observations =
          .error (.nonFiniteValue channel.measurement value)) := by
  obtain ⟨observations, s', hrun, hemitted⟩ :=
    exists_buildSampleObservations asset machine timestamp context source noiseConfigs s
  exact ⟨observations, s', hrun, hemitted, exists_fromObservations hemitted,
    exists_nonFiniteValue hemitted⟩

end Emission

-- a voltage and a current that are noisy beyond reason have an infinite power, yet an efficiency
example (context : TelemetryContext Binary64) :
    let noisy : Binary64 := .ofRat (10 ^ 200)
    (derivedObservationsFromValues .stack01 (.utc 0) context 1 noisy noisy (.ofRat 30)
      (.ofRat 10)).map (fun o => isfinite o.value) = [false, true, true] := by
  simp only [derivedObservationsFromValues, observe, List.map_cons, List.map_nil]
  decide +kernel

end Odis.Simulator
