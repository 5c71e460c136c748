import Mathlib.Data.List.Nodup
import Odis.InferenceWorker.Completion

/-!
# Building a sample

A sample whose required measurements are all there is built unless one of its readings came with an
empty event id: the ids of its observations are those of the events, and the validator lets an empty
one through.

* `exists_assemble_iff`: the complete samples that can be built.
* `isSampleOf_assemble`: what they are built of.
-/

namespace Odis.InferenceWorker

open Features Inference

variable {F : Type} [PyFloat F]

/-- The sample has the asset and the instant of the event, and the values that are buffered. -/
structure IsSampleOf (event : TelemetryObservationEvent F) (pending : PendingSample F)
    (sample : TelemetrySample F) : Prop where
  assetId : sample.assetId = event.assetId
  timestamp : sample.timestamp = event.timestamp
  values : ∀ m, (pending.readings (.required m)).map BufferedReading.value =
    some (sample.values m)

/-- What is buffered, in `_MEASUREMENT_ORDER`. -/
def PendingSample.entries (pending : PendingSample F) : List (Measurement × BufferedReading F) :=
  Measurement.order.filterMap fun m => (pending.readings m).map (m, ·)

/-- The observation is made of what is buffered of its measurement. -/
structure ObservationOf (event : TelemetryObservationEvent F)
    (entry : Measurement × BufferedReading F) (observation : Observation F) : Prop where
  assetId : observation.assetId = event.assetId
  timestamp : observation.timestamp = event.timestamp
  measurementType : observation.measurementType = entry.1.name
  value : observation.value = entry.2.value.val
  unit : observation.unit = entry.1.canonicalUnit

section Entries

variable {event : TelemetryObservationEvent F} {pending : PendingSample F}

/-- The order goes through all measurements. -/
theorem Measurement.mem_order (m : Measurement) : m ∈ Measurement.order := by
  cases m with
  | required m => cases m <;> decide
  | efficiency => decide

/-- The entries of a pending sample are its readings. -/
theorem mem_entries_iff {m : Measurement} {reading : BufferedReading F} :
    (m, reading) ∈ pending.entries ↔ pending.readings m = some reading := by
  rw [PendingSample.entries, List.mem_filterMap]
  constructor
  · rintro ⟨m', -, hentry⟩
    obtain ⟨reading', hreading, heq⟩ := Option.map_eq_some_iff.mp hentry
    cases heq
    exact hreading
  · intro h
    exact ⟨m, Measurement.mem_order m, by rw [h]; rfl⟩

/-- A measurement is buffered once. -/
theorem nodup_entries : (pending.entries.map Prod.fst).Nodup := by
  have hkeys : ∀ ms : List Measurement,
      (ms.filterMap fun m => (pending.readings m).map (m, ·)).map Prod.fst =
        ms.filter fun m => (pending.readings m).isSome := by
    intro ms
    induction ms with
    | nil => rfl
    | cons m ms ih =>
        rw [List.filterMap_cons, List.filter_cons]
        cases pending.readings m with
        | none => simpa using ih
        | some reading => simpa using ih
  rw [PendingSample.entries, hkeys]
  exact List.Nodup.filter _ (by decide)

variable (event) in
/-- The observation of a reading is created exactly if the reading has an event id. -/
theorem exists_create_iff (m : Measurement) (reading : BufferedReading F) :
    (∃ observation, Observation.create reading.eventId event.assetId event.timestamp m.name
      (reading.value : F) m.canonicalUnit = .ok observation) ↔ reading.eventId ≠ "" := by
  rw [Observation.create]
  have hunit := m.canonicalUnit_ne_empty
  have hasset := event.assetId_ne
  split_ifs with hid
  · refine iff_of_false ?_ fun h => h hid
    rintro ⟨_, ⟨⟩⟩
  · exact iff_of_true ⟨_, rfl⟩ hid

variable (event) in
/-- The observations of a sample can be built exactly if no event id is empty. -/
theorem exists_observationsOf_iff :
    (∃ observations, observationsOf event pending = .ok observations) ↔
      ∀ m reading, pending.readings m = some reading → reading.eventId ≠ "" := by
  rw [observationsOf, Exceptions.exists_mapM_eq_ok_iff]
  constructor
  · intro h m reading hreading
    exact (exists_create_iff event m reading).mp (h (m, reading) (mem_entries_iff.mpr hreading))
  · rintro h ⟨m, reading⟩ hentry
    exact (exists_create_iff event m reading).mpr (h m reading (mem_entries_iff.mp hentry))

/-- Each observation that is made of a pending sample is that of an entry. -/
theorem observationOf_of_observationsOf {observations : List (Observation F)}
    (h : observationsOf event pending = .ok observations) :
    List.Forall₂ (ObservationOf event) pending.entries observations := by
  refine List.Forall₂.imp ?_ (Exceptions.mapM_eq_ok_iff.mp h)
  rintro ⟨m, reading⟩ observation hcreate
  simp only [Observation.create] at hcreate
  split_ifs at hcreate
  cases hcreate
  exact ⟨rfl, rfl, rfl, rfl, rfl⟩

/-- The values are collected one by one: those of the entries, besides what was there. -/
theorem exists_foldlM_collect {entries : List (Measurement × BufferedReading F)}
    {observations : List (Observation F)}
    (h : List.Forall₂ (ObservationOf event) entries observations)
    (hnodup : (entries.map Prod.fst).Nodup) (values : CollectedValues F)
    (hfree : ∀ entry ∈ entries, values entry.1 = none) :
    ∃ collected, observations.foldlM collect values = .ok collected ∧
      (∀ entry ∈ entries, collected entry.1 = some entry.2.value) ∧
      ∀ m, m ∉ entries.map Prod.fst → collected m = values m := by
  induction h generalizing values with
  | nil => exact ⟨values, rfl, fun _ h => absurd h List.not_mem_nil, fun _ _ => rfl⟩
  | @cons entry observation entries observations hentry _ ih =>
      rw [List.map_cons, List.nodup_cons] at hnodup
      obtain ⟨hfirst, hrest⟩ := List.forall_mem_cons.mp hfree
      -- the measurement is new, its unit is the canonical one and its value is finite
      have hcollect : collect values observation =
          .ok fun m => if m = entry.1 then some entry.2.value else values m := by
        rw [collect, hentry.measurementType, Measurement.ofName?_name]
        have hfinite : PyFloat.isfinite observation.value = true := by
          rw [hentry.value]
          exact entry.2.value.property
        simp only [hfirst, Option.isSome_none, Bool.false_eq_true, if_false, hentry.unit, ne_eq,
          not_true_eq_false, dif_pos hfinite]
        congr 1
        funext m
        split_ifs
        · exact congrArg some (Subtype.ext hentry.value)
        · rfl
      obtain ⟨collected, hcollected, hvalues, hothers⟩ := ih hnodup.2
        (fun m => if m = entry.1 then some entry.2.value else values m)
        fun entry' hentry' => by
          have hne : entry'.1 ≠ entry.1 := fun heq =>
            hnodup.1 (heq ▸ List.mem_map_of_mem hentry')
          simp only [if_neg hne, hrest entry' hentry']
      refine ⟨collected, ?_, ?_, ?_⟩
      · rw [List.foldlM_cons, hcollect]
        exact hcollected
      · refine List.forall_mem_cons.mpr ⟨?_, hvalues⟩
        -- no later entry is for the same measurement
        rw [hothers _ hnodup.1, if_pos rfl]
      · intro m hm
        rw [List.map_cons, List.mem_cons, not_or] at hm
        rw [hothers m hm.2, if_neg hm.1]

/-- The observations are of the asset and the instant of the event. -/
theorem forall_of_observationOf {entries : List (Measurement × BufferedReading F)}
    {observations : List (Observation F)}
    (h : List.Forall₂ (ObservationOf event) entries observations) :
    ∀ o ∈ observations, o.assetId = event.assetId ∧ o.timestamp = event.timestamp := by
  induction h with
  | nil => exact fun _ h => absurd h List.not_mem_nil
  | cons hentry _ ih => exact List.forall_mem_cons.mpr ⟨⟨hentry.assetId, hentry.timestamp⟩, ih⟩

/-- A required measurement that is not missing is buffered. -/
theorem exists_reading_of_missing (h : pending.missing = []) (m : FeatureMeasurement) :
    ∃ reading, pending.readings (.required m) = some reading := by
  have hsome := List.filter_eq_nil_iff.mp h m (mem_defaultMeasurements m)
  rw [Option.isNone_iff_eq_none] at hsome
  exact Option.ne_none_iff_exists'.mp hsome

/-- The observations of a complete sample make it. -/
theorem exists_fromObservations {observations : List (Observation F)}
    (h : List.Forall₂ (ObservationOf event) pending.entries observations)
    (hmissing : pending.missing = []) :
    ∃ sample, TelemetrySample.fromObservations observations = .ok sample ∧
      IsSampleOf event pending sample ∧
        sample.efficiency = (pending.readings .efficiency).map BufferedReading.value := by
  obtain ⟨collected, hcollected, hvalues, hothers⟩ :=
    exists_foldlM_collect h nodup_entries (fun _ => none) fun _ _ => rfl
  -- the collected values are those of the readings, so none is missing
  have hreadings : ∀ m, (pending.readings (.required m)).map BufferedReading.value =
      collected (.required m) := by
    intro m
    obtain ⟨reading, hreading⟩ := exists_reading_of_missing hmissing m
    rw [hreading, hvalues _ (mem_entries_iff.mpr hreading)]
    rfl
  have hefficiency : collected .efficiency =
      (pending.readings .efficiency).map BufferedReading.value := by
    cases hreading : pending.readings .efficiency with
    | some reading => exact hvalues _ (mem_entries_iff.mpr hreading)
    | none =>
        refine hothers _ fun hmem => ?_
        obtain ⟨⟨m, reading⟩, hentry, rfl⟩ := List.mem_map.mp hmem
        rw [mem_entries_iff, hreading] at hentry
        cases hentry
  have hnil : missingMeasurements collected = [] := by
    refine List.filter_eq_nil_iff.mpr fun m _ => ?_
    obtain ⟨reading, hreading⟩ := exists_reading_of_missing hmissing m
    rw [← hreadings, hreading]
    exact Bool.false_ne_true
  have hall := forall_of_observationOf h
  cases observations with
  | nil =>
      obtain ⟨reading, hreading⟩ := exists_reading_of_missing hmissing .voltage
      have hmem := mem_entries_iff.mpr hreading
      rw [List.forall₂_nil_right_iff.mp h] at hmem
      exact absurd hmem List.not_mem_nil
  | cons first rest =>
      obtain ⟨hasset, htimestamp⟩ := hall first List.mem_cons_self
      -- all observations are for the asset and the instant of the event
      have hassets : ¬ (first :: rest).any fun o => o.assetId ≠ first.assetId := by
        rw [List.any_eq_true]
        rintro ⟨o, ho, hne⟩
        exact of_decide_eq_true hne ((hall o ho).1.trans hasset.symm)
      have hinstants : ¬ (first :: rest).any fun o =>
          o.timestamp.instant ≠ first.timestamp.instant := by
        rw [List.any_eq_true]
        rintro ⟨o, ho, hne⟩
        exact of_decide_eq_true hne (by rw [(hall o ho).2, htimestamp])
      rw [TelemetrySample.fromObservations, if_neg hassets, if_neg hinstants, hcollected]
      refine ⟨_, dif_pos hnil, ⟨hasset, htimestamp, fun m => ?_⟩, hefficiency⟩
      rw [hreadings, Option.some_get]

end Entries

section Samples

variable {event : TelemetryObservationEvent F} {pending : PendingSample F}

variable (event) in
/-- A complete sample is built exactly if no event id is empty. -/
theorem exists_assemble_iff (hmissing : pending.missing = []) :
    (∃ sample, assemble event pending = .ok sample) ↔
      ∀ m reading, pending.readings m = some reading → reading.eventId ≠ "" := by
  rw [← exists_observationsOf_iff event]
  constructor
  · rintro ⟨sample, h⟩
    obtain ⟨observations, hobservations, -⟩ := Exceptions.bind_eq_ok.mp h
    exact ⟨observations, Exceptions.mapError_eq_ok.mp hobservations⟩
  · rintro ⟨observations, h⟩
    obtain ⟨sample, hsample, -⟩ :=
      exists_fromObservations (observationOf_of_observationsOf h) hmissing
    exact ⟨sample, Exceptions.bind_eq_ok.mpr ⟨observations, Exceptions.mapError_eq_ok.mpr h,
      Exceptions.mapError_eq_ok.mpr hsample⟩⟩

/-- A sample that is built of a complete one has its values, and its efficiency. -/
theorem of_assemble_complete {sample : TelemetrySample F} (hmissing : pending.missing = [])
    (h : assemble event pending = .ok sample) :
    IsSampleOf event pending sample ∧
      sample.efficiency = (pending.readings .efficiency).map BufferedReading.value := by
  obtain ⟨observations, hobservations, h⟩ := Exceptions.bind_eq_ok.mp h
  obtain ⟨sample', hsample', hof⟩ := exists_fromObservations
    (observationOf_of_observationsOf (Exceptions.mapError_eq_ok.mp hobservations)) hmissing
  rw [Exceptions.mapError_eq_ok, hsample'] at h
  cases h
  exact hof

/-- What is built of a complete sample. -/
theorem isSampleOf_assemble {sample : TelemetrySample F} (hmissing : pending.missing = [])
    (h : assemble event pending = .ok sample) : IsSampleOf event pending sample :=
  (of_assemble_complete hmissing h).1

end Samples

end Odis.InferenceWorker
