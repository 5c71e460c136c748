import Odis.Library.Separator
import Odis.MqttBridge.Ingestion

/-!
# Generated observation ids

The mapper generates `mqtt-{asset_id}-{measurement_type}-{timestamp_ms}` for a message that comes
without an id, and assumes at most one sample per asset, measurement type and millisecond
(`mqtt_bridge/observation_mapper.py`). The names are not quoted, and the milliseconds are those of a
`float`.

* `generatedId_eq_iff`: the samples of one generated id.
* `ids_differ_iff`: the messages that get different ids for different samples.
* `not_ids_differ_hyphenatedNames`: two assets of a site whose samples get one id.
-/

namespace Odis.MqttBridge

open Inference

variable {F : Type}

/-- A message as it is delivered, with the time of its handling. -/
structure Message where
  topic : String
  payload : List UInt8
  now : Datetime

/-- A message without an id of its own is mapped to an observation. -/
structure MapsWithoutId [PyFloat F] [JsonText F] (env : MapperEnv F) (message : Message)
    (observation : Observation F) : Prop where
  mapped : mapMessage env message.topic message.payload message.now = .ok observation
  noId : ∀ body, parsePayload env message.payload = .ok body → ownId? body = none

/-- The asset, the measurement type and the whole milliseconds of a sample. -/
def sampleKey (observation : Observation F) : String × String × ℤ :=
  (observation.assetId, observation.measurementType, observation.timestamp.instant / 1000)

/-- The measurement type, with the sign of the milliseconds behind it. -/
def signedName (measurementType : String) (timestamp : Datetime) : List Char :=
  measurementType.toList ++ if timestamp.timestampMs < 0 then ['-'] else []

/-- The names are joined alike and the `float` milliseconds are equal, but for their sign. -/
def Collide (observation observation' : Observation F) : Prop :=
  Separator.JoinsAlike '-' observation.assetId.toList
      (signedName observation.measurementType observation.timestamp) observation'.assetId.toList
      (signedName observation'.measurementType observation'.timestamp) ∧
    observation.timestamp.timestampMs.natAbs = observation'.timestamp.timestampMs.natAbs

/-! ## The text of an id -/

/-- A name that is put together is read piece by piece. -/
theorem signedName_append (piece measurementType : String) (t : Datetime) :
    signedName (piece ++ measurementType) t = piece.toList ++ signedName measurementType t := by
  rw [signedName, String.toList_append, List.append_assoc, signedName]

/-- Digits have no hyphen among them. -/
theorem hyphen_notMem_repr (n : ℕ) : '-' ∉ (Nat.repr n).toList := by
  intro hmem
  rw [Nat.toList_repr] at hmem
  have hdigit := Nat.isDigit_of_mem_toDigits (by decide) (by decide) hmem
  exact absurd hdigit (by decide)

/-- Numbers are told apart by their digits. -/
theorem repr_toList_inj {n n' : ℕ} : (Nat.repr n).toList = (Nat.repr n').toList ↔ n = n' := by
  refine ⟨fun h => ?_, fun h => by rw [h]⟩
  rw [Nat.toList_repr, Nat.toList_repr] at h
  have hread := congrArg (Nat.ofDigitChars 10 · 0) h
  simpa only [Nat.ofDigitChars_ten_toDigits] using hread

/-- The last separator of an id stands before the digits. -/
theorem generatedId_toList (assetId measurementType : String) (t : Datetime) :
    (generatedId assetId measurementType t).toList =
      "mqtt-".toList ++ (assetId.toList ++ '-' :: signedName measurementType t) ++
        '-' :: (Nat.repr t.timestampMs.natAbs).toList := by
  rw [generatedId, signedName, intText]
  split_ifs with hneg
  · simp
  · simp

/-- The samples of one generated id. -/
theorem generatedId_eq_iff (o o' : Observation F) :
    generatedId o.assetId o.measurementType o.timestamp =
        generatedId o'.assetId o'.measurementType o'.timestamp ↔ Collide o o' := by
  rw [← String.toList_inj, generatedId_toList, generatedId_toList,
    Separator.join_eq_join_iff_of_notMem (hyphen_notMem_repr _) (hyphen_notMem_repr _),
    List.append_cancel_left_eq, Separator.join_eq_join_iff, repr_toList_inj, Collide]

/-! ## The ids of messages -/

section Message

variable [PyFloat F] [JsonText F] {env : MapperEnv F} {message message' : Message}
  {observation observation' : Observation F}

/-- The names, the time and the id of an observation that a body makes. -/
theorem of_buildObservation {topic : TopicFields} {body : List (String × Json F)}
    {now : Datetime} (h : buildObservation env topic body now = .ok observation) :
    observation.assetId = ((Json.lookup body "asset_id").getD (.str topic.assetId)).text ∧
      observation.measurementType =
        ((Json.lookup body "measurement_type").getD (.str topic.measurementType)).text ∧
      resolveTimestamp body now = .ok observation.timestamp ∧
      observation.id = resolveId body observation.assetId observation.measurementType
        observation.timestamp := by
  obtain ⟨t, ht, h⟩ := Exceptions.bind_eq_ok.mp h
  obtain ⟨x, hx, h⟩ := Exceptions.bind_eq_ok.mp h
  obtain ⟨u, hu, h⟩ := Exceptions.bind_eq_ok.mp h
  dsimp only at h
  split_ifs at h with hname
  · cases h
  · rw [Observation.create] at h
    split_ifs at h
    · cases h
    · cases h
    · cases h
    · cases h
      exact ⟨rfl, rfl, ht, rfl⟩

/-- A message without an id gets the generated one. -/
theorem MapsWithoutId.id_eq (h : MapsWithoutId env message observation) :
    observation.id = generatedId observation.assetId observation.measurementType
      observation.timestamp := by
  obtain ⟨fields, -, hbody⟩ := Exceptions.bind_eq_ok.mp h.mapped
  obtain ⟨body, hparse, hbuild⟩ := Exceptions.bind_eq_ok.mp hbody
  rw [(of_buildObservation hbuild).2.2.2, resolveId, h.noId body hparse, Option.getD_none]

/-- Two messages without ids get different ids for different samples, unless the samples collide. -/
theorem ids_differ_iff (h : MapsWithoutId env message observation)
    (h' : MapsWithoutId env message' observation') :
    (sampleKey observation ≠ sampleKey observation' → observation.id ≠ observation'.id) ↔
      (sampleKey observation ≠ sampleKey observation' → ¬ Collide observation observation') := by
  rw [h.id_eq, h'.id_eq]
  exact imp_congr_right fun _ => not_congr (generatedId_eq_iff observation observation')

end Message

/-! ## A colliding sample is lost -/

/-- `ObservationService.create` and its endpoint: the status, and the observations stored. -/
def createObservation (stored : List (Observation F)) (observation : Observation F) :
    ℕ × List (Observation F) :=
  if ∃ other ∈ stored, other.id = observation.id then (409, stored)
  else (202, stored ++ [observation])

/-- A sample whose id is known to the platform is acknowledged and not stored. -/
theorem acknowledged_of_known [PyFloat F] [JsonText F] {env : MapperEnv F} {client : HttpClient F}
    {message : Message} {observation : Observation F} {stored : List (Observation F)}
    (hmap : mapMessage env message.topic message.payload message.now = .ok observation)
    (hpost : client.post (observationToPayload observation) =
      .ok (createObservation stored observation).1)
    (hknown : ∃ other ∈ stored, other.id = observation.id) :
    handleDelivery env client message.topic message.payload message.now = .ok true ∧
      (createObservation stored observation).2 = stored := by
  have hcreate : createObservation stored observation = (409, stored) := if_pos hknown
  have hforward : forward client observation = .ok .duplicate := by
    rw [forward, hpost, hcreate]
    rfl
  refine ⟨?_, by rw [hcreate]⟩
  rw [handleDelivery, hmap]
  dsimp only
  rw [hforward]

/-! ## The defect -/

section HyphenatedNames

/-- The body `{"value": 1.0, "unit": "A"}`. -/
def plainBody : List (String × Json ℚ) := [("value", .float 1), ("unit", .str "A")]

/-- `json.loads` of the text of that body. -/
def plainEnv : MapperEnv ℚ where
  loads _ := .value (.obj plainBody)
  floatOfText _ := none

/-- That body on a topic, at the epoch. -/
def plainMessage (topic : String) : Message where
  topic := topic
  payload := "\x7b\"value\": 1.0, \"unit\": \"A\"\x7d".toUTF8.data.toList
  now := .utc 0

/-- A topic names an asset and a measurement type. -/
def Names (topic assetId measurementType : String) : Prop :=
  ∃ fields : TopicFields, parseTopic (F := ℚ) topic = .ok fields ∧ fields.assetId = assetId ∧
    fields.measurementType = measurementType

/-- The topic of the current of the first stack. -/
theorem names_stack1_current :
    Names "odis/v1/plant-a/stack-1/telemetry/current" "stack-1" "current" :=
  ⟨⟨"plant-a", "stack-1", "current", by decide, by decide, by decide⟩, by rfl, rfl, rfl⟩

/-- The topic of the current of the second stack. -/
theorem names_stack2_current :
    Names "odis/v1/plant-a/stack-2/telemetry/current" "stack-2" "current" :=
  ⟨⟨"plant-a", "stack-2", "current", by decide, by decide, by decide⟩, by rfl, rfl, rfl⟩

/-- A topic that is read as another asset and another measurement. -/
theorem names_stack_1current :
    Names "odis/v1/plant-a/stack/telemetry/1-current" "stack" "1-current" :=
  ⟨⟨"plant-a", "stack", "1-current", by decide, by decide, by decide⟩, by rfl, rfl, rfl⟩

/-- A topic of the bridge makes a sample of its own asset and measurement type. -/
theorem plainMessage_maps {topic assetId measurementType : String}
    (h : Names topic assetId measurementType) :
    ∃ observation : Observation ℚ, MapsWithoutId plainEnv (plainMessage topic) observation ∧
      observation.assetId = assetId ∧ observation.measurementType = measurementType ∧
      observation.timestamp = .utc 0 := by
  obtain ⟨fields, hfields, rfl, rfl⟩ := h
  have hbody : parsePayload plainEnv (plainMessage topic).payload = .ok plainBody := by
    rw [parsePayload, if_neg (by simp [plainMessage]; decide)]
    rfl
  have ht : resolveTimestamp plainBody (.utc 0) = .ok (.utc 0) := rfl
  have hx : resolveValue plainEnv plainBody = .ok 1 := rfl
  have hu : resolveUnit plainBody = .ok "A" := rfl
  -- the fields of the topic are not empty, so the observation can be built
  rcases buildObservation_of_complete fields ht hx hu with
    ⟨-, ⟨⟨⟩⟩ | ⟨⟨⟩⟩⟩ | ⟨⟨observation, hbuild, -⟩, -⟩
  have hmaps : mapMessage plainEnv topic (plainMessage topic).payload (.utc 0) =
      .ok observation := by
    simp only [mapMessage, hfields, hbody, bind, Except.bind]
    exact hbuild
  obtain ⟨hasset, hmeasurement, htimestamp, -⟩ := of_buildObservation hbuild
  refine ⟨observation, ⟨hmaps, ?_⟩, hasset, hmeasurement, (Except.ok.inj htimestamp).symm⟩
  intro body hparse
  rw [hbody] at hparse
  cases hparse
  rfl

/-- The samples of two assets that no separator confuses get different ids. -/
theorem ids_differ_plainNames :
    ∃ observation observation' : Observation ℚ,
      observation.assetId = "stack-1" ∧ observation'.assetId = "stack-2" ∧
        observation.id ≠ observation'.id := by
  obtain ⟨observation, hmaps, hasset, hmeasurement, ht⟩ :=
    plainMessage_maps names_stack1_current
  obtain ⟨observation', hmaps', hasset', hmeasurement', ht'⟩ :=
    plainMessage_maps names_stack2_current
  refine ⟨observation, observation', hasset, hasset', (ids_differ_iff hmaps hmaps').mpr ?_ ?_⟩
  · rintro - ⟨halike, -⟩
    have hjoin := halike.join_eq_join
    rw [hasset, hasset'] at hjoin
    -- the assets have names of one length
    exact absurd (List.append_inj_left hjoin (by decide)) (by decide)
  · rw [sampleKey, hasset, sampleKey, hasset']
    exact fun heq => absurd (Prod.mk.inj heq).1 (by decide)

/-- The samples of the current of `stack-1` and of the measurement `1-current` of `stack` get the
id `mqtt-stack-1-current-0` both. -/
theorem not_ids_differ_hyphenatedNames :
    ¬ ∀ (message message' : Message) (observation observation' : Observation ℚ),
      MapsWithoutId plainEnv message observation → MapsWithoutId plainEnv message' observation' →
        sampleKey observation ≠ sampleKey observation' → observation.id ≠ observation'.id := by
  intro h
  obtain ⟨observation, hmaps, hasset, hmeasurement, ht⟩ :=
    plainMessage_maps names_stack1_current
  obtain ⟨observation', hmaps', hasset', hmeasurement', ht'⟩ :=
    plainMessage_maps names_stack_1current
  have hcollide : Collide observation observation' := by
    rw [Collide, hasset, hasset', hmeasurement, hmeasurement', ht, ht']
    refine ⟨.inr (.inr ⟨['1'], by decide, ?_⟩), rfl⟩
    exact signedName_append "1-" "current" (.utc 0)
  refine h _ _ _ _ hmaps hmaps' ?_ ?_
  · rw [sampleKey, hasset, sampleKey, hasset']
    exact fun heq => absurd (Prod.mk.inj heq).1 (by decide)
  · rw [hmaps.id_eq, hmaps'.id_eq]
    exact (generatedId_eq_iff observation observation').mpr hcollide

end HyphenatedNames

end Odis.MqttBridge
