import Odis.MqttBridge.Mapper

/-!
# The ingestion of MQTT messages

`MqttIngestionService._handle_delivery` (`mqtt_bridge/ingestion_service.py`) maps a message, posts
the observation to the platform (`mqtt_bridge/forwarder.py`) and acknowledges the delivery unless
another attempt may help. It catches the mapper's own exception only.

* `disposed_iff`: the messages that are disposed of.
* `not_disposed_emptyMeasurementType`: a payload that names no measurement type is never
  acknowledged.
-/

namespace Odis.MqttBridge

open Inference

variable {F : Type} [PyFloat F]

/-! ## Forwarding -/

/-- `ForwardOutcome`. -/
inductive ForwardOutcome where
  | accepted
  | duplicate
  | retryable
  | rejected
  deriving DecidableEq, Repr

/-- What posting a body raises: `httpx.HTTPError`, or another exception. -/
inductive ClientError where
  | httpError
  | other (exception : PyException)

/-- `httpx.Client`: a response has a status. The body is encoded with `allow_nan=False`, so a number
that is not finite is refused with an exception that is no `HTTPError`, and nothing else is. -/
structure HttpClient (F : Type) [PyFloat F] where
  post : List (String × Json F) → Except ClientError ℕ
  refuses_iff : ∀ body, (∃ exception, post body = .error (.other exception)) ↔
    ∃ entry ∈ body, ∃ x, entry.2 = .float x ∧ PyFloat.isfinite x = false

/-- `observation_to_payload`. -/
def observationToPayload (observation : Observation F) : List (String × Json F) :=
  [("id", .str observation.id), ("asset_id", .str observation.assetId),
    ("timestamp", .str observation.timestamp.isoformat),
    ("measurement_type", .str observation.measurementType), ("value", .float observation.value),
    ("unit", .str observation.unit)]

/-- `HttpObservationIngestionForwarder.forward`. -/
def forward (client : HttpClient F) (observation : Observation F) :
    Except PyException ForwardOutcome :=
  match client.post (observationToPayload observation) with
  | .error .httpError => .ok .retryable
  | .error (.other exception) => .error exception
  | .ok status =>
      if status = 202 then .ok .accepted
      else if status = 409 then .ok .duplicate
      else if 500 ≤ status then .ok .retryable
      else .ok .rejected

/-! ## Deliveries -/

/-- What the handling of a delivery raises. -/
inductive DeliveryFailure (F : Type) where
  | mapper (failure : MapperFailure F)
  | forwarder (exception : PyException)

variable [JsonText F]

/-- `_handle_delivery`: whether the delivery is acknowledged. -/
def handleDelivery (env : MapperEnv F) (client : HttpClient F) (topic : String)
    (payload : List UInt8) (now : Datetime) : Except (DeliveryFailure F) Bool :=
  match mapMessage env topic payload now with
  | .error (.mapping _) => .ok true
  | .error failure => .error (.mapper failure)
  | .ok observation =>
      match forward client observation with
      | .error exception => .error (.forwarder exception)
      | .ok .accepted => .ok true
      | .ok .duplicate => .ok true
      | .ok .rejected => .ok true
      | .ok .retryable => .ok false

/-- A message is mapped or refused by the mapper's own exception, its handling does not raise, and
it is acknowledged if it cannot be mapped. -/
structure Disposed (env : MapperEnv F) (client : HttpClient F) (topic : String)
    (payload : List UInt8) (now : Datetime) : Prop where
  mapped : ∀ failure, mapMessage env topic payload now = .error failure → failure.IsMapping
  returns : ∃ acknowledged, handleDelivery env client topic payload now = .ok acknowledged
  acknowledged : ∀ failure, mapMessage env topic payload now = .error failure →
    handleDelivery env client topic payload now = .ok true

/-- A message of a well-formed topic and payload whose value is not finite. -/
def UnencodableMessage (env : MapperEnv F) (topic : String) (payload : List UInt8)
    (now : Datetime) : Prop :=
  (∃ fields, parseTopic (F := F) topic = .ok fields) ∧ payload ≠ [] ∧
    ∃ body, env.loads payload = .value (.obj body) ∧ ∃ t x u,
      resolveTimestamp body now = .ok t ∧ resolveValue env body = .ok x ∧
        resolveUnit body = .ok u ∧ PyFloat.isfinite x = false

section Lemmas

variable {env : MapperEnv F} {client : HttpClient F} {topic : String} {payload : List UInt8}
  {now : Datetime} {observation : Observation F}

omit [JsonText F] in
/-- The client refuses an observation exactly if its value is not finite. -/
theorem forward_eq_error_iff :
    (∃ exception, forward client observation = .error exception) ↔
      PyFloat.isfinite observation.value = false := by
  have hrefuses := client.refuses_iff (observationToPayload observation)
  have hvalue : (∃ entry ∈ observationToPayload observation,
      ∃ x, entry.2 = .float x ∧ PyFloat.isfinite x = false) ↔
        PyFloat.isfinite observation.value = false := by
    simp [observationToPayload]
  rw [← hvalue, ← hrefuses, forward]
  constructor
  · rintro ⟨exception, h⟩
    split at h
    · cases h
    next hpost => exact ⟨_, hpost⟩
    · split_ifs at h
  · rintro ⟨exception, hpost⟩
    rw [hpost]
    exact ⟨exception, rfl⟩

/-- What is known of a message that is mapped. -/
theorem of_mapMessage (h : mapMessage env topic payload now = .ok observation) :
    (∃ fields, parseTopic (F := F) topic = .ok fields) ∧ payload ≠ [] ∧
      ∃ body, env.loads payload = .value (.obj body) ∧ ∃ t u,
        resolveTimestamp body now = .ok t ∧ resolveValue env body = .ok observation.value ∧
          resolveUnit body = .ok u := by
  -- each step of the mapper has returned
  obtain ⟨fields, hfields, h⟩ := Exceptions.bind_eq_ok.mp h
  obtain ⟨body, hbody, h⟩ := Exceptions.bind_eq_ok.mp h
  obtain ⟨t, ht, hafter⟩ := Exceptions.bind_eq_ok.mp h
  obtain ⟨x, hx, hafter⟩ := Exceptions.bind_eq_ok.mp hafter
  obtain ⟨u, hu, -⟩ := Exceptions.bind_eq_ok.mp hafter
  -- the observation has the value that was resolved
  have hvalue : observation.value = x := by
    rcases buildObservation_of_complete fields ht hx hu with
      ⟨⟨failure, hfails, -⟩, -⟩ | ⟨⟨built, hbuilt, hvalue⟩, -⟩
    · rw [hfails] at h
      cases h
    · rw [hbuilt] at h
      cases h
      exact hvalue
  rw [parsePayload] at hbody
  split_ifs at hbody with hempty
  refine ⟨⟨fields, hfields⟩, hempty, body, ?_, t, u, ht, by rw [hvalue]; exact hx, hu⟩
  split at hbody
  · cases hbody
  · cases hbody
  next hloads =>
    obtain rfl := Except.ok.inj hbody
    exact hloads
  · cases hbody

/-- A message with a value that is not finite is mapped, if the mapper expects it. -/
theorem of_unencodable (h : UnencodableMessage env topic payload now)
    (hexpected : ¬ UnexpectedMessage env topic payload now) :
    ∃ observation, mapMessage env topic payload now = .ok observation ∧
      PyFloat.isfinite observation.value = false := by
  obtain ⟨⟨fields, hfields⟩, hempty, body, hloads, t, x, u, ht, hx, hu, hfinite⟩ := h
  have hbody : parsePayload env payload = .ok body := by
    rw [parsePayload, if_neg hempty, hloads]
  have hmap : mapMessage env topic payload now = buildObservation env fields body now := by
    simp only [mapMessage, hfields, hbody, bind, Except.bind]
  rw [hmap]
  rcases buildObservation_of_complete fields ht hx hu with
    ⟨-, hnames⟩ | ⟨⟨observation, hbuilt, hvalue⟩, -⟩
  · refine absurd ⟨⟨fields, hfields⟩, hempty, .inr ⟨body, hloads, ?_⟩⟩ hexpected
    exact .emptyField t x u ht hx hu hnames
  · exact ⟨observation, hbuilt, by rw [hvalue]; exact hfinite⟩

/-- A message that cannot be mapped is acknowledged, so that it is not delivered again. -/
theorem handleDelivery_of_mapping {failure : MapperFailure F}
    (h : mapMessage env topic payload now = .error failure) (hmapping : failure.IsMapping) :
    handleDelivery env client topic payload now = .ok true := by
  obtain ⟨error, rfl⟩ := hmapping
  rw [handleDelivery, h]

/-- The handling of a message that is mapped raises what the forwarder raises. -/
theorem exists_handleDelivery_iff (h : mapMessage env topic payload now = .ok observation) :
    (∃ acknowledged, handleDelivery env client topic payload now = .ok acknowledged) ↔
      ¬ ∃ exception, forward client observation = .error exception := by
  rw [handleDelivery, h]
  dsimp only
  cases forward client observation with
  | error exception => simp
  | ok outcome => cases outcome <;> simp

end Lemmas

/-- The messages that are disposed of: the mapper expects them, and a value that they come with is
finite. -/
theorem disposed_iff (env : MapperEnv F) (client : HttpClient F) (topic : String)
    (payload : List UInt8) (now : Datetime) :
    Disposed env client topic payload now ↔
      ¬ UnexpectedMessage env topic payload now ∧ ¬ UnencodableMessage env topic payload now := by
  constructor
  · intro h
    have hexpected : ¬ UnexpectedMessage env topic payload now := by
      rw [← mapMessage_unexpected_iff]
      rintro ⟨failure, hfails, hnot⟩
      exact hnot (h.mapped failure hfails)
    refine ⟨hexpected, fun hunencodable => ?_⟩
    -- httpx refuses to encode a value that is not finite
    obtain ⟨observation, hmap, hfinite⟩ := of_unencodable hunencodable hexpected
    exact (exists_handleDelivery_iff hmap).mp h.returns (forward_eq_error_iff.mpr hfinite)
  · rintro ⟨hexpected, hencodable⟩
    -- whatever is raised is a MappingError, as nothing unexpected is
    have hmapping : ∀ failure, mapMessage env topic payload now = .error failure →
        failure.IsMapping := by
      intro failure hfails
      by_contra hnot
      exact hexpected (mapMessage_unexpected_iff.mp ⟨failure, hfails, hnot⟩)
    refine ⟨hmapping, ?_, fun failure hfails =>
      handleDelivery_of_mapping hfails (hmapping failure hfails)⟩
    cases hmap : mapMessage env topic payload now with
    | error failure => exact ⟨true, handleDelivery_of_mapping hmap (hmapping failure hmap)⟩
    | ok observation =>
        rw [exists_handleDelivery_iff hmap, forward_eq_error_iff]
        intro hfinite
        obtain ⟨hfields, hempty, body, hloads, t, u, ht, hx, hu⟩ := of_mapMessage hmap
        exact hencodable ⟨hfields, hempty, body, hloads, t, _, u, ht, hx, hu, hfinite⟩

/-! ## The defect -/

section EmptyName

/-- The payload `{"measurement_type": "", "value": 1.0, "unit": "V"}`. -/
def emptyMeasurementType : List UInt8 :=
  "\x7b\"measurement_type\": \"\", \"value\": 1.0, \"unit\": \"V\"\x7d".toUTF8.data.toList

/-- What is read of that payload. -/
def emptyMeasurementTypeEnv : MapperEnv ℚ where
  loads _ :=
    .value (.obj [("measurement_type", .str ""), ("value", .float 1), ("unit", .str "V")])
  floatOfText _ := none

/-- A platform that accepts every observation. -/
def acceptingClient : HttpClient ℚ where
  post _ := .ok 202
  refuses_iff body := by
    refine iff_of_false (by rintro ⟨_, ⟨⟩⟩) ?_
    rintro ⟨_, _, _, _, ⟨⟩⟩

/-- The mapper raises the `ValueError` of the measurement type, and the delivery is not
acknowledged. -/
theorem not_disposed_emptyMeasurementType :
    ¬ ∀ topic payload now,
      Disposed emptyMeasurementTypeEnv acceptingClient topic payload now := by
  intro h
  have hdisposed := h "odis/v1/plant-a/stack-1/telemetry/voltage" emptyMeasurementType (.utc 0)
  have hfails : mapMessage emptyMeasurementTypeEnv "odis/v1/plant-a/stack-1/telemetry/voltage"
      emptyMeasurementType (.utc 0) = .error .emptyName := by
    rfl
  obtain ⟨_, ⟨⟩⟩ := hdisposed.mapped _ hfails

end EmptyName

end Odis.MqttBridge
