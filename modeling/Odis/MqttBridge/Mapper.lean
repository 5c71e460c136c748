import Odis.Inference.Telemetry
import Odis.Library.Exceptions
import Odis.Python.Double
import Odis.Python.Json

/-!
# From MQTT messages to observations

`MqttObservationMapper` (`mqtt_bridge/observation_mapper.py`): the fields of an observation are
those of the payload, a JSON object, and for lack of them those of the topic. What the mapper
refuses it refuses with an exception of its own; the constructors of the entities raise a plain
`ValueError`, and `float` of a large integer an `OverflowError`.

* `mapMessage_unexpected_iff`: the messages on which something else than the mapper's own exception
  is raised.
-/

namespace Odis.MqttBridge

open Inference

variable {F : Type}

/-- What `json.loads(payload.decode("utf-8"))` comes to: a value, one of the two exceptions that the
mapper expects, or another one (`RecursionError`, or `ValueError` for an integer of too many
digits). -/
inductive Decoded (F : Type) where
  | value (v : Json F)
  | malformed
  | refused

/-- The parts of the standard library that the mapper is a program over. -/
structure MapperEnv (F : Type) where
  /-- `json.loads(payload.decode("utf-8"))`. -/
  loads : List UInt8 → Decoded F
  /-- `float(s)`, unless it raises `ValueError`. -/
  floatOfText : String → Option F

/-- `MqttObservationMappingError`. -/
inductive MqttObservationMappingError (F : Type) where
  | unsupportedTopic (topic : String)
  | emptyPayload
  | notJson
  | notObject
  | timestampNotText
  | invalidTimestamp (raw : String)
  | missingValue
  | invalidValue (raw : Json F)
  | missingUnit

/-- The message of the exception. -/
def MqttObservationMappingError.message [JsonText F] : MqttObservationMappingError F → String
  | unsupportedTopic topic => "unsupported MQTT topic: " ++ JsonText.repr (.str topic : Json F)
  | emptyPayload => "MQTT payload is empty"
  | notJson => "MQTT payload must be UTF-8 JSON"
  | notObject => "MQTT payload must be a JSON object"
  | timestampNotText => "timestamp must be an ISO-8601 string"
  | invalidTimestamp raw => "invalid timestamp: " ++ JsonText.repr (.str raw : Json F)
  | missingValue => "MQTT payload must include value"
  | invalidValue raw => "invalid value: " ++ JsonText.repr raw
  | missingUnit => "MQTT payload must include a non-empty unit"

/-- What `map_message` raises: its own exception, one of the built-in operations, one of the
constructors of `MeasurementType` and `Observation`, or one of `json.loads`. -/
inductive MapperFailure (F : Type) where
  | mapping (error : MqttObservationMappingError F)
  | raised (exception : PyException)
  | emptyName
  | emptyField (field : EmptyField)
  | refused

/-- The groups of `_TOPIC_PATTERN`. -/
structure TopicFields where
  site : String
  assetId : String
  measurementType : String
  site_ne : site ≠ ""
  assetId_ne : assetId ≠ ""
  measurementType_ne : measurementType ≠ ""

/-- `_parse_topic`: six levels, three of them fixed and the others not empty. -/
def parseTopic (topic : String) : Except (MapperFailure F) TopicFields :=
  match (topic.toList.splitOn '/').map String.ofList with
  | [odis, version, site, assetId, telemetry, measurementType] =>
      if h : (odis = "odis" ∧ version = "v1" ∧ telemetry = "telemetry") ∧
          site ≠ "" ∧ assetId ≠ "" ∧ measurementType ≠ "" then
        .ok ⟨site, assetId, measurementType, h.2.1, h.2.2.1, h.2.2.2⟩
      else .error (.mapping (.unsupportedTopic topic))
  | _ => .error (.mapping (.unsupportedTopic topic))

/-- `_parse_payload`. -/
def parsePayload (env : MapperEnv F) (payload : List UInt8) :
    Except (MapperFailure F) (List (String × Json F)) :=
  if payload = [] then .error (.mapping .emptyPayload)
  else
    match env.loads payload with
    | .malformed => .error (.mapping .notJson)
    | .refused => .error .refused
    | .value (.obj fields) => .ok fields
    | .value _ => .error (.mapping .notObject)

/-- `body.get(name)`. -/
def get (body : List (String × Json F)) (name : String) : Json F :=
  (Json.lookup body name).getD .null

/-- `_resolve_timestamp`, at a given time. -/
def resolveTimestamp (body : List (String × Json F)) (now : Datetime) :
    Except (MapperFailure F) Datetime :=
  match get body "timestamp" with
  | .null => .ok now
  | .str raw =>
      match Datetime.fromIsoformat? raw with
      | some read => .ok read.aware
      | none => .error (.mapping (.invalidTimestamp raw))
  | _ => .error (.mapping .timestampNotText)

/-- `float(v)`. -/
def floatOf [PyFloat F] (env : MapperEnv F) : Json F → Except PyException F
  | .int n => Json.intToFloat n
  | .float x => .ok x
  | .bool b => .ok (PyFloat.ofInt (if b then 1 else 0))
  | .str s =>
      match env.floatOfText s with
      | some x => .ok x
      | none => .error .valueError
  | _ => .error .typeError

/-- `_resolve_value`: `TypeError` and `ValueError` are expected of `float`. -/
def resolveValue [PyFloat F] (env : MapperEnv F) (body : List (String × Json F)) :
    Except (MapperFailure F) F :=
  match Json.lookup body "value" with
  | none => .error (.mapping .missingValue)
  | some raw =>
      match floatOf env raw with
      | .ok x => .ok x
      | .error .typeError => .error (.mapping (.invalidValue raw))
      | .error .valueError => .error (.mapping (.invalidValue raw))
      | .error exception => .error (.raised exception)

/-- `_resolve_unit`. -/
def resolveUnit (body : List (String × Json F)) : Except (MapperFailure F) String :=
  match get body "unit" with
  | .str unit => if unit = "" then .error (.mapping .missingUnit) else .ok unit
  | _ => .error (.mapping .missingUnit)

/-- The id that the payload brings along. -/
def ownId? (body : List (String × Json F)) : Option String :=
  match get body "id" with
  | .str id => if id = "" then none else some id
  | _ => none

/-- The id that is generated for want of another one. -/
def generatedId (assetId measurementType : String) (timestamp : Datetime) : String :=
  "mqtt-" ++ assetId ++ "-" ++ measurementType ++ "-" ++ intText timestamp.timestampMs

/-- `_resolve_id`. -/
def resolveId (body : List (String × Json F)) (assetId measurementType : String)
    (timestamp : Datetime) : String :=
  (ownId? body).getD (generatedId assetId measurementType timestamp)

/-- The observation that a body makes, with the defaults of the topic. -/
def buildObservation [PyFloat F] [JsonText F] (env : MapperEnv F) (topic : TopicFields)
    (body : List (String × Json F)) (now : Datetime) :
    Except (MapperFailure F) (Observation F) := do
  let assetId := ((Json.lookup body "asset_id").getD (.str topic.assetId)).text
  let measurementType :=
    ((Json.lookup body "measurement_type").getD (.str topic.measurementType)).text
  let timestamp ← resolveTimestamp body now
  let value ← resolveValue env body
  let unit ← resolveUnit body
  let id := resolveId body assetId measurementType timestamp
  -- the measurement type is made before the observation
  if measurementType = "" then throw .emptyName
  (Observation.create id assetId timestamp measurementType value unit).mapError .emptyField

/-- `MqttObservationMapper.map_message`, at a given time. -/
def mapMessage [PyFloat F] [JsonText F] (env : MapperEnv F) (topic : String)
    (payload : List UInt8) (now : Datetime) : Except (MapperFailure F) (Observation F) := do
  let topicFields ← parseTopic topic
  let body ← parsePayload env payload
  buildObservation env topicFields body now

/-! ## What the mapper does not expect -/

/-- The failure is the mapper's own exception. -/
def MapperFailure.IsMapping (failure : MapperFailure F) : Prop := ∃ error, failure = .mapping error

/-- The value of a body is an integer too large for a `float`. -/
def OversizedValue (body : List (String × Json F)) : Prop :=
  ∃ n, Json.lookup body "value" = some (.int n) ∧ Json.floatLimit ≤ n.natAbs

section Lemmas

variable [PyFloat F] {env : MapperEnv F} {body : List (String × Json F)} {now : Datetime}
  {failure : MapperFailure F}

omit [PyFloat F] in
/-- A timestamp that is refused is refused with a MappingError. -/
theorem resolveTimestamp_isMapping (h : resolveTimestamp body now = .error failure) :
    failure.IsMapping := by
  rw [resolveTimestamp] at h
  split at h
  · cases h
  · split at h
    · cases h
    · cases h
      exact ⟨_, rfl⟩
  · cases h
    exact ⟨_, rfl⟩

omit [PyFloat F] in
/-- So is a unit. -/
theorem resolveUnit_isMapping (h : resolveUnit body = .error failure) : failure.IsMapping := by
  rw [resolveUnit] at h
  split at h
  · split_ifs at h
    cases h
    exact ⟨_, rfl⟩
  · cases h
    exact ⟨_, rfl⟩

/-- `float` of a number too large is the only conversion that raises what is not expected. -/
theorem floatOf_eq_error {v : Json F} {exception : PyException}
    (h : floatOf env v = .error exception) :
    exception = .typeError ∨ exception = .valueError ∨
      exception = .overflowError ∧ ∃ n, v = .int n ∧ Json.floatLimit ≤ n.natAbs := by
  cases v with
  -- an integer is converted unless it is beyond the floats
  | int n =>
      rw [floatOf, Json.intToFloat] at h
      split_ifs at h with hlarge
      cases h
      exact .inr (.inr ⟨rfl, n, rfl, Nat.le_of_not_lt hlarge⟩)
  | str s =>
      rw [floatOf] at h
      split at h
      · cases h
      · cases h
        exact .inr (.inl rfl)
  | float x => cases h
  | bool b => cases h
  | null => exact .inl (Except.error.inj h).symm
  | arr items => exact .inl (Except.error.inj h).symm
  | obj fields => exact .inl (Except.error.inj h).symm

/-- A value that is refused with another exception is too large. -/
theorem resolveValue_eq_error (h : resolveValue env body = .error failure) :
    failure.IsMapping ∧ ¬ OversizedValue body ∨
      failure = .raised .overflowError ∧ OversizedValue body := by
  rw [resolveValue] at h
  split at h
  next hnone =>
    cases h
    refine .inl ⟨⟨_, rfl⟩, ?_⟩
    rintro ⟨n, hn, -⟩
    rw [hn] at hnone
    cases hnone
  next raw hraw =>
    -- an integer that is too large fails with an OverflowError and nothing else
    have hsmall : ∀ exception, floatOf env raw = .error exception →
        exception ≠ .overflowError → ¬ OversizedValue body := by
      rintro exception hfloat hne ⟨n, hn, hlarge⟩
      obtain rfl := Option.some.inj (hraw.symm.trans hn)
      rw [floatOf, Json.intToFloat, if_neg (Nat.not_lt.mpr hlarge)] at hfloat
      exact hne (Except.error.inj hfloat).symm
    split at h
    · cases h
    next hfloat =>
      cases h
      exact .inl ⟨⟨_, rfl⟩, hsmall _ hfloat (by rintro ⟨⟩)⟩
    next hfloat =>
      cases h
      exact .inl ⟨⟨_, rfl⟩, hsmall _ hfloat (by rintro ⟨⟩)⟩
    next exception htype hvalue hfloat =>
      cases h
      rcases floatOf_eq_error hfloat with rfl | rfl | ⟨rfl, n, rfl, hlarge⟩
      · exact absurd rfl htype
      · exact absurd rfl hvalue
      · exact .inr ⟨rfl, n, hraw, hlarge⟩

/-- A value that is resolved is not too large. -/
theorem not_oversizedValue_of_resolveValue {x : F} (h : resolveValue env body = .ok x) :
    ¬ OversizedValue body := by
  rintro ⟨n, hn, hlarge⟩
  rw [resolveValue, hn] at h
  simp only [floatOf, Json.intToFloat, if_neg (Nat.not_lt.mpr hlarge)] at h
  cases h

omit [PyFloat F] in
/-- A unit that is resolved is not empty. -/
theorem resolveUnit_ne_empty {unit : String} (h : resolveUnit body = .ok unit) : unit ≠ "" := by
  rw [resolveUnit] at h
  split at h
  · split_ifs at h with hunit
    obtain rfl := Except.ok.inj h
    exact hunit
  · cases h

end Lemmas

/-- A body whose timestamp can be read and whose value is too large, or that is complete but for an
asset or a measurement type that is the empty string. -/
inductive Unexpected [PyFloat F] (env : MapperEnv F) (body : List (String × Json F))
    (now : Datetime) : Prop
  | oversized (t : Datetime) (timestamp : resolveTimestamp body now = .ok t)
      (value : OversizedValue body)
  | emptyField (t : Datetime) (x : F) (u : String) (timestamp : resolveTimestamp body now = .ok t)
      (value : resolveValue env body = .ok x) (unit : resolveUnit body = .ok u)
      (names : Json.lookup body "measurement_type" = some (.str "") ∨
        Json.lookup body "asset_id" = some (.str ""))

section Build

variable [PyFloat F] [JsonText F] {env : MapperEnv F} {body : List (String × Json F)}
  {now : Datetime} {failure : MapperFailure F} {topic : TopicFields}

omit [PyFloat F] in
/-- The text of a field that has a default is empty only where it was given so. -/
theorem text_getD_eq_empty_iff (body : List (String × Json F)) (name : String)
    {fallback : String} (hne : fallback ≠ "") :
    ((Json.lookup body name).getD (.str fallback)).text = "" ↔
      Json.lookup body name = some (.str "") := by
  rw [Json.text_eq_empty_iff]
  cases Json.lookup body name with
  | none =>
      refine iff_of_false (fun h => hne ?_) (by rintro ⟨⟩)
      exact Json.str.inj h
  | some v => exact ⟨congrArg some, Option.some.inj⟩

omit [PyFloat F] [JsonText F] in
/-- An id is never empty, as it is generated where there is none. -/
theorem resolveId_ne_empty (assetId measurementType : String) (t : Datetime) :
    resolveId body assetId measurementType t ≠ "" := by
  rw [resolveId, ownId?]
  split
  next id _ =>
    split_ifs with hid
    · exact append_ne_empty (by rw [intText]; exact append_ne_empty Nat.repr_ne_empty)
    · exact hid
  · exact append_ne_empty (by rw [intText]; exact append_ne_empty Nat.repr_ne_empty)

variable (topic) in
/-- A body that is complete makes an observation unless one of its names is empty. -/
theorem buildObservation_of_complete {t : Datetime} {x : F} {u : String}
    (ht : resolveTimestamp body now = .ok t) (hx : resolveValue env body = .ok x)
    (hu : resolveUnit body = .ok u) :
    (∃ failure, buildObservation env topic body now = .error failure ∧ ¬ failure.IsMapping) ∧
        (Json.lookup body "measurement_type" = some (.str "") ∨
          Json.lookup body "asset_id" = some (.str "")) ∨
      (∃ observation, buildObservation env topic body now = .ok observation ∧
          observation.value = x) ∧
        ¬ (Json.lookup body "measurement_type" = some (.str "") ∨
          Json.lookup body "asset_id" = some (.str "")) := by
  have hasset := text_getD_eq_empty_iff body "asset_id" topic.assetId_ne
  have hmeasurement := text_getD_eq_empty_iff body "measurement_type" topic.measurementType_ne
  simp only [buildObservation, ht, hx, hu, bind, Except.bind]
  split_ifs with hname
  · exact .inl ⟨⟨_, rfl, by rintro ⟨_, ⟨⟩⟩⟩, .inl (hmeasurement.mp hname)⟩
  · rw [Observation.create, dif_neg (resolveId_ne_empty _ _ _)]
    split_ifs with hempty hunit
    · exact .inl ⟨⟨_, rfl, by rintro ⟨_, ⟨⟩⟩⟩, .inr (hasset.mp hempty)⟩
    · exact absurd hunit (resolveUnit_ne_empty hu)
    · refine .inr ⟨⟨_, rfl, rfl⟩, ?_⟩
      rintro (h | h)
      · exact hname (hmeasurement.mpr h)
      · exact hempty (hasset.mpr h)

/-- A failure of one of the first three steps is that of the whole. -/
theorem buildObservation_unexpected_iff :
    (∃ failure, buildObservation env topic body now = .error failure ∧ ¬ failure.IsMapping) ↔
      Unexpected env body now := by
  cases ht : resolveTimestamp body now with
  -- the steps up to the first that fails have returned, and decide what is raised
  | error failure =>
      have hbuild : buildObservation env topic body now = .error failure := by
        simp only [buildObservation, ht, bind, Except.bind]
      rw [hbuild]
      refine iff_of_false ?_ ?_
      · rintro ⟨_, ⟨⟩, hnot⟩
        exact hnot (resolveTimestamp_isMapping ht)
      · rintro (⟨t, ht', -⟩ | ⟨t, x, u, ht', -⟩)
        all_goals
          rw [ht'] at ht
          cases ht
  | ok t =>
      cases hx : resolveValue env body with
      | error failure =>
          have hbuild : buildObservation env topic body now = .error failure := by
            simp only [buildObservation, ht, hx, bind, Except.bind]
          rw [hbuild]
          rcases resolveValue_eq_error hx with ⟨hmapping, hsmall⟩ | ⟨rfl, hlarge⟩
          · refine iff_of_false ?_ ?_
            · rintro ⟨_, ⟨⟩, hnot⟩
              exact hnot hmapping
            · rintro (⟨_, -, hlarge⟩ | ⟨_, x, _, -, hx', -⟩)
              · exact hsmall hlarge
              · rw [hx'] at hx
                cases hx
          · exact iff_of_true ⟨_, rfl, by rintro ⟨_, ⟨⟩⟩⟩ (.oversized t ht hlarge)
      | ok x =>
          cases hu : resolveUnit body with
          | error failure =>
              have hbuild : buildObservation env topic body now = .error failure := by
                simp only [buildObservation, ht, hx, hu, bind, Except.bind]
              rw [hbuild]
              refine iff_of_false ?_ ?_
              · rintro ⟨_, ⟨⟩, hnot⟩
                exact hnot (resolveUnit_isMapping hu)
              · rintro (⟨_, -, hlarge⟩ | ⟨_, _, u, -, -, hu', -⟩)
                · exact not_oversizedValue_of_resolveValue hx hlarge
                · rw [hu'] at hu
                  cases hu
          | ok u =>
              -- with all values resolved, only the constructor can raise
              rcases buildObservation_of_complete topic ht hx hu with
                ⟨hfails, hnames⟩ | ⟨⟨observation, hbuild, -⟩, hnames⟩
              · exact iff_of_true hfails (.emptyField t x u ht hx hu hnames)
              · refine iff_of_false ?_ ?_
                · rintro ⟨_, hfails, -⟩
                  rw [hbuild] at hfails
                  cases hfails
                · rintro (⟨_, -, hlarge⟩ | ⟨_, _, _, -, -, -, hnames'⟩)
                  · exact not_oversizedValue_of_resolveValue hx hlarge
                  · exact hnames hnames'

end Build

section Message

variable [PyFloat F] [JsonText F] {env : MapperEnv F} {topic : String} {payload : List UInt8}
  {now : Datetime}

/-- A message of a well-formed topic whose payload `json.loads` refuses with another exception, or
reads as a body that the mapper does not expect. -/
def UnexpectedMessage (env : MapperEnv F) (topic : String) (payload : List UInt8) (now : Datetime) :
    Prop :=
  (∃ fields, parseTopic (F := F) topic = .ok fields) ∧ payload ≠ [] ∧
    (env.loads payload = .refused ∨
      ∃ body, env.loads payload = .value (.obj body) ∧ Unexpected env body now)

omit [PyFloat F] [JsonText F] in
/-- A topic that is refused is refused with a MappingError. -/
theorem parseTopic_isMapping {failure : MapperFailure F} (h : parseTopic topic = .error failure) :
    failure.IsMapping := by
  rw [parseTopic] at h
  split at h
  · split_ifs at h
    cases h
    exact ⟨_, rfl⟩
  · cases h
    exact ⟨_, rfl⟩

/-- The messages on which the mapper raises something else than its own exception. -/
theorem mapMessage_unexpected_iff :
    (∃ failure, mapMessage env topic payload now = .error failure ∧ ¬ failure.IsMapping) ↔
      UnexpectedMessage env topic payload now := by
  cases htopic : parseTopic (F := F) topic with
  | error failure =>
      refine iff_of_false ?_ ?_
      · rintro ⟨_, hfails, hnot⟩
        simp only [mapMessage, htopic, bind, Except.bind] at hfails
        cases hfails
        exact hnot (parseTopic_isMapping htopic)
      · rintro ⟨⟨fields, hfields⟩, -⟩
        rw [hfields] at htopic
        cases htopic
  | ok fields =>
      have hmap : mapMessage env topic payload now =
          (parsePayload env payload).bind fun body => buildObservation env fields body now := by
        simp only [mapMessage, htopic]
        rfl
      rw [hmap, parsePayload]
      split_ifs with hempty
      · refine iff_of_false ?_ fun h => h.2.1 hempty
        rintro ⟨_, hfails, hnot⟩
        cases hfails
        exact hnot ⟨_, rfl⟩
      -- the topic is fine and there is a payload, so it depends on the body
      · have hwell : UnexpectedMessage env topic payload now ↔ (env.loads payload = .refused ∨
            ∃ body, env.loads payload = .value (.obj body) ∧ Unexpected env body now) := by
          rw [UnexpectedMessage, and_iff_right ⟨fields, htopic⟩, and_iff_right hempty]
        rw [hwell]
        split
        next hloads =>
          refine iff_of_false ?_ (by simp [hloads])
          rintro ⟨_, hfails, hnot⟩
          cases hfails
          exact hnot ⟨_, rfl⟩
        next hloads => exact iff_of_true ⟨_, rfl, by rintro ⟨_, ⟨⟩⟩⟩ (.inl hloads)
        next body hloads =>
          rw [hloads, or_iff_right (by rintro ⟨⟩)]
          have hbody : (∃ body', (Decoded.value (.obj body) : Decoded F) = .value (.obj body') ∧
              Unexpected env body' now) ↔ Unexpected env body now := by
            constructor
            · rintro ⟨_, heq, h⟩
              cases heq
              exact h
            · exact fun h => ⟨body, rfl, h⟩
          rw [hbody]
          exact buildObservation_unexpected_iff
        next v hother hloads =>
          refine iff_of_false ?_ ?_
          · rintro ⟨_, hfails, hnot⟩
            cases hfails
            exact hnot ⟨_, rfl⟩
          · rw [hloads]
            rintro (⟨⟨⟩⟩ | ⟨body, heq, -⟩)
            cases heq
            exact hother body rfl

end Message

end Odis.MqttBridge
