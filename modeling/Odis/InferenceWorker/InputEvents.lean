import Odis.InferenceWorker.Assembly
import Odis.Library.Exceptions
import Odis.Python.Validation

/-!
# The input contract of the inference worker

`validate_telemetry_event` (`inference_worker/events.py`) turns a decoded message into a
`TelemetryObservationEvent` or rejects it. As in the bridge's validator, what its checks take for
granted of the message is what it does not catch.

* `validate_raised_iff`: the messages that the validator neither accepts nor rejects.
* `validate_eq_ok_iff`: what the accepted messages are read as.
-/

namespace Odis.InferenceWorker

open Inference

variable {F : Type}

/-- `TelemetryEventValidationError`. -/
inductive TelemetryEventValidationError (F : Type) where
  | missingField (name : String)
  | unsupportedEventVersion (eventVersion : Json F)
  | malformedTimestamp (raw : Json F)
  | unsupportedMeasurementName (measurementName : Json F)
  | unitMismatch (m : Measurement) (actual : Json F)
  | nonFiniteValue (m : Measurement) (value : Json F)
  | invalidAssetId

/-- The message of the exception. -/
def TelemetryEventValidationError.message [JsonText F] :
    TelemetryEventValidationError F → String
  | missingField name => "telemetry event is missing required field '" ++ name ++ "'"
  | unsupportedEventVersion eventVersion =>
      "unsupported event_version " ++ JsonText.repr eventVersion ++ " (supported: ['v1'])"
  | malformedTimestamp raw =>
      "telemetry event has an unparseable timestamp: " ++ JsonText.repr raw
  | unsupportedMeasurementName measurementName =>
      "unsupported measurement_name: " ++ JsonText.repr measurementName
  | unitMismatch m actual =>
      "measurement '" ++ m.name ++ "' has unit " ++ JsonText.repr actual ++
        ", expected the canonical unit '" ++ m.canonicalUnit ++ "'"
  | nonFiniteValue m value =>
      "non-finite telemetry value for '" ++ m.name ++ "': " ++ JsonText.repr value
  | invalidAssetId => "telemetry event has an empty asset_id"

/-- What `validate_telemetry_event` raises. -/
abbrev TelemetryFailure (F : Type) : Type := ValidationFailure (TelemetryEventValidationError F)

/-- `SUPPORTED_INPUT_EVENT_VERSIONS`. -/
def supportedInputEventVersions : List String := ["v1"]

/-- The required fields of the message after the first, `_REQUIRED_INPUT_FIELDS`. -/
def otherRequiredInputFields : List String :=
  ["event_version", "asset_id", "timestamp", "measurement_name", "value", "unit", "source"]

/-- `_REQUIRED_INPUT_FIELDS`. -/
def requiredInputFields : List String := "event_id" :: otherRequiredInputFields

/-! ## The checks -/

section Checks

/-- The membership test of the measurement name, and its measurement. -/
def requireMeasurement (v : Json F) : Except (TelemetryFailure F) Measurement := do
  let name ← Json.requireIn (Measurement.order.map Measurement.name)
    (.unsupportedMeasurementName v) v
  match Measurement.ofName? name with
  | some m => return m
  | none => throw (.rejected (.unsupportedMeasurementName v))

/-- `if unit != expected_unit: raise`. -/
def requireUnit (m : Measurement) (v : Json F) : Except (TelemetryFailure F) Unit :=
  if v.isStr m.canonicalUnit then .ok () else .error (.rejected (.unitMismatch m v))

/-- What is read off a message before its value. -/
structure TelemetrySubject where
  assetId : String
  timestamp : Datetime
  measurement : Measurement
  assetId_ne : assetId ≠ ""

/-- The checks of `validate_telemetry_event` before that of the value. -/
def requireSubject (raw : Json F) : Except (TelemetryFailure F) TelemetrySubject := do
  Json.requireFields .missingField raw requiredInputFields
  let eventVersion := raw.item "event_version"
  let _ ← Json.requireIn supportedInputEventVersions (.unsupportedEventVersion eventVersion)
    eventVersion
  let assetId ← Json.requireText .invalidAssetId (raw.item "asset_id")
  let timestamp ← Json.requireTimestamp (.malformedTimestamp (raw.item "timestamp"))
    (raw.item "timestamp")
  let measurement ← requireMeasurement (raw.item "measurement_name")
  requireUnit measurement (raw.item "unit")
  return ⟨assetId.val, timestamp, measurement, Json.ne_empty assetId⟩

variable [PyFloat F] [JsonText F]

/-- `validate_telemetry_event`. -/
def validateTelemetryEvent (raw : Json F) :
    Except (TelemetryFailure F) (TelemetryObservationEvent F) := do
  let subject ← requireSubject raw
  let reading := raw.item "value"
  let value ← Json.requireFiniteNumber (.nonFiniteValue subject.measurement reading)
    (fun x => .nonFiniteValue subject.measurement (.float x)) reading
  return {
    eventId := (raw.item "event_id").text
    assetId := subject.assetId
    timestamp := subject.timestamp
    measurement := subject.measurement
    value := value
    assetId_ne := subject.assetId_ne }

end Checks

/-! ## What the checks let through -/

/-- The subject is what the fields of the message say. -/
structure TelemetrySubject.ReadFrom (subject : TelemetrySubject) (raw : Json F) : Prop where
  isObj : ∃ fields, raw = .obj fields
  fields : ∀ name ∈ requiredInputFields, raw.item name ≠ .null
  eventVersion : raw.item "event_version" = .str "v1"
  assetId : raw.item "asset_id" = .str subject.assetId
  timestamp : (raw.item "timestamp").parseTimestamp? = some subject.timestamp
  measurement : raw.item "measurement_name" = .str subject.measurement.name
  unit : raw.item "unit" = .str subject.measurement.canonicalUnit

/-- The messages on which the validator raises something else than a rejection. -/
inductive Hazard (raw : Json F) : Prop
  /-- Neither a dict, nor a list or a string in which the first name is not found. -/
  | container (exception : PyException) (raises : raw.field "event_id" = .error exception)
  | eventVersion (isObj : ∃ fields, raw = .obj fields)
      (fields : ∀ name ∈ requiredInputFields, raw.item name ≠ .null)
      (unhashable : ¬ (raw.item "event_version").Hashable)
  | measurementName (isObj : ∃ fields, raw = .obj fields)
      (fields : ∀ name ∈ requiredInputFields, raw.item name ≠ .null)
      (version : raw.item "event_version" = .str "v1") (assetId : String) (nonempty : assetId ≠ "")
      (asset : raw.item "asset_id" = .str assetId) (t : Datetime)
      (timestamp : (raw.item "timestamp").parseTimestamp? = some t)
      (unhashable : ¬ (raw.item "measurement_name").Hashable)
  | value (subject : TelemetrySubject) (read : subject.ReadFrom raw)
      (oversized : (raw.item "value").Oversized)

section Steps

variable {raw v : Json F} {m : Measurement} {exception : PyException} {subject : TelemetrySubject}

/-- A name that is found is that of the measurement. -/
theorem Measurement.eq_of_ofName? {name : String} (h : Measurement.ofName? name = some m) :
    name = m.name := by
  have hfound := List.find?_some h
  exact (of_decide_eq_true hfound).symm

/-- A measurement is accepted exactly if it is the string of its name. -/
theorem requireMeasurement_eq_ok_iff : requireMeasurement v = .ok m ↔ v = .str m.name := by
  rw [requireMeasurement, Exceptions.bind_eq_ok]
  constructor
  · rintro ⟨name, hname, h⟩
    rw [(Json.requireIn_eq_ok_iff.mp hname).1]
    split at h
    next found hfound =>
      cases h
      rw [Measurement.eq_of_ofName? hfound]
    · exact nomatch h
  · rintro rfl
    -- every measurement has a name that is accepted
    have hmem : m.name ∈ Measurement.order.map Measurement.name := by
      cases m with
      | required m => cases m <;> decide
      | efficiency => decide
    refine ⟨_, Json.requireIn_eq_ok_iff.mpr ⟨rfl, hmem⟩, ?_⟩
    simp only [Measurement.ofName?_name]
    rfl

/-- What is neither accepted nor refused cannot be looked up in a dict. -/
theorem requireMeasurement_eq_raised_iff :
    requireMeasurement v = .error (.raised exception) ↔
      exception = .typeError ∧ ¬ v.Hashable := by
  rw [requireMeasurement, Exceptions.bind_eq_error, Json.requireIn_eq_raised_iff]
  refine or_iff_left ?_
  rintro ⟨name, -, h⟩
  split at h <;> exact nomatch h

/-- A unit is accepted exactly if it is the canonical one. -/
theorem requireUnit_eq_ok_iff {u : Unit} :
    requireUnit m v = .ok u ↔ v = .str m.canonicalUnit := by
  rw [requireUnit]
  cases v <;> simp [Json.isStr, eq_comm]

/-- The unit is compared, which never raises. -/
theorem requireUnit_ne_raised : requireUnit m v ≠ .error (.raised exception) := by
  rw [requireUnit]
  split_ifs <;> exact fun h => nomatch h

/-- The required fields are those of an object, none of them null. -/
theorem requireInputFields_iff :
    Json.requireFields (.missingField : String → TelemetryEventValidationError F) raw
        requiredInputFields = .ok () ↔
      (∃ fields, raw = .obj fields) ∧ ∀ name ∈ requiredInputFields, raw.item name ≠ .null :=
  Json.requireFields_eq_ok_iff

/-- The only version that is supported is v1. -/
theorem inputEventVersion_iff {version : String} :
    Json.requireIn supportedInputEventVersions
        (.unsupportedEventVersion (raw.item "event_version") : TelemetryEventValidationError F)
        (raw.item "event_version") = .ok version ↔
      raw.item "event_version" = .str "v1" ∧ version = "v1" :=
  Json.requireIn_singleton_iff

/-- A message whose subject is read. -/
theorem requireSubject_eq_ok_iff : requireSubject raw = .ok subject ↔ subject.ReadFrom raw := by
  constructor
  · intro h
    obtain ⟨⟨⟩, hfields, h⟩ := Exceptions.bind_eq_ok.mp h
    obtain ⟨hobj, hfields⟩ := requireInputFields_iff.mp hfields
    obtain ⟨version, hversion, h⟩ := Exceptions.bind_eq_ok.mp h
    obtain ⟨assetId, hasset, h⟩ := Exceptions.bind_eq_ok.mp h
    obtain ⟨timestamp, htime, h⟩ := Exceptions.bind_eq_ok.mp h
    obtain ⟨measurement, hmeasurement, h⟩ := Exceptions.bind_eq_ok.mp h
    obtain ⟨_, hunit, h⟩ := Exceptions.bind_eq_ok.mp h
    cases h
    -- each check that passed gives one field of the subject
    exact {
      isObj := hobj
      fields := hfields
      eventVersion := (inputEventVersion_iff.mp hversion).1
      assetId := Json.requireText_eq_ok_iff.mp hasset
      timestamp := Json.requireTimestamp_eq_ok_iff.mp htime
      measurement := requireMeasurement_eq_ok_iff.mp hmeasurement
      unit := requireUnit_eq_ok_iff.mp hunit }
  · rintro ⟨hobj, hfields, hversion, hasset, htime, hmeasurement, hunit⟩
    apply Exceptions.bind_eq_ok.mpr
    refine ⟨(), requireInputFields_iff.mpr ⟨hobj, hfields⟩, Exceptions.bind_eq_ok.mpr ?_⟩
    refine ⟨_, inputEventVersion_iff.mpr ⟨hversion, rfl⟩, Exceptions.bind_eq_ok.mpr ?_⟩
    refine ⟨⟨subject.assetId, subject.assetId_ne⟩, Json.requireText_eq_ok_iff.mpr hasset,
      Exceptions.bind_eq_ok.mpr ?_⟩
    refine ⟨_, Json.requireTimestamp_eq_ok_iff.mpr htime, Exceptions.bind_eq_ok.mpr ?_⟩
    refine ⟨_, requireMeasurement_eq_ok_iff.mpr hmeasurement, Exceptions.bind_eq_ok.mpr ?_⟩
    exact ⟨(), requireUnit_eq_ok_iff.mpr hunit, rfl⟩

end Steps

section Contract

variable [PyFloat F] [JsonText F] {raw : Json F}

/-- The messages that the validator neither accepts nor rejects. -/
theorem validate_raised_iff :
    (∃ exception, validateTelemetryEvent raw = .error (.raised exception)) ↔ Hazard raw := by
  constructor
  · rintro ⟨exception, h⟩
    -- the checks one after the other, as the validator makes them
    rcases Exceptions.bind_eq_error.mp h with h | ⟨subject, hsubject, h⟩
    · rcases Exceptions.bind_eq_error.mp h with h | ⟨⟨⟩, hfields, h⟩
      · exact .container exception (Json.requireFields_eq_raised_iff.mp h)
      obtain ⟨hobj, hfields⟩ := requireInputFields_iff.mp hfields
      rcases Exceptions.bind_eq_error.mp h with h | ⟨version, hversion, h⟩
      · exact .eventVersion hobj hfields (Json.requireIn_eq_raised_iff.mp h).2
      rcases Exceptions.bind_eq_error.mp h with h | ⟨assetId, hasset, h⟩
      -- what is no text or no timestamp is refused without raising
      · exact absurd h Json.requireText_ne_raised
      rcases Exceptions.bind_eq_error.mp h with h | ⟨timestamp, htime, h⟩
      · exact absurd h Json.requireTimestamp_ne_raised
      rcases Exceptions.bind_eq_error.mp h with h | ⟨measurement, -, h⟩
      · exact .measurementName hobj hfields (inputEventVersion_iff.mp hversion).1 assetId.val
          assetId.property (Json.requireText_eq_ok_iff.mp hasset) timestamp
          (Json.requireTimestamp_eq_ok_iff.mp htime) (requireMeasurement_eq_raised_iff.mp h).2
      -- the unit is compared, which never raises
      exact absurd h (Exceptions.bind_ne_error requireUnit_ne_raised fun _ _ h => nomatch h)
    · rcases Exceptions.bind_eq_error.mp h with h | ⟨_, -, h⟩
      · exact .value subject (requireSubject_eq_ok_iff.mp hsubject)
          (Json.requireFiniteNumber_eq_raised_iff.mp h).2
      · exact nomatch h
  · intro h
    -- conversely, each hazard passes the checks before its own
    cases h with
    | container exception raises =>
        exact ⟨exception, Exceptions.bind_eq_error.mpr (Or.inl (Exceptions.bind_eq_error.mpr
          (Or.inl (Json.requireFields_eq_raised_iff.mpr raises))))⟩
    | eventVersion hobj hfields unhashable =>
        refine ⟨.typeError, Exceptions.bind_eq_error.mpr (Or.inl
          (Exceptions.bind_eq_error.mpr (Or.inr ⟨(), ?_, ?_⟩)))⟩
        · exact requireInputFields_iff.mpr ⟨hobj, hfields⟩
        · exact Exceptions.bind_eq_error.mpr
            (Or.inl (Json.requireIn_eq_raised_iff.mpr ⟨rfl, unhashable⟩))
    | measurementName hobj hfields version assetId nonempty asset t timestamp unhashable =>
        refine ⟨.typeError, Exceptions.bind_eq_error.mpr (Or.inl
          (Exceptions.bind_eq_error.mpr (Or.inr ⟨(), ?_, ?_⟩)))⟩
        · exact requireInputFields_iff.mpr ⟨hobj, hfields⟩
        refine Exceptions.bind_eq_error.mpr
          (Or.inr ⟨_, inputEventVersion_iff.mpr ⟨version, rfl⟩, ?_⟩)
        refine Exceptions.bind_eq_error.mpr
          (Or.inr ⟨⟨assetId, nonempty⟩, Json.requireText_eq_ok_iff.mpr asset, ?_⟩)
        refine Exceptions.bind_eq_error.mpr
          (Or.inr ⟨t, Json.requireTimestamp_eq_ok_iff.mpr timestamp, ?_⟩)
        exact Exceptions.bind_eq_error.mpr
          (Or.inl (requireMeasurement_eq_raised_iff.mpr ⟨rfl, unhashable⟩))
    | value subject read oversized =>
        refine ⟨.overflowError, Exceptions.bind_eq_error.mpr (Or.inr
          ⟨subject, requireSubject_eq_ok_iff.mpr read, Exceptions.bind_eq_error.mpr (Or.inl ?_)⟩)⟩
        exact Json.requireFiniteNumber_eq_raised_iff.mpr ⟨rfl, oversized⟩

/-- The event of an accepted message is read off it. -/
theorem validate_eq_ok_iff {event : TelemetryObservationEvent F} :
    validateTelemetryEvent raw = .ok event ↔
      ∃ (subject : TelemetrySubject) (value : FiniteValue F), subject.ReadFrom raw ∧
        (raw.item "value").toFloat = .ok value.val ∧
        event = ⟨(raw.item "event_id").text, subject.assetId, subject.timestamp,
          subject.measurement, value, subject.assetId_ne⟩ := by
  constructor
  · intro h
    obtain ⟨subject, hsubject, h⟩ := Exceptions.bind_eq_ok.mp h
    obtain ⟨value, hvalue, h⟩ := Exceptions.bind_eq_ok.mp h
    cases h
    exact ⟨subject, value, requireSubject_eq_ok_iff.mp hsubject,
      Json.requireFiniteNumber_eq_ok_iff.mp hvalue, rfl⟩
  · rintro ⟨subject, value, hread, hvalue, rfl⟩
    apply Exceptions.bind_eq_ok.mpr
    refine ⟨subject, requireSubject_eq_ok_iff.mpr hread, Exceptions.bind_eq_ok.mpr ?_⟩
    exact ⟨value, Json.requireFiniteNumber_eq_ok_iff.mpr hvalue, rfl⟩

end Contract

end Odis.InferenceWorker
