import Odis.Library.Exceptions
import Odis.Python.Validation
import Odis.ReasoningBridge.Service

/-!
# The input contract of the bridge

`validate_alert_transition` (`reasoning_bridge/input_events.py`) turns a decoded message into a
`ValidatedAlertTransition` or rejects it. Its checks take for granted that the message is a dict,
that what they look for in a set has a hash, and that an integer has a nearest `float`; where that
fails, what is raised is not a rejection.

* `validate_raised_iff`: the messages that the validator neither accepts nor rejects.
* `validate_eq_ok_iff`: what the accepted messages are read as.
-/

namespace Odis.ReasoningBridge

open Inference

variable {F : Type}

/-- `AlertTransitionValidationError`. -/
inductive AlertTransitionValidationError (F : Type) where
  | missingField (name : String)
  | unsupportedEventVersion (eventVersion : Json F)
  | unsupportedTransitionType (transitionType : Json F)
  | malformedTimestamp (raw : Json F)
  | malformedScores (detail : String)
  | healthyClassRejected
  | malformedState (transitionType fromState toState : String)

/-- What `validate_alert_transition` raises. -/
abbrev AlertTransitionFailure (F : Type) : Type :=
  ValidationFailure (AlertTransitionValidationError F)

/-- `SUPPORTED_INPUT_EVENT_VERSIONS`. -/
def supportedInputEventVersions : List String := ["v1"]

/-- The transition types, `SUPPORTED_TRANSITION_TYPES`. -/
def AlertTransitionType.all : List AlertTransitionType := [confirmed, classChanged, cleared]

/-- The transition type with a given name. -/
def AlertTransitionType.ofName? (s : String) : Option AlertTransitionType :=
  all.find? fun transitionType => transitionType.value = s

/-- `_CONFIRMED_PREFIX`. -/
def confirmedPrefix : String := "confirmed_"

/-- The required fields of the message after the first, `_REQUIRED_FIELDS`. -/
def otherRequiredFields : List String :=
  ["event_version", "asset_id", "source_timestamp", "transition_type", "from_state", "to_state",
    "diagnosed_class", "evidence", "model_system_version", "model_hash", "policy_hash",
    "feature_schema_version", "class_scores", "maximum_score"]

/-- `_REQUIRED_FIELDS`. -/
def requiredFields : List String := "event_id" :: otherRequiredFields

/-! ## The checks -/

section Checks

/-- The fault class that a state names. -/
abbrev SubjectClass (transitionType : AlertTransitionType) (fromState toState : String) : Type :=
  { faultClass : String //
    (if transitionType = .cleared then fromState else toState) = "confirmed_" ++ faultClass ∧
      faultClass ≠ "" ∧ faultClass ≠ "healthy" }

/-- What follows the prefix of a state, if it starts with it. -/
def afterPrefix? (state : String) : Option { rest : String // state = confirmedPrefix ++ rest } :=
  if h : confirmedPrefix.toList <+: state.toList then
    some ⟨String.ofList (state.toList.drop confirmedPrefix.toList.length), by
      apply String.ext
      rw [String.toList_append, String.toList_ofList]
      exact (List.prefix_iff_eq_append.mp h).symm⟩
  else none

/-- `_extract_fault_class`, and the rejection of `healthy`. -/
def requireFaultClass (transitionType : AlertTransitionType) (fromState toState : String) :
    Except (AlertTransitionFailure F) (SubjectClass transitionType fromState toState) :=
  let malformed := .malformedState transitionType.value fromState toState
  match afterPrefix? (if transitionType = .cleared then fromState else toState) with
  | none => .error (.rejected malformed)
  | some ⟨faultClass, hstate⟩ =>
      if hne : faultClass = "" then .error (.rejected malformed)
      else if hhealthy : faultClass = "healthy" then .error (.rejected .healthyClassRejected)
      else .ok ⟨faultClass, hstate, hne, hhealthy⟩

/-- `if not isinstance(evidence, list): raise`. -/
def requireEvidence (v : Json F) : Except (AlertTransitionFailure F) (List (Json F)) :=
  match v with
  | .arr items => .ok items
  | _ => .error (.rejected (.malformedScores "evidence must be a list"))

/-- The membership test of the transition type. -/
def requireTransitionType (v : Json F) : Except (AlertTransitionFailure F) AlertTransitionType := do
  let name ← Json.requireIn (AlertTransitionType.all.map AlertTransitionType.value)
    (.unsupportedTransitionType v) v
  match AlertTransitionType.ofName? name with
  | some transitionType => return transitionType
  | none => throw (.rejected (.unsupportedTransitionType v))

/-- What is read off a message before its scores. -/
structure AlertSubject (F : Type) where
  transitionType : AlertTransitionType
  assetId : String
  sourceTimestamp : Datetime
  fromState : String
  toState : String
  faultClass : String
  evidenceItems : List (Json F)
  assetId_ne : assetId ≠ ""
  state_eq : (if transitionType = .cleared then fromState else toState) = "confirmed_" ++ faultClass
  faultClass_ne : faultClass ≠ ""
  faultClass_ne_healthy : faultClass ≠ "healthy"

/-- The checks of `validate_alert_transition` before those of the scores. -/
def requireSubject [JsonText F] (raw : Json F) :
    Except (AlertTransitionFailure F) (AlertSubject F) := do
  Json.requireFields .missingField raw requiredFields
  let eventVersion := raw.item "event_version"
  let _ ← Json.requireIn supportedInputEventVersions (.unsupportedEventVersion eventVersion)
    eventVersion
  let transitionType ← requireTransitionType (raw.item "transition_type")
  let assetId ← Json.requireText (.missingField "asset_id") (raw.item "asset_id")
  let timestamp := raw.item "source_timestamp"
  let sourceTimestamp ← Json.requireTimestamp (.malformedTimestamp timestamp) timestamp
  let fromState := (raw.item "from_state").text
  let toState := (raw.item "to_state").text
  let faultClass ← requireFaultClass transitionType fromState toState
  let evidenceItems ← requireEvidence (raw.item "evidence")
  return {
    transitionType := transitionType
    assetId := assetId.val
    sourceTimestamp := sourceTimestamp
    fromState := fromState
    toState := toState
    faultClass := faultClass.val
    evidenceItems := evidenceItems
    assetId_ne := Json.ne_empty assetId
    state_eq := faultClass.property.1
    faultClass_ne := faultClass.property.2.1
    faultClass_ne_healthy := faultClass.property.2.2 }

variable [PyFloat F]

/-- A round of the loop over the values of `class_scores`. -/
def requireScore (score : String × Json F) :
    Except (AlertTransitionFailure F) (String × FiniteValue F) := do
  let x ← Json.requireFiniteNumber
    (.malformedScores "class_scores values must be numeric")
    (fun _ => .malformedScores "class_scores values must be finite") score.2
  return (score.1, x)

/-- The checks of `class_scores`. -/
def requireClassScores (v : Json F) :
    Except (AlertTransitionFailure F) { scores : List (String × FiniteValue F) // scores ≠ [] } :=
  match v with
  | .obj (first :: rest) => do
      let score ← requireScore first
      let scores ← rest.mapM requireScore
      return ⟨score :: scores, List.cons_ne_nil _ _⟩
  | _ => .error (.rejected (.malformedScores "class_scores must be a non-empty object"))

/-- The checks of `maximum_score`. -/
def requireMaximumScore (v : Json F) :
    Except (AlertTransitionFailure F) { x : FiniteValue F // InUnitInterval x.val } := do
  let outside := .malformedScores "maximum_score must be finite and in [0.0, 1.0]"
  let x ← Json.requireFiniteNumber (.malformedScores "maximum_score must be numeric")
    (fun _ => outside) v
  if h : InUnitInterval x.val then return ⟨x, h⟩ else throw (.rejected outside)

variable [JsonText F]

/-- The event of a message whose checks are passed. The names of the scores are strings already. -/
def AlertSubject.transition (subject : AlertSubject F) (raw : Json F)
    (classScores : { scores : List (String × FiniteValue F) // scores ≠ [] })
    (maximumScore : { x : FiniteValue F // InUnitInterval x.val }) :
    ValidatedAlertTransition F (Json F) where
  eventId := (raw.item "event_id").text
  assetId := subject.assetId
  sourceTimestamp := subject.sourceTimestamp
  transitionType := subject.transitionType
  fromState := subject.fromState
  toState := subject.toState
  faultClass := subject.faultClass
  diagnosedClass := (raw.item "diagnosed_class").text
  evidenceItems := subject.evidenceItems
  modelSystemVersion := (raw.item "model_system_version").text
  modelHash := (raw.item "model_hash").text
  policyHash := (raw.item "policy_hash").text
  featureSchemaVersion := (raw.item "feature_schema_version").text
  classScores := classScores.val.map fun score => (score.1, score.2.val)
  maximumScore := maximumScore.val.val
  assetId_ne := subject.assetId_ne
  state_eq := subject.state_eq
  faultClass_ne := subject.faultClass_ne
  faultClass_ne_healthy := subject.faultClass_ne_healthy
  classScores_ne := fun h => classScores.property (List.map_eq_nil_iff.mp h)
  classScores_finite := fun score hscore => by
    obtain ⟨finite, _, rfl⟩ := List.mem_map.mp hscore
    exact finite.2.property
  maximumScore_finite := maximumScore.val.property
  maximumScore_range := maximumScore.property

/-- `validate_alert_transition`. -/
def validateAlertTransition (raw : Json F) :
    Except (AlertTransitionFailure F) (ValidatedAlertTransition F (Json F)) := do
  let subject ← requireSubject raw
  let classScores ← requireClassScores (raw.item "class_scores")
  let maximumScore ← requireMaximumScore (raw.item "maximum_score")
  return subject.transition raw classScores maximumScore

end Checks

/-! ## What each check lets through -/

section Steps

variable {raw v : Json F} {transitionType : AlertTransitionType} {fromState toState : String}
  {exception : PyException}

/-- A type is found by its name. -/
theorem AlertTransitionType.ofName?_value (transitionType : AlertTransitionType) :
    ofName? transitionType.value = some transitionType := by
  cases transitionType <;> decide

/-- Its name is one of the supported ones. -/
theorem AlertTransitionType.value_mem (transitionType : AlertTransitionType) :
    transitionType.value ∈ all.map value := by
  cases transitionType <;> decide

/-- A name that is found is that of the type. -/
theorem AlertTransitionType.eq_of_ofName? {name : String} (h : ofName? name = some transitionType) :
    name = transitionType.value := by
  have hfound := List.find?_some h
  exact (of_decide_eq_true hfound).symm

/-- A type is accepted exactly if it is the string of its name. -/
theorem requireTransitionType_eq_ok_iff :
    requireTransitionType v = .ok transitionType ↔ v = .str transitionType.value := by
  rw [requireTransitionType, Exceptions.bind_eq_ok]
  constructor
  · rintro ⟨name, hname, h⟩
    rw [(Json.requireIn_eq_ok_iff.mp hname).1]
    split at h
    next found hfound =>
      cases h
      rw [AlertTransitionType.eq_of_ofName? hfound]
    · exact nomatch h
  · rintro rfl
    refine ⟨_, Json.requireIn_eq_ok_iff.mpr ⟨rfl, transitionType.value_mem⟩, ?_⟩
    simp only [transitionType.ofName?_value]
    rfl

/-- What is neither accepted nor refused cannot be hashed. -/
theorem requireTransitionType_eq_raised_iff :
    requireTransitionType v = .error (.raised exception) ↔
      exception = .typeError ∧ ¬ v.Hashable := by
  rw [requireTransitionType, Exceptions.bind_eq_error, Json.requireIn_eq_raised_iff]
  refine or_iff_left ?_
  rintro ⟨name, -, h⟩
  split at h <;> exact nomatch h

/-- What follows the prefix is found. -/
theorem afterPrefix?_eq_some {state : String}
    (found : { rest : String // state = confirmedPrefix ++ rest }) :
    afterPrefix? state = some found := by
  have hprefix : confirmedPrefix.toList <+: state.toList := by
    rw [found.property, String.toList_append]
    exact List.prefix_append _ _
  rw [afterPrefix?, dif_pos hprefix, Option.some.injEq, Subtype.ext_iff]
  apply (String.append_right_inj confirmedPrefix).mp
  rw [← found.property]
  exact (Subtype.property (p := fun rest => state = confirmedPrefix ++ rest) _).symm

/-- The fault class that the state names is read. -/
theorem requireFaultClass_eq_ok (faultClass : SubjectClass transitionType fromState toState) :
    (requireFaultClass transitionType fromState toState :
      Except (AlertTransitionFailure F) _) = .ok faultClass := by
  obtain ⟨name, hstate, hne, hhealthy⟩ := faultClass
  simp only [requireFaultClass, afterPrefix?_eq_some ⟨name, hstate⟩, dif_neg hne, dif_neg hhealthy]

/-- A fault class is read off the states or refused. -/
theorem requireFaultClass_ne_raised :
    (requireFaultClass transitionType fromState toState :
      Except (AlertTransitionFailure F) _) ≠ .error (.raised exception) := by
  rw [requireFaultClass]
  split
  · exact fun h => nomatch h
  · split_ifs <;> exact fun h => nomatch h

/-- Evidence is accepted exactly if it is a list. -/
theorem requireEvidence_eq_ok_iff {items : List (Json F)} :
    requireEvidence v = .ok items ↔ v = .arr items := by
  cases v <;> simp [requireEvidence]

/-- It is accepted or refused. -/
theorem requireEvidence_ne_raised : requireEvidence v ≠ .error (.raised exception) := by
  cases v <;> simp [requireEvidence]

end Steps

/-! ## The subject -/

/-- The subject is what the fields of the message say. -/
structure AlertSubject.ReadFrom [JsonText F] (subject : AlertSubject F) (raw : Json F) : Prop where
  isObj : ∃ fields, raw = .obj fields
  fields : ∀ name ∈ requiredFields, raw.item name ≠ .null
  eventVersion : raw.item "event_version" = .str "v1"
  transitionType : raw.item "transition_type" = .str subject.transitionType.value
  assetId : raw.item "asset_id" = .str subject.assetId
  sourceTimestamp : (raw.item "source_timestamp").parseTimestamp? = some subject.sourceTimestamp
  fromState : (raw.item "from_state").text = subject.fromState
  toState : (raw.item "to_state").text = subject.toState
  evidence : raw.item "evidence" = .arr subject.evidenceItems

/-- The messages on which a lookup or a membership test raises before the scores are looked at. -/
inductive SubjectHazard (raw : Json F) : Prop
  /-- Neither a dict, nor a list or a string in which the first name is not found. -/
  | container (exception : PyException) (raises : raw.field "event_id" = .error exception)
  | eventVersion (isObj : ∃ fields, raw = .obj fields)
      (fields : ∀ name ∈ requiredFields, raw.item name ≠ .null)
      (unhashable : ¬ (raw.item "event_version").Hashable)
  | transitionType (isObj : ∃ fields, raw = .obj fields)
      (fields : ∀ name ∈ requiredFields, raw.item name ≠ .null)
      (version : raw.item "event_version" = .str "v1")
      (unhashable : ¬ (raw.item "transition_type").Hashable)

section Subject

variable [JsonText F] {raw : Json F} {subject : AlertSubject F} {exception : PyException}

omit [JsonText F] in
/-- The required fields are those of an object, none of them null. -/
theorem requireFields_iff :
    Json.requireFields (.missingField : String → AlertTransitionValidationError F) raw
        requiredFields = .ok () ↔
      (∃ fields, raw = .obj fields) ∧ ∀ name ∈ requiredFields, raw.item name ≠ .null :=
  Json.requireFields_eq_ok_iff

omit [JsonText F] in
/-- The only version that is supported is v1. -/
theorem eventVersion_iff {version : String} :
    Json.requireIn supportedInputEventVersions
        (.unsupportedEventVersion (raw.item "event_version") : AlertTransitionValidationError F)
        (raw.item "event_version") = .ok version ↔
      raw.item "event_version" = .str "v1" ∧ version = "v1" :=
  Json.requireIn_singleton_iff

/-- A message whose subject is read. -/
theorem requireSubject_eq_ok_iff : requireSubject raw = .ok subject ↔ subject.ReadFrom raw := by
  constructor
  · intro h
    obtain ⟨⟨⟩, hfields, h⟩ := Exceptions.bind_eq_ok.mp h
    obtain ⟨hobj, hfields⟩ := requireFields_iff.mp hfields
    obtain ⟨version, hversion, h⟩ := Exceptions.bind_eq_ok.mp h
    obtain ⟨transitionType, htype, h⟩ := Exceptions.bind_eq_ok.mp h
    obtain ⟨assetId, hasset, h⟩ := Exceptions.bind_eq_ok.mp h
    obtain ⟨sourceTimestamp, htime, h⟩ := Exceptions.bind_eq_ok.mp h
    obtain ⟨faultClass, -, h⟩ := Exceptions.bind_eq_ok.mp h
    obtain ⟨evidence, hevidence, h⟩ := Exceptions.bind_eq_ok.mp h
    cases h
    -- each check that passed gives one field of the subject
    exact {
      isObj := hobj
      fields := hfields
      eventVersion := (eventVersion_iff.mp hversion).1
      transitionType := requireTransitionType_eq_ok_iff.mp htype
      assetId := Json.requireText_eq_ok_iff.mp hasset
      sourceTimestamp := Json.requireTimestamp_eq_ok_iff.mp htime
      fromState := rfl
      toState := rfl
      evidence := requireEvidence_eq_ok_iff.mp hevidence }
  · intro h
    obtain ⟨transitionType, assetId, sourceTimestamp, fromState, toState, faultClass, evidence,
      hasset, hstate, hne, hhealthy⟩ := subject
    obtain ⟨hobj, hfields, hversion, htype, hassetId, htime, rfl, rfl, hevidence⟩ := h
    apply Exceptions.bind_eq_ok.mpr
    refine ⟨(), requireFields_iff.mpr ⟨hobj, hfields⟩, Exceptions.bind_eq_ok.mpr ?_⟩
    refine ⟨_, eventVersion_iff.mpr ⟨hversion, rfl⟩, Exceptions.bind_eq_ok.mpr ?_⟩
    refine ⟨_, requireTransitionType_eq_ok_iff.mpr htype, Exceptions.bind_eq_ok.mpr ?_⟩
    refine ⟨⟨assetId, hasset⟩, Json.requireText_eq_ok_iff.mpr hassetId,
      Exceptions.bind_eq_ok.mpr ?_⟩
    refine ⟨_, Json.requireTimestamp_eq_ok_iff.mpr htime, Exceptions.bind_eq_ok.mpr ?_⟩
    refine ⟨_, requireFaultClass_eq_ok ⟨faultClass, hstate, hne, hhealthy⟩,
      Exceptions.bind_eq_ok.mpr ?_⟩
    exact ⟨_, requireEvidence_eq_ok_iff.mpr hevidence, rfl⟩

/-- What the checks before the scores do not expect. -/
theorem requireSubject_eq_raised_iff :
    (∃ exception, requireSubject raw = .error (.raised exception)) ↔ SubjectHazard raw := by
  constructor
  · rintro ⟨exception, h⟩
    rcases Exceptions.bind_eq_error.mp h with h | ⟨⟨⟩, hfields, h⟩
    · exact .container exception (Json.requireFields_eq_raised_iff.mp h)
    obtain ⟨hobj, hfields⟩ := requireFields_iff.mp hfields
    rcases Exceptions.bind_eq_error.mp h with h | ⟨version, hversion, h⟩
    · exact .eventVersion hobj hfields (Json.requireIn_eq_raised_iff.mp h).2
    rcases Exceptions.bind_eq_error.mp h with h | ⟨transitionType, -, h⟩
    · exact .transitionType hobj hfields (eventVersion_iff.mp hversion).1
        (requireTransitionType_eq_raised_iff.mp h).2
    -- none of the later checks raises anything but a rejection
    refine absurd h (Exceptions.bind_ne_error Json.requireText_ne_raised fun _ _ => ?_)
    refine Exceptions.bind_ne_error Json.requireTimestamp_ne_raised fun _ _ => ?_
    refine Exceptions.bind_ne_error requireFaultClass_ne_raised fun _ _ => ?_
    refine Exceptions.bind_ne_error requireEvidence_ne_raised fun _ _ => ?_
    rintro ⟨⟩
  · intro h
    -- conversely, each hazard passes the checks before its own
    cases h with
    | container exception raises =>
        exact ⟨exception, Exceptions.bind_eq_error.mpr
          (Or.inl (Json.requireFields_eq_raised_iff.mpr raises))⟩
    | eventVersion hobj hfields unhashable =>
        refine ⟨.typeError, Exceptions.bind_eq_error.mpr (Or.inr ⟨(), ?_, ?_⟩)⟩
        · exact requireFields_iff.mpr ⟨hobj, hfields⟩
        · exact Exceptions.bind_eq_error.mpr
            (Or.inl (Json.requireIn_eq_raised_iff.mpr ⟨rfl, unhashable⟩))
    | transitionType hobj hfields version unhashable =>
        refine ⟨.typeError, Exceptions.bind_eq_error.mpr (Or.inr ⟨(), ?_, ?_⟩)⟩
        · exact requireFields_iff.mpr ⟨hobj, hfields⟩
        · refine Exceptions.bind_eq_error.mpr (Or.inr ⟨_, eventVersion_iff.mpr ⟨version, rfl⟩, ?_⟩)
          exact Exceptions.bind_eq_error.mpr
            (Or.inl (requireTransitionType_eq_raised_iff.mpr ⟨rfl, unhashable⟩))

end Subject

/-! ## The scores -/

section Scores

variable [PyFloat F] {v : Json F} {exception : PyException}

/-- A score is read under its name, if it is a number. -/
theorem requireScore_eq_ok_iff {score : String × Json F} {result : String × FiniteValue F} :
    requireScore score = .ok result ↔
      score.1 = result.1 ∧ score.2.toFloat = .ok result.2.val := by
  rw [requireScore, Exceptions.bind_eq_ok]
  constructor
  · rintro ⟨x, hx, h⟩
    cases h
    exact ⟨rfl, Json.requireFiniteNumber_eq_ok_iff.mp hx⟩
  · rintro ⟨hname, hfloat⟩
    refine ⟨result.2, Json.requireFiniteNumber_eq_ok_iff.mpr hfloat, ?_⟩
    rw [hname]
    rfl

/-- Reading a score raises only on a number that is too large. -/
theorem requireScore_eq_raised_iff {score : String × Json F} :
    requireScore score = .error (.raised exception) ↔
      exception = .overflowError ∧ score.2.Oversized := by
  rw [requireScore, Exceptions.bind_eq_error, Json.requireFiniteNumber_eq_raised_iff]
  exact or_iff_left fun ⟨_, _, h⟩ => nomatch h

/-- A score is read exactly if it is a finite number. -/
theorem finiteNumber_iff_requireScore {score : String × Json F} :
    score.2.FiniteNumber ↔ ∃ result, requireScore score = .ok result := by
  constructor
  · rintro ⟨x, hfloat, hfinite⟩
    exact ⟨(score.1, ⟨x, hfinite⟩), requireScore_eq_ok_iff.mpr ⟨rfl, hfloat⟩⟩
  · rintro ⟨result, hresult⟩
    exact ⟨result.2.val, (requireScore_eq_ok_iff.mp hresult).2, result.2.property⟩

/-- The scores of a message, read in order. -/
theorem requireClassScores_eq_ok_iff
    {scores : { scores : List (String × FiniteValue F) // scores ≠ [] }} :
    requireClassScores v = .ok scores ↔
      ∃ fields, v = .obj fields ∧ List.Forall₂ (fun field score =>
        field.1 = score.1 ∧ field.2.toFloat = .ok score.2.val) fields scores.val := by
  simp only [← requireScore_eq_ok_iff, ← Exceptions.mapM_eq_ok_iff]
  cases v with
  | obj fields =>
      cases fields with
      | nil =>
          refine iff_of_false (fun h => nomatch h) ?_
          rintro ⟨fields, hobj, hscores⟩
          cases hobj
          exact scores.property (Except.ok.inj hscores).symm
      -- the scores are read one after the other, the first one apart since there must be one
      | cons first rest =>
          constructor
          · intro h
            obtain ⟨score, hscore, h⟩ := Exceptions.bind_eq_ok.mp h
            obtain ⟨others, hothers, h⟩ := Exceptions.bind_eq_ok.mp h
            cases h
            exact ⟨_, rfl, Exceptions.mapM_eq_ok_cons.mpr ⟨score, others, hscore, hothers, rfl⟩⟩
          · rintro ⟨fields, hobj, hscores⟩
            cases hobj
            obtain ⟨score, others, hscore, hothers, heq⟩ := Exceptions.mapM_eq_ok_cons.mp hscores
            refine Exceptions.bind_eq_ok.mpr ⟨score, hscore, ?_⟩
            refine Exceptions.bind_eq_ok.mpr ⟨others, hothers, ?_⟩
            exact congrArg Except.ok (Subtype.ext heq.symm)
  | _ =>
      refine iff_of_false (fun h => nomatch h) ?_
      rintro ⟨fields, hobj, -⟩
      exact nomatch hobj

/-- The scores that get past their checks. -/
theorem exists_requireClassScores_iff :
    (∃ scores, requireClassScores v = .ok scores) ↔
      ∃ fields, v = .obj fields ∧ fields ≠ [] ∧ ∀ field ∈ fields, field.2.FiniteNumber := by
  constructor
  · rintro ⟨scores, h⟩
    obtain ⟨fields, rfl, hscores⟩ := requireClassScores_eq_ok_iff.mp h
    refine ⟨fields, rfl, ?_, ?_⟩
    · rintro rfl
      exact scores.property (List.forall₂_nil_left_iff.mp hscores)
    -- every score is accepted on its own
    · simp only [← requireScore_eq_ok_iff, ← Exceptions.mapM_eq_ok_iff] at hscores
      simp only [finiteNumber_iff_requireScore]
      exact Exceptions.exists_mapM_eq_ok_iff.mp ⟨_, hscores⟩
  · rintro ⟨fields, rfl, hne, hfinite⟩
    simp only [finiteNumber_iff_requireScore] at hfinite
    obtain ⟨scores, hscores⟩ := Exceptions.exists_mapM_eq_ok_iff.mpr hfinite
    have hscores := Exceptions.mapM_eq_ok_iff.mp hscores
    simp only [requireScore_eq_ok_iff] at hscores
    refine ⟨⟨scores, ?_⟩, requireClassScores_eq_ok_iff.mpr ⟨fields, rfl, hscores⟩⟩
    rintro rfl
    exact hne (List.forall₂_nil_right_iff.mp hscores)

/-- The loop raises on an integer too large, after scores that are fine. -/
theorem requireClassScores_eq_raised_iff :
    requireClassScores v = .error (.raised exception) ↔
      exception = .overflowError ∧ ∃ before field after, v = .obj (before ++ field :: after) ∧
        (∀ earlier ∈ before, earlier.2.FiniteNumber) ∧ field.2.Oversized := by
  cases v with
  | obj fields =>
      -- nothing but the loop over the scores raises
      have hloop : requireClassScores (.obj fields) = .error (.raised exception) ↔
          fields.mapM requireScore = .error (.raised exception) := by
        cases fields with
        | nil => simp [requireClassScores, pure, Except.pure]
        | cons first rest =>
            rw [requireClassScores, List.mapM_cons, Exceptions.bind_eq_error,
              Exceptions.bind_eq_error]
            simp only [Exceptions.bind_eq_error, pure, Except.pure, reduceCtorEq, and_false,
              exists_false, or_false]
      rw [hloop, Exceptions.mapM_eq_error_iff]
      simp only [requireScore_eq_raised_iff, ← finiteNumber_iff_requireScore, Json.obj.injEq]
      constructor
      · rintro ⟨before, field, after, hfields, hbefore, rfl, hfield⟩
        exact ⟨rfl, before, field, after, hfields, hbefore, hfield⟩
      · rintro ⟨rfl, before, field, after, hfields, hbefore, hfield⟩
        exact ⟨before, field, after, hfields, hbefore, rfl, hfield⟩
  | _ => simp [requireClassScores]

/-- The maximum score is read as it is. -/
theorem requireMaximumScore_eq_ok_iff {x : { x : FiniteValue F // InUnitInterval x.val }} :
    requireMaximumScore v = .ok x ↔ v.toFloat = .ok x.val.val := by
  rw [requireMaximumScore, Exceptions.bind_eq_ok]
  constructor
  · rintro ⟨y, hy, h⟩
    split_ifs at h
    cases h
    exact Json.requireFiniteNumber_eq_ok_iff.mp hy
  · intro h
    refine ⟨x.val, Json.requireFiniteNumber_eq_ok_iff.mpr h, ?_⟩
    rw [dif_pos x.property]
    rfl

/-- Reading it raises only on a number that is too large. -/
theorem requireMaximumScore_eq_raised_iff :
    requireMaximumScore v = .error (.raised exception) ↔
      exception = .overflowError ∧ v.Oversized := by
  rw [requireMaximumScore, Exceptions.bind_eq_error, Json.requireFiniteNumber_eq_raised_iff]
  refine or_iff_left ?_
  rintro ⟨x, -, h⟩
  split_ifs at h <;> exact nomatch h

end Scores

/-! ## The contract -/

/-- The scores of a message pass their checks. -/
structure Scored [PyFloat F] (raw : Json F) : Prop where
  classScores : ∃ fields, raw.item "class_scores" = .obj fields ∧ fields ≠ [] ∧
    ∀ field ∈ fields, field.2.FiniteNumber
  maximumScore : ∃ x, (raw.item "maximum_score").toFloat = .ok x ∧ PyFloat.isfinite x = true ∧
    InUnitInterval x

/-- The messages on which the validator raises something else than a rejection. -/
inductive Hazard [PyFloat F] [JsonText F] (raw : Json F) : Prop
  | subject (hazard : SubjectHazard raw)
  /-- An integer too large for a `float`, after scores that are fine. -/
  | classScore (subject : AlertSubject F) (read : subject.ReadFrom raw)
      (before : List (String × Json F)) (field : String × Json F) (after : List (String × Json F))
      (scores : raw.item "class_scores" = .obj (before ++ field :: after))
      (finite : ∀ earlier ∈ before, earlier.2.FiniteNumber) (oversized : field.2.Oversized)
  | maximumScore (subject : AlertSubject F) (read : subject.ReadFrom raw)
      (fields : List (String × Json F)) (scores : raw.item "class_scores" = .obj fields)
      (nonempty : fields ≠ []) (finite : ∀ field ∈ fields, field.2.FiniteNumber)
      (oversized : (raw.item "maximum_score").Oversized)

section Contract

variable [PyFloat F] [JsonText F] {raw : Json F}

/-- The messages that the validator neither accepts nor rejects. -/
theorem validate_raised_iff :
    (∃ exception, validateAlertTransition raw = .error (.raised exception)) ↔ Hazard raw := by
  constructor
  · rintro ⟨exception, h⟩
    rcases Exceptions.bind_eq_error.mp h with h | ⟨subject, hsubject, h⟩
    · exact .subject (requireSubject_eq_raised_iff.mp ⟨exception, h⟩)
    have hread := requireSubject_eq_ok_iff.mp hsubject
    rcases Exceptions.bind_eq_error.mp h with h | ⟨scores, hscores, h⟩
    · obtain ⟨-, before, field, after, hobj, hbefore, hfield⟩ :=
        requireClassScores_eq_raised_iff.mp h
      -- the subject is read, so what raises are the scores or their maximum
      exact .classScore subject hread before field after hobj hbefore hfield
    obtain ⟨fields, hobj, hne, hfinite⟩ := exists_requireClassScores_iff.mp ⟨scores, hscores⟩
    rcases Exceptions.bind_eq_error.mp h with h | ⟨_, -, h⟩
    · exact .maximumScore subject hread fields hobj hne hfinite
        (requireMaximumScore_eq_raised_iff.mp h).2
    · exact nomatch h
  · intro h
    cases h with
    | subject hazard =>
        obtain ⟨exception, h⟩ := requireSubject_eq_raised_iff.mpr hazard
        exact ⟨exception, Exceptions.bind_eq_error.mpr (Or.inl h)⟩
    | classScore subject read before field after scores finite oversized =>
        refine ⟨.overflowError, Exceptions.bind_eq_error.mpr (Or.inr
          ⟨subject, requireSubject_eq_ok_iff.mpr read, Exceptions.bind_eq_error.mpr (Or.inl ?_)⟩)⟩
        exact requireClassScores_eq_raised_iff.mpr
          ⟨rfl, before, field, after, scores, finite, oversized⟩
    | maximumScore subject read fields scores nonempty finite oversized =>
        obtain ⟨checked, hchecked⟩ :=
          exists_requireClassScores_iff.mpr ⟨fields, scores, nonempty, finite⟩
        refine ⟨.overflowError, Exceptions.bind_eq_error.mpr (Or.inr
          ⟨subject, requireSubject_eq_ok_iff.mpr read, Exceptions.bind_eq_error.mpr (Or.inr
            ⟨checked, hchecked, Exceptions.bind_eq_error.mpr (Or.inl ?_)⟩)⟩)⟩
        exact requireMaximumScore_eq_raised_iff.mpr ⟨rfl, oversized⟩

/-- The event of an accepted message is read off it. -/
theorem validate_eq_ok_iff {event : ValidatedAlertTransition F (Json F)} :
    validateAlertTransition raw = .ok event ↔
      ∃ (subject : AlertSubject F)
        (classScores : { scores : List (String × FiniteValue F) // scores ≠ [] })
        (maximumScore : { x : FiniteValue F // InUnitInterval x.val }),
        subject.ReadFrom raw ∧ requireClassScores (raw.item "class_scores") = .ok classScores ∧
          requireMaximumScore (raw.item "maximum_score") = .ok maximumScore ∧
          event = subject.transition raw classScores maximumScore := by
  constructor
  · intro h
    obtain ⟨subject, hsubject, h⟩ := Exceptions.bind_eq_ok.mp h
    obtain ⟨classScores, hscores, h⟩ := Exceptions.bind_eq_ok.mp h
    obtain ⟨maximumScore, hmaximum, h⟩ := Exceptions.bind_eq_ok.mp h
    cases h
    exact ⟨subject, classScores, maximumScore, requireSubject_eq_ok_iff.mp hsubject, hscores,
      hmaximum, rfl⟩
  · rintro ⟨subject, classScores, maximumScore, hread, hscores, hmaximum, rfl⟩
    apply Exceptions.bind_eq_ok.mpr
    refine ⟨subject, requireSubject_eq_ok_iff.mpr hread, Exceptions.bind_eq_ok.mpr ?_⟩
    refine ⟨classScores, hscores, Exceptions.bind_eq_ok.mpr ?_⟩
    exact ⟨maximumScore, hmaximum, rfl⟩

/-- A message that reads as a subject and whose scores are fine is accepted. -/
theorem exists_validate_of_read {subject : AlertSubject F} (hread : subject.ReadFrom raw)
    (hscored : Scored raw) :
    ∃ classScores maximumScore,
      validateAlertTransition raw = .ok (subject.transition raw classScores maximumScore) := by
  obtain ⟨classScores, hscores⟩ := exists_requireClassScores_iff.mpr hscored.classScores
  obtain ⟨x, hfloat, hfinite, hrange⟩ := hscored.maximumScore
  exact ⟨classScores, ⟨⟨x, hfinite⟩, hrange⟩, validate_eq_ok_iff.mpr ⟨subject, _, _, hread, hscores,
    requireMaximumScore_eq_ok_iff.mpr hfloat, rfl⟩⟩

/-- An accepted message has scores that are fine. -/
theorem scored_of_validate {event : ValidatedAlertTransition F (Json F)}
    (h : validateAlertTransition raw = .ok event) : Scored raw := by
  obtain ⟨-, classScores, maximumScore, -, hscores, hmaximum, -⟩ := validate_eq_ok_iff.mp h
  exact ⟨exists_requireClassScores_iff.mp ⟨classScores, hscores⟩, maximumScore.val.val,
    requireMaximumScore_eq_ok_iff.mp hmaximum, maximumScore.val.property, maximumScore.property⟩

end Contract

end Odis.ReasoningBridge
