import Odis.Python.Datetime
import Odis.Python.Float

/-!
# AI fault evidence

The records the reasoning bridge keeps of an alert transition (`domain/ai_fault_evidence.py`). What
their constructors check is a field of the record, so that `create` is the only way to one.
Statuses and results are enumerations, whose checks cannot fail.
-/

namespace Odis.ReasoningBridge

variable {F J : Type}

/-- `AlertTransitionType`. -/
inductive AlertTransitionType where
  | confirmed
  | classChanged
  | cleared
  deriving DecidableEq, Repr

/-- The text of a transition type. -/
def AlertTransitionType.value : AlertTransitionType → String
  | confirmed => "confirmed"
  | classChanged => "class_changed"
  | cleared => "cleared"

/-- `CorroborationResult`. -/
inductive CorroborationResult where
  | corroborated
  | partiallyCorroborated
  | notCorroborated
  | insufficientEvidence
  | notApplicable
  deriving DecidableEq, Repr

/-- The text of a corroboration result. -/
def CorroborationResult.value : CorroborationResult → String
  | corroborated => "corroborated"
  | partiallyCorroborated => "partially_corroborated"
  | notCorroborated => "not_corroborated"
  | insufficientEvidence => "insufficient_evidence"
  | notApplicable => "not_applicable"

/-- `InvestigationStatus`. -/
inductive InvestigationStatus where
  | opened
  | cleared
  deriving DecidableEq, Repr

/-- The text of an investigation status. -/
def InvestigationStatus.value : InvestigationStatus → String
  | opened => "OPEN"
  | cleared => "CLEARED"

/-- `FaultRecommendationStatus`. -/
inductive FaultRecommendationStatus where
  | produced
  | withheld
  deriving DecidableEq, Repr

/-- The text of a recommendation status. -/
def FaultRecommendationStatus.value : FaultRecommendationStatus → String
  | produced => "produced"
  | withheld => "withheld"

/-- `FaultRecommendationCategory`. -/
inductive FaultRecommendationCategory where
  | investigate
  | monitor
  deriving DecidableEq, Repr

/-- `FaultUrgency`. -/
inductive FaultUrgency where
  | informational
  | inspectionRequired
  | elevated
  | urgent
  deriving DecidableEq, Repr

/-- The text of an urgency. -/
def FaultUrgency.value : FaultUrgency → String
  | informational => "INFORMATIONAL"
  | inspectionRequired => "INSPECTION_REQUIRED"
  | elevated => "ELEVATED"
  | urgent => "URGENT"

/-- `ValueError` of a constructor, for the first field that fails its check. -/
inductive EvidenceError where
  | empty (field : String)
  | maximumScoreOutOfRange
  deriving DecidableEq, Repr

/-- The message of the exception. -/
def EvidenceError.message : EvidenceError → String
  | empty field => field ++ " must not be empty"
  | maximumScoreOutOfRange => "maximum_score must be between 0.0 and 1.0"

/-- `FaultRecommendation`. -/
structure FaultRecommendation where
  id : String
  status : FaultRecommendationStatus
  category : FaultRecommendationCategory
  urgency : FaultUrgency
  actionSummary : String
  reason : String
  supportingRuleIds : List String
  supportingObservationIds : List String
  recommendedSteps : List String
  limitations : String
  id_ne : id ≠ ""
  actionSummary_ne : actionSummary ≠ ""
  reason_ne : reason ≠ ""
  limitations_ne : limitations ≠ ""

/-- The constructor of a recommendation, with its checks. -/
def FaultRecommendation.create (id : String) (status : FaultRecommendationStatus)
    (category : FaultRecommendationCategory) (urgency : FaultUrgency)
    (actionSummary reason : String)
    (supportingRuleIds supportingObservationIds recommendedSteps : List String)
    (limitations : String) : Except EvidenceError FaultRecommendation :=
  if hid : id = "" then .error (.empty "id")
  else if haction : actionSummary = "" then .error (.empty "action_summary")
  else if hreason : reason = "" then .error (.empty "reason")
  else if hlimitations : limitations = "" then .error (.empty "limitations")
  else .ok ⟨id, status, category, urgency, actionSummary, reason, supportingRuleIds,
    supportingObservationIds, recommendedSteps, limitations, hid, haction, hreason, hlimitations⟩

/-- The fields of an evidence record. `J` is the type of JSON values, which the items of evidence
are. -/
structure EvidenceFields (F J : Type) where
  id : String
  sourceEventId : String
  assetId : String
  observedAt : Datetime
  alertTransitionType : AlertTransitionType
  diagnosedFaultClass : String
  fromState : String
  toState : String
  modelSystemVersion : String
  modelHash : String
  policyHash : String
  featureSchemaVersion : String
  classScores : List (String × F)
  maximumScore : F
  evidenceItems : List J
  investigationId : String
  investigationStatus : InvestigationStatus
  previousDiagnosedFaultClass : Option String
  corroborationResult : CorroborationResult
  corroborationRuleIds : List String
  corroborationNotes : String
  recommendation : Option FaultRecommendation
  recordedAt : Datetime

/-- The text fields that must not be empty, in the order of their checks, before and after the
score is checked. -/
def EvidenceFields.requiredTexts (fields : EvidenceFields F J) : List (String × String) :=
  [("id", fields.id), ("source_event_id", fields.sourceEventId), ("asset_id", fields.assetId),
    ("diagnosed_fault_class", fields.diagnosedFaultClass),
    ("model_system_version", fields.modelSystemVersion), ("model_hash", fields.modelHash),
    ("policy_hash", fields.policyHash), ("feature_schema_version", fields.featureSchemaVersion)]

variable [PyFloat F]

/-- `0.0 <= x <= 1.0`. -/
def InUnitInterval (x : F) : Prop := PyFloat.literal 0 ≤ x ∧ x ≤ PyFloat.literal 1

instance (x : F) : Decidable (InUnitInterval x) := inferInstanceAs (Decidable (_ ∧ _))

/-- The checks of an evidence record: the first that fails. -/
def EvidenceFields.check (fields : EvidenceFields F J) : Option EvidenceError :=
  match fields.requiredTexts.find? fun field => field.2 = "" with
  | some (name, _) => some (.empty name)
  | none =>
      if ¬ InUnitInterval fields.maximumScore then some .maximumScoreOutOfRange
      else if fields.investigationId = "" then some (.empty "investigation_id")
      else none

/-- The fields are fine if the texts are there and the score is between zero and one. -/
theorem EvidenceFields.check_eq_none_iff {fields : EvidenceFields F J} :
    fields.check = none ↔ (∀ field ∈ fields.requiredTexts, field.2 ≠ "") ∧
      InUnitInterval fields.maximumScore ∧ fields.investigationId ≠ "" := by
  rw [EvidenceFields.check]
  split
  next name text hfound =>
    refine iff_of_false (fun h => nomatch h) fun h => ?_
    exact h.1 _ (List.mem_of_find?_eq_some hfound) (by simpa using List.find?_some hfound)
  next hnone =>
    have htexts : ∀ field ∈ fields.requiredTexts, field.2 ≠ "" := by
      simpa using List.find?_eq_none.mp hnone
    rw [and_iff_right htexts]
    split_ifs with hrange hid
    · exact iff_of_false (fun h => nomatch h) fun h => h.2 hid
    · exact iff_of_true rfl ⟨hrange, hid⟩
    · exact iff_of_false (fun h => nomatch h) fun h => hrange h.1

/-- `AiFaultEvidence`. -/
structure AiFaultEvidence (F J : Type) [PyFloat F] extends EvidenceFields F J where
  checked : toEvidenceFields.check = none

/-- The constructor of an evidence record, with its checks. -/
def AiFaultEvidence.create (fields : EvidenceFields F J) :
    Except EvidenceError (AiFaultEvidence F J) :=
  match h : fields.check with
  | some error => .error error
  | none => .ok ⟨fields, h⟩

/-- Fields that are fine make a record. -/
theorem AiFaultEvidence.create_of_check {fields : EvidenceFields F J}
    (h : fields.check = none) : AiFaultEvidence.create fields = .ok ⟨fields, h⟩ := by
  rw [AiFaultEvidence.create]
  split
  next error heq => simp [h] at heq
  · rfl

/-- A record has the fields that it was made of. -/
theorem AiFaultEvidence.of_create {fields : EvidenceFields F J} {evidence : AiFaultEvidence F J}
    (h : AiFaultEvidence.create fields = .ok evidence) : evidence.toEvidenceFields = fields := by
  rw [AiFaultEvidence.create] at h
  split at h
  · contradiction
  · cases h
    rfl

end Odis.ReasoningBridge
