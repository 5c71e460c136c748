import Odis.Python.Json
import Odis.Twin.Domain

/-!
# Recommendations

`RecommendationEngine` (`application/recommendation_engine.py`): what operators are recommended to
do about an operational state. The id of a recommendation is made of its material classification,
not of its wording.

* `assetId_eq_of_id_eq`: ids tell assets apart.
-/

namespace Odis.Twin

open Operations

/-- `hashlib.sha256(key.encode("utf-8")).hexdigest()`. -/
abbrev Sha256 : Type := String → { digest : String // digest.length = 64 }

/-- What `compute` chooses for a state. -/
structure RecommendationChoice where
  priority : RecommendationPriority
  urgency : RecommendationUrgency
  category : RecommendationCategory
  estimatedImpact : String
  steps : List String
  title : String
  description : String
  estimatedImpact_ne : estimatedImpact ≠ ""
  steps_ne_nil : steps ≠ []
  steps_ne : ∀ step ∈ steps, step ≠ ""
  title_ne : title ≠ ""
  description_ne : description ≠ ""

/-- A sentence that ends in a value. -/
def sentence (start value : String) : String := start ++ value ++ "."

/-- A sentence is never empty. -/
theorem sentence_ne (start value : String) : sentence start value ≠ "" :=
  append_ne_empty (by decide)

/-- The branches of `compute`. -/
def recommendationChoice (state : OperationalState) : RecommendationChoice :=
  if state.healthStatus = .critical then
    { priority := .p0
      urgency := .immediate
      category := .mitigate
      estimatedImpact := "Reduce likelihood of imminent outage and limit operational impact."
      steps :=
        ["Acknowledge the incident and page the on-call owner.",
          sentence "Validate the primary driver: " state.primaryDriver,
          sentence "Execute the operational action: " state.recommendedAction,
          "Confirm recovery signals and document the outcome."]
      title := "Immediate mitigation required"
      description :=
        sentence ("Operational state indicates critical risk requiring immediate action. " ++
          sentence "Primary driver: " state.primaryDriver ++ " Recommended action: ")
          state.recommendedAction
      estimatedImpact_ne := by decide
      steps_ne_nil := List.cons_ne_nil _ _
      steps_ne := by simp [sentence_ne]
      title_ne := by decide
      description_ne := sentence_ne _ _ }
  else if state.riskLevel = .high then
    { priority := .p1
      urgency := .immediate
      category := .investigate
      estimatedImpact :=
        "Confirm whether elevated risk is an early warning sign before it progresses to a " ++
          "critical health reading."
      steps :=
        [sentence "Investigate the primary driver: " state.primaryDriver,
          sentence "Apply the recommended action if corroborated: " state.recommendedAction,
          "Increase monitoring frequency until risk returns to normal."]
      title := "Elevated risk identified"
      description :=
        sentence ("Operational state indicates elevated risk ahead of a confirmed critical " ++
          "health reading (current health status: " ++ state.healthStatus.value ++ "). " ++
          sentence "Primary driver: " state.primaryDriver ++ " Recommended action: ")
          state.recommendedAction
      estimatedImpact_ne := by decide
      steps_ne_nil := List.cons_ne_nil _ _
      steps_ne := by simp [sentence_ne]
      title_ne := by decide
      description_ne := sentence_ne _ _ }
  else if state.healthStatus = .warning ∨ state.riskLevel = .medium then
    { priority := .p2
      urgency := .soon
      category := .investigate
      estimatedImpact :=
        "Prevent degradation from escalating into a user-visible incident."
      steps :=
        [sentence "Investigate the primary driver: " state.primaryDriver,
          "Review recent changes, deployments, and timeline events.",
          sentence "Apply the recommended action if corroborated: " state.recommendedAction,
          "Increase monitoring frequency until stable."]
      title := "Investigation recommended"
      description :=
        sentence ("Operational state indicates a warning condition or medium risk. " ++
          sentence "Primary driver: " state.primaryDriver ++ " Recommended action: ")
          state.recommendedAction
      estimatedImpact_ne := by decide
      steps_ne_nil := List.cons_ne_nil _ _
      steps_ne := by simp [sentence_ne]
      title_ne := by decide
      description_ne := sentence_ne _ _ }
  else
    { priority := .p3
      urgency := .scheduled
      category := .monitor
      estimatedImpact := "Maintain steady-state operations while tracking early signals."
      steps :=
        ["Continue monitoring key health indicators.",
          sentence "Track the primary driver: " state.primaryDriver,
          "Validate alert thresholds and dashboards are up to date."]
      title := "Continue monitoring"
      description :=
        sentence ("Operational state indicates normal conditions with low risk. " ++
          sentence "Primary driver: " state.primaryDriver ++
          " Recommended action (if conditions change): ") state.recommendedAction
      estimatedImpact_ne := by decide
      steps_ne_nil := List.cons_ne_nil _ _
      steps_ne := by simp [sentence_ne]
      title_ne := by decide
      description_ne := sentence_ne _ _ }

/-- `identity_hash`: the digest of the classification, cut to 16 digits. -/
def identityHash (sha256 : Sha256) (state : OperationalState) (choice : RecommendationChoice) :
    String :=
  let identityKey := "|".intercalate
    [state.assetId, choice.category.value, choice.priority.value, choice.urgency.value,
      choice.title]
  String.ofList ((sha256 identityKey).val.toList.take 16)

/-- The hash is cut to sixteen digits. -/
theorem length_identityHash (sha256 : Sha256) (state : OperationalState)
    (choice : RecommendationChoice) :
    (identityHash sha256 state choice).toList.length = 16 := by
  unfold identityHash
  dsimp only
  rw [String.toList_ofList, List.length_take, String.length_toList, (sha256 _).property]
  rfl

/-- The id of the recommendation for a state. -/
def recommendationId (sha256 : Sha256) (state : OperationalState) : String :=
  "rec-" ++ state.assetId ++ "-" ++ identityHash sha256 state (recommendationChoice state)

/-- So the id is never empty. -/
theorem recommendationId_ne (sha256 : Sha256) (state : OperationalState) :
    recommendationId sha256 state ≠ "" := by
  refine append_ne_empty fun hempty => ?_
  have hlength := length_identityHash sha256 state (recommendationChoice state)
  rw [hempty] at hlength
  cases hlength

/-- `RecommendationEngine.compute`. -/
def computeRecommendation (sha256 : Sha256) (state : OperationalState) : Recommendation :=
  let choice := recommendationChoice state
  { id := recommendationId sha256 state
    assetId := state.assetId
    category := choice.category
    priority := choice.priority
    urgency := choice.urgency
    title := choice.title
    description := choice.description
    recommendedSteps := choice.steps
    estimatedImpact := choice.estimatedImpact
    createdAt := state.lastUpdated
    id_ne := recommendationId_ne sha256 state
    assetId_ne := state.assetId_ne
    title_ne := choice.title_ne
    description_ne := choice.description_ne
    recommendedSteps_ne := choice.steps_ne_nil
    steps_ne := choice.steps_ne
    estimatedImpact_ne := choice.estimatedImpact_ne }

/-- Ids tell assets apart. -/
theorem assetId_eq_of_id_eq {sha256 : Sha256} {a b : OperationalState}
    (h : (computeRecommendation sha256 a).id = (computeRecommendation sha256 b).id) :
    a.assetId = b.assetId := by
  have hid : recommendationId sha256 a = recommendationId sha256 b := h
  have hlist := congrArg String.toList hid
  unfold recommendationId at hlist
  simp only [String.toList_append] at hlist
  have hlength : (identityHash sha256 a (recommendationChoice a)).toList.length =
      (identityHash sha256 b (recommendationChoice b)).toList.length := by
    rw [length_identityHash, length_identityHash]
  have hstart := (List.append_inj' hlist hlength).1
  have hasset := (List.append_inj' hstart rfl).1
  exact String.toList_inj.mp (List.append_cancel_left hasset)

end Odis.Twin
