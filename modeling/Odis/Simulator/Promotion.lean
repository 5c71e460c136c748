import Mathlib.Data.Option.Basic
import Odis.Library.Exceptions
import Odis.Library.OrderedDict
import Odis.Python.Statistics

/-!
# Promotion gates

`decide_promotion` (`dataset/robustness/promotion.py`) and `decide_policy_promotion`
(`dataset/robustness/policy_promotion.py`) compare a candidate with the original system, cohort by
cohort, and decide whether it is promoted. The steps the two functions write alike are defined
once; each function has its own cascade, decisions and reasons.

* `promotes_iff`, `promotesPolicy_iff`: each gate promotes when every bound holds on every cohort
  that the bound covers.
* `MeetsBounds.mono`: a candidate that improves keeps to the bounds.
* `promotionGates_agree`: the gates apply one rule, and it is monotone.
-/

namespace Odis.Simulator

open Exceptions

variable {format counts : NumberFormat}

/-! ## Comparisons -/

/-- `ModelDelta`: a metric of the original and of the candidate. -/
structure ModelDelta (F : Type) where
  originalValue : Option F
  robustValue : Option F

/-- `ModelDelta.absolute_change`. -/
def ModelDelta.absoluteChange (delta : ModelDelta (Number format)) : Option (Number format) :=
  match delta.originalValue, delta.robustValue with
  | some original, some robust => some (robust - original)
  | _, _ => none

/-- `CohortComparison`, as far as the gates read it. Runs are counted in a format of their own, so
that the counts may be integers. -/
structure CohortComparison (format counts : NumberFormat) where
  balancedAccuracy : ModelDelta (Number format)
  perClassRecall : OrderedDict (id : String → String) (ModelDelta (Number format))
  falseAlertEventsPerHealthyHour : ModelDelta (Number format)
  correctClassMissedRunCount : ModelDelta (Number counts)

/-- The comparisons of the cohorts, by name. -/
abbrev CohortComparisons (format counts : NumberFormat) : Type :=
  OrderedDict (id : String → String) (CohortComparison format counts)

/-- `PromotionThresholds`. -/
structure PromotionThresholds (format : NumberFormat) where
  maxPilotBalancedAccuracyDrop : Number format := .ofRat format 0.03
  maxPilotFalseAlertEventsPerHealthyHour : Number format := .ofRat format 1.0
  minHighNoiseBalancedAccuracyImprovement : Number format := .ofRat format 0.02
  maxHighNoiseFalseAlertEventsPerHealthyHour : Number format := .ofRat format 1.0
  minCombinedOodBalancedAccuracyImprovement : Number format := .ofRat format 0.02
  classRecallCollapseFloor : Number format := .ofRat format 0.20
  maxMissedRunCountRegression : ℤ := 1

/-- How numbers are written. -/
structure MetricTexts (format counts : NumberFormat) where
  /-- `f"{x:.4f}"`. -/
  fourDecimals : Number format → String
  /-- `f"{x:.0f}"`. -/
  noDecimals : Number counts → String

/-! ## The steps of both gates -/

/-- `x or 0.0`: zero is what it is replaced by. -/
def orZero (x : Option (Number format)) : Number format := x.getD (.ofRat format 0)

/-- The cohorts that must be there are looked up, or a `ValueError` is raised. -/
def requiredCohort (comparisons : CohortComparisons format counts) (required : String) :
    Except String (CohortComparison format counts) :=
  match comparisons.get? required with
  | some comparison => .ok comparison
  | none => .error ("cohort_comparisons is missing the required '" ++ required ++ "' cohort")

/-- `pilot_accuracy_drop`. -/
def pilotAccuracyDrop (pilot : CohortComparison format counts) : Number format :=
  -orZero pilot.balancedAccuracy.absoluteChange

/-- `pilot_false_alert_rate` and `high_noise_false_alert_rate`. -/
def falseAlertRate (cohort : CohortComparison format counts) : Number format :=
  orZero cohort.falseAlertEventsPerHealthyHour.robustValue

/-- `high_noise_gain` and `combined_ood_gain`. -/
def balancedAccuracyGain (cohort : CohortComparison format counts) : Number format :=
  orZero cohort.balancedAccuracy.absoluteChange

variable (texts : MetricTexts format counts) (thresholds : PromotionThresholds format)

/-- `id_regression_reasons`. -/
def idRegressionReasons (pilot : CohortComparison format counts) : List String :=
  (if thresholds.maxPilotBalancedAccuracyDrop < pilotAccuracyDrop pilot then
    ["pilot balanced accuracy dropped " ++ texts.fourDecimals (pilotAccuracyDrop pilot) ++
      ", exceeding the " ++ texts.fourDecimals thresholds.maxPilotBalancedAccuracyDrop ++ " bound"]
  else []) ++
  if thresholds.maxPilotFalseAlertEventsPerHealthyHour < falseAlertRate pilot then
    ["pilot false-alert rate " ++ texts.fourDecimals (falseAlertRate pilot) ++
      " events/healthy-hour exceeds the " ++
      texts.fourDecimals thresholds.maxPilotFalseAlertEventsPerHealthyHour ++ " bound"]
  else []

/-- A class whose recall is at the floor or below it, unless the recall is unknown. -/
def classCollapse (cohortName : String) (comparison : CohortComparison format counts)
    (cls : String) : Option String :=
  match (comparison.perClassRecall.get? cls).bind ModelDelta.robustValue with
  | none => none
  | some robustRecall =>
      if robustRecall ≤ thresholds.classRecallCollapseFloor then
        some (cohortName ++ ": " ++ cls ++ " recall " ++ texts.fourDecimals robustRecall ++
          " <= " ++ texts.fourDecimals thresholds.classRecallCollapseFloor)
      else none

/-- `collapsed`. -/
def collapsed (comparisons : CohortComparisons format counts) (faultClasses : List String) :
    List String :=
  comparisons.items.flatMap fun entry =>
    faultClasses.filterMap (classCollapse texts thresholds entry.1 entry.2)

/-- A cohort on which the candidate misses more runs than the bound allows. -/
def missedRunRegression (cohortName : String) (comparison : CohortComparison format counts) :
    Option String :=
  match comparison.correctClassMissedRunCount.absoluteChange with
  | none => none
  | some regression =>
      if (thresholds.maxMissedRunCountRegression : ℚ) < regression.val then
        some (cohortName ++ ": correct-class missed runs increased by " ++
          texts.noDecimals regression ++ ", exceeding the " ++
          toString thresholds.maxMissedRunCountRegression ++ " bound")
      else none

/-- `missed_run_regressions`. -/
def missedRunRegressions (comparisons : CohortComparisons format counts) : List String :=
  comparisons.items.filterMap fun entry => missedRunRegression texts thresholds entry.1 entry.2

/-- `insufficient_reasons`. -/
def insufficientReasons (comparisons : CohortComparisons format counts)
    (highNoise combinedOod : CohortComparison format counts) : List String :=
  (if balancedAccuracyGain highNoise < thresholds.minHighNoiseBalancedAccuracyImprovement then
    ["high-noise balanced-accuracy gain " ++ texts.fourDecimals (balancedAccuracyGain highNoise) ++
      " is below the " ++ texts.fourDecimals thresholds.minHighNoiseBalancedAccuracyImprovement ++
      " material-improvement bound"]
  else []) ++
  (if balancedAccuracyGain combinedOod < thresholds.minCombinedOodBalancedAccuracyImprovement then
    ["combined-OOD balanced-accuracy gain " ++
      texts.fourDecimals (balancedAccuracyGain combinedOod) ++ " is below the " ++
      texts.fourDecimals thresholds.minCombinedOodBalancedAccuracyImprovement ++
      " material-improvement bound"]
  else []) ++
  (if thresholds.maxHighNoiseFalseAlertEventsPerHealthyHour < falseAlertRate highNoise then
    ["high-noise false-alert rate " ++ texts.fourDecimals (falseAlertRate highNoise) ++
      " events/healthy-hour exceeds the " ++
      texts.fourDecimals thresholds.maxHighNoiseFalseAlertEventsPerHealthyHour ++ " bound"]
  else []) ++
  missedRunRegressions texts thresholds comparisons

/-- `checks`: what is entered before a gate returns. -/
structure PromotionChecks (format : NumberFormat) where
  pilotAccuracyDrop : Number format
  pilotFalseAlertRate : Number format
  idRegressionReasons : List String
  classCollapses : Option (List String) := none
  missedRunRegressions : Option (List String) := none
  highNoiseBalancedAccuracyGain : Option (Number format) := none
  combinedOodBalancedAccuracyGain : Option (Number format) := none
  highNoiseFalseAlertRate : Option (Number format) := none

/-- The checks of a gate that returns after the first of its four steps, and after the others. -/
def idChecks (pilot : CohortComparison format counts) : PromotionChecks format where
  pilotAccuracyDrop := pilotAccuracyDrop pilot
  pilotFalseAlertRate := falseAlertRate pilot
  idRegressionReasons := idRegressionReasons texts thresholds pilot

/-- The checks up to the collapse of a class. -/
def collapseChecks (comparisons : CohortComparisons format counts) (faultClasses : List String)
    (pilot : CohortComparison format counts) : PromotionChecks format :=
  { idChecks texts thresholds pilot with
    classCollapses := some (collapsed texts thresholds comparisons faultClasses) }

/-- The checks up to the gains in robustness. -/
def gainChecks (comparisons : CohortComparisons format counts) (faultClasses : List String)
    (pilot highNoise combinedOod : CohortComparison format counts) : PromotionChecks format :=
  { collapseChecks texts thresholds comparisons faultClasses pilot with
    missedRunRegressions := some (missedRunRegressions texts thresholds comparisons)
    highNoiseBalancedAccuracyGain := some (balancedAccuracyGain highNoise)
    combinedOodBalancedAccuracyGain := some (balancedAccuracyGain combinedOod)
    highNoiseFalseAlertRate := some (falseAlertRate highNoise) }

/-! ## `decide_promotion` -/

/-- The decisions of `promotion.py`. -/
inductive Promotion where
  | promote
  | keepInsufficient
  | keepIdRegression
  | noModelReady
  deriving DecidableEq, Repr

/-- The texts of the decisions. -/
def Promotion.text : Promotion → String
  | promote => "PROMOTE ROBUST MODEL"
  | keepInsufficient => "KEEP ORIGINAL MODEL — ROBUSTNESS GAINS INSUFFICIENT"
  | keepIdRegression => "KEEP ORIGINAL MODEL — ID REGRESSION TOO LARGE"
  | noModelReady => "NO MODEL READY — FURTHER FEATURE/DATA REVISION REQUIRED"

/-- `PromotionDecision`. -/
structure PromotionDecision (format : NumberFormat) where
  decision : Promotion
  reasons : List String
  thresholds : PromotionThresholds format
  checks : PromotionChecks format

/-- `decide_promotion`. -/
def decidePromotion (comparisons : CohortComparisons format counts) (faultClasses : List String) :
    Except String (PromotionDecision format) := do
  let pilot ← requiredCohort comparisons "pilot"
  let highNoise ← requiredCohort comparisons "high_noise"
  let combinedOod ← requiredCohort comparisons "combined_ood_v1"
  if idRegressionReasons texts thresholds pilot ≠ [] then
    return {
      decision := .keepIdRegression
      reasons := idRegressionReasons texts thresholds pilot
      thresholds
      checks := idChecks texts thresholds pilot }
  if collapsed texts thresholds comparisons faultClasses ≠ [] then
    return {
      decision := .noModelReady
      reasons := collapsed texts thresholds comparisons faultClasses
      thresholds
      checks := collapseChecks texts thresholds comparisons faultClasses pilot }
  let checks := gainChecks texts thresholds comparisons faultClasses pilot highNoise combinedOod
  if insufficientReasons texts thresholds comparisons highNoise combinedOod ≠ [] then
    return {
      decision := .keepInsufficient
      reasons := insufficientReasons texts thresholds comparisons highNoise combinedOod
      thresholds
      checks }
  return {
    decision := .promote
    reasons := [
      "high-noise balanced accuracy improved " ++
        texts.fourDecimals (balancedAccuracyGain highNoise),
      "combined-OOD balanced accuracy improved " ++
        texts.fourDecimals (balancedAccuracyGain combinedOod),
      "pilot balanced-accuracy drop " ++ texts.fourDecimals (pilotAccuracyDrop pilot) ++
        " stayed within the " ++ texts.fourDecimals thresholds.maxPilotBalancedAccuracyDrop ++
        " bound",
      "no fault class collapsed on any evaluated cohort",
      "no cohort's correct-class missed-run count regressed materially"]
    thresholds
    checks }

/-! ## `decide_policy_promotion` -/

/-- The decisions of `policy_promotion.py`. -/
inductive PolicyPromotion where
  | promote
  | keepPolicyInsufficient
  | keepIdOperationalRegression
  | noSystemMeetsCriteria
  deriving DecidableEq, Repr

/-- The texts of the decisions on model and policy. -/
def PolicyPromotion.text : PolicyPromotion → String
  | promote => "PROMOTE ROBUST MODEL AND POLICY"
  | keepPolicyInsufficient => "KEEP ORIGINAL MODEL — ALERT POLICY INSUFFICIENT"
  | keepIdOperationalRegression => "KEEP ORIGINAL MODEL — ID OPERATIONAL REGRESSION"
  | noSystemMeetsCriteria => "NO SYSTEM MEETS PROMOTION CRITERIA"

/-- `PolicyPromotionDecision`: what the second gate decides, with the reasons against a promotion,
and the bounds and checks that it has gone by. -/
structure PolicyPromotionDecision (format : NumberFormat) where
  decision : PolicyPromotion
  reasons : List String
  thresholds : PromotionThresholds format
  checks : PromotionChecks format

/-- `decide_policy_promotion`. -/
def decidePolicyPromotion (comparisons : CohortComparisons format counts)
    (faultClasses : List String) : Except String (PolicyPromotionDecision format) := do
  let pilot ← requiredCohort comparisons "pilot"
  let highNoise ← requiredCohort comparisons "high_noise"
  let combinedOod ← requiredCohort comparisons "combined_ood_v1"
  if idRegressionReasons texts thresholds pilot ≠ [] then
    return {
      decision := .keepIdOperationalRegression
      reasons := idRegressionReasons texts thresholds pilot
      thresholds
      checks := idChecks texts thresholds pilot }
  if collapsed texts thresholds comparisons faultClasses ≠ [] then
    return {
      decision := .noSystemMeetsCriteria
      reasons := collapsed texts thresholds comparisons faultClasses
      thresholds
      checks := collapseChecks texts thresholds comparisons faultClasses pilot }
  let checks := gainChecks texts thresholds comparisons faultClasses pilot highNoise combinedOod
  if insufficientReasons texts thresholds comparisons highNoise combinedOod ≠ [] then
    return {
      decision := .keepPolicyInsufficient
      reasons := insufficientReasons texts thresholds comparisons highNoise combinedOod
      thresholds
      checks }
  return {
    decision := .promote
    reasons := [
      "high-noise balanced accuracy improved " ++
        texts.fourDecimals (balancedAccuracyGain highNoise),
      "combined-OOD balanced accuracy improved " ++
        texts.fourDecimals (balancedAccuracyGain combinedOod),
      "high-noise false-alert rate " ++ texts.fourDecimals (falseAlertRate highNoise) ++
        " is at or below the " ++
        texts.fourDecimals thresholds.maxHighNoiseFalseAlertEventsPerHealthyHour ++
        " operational bound",
      "pilot balanced-accuracy drop " ++ texts.fourDecimals (pilotAccuracyDrop pilot) ++
        " stayed within the " ++ texts.fourDecimals thresholds.maxPilotBalancedAccuracyDrop ++
        " bound",
      "pilot false-alert rate " ++ texts.fourDecimals (falseAlertRate pilot) ++
        " stayed within the " ++
        texts.fourDecimals thresholds.maxPilotFalseAlertEventsPerHealthyHour ++ " bound",
      "no fault class collapsed on any evaluated cohort",
      "no cohort's correct-class missed-run count regressed materially"]
    thresholds
    checks }

/-- The decision of the second gate that stands for one of the first. -/
def Promotion.counterpart : Promotion → PolicyPromotion
  | promote => .promote
  | keepInsufficient => .keepPolicyInsufficient
  | keepIdRegression => .keepIdOperationalRegression
  | noModelReady => .noSystemMeetsCriteria

/-! ## The rule -/

section Rule

variable {texts thresholds} {comparisons comparisons' : CohortComparisons format counts}
  {faultClasses : List String}

/-- The second gate decides what stands for the decision of the first, or both raise the same
error. -/
theorem decision_decidePolicyPromotion :
    (decidePolicyPromotion texts thresholds comparisons faultClasses).map
        PolicyPromotionDecision.decision =
      (decidePromotion texts thresholds comparisons faultClasses).map
        fun made => made.decision.counterpart := by
  rw [decidePolicyPromotion, decidePromotion]
  rcases requiredCohort comparisons "pilot" with message | pilot
  · rfl
  rcases requiredCohort comparisons "high_noise" with message | highNoise
  · rfl
  rcases requiredCohort comparisons "combined_ood_v1" with message | combinedOod
  · rfl
  simp only [ok_bind]
  split_ifs <;> rfl

/-- The first gate promotes the candidate. -/
def Promotes (texts : MetricTexts format counts) (thresholds : PromotionThresholds format)
    (comparisons : CohortComparisons format counts) (faultClasses : List String) : Prop :=
  (decidePromotion texts thresholds comparisons faultClasses).map PromotionDecision.decision =
    .ok .promote

/-- The second gate promotes the candidate. -/
def PromotesPolicy (texts : MetricTexts format counts) (thresholds : PromotionThresholds format)
    (comparisons : CohortComparisons format counts) (faultClasses : List String) : Prop :=
  (decidePolicyPromotion texts thresholds comparisons faultClasses).map
    PolicyPromotionDecision.decision = .ok .promote

/-- A decision promotes exactly if its counterpart does. -/
theorem counterpart_eq_promote_iff {decision : Promotion} :
    decision.counterpart = .promote ↔ decision = .promote := by
  cases decision <;> decide

/-- The rule for a policy is that for a model. -/
theorem promotesPolicy_iff_promotes :
    PromotesPolicy texts thresholds comparisons faultClasses ↔
      Promotes texts thresholds comparisons faultClasses := by
  rw [PromotesPolicy, Promotes, decision_decidePolicyPromotion]
  rcases decidePromotion texts thresholds comparisons faultClasses with message | made
  · simp [Except.map]
  · simp [Except.map, counterpart_eq_promote_iff]

/-- A cohort that must be there. -/
theorem requiredCohort_eq_ok_iff {required : String} {comparison : CohortComparison format counts} :
    requiredCohort comparisons required = .ok comparison ↔
      comparisons.get? required = some comparison := by
  rw [requiredCohort]
  rcases comparisons.get? required with _ | found <;> simp

/-- What the first gate decides about cohorts that are all there. -/
theorem decision_decidePromotion {pilot highNoise combinedOod : CohortComparison format counts}
    (hpilot : comparisons.get? "pilot" = some pilot)
    (hhighNoise : comparisons.get? "high_noise" = some highNoise)
    (hcombinedOod : comparisons.get? "combined_ood_v1" = some combinedOod) :
    (decidePromotion texts thresholds comparisons faultClasses).map PromotionDecision.decision =
      .ok (if idRegressionReasons texts thresholds pilot ≠ [] then .keepIdRegression
        else if collapsed texts thresholds comparisons faultClasses ≠ [] then .noModelReady
        else if insufficientReasons texts thresholds comparisons highNoise combinedOod ≠ [] then
          .keepInsufficient
        else .promote) := by
  rw [decidePromotion, requiredCohort_eq_ok_iff.mpr hpilot, ok_bind,
    requiredCohort_eq_ok_iff.mpr hhighNoise, ok_bind, requiredCohort_eq_ok_iff.mpr hcombinedOod,
    ok_bind]
  split_ifs <;> rfl

/-- The first gate decides about nothing unless the cohorts are all there. -/
theorem exists_cohorts_of_promotes (h : Promotes texts thresholds comparisons faultClasses) :
    ∃ pilot highNoise combinedOod, comparisons.get? "pilot" = some pilot ∧
      comparisons.get? "high_noise" = some highNoise ∧
      comparisons.get? "combined_ood_v1" = some combinedOod := by
  simp only [← requiredCohort_eq_ok_iff]
  rw [Promotes, decidePromotion] at h
  rcases hpilot : requiredCohort comparisons "pilot" with message | pilot
  · rw [hpilot] at h
    cases h
  rcases hhighNoise : requiredCohort comparisons "high_noise" with message | highNoise
  · rw [hpilot, hhighNoise] at h
    cases h
  rcases hcombinedOod : requiredCohort comparisons "combined_ood_v1" with message | combinedOod
  · rw [hpilot, hhighNoise, hcombinedOod] at h
    cases h
  exact ⟨pilot, highNoise, combinedOod, rfl, rfl, rfl⟩

/-- The first gate promotes when it finds nothing to object to. -/
theorem promotes_iff_reasons {pilot highNoise combinedOod : CohortComparison format counts}
    (hpilot : comparisons.get? "pilot" = some pilot)
    (hhighNoise : comparisons.get? "high_noise" = some highNoise)
    (hcombinedOod : comparisons.get? "combined_ood_v1" = some combinedOod) :
    Promotes texts thresholds comparisons faultClasses ↔
      idRegressionReasons texts thresholds pilot = [] ∧
        collapsed texts thresholds comparisons faultClasses = [] ∧
        insufficientReasons texts thresholds comparisons highNoise combinedOod = [] := by
  rw [Promotes, decision_decidePromotion hpilot hhighNoise hcombinedOod, Except.ok.injEq]
  split_ifs with hid hcollapse hinsufficient
  · simp [hid]
  · simp [hcollapse]
  · simp [hinsufficient]
  · simp_all

/-! ### Bounds -/

/-- Both values are there and are as a bound asks. -/
def ModelDelta.Satisfies {F : Type} (delta : ModelDelta F) (bound : F → F → Prop) : Prop :=
  ∃ original robust, delta.originalValue = some original ∧ delta.robustValue = some robust ∧
    bound original robust

/-- Both values are there. -/
def ModelDelta.IsPresent {F : Type} (delta : ModelDelta F) : Prop :=
  delta.Satisfies fun _ _ => True

/-- Every metric that the gates read is there. -/
structure CohortComparison.HasMetrics (comparison : CohortComparison format counts)
    (faultClasses : List String) : Prop where
  balancedAccuracy : comparison.balancedAccuracy.IsPresent
  perClassRecall : ∀ cls ∈ faultClasses, ∃ delta,
    comparison.perClassRecall.get? cls = some delta ∧ delta.IsPresent
  falseAlerts : comparison.falseAlertEventsPerHealthyHour.IsPresent
  missedRuns : comparison.correctClassMissedRunCount.IsPresent

/-- Every metric of every cohort is there. -/
def AllMetricsPresent (comparisons : CohortComparisons format counts)
    (faultClasses : List String) : Prop :=
  ∀ entry ∈ comparisons.items, entry.2.HasMetrics faultClasses

/-- The documented bounds, each with the cohorts that it covers. -/
structure MeetsBounds (thresholds : PromotionThresholds format)
    (comparisons : CohortComparisons format counts) (faultClasses : List String) : Prop where
  /-- On the pilot cohort the balanced accuracy drops by no more than allowed, and there are no more
  false alerts than allowed. -/
  pilot : ∃ pilot, comparisons.get? "pilot" = some pilot ∧
    pilot.balancedAccuracy.Satisfies (fun original robust =>
      -(robust - original) ≤ thresholds.maxPilotBalancedAccuracyDrop) ∧
    pilot.falseAlertEventsPerHealthyHour.Satisfies fun _ robust =>
      robust ≤ thresholds.maxPilotFalseAlertEventsPerHealthyHour
  /-- On the noisy cohort the balanced accuracy improves enough, and there are no more false alerts
  than allowed. -/
  highNoise : ∃ highNoise, comparisons.get? "high_noise" = some highNoise ∧
    highNoise.balancedAccuracy.Satisfies (fun original robust =>
      thresholds.minHighNoiseBalancedAccuracyImprovement ≤ robust - original) ∧
    highNoise.falseAlertEventsPerHealthyHour.Satisfies fun _ robust =>
      robust ≤ thresholds.maxHighNoiseFalseAlertEventsPerHealthyHour
  /-- On the cohort that is out of distribution the balanced accuracy improves enough. -/
  combinedOod : ∃ combinedOod, comparisons.get? "combined_ood_v1" = some combinedOod ∧
    combinedOod.balancedAccuracy.Satisfies fun original robust =>
      thresholds.minCombinedOodBalancedAccuracyImprovement ≤ robust - original
  /-- On no cohort does the recall of a fault class collapse. -/
  recalls : ∀ entry ∈ comparisons.items, ∀ cls ∈ faultClasses, ∃ delta,
    entry.2.perClassRecall.get? cls = some delta ∧
      delta.Satisfies fun _ robust => thresholds.classRecallCollapseFloor < robust
  /-- On no cohort are more runs missed than allowed. -/
  missedRuns : ∀ entry ∈ comparisons.items,
    entry.2.correctClassMissedRunCount.Satisfies fun original robust =>
      (robust - original).val ≤ thresholds.maxMissedRunCountRegression

/-- The change of a metric that both models have. -/
theorem absoluteChange_eq {delta : ModelDelta (Number format)} {original robust : Number format}
    (horiginal : delta.originalValue = some original) (hrobust : delta.robustValue = some robust) :
    delta.absoluteChange = some (robust - original) := by
  rw [ModelDelta.absoluteChange, horiginal, hrobust]

/-- A bound on the change of a metric that is there. -/
theorem satisfies_change_iff {delta : ModelDelta (Number format)} (h : delta.IsPresent)
    (bound : Number format → Prop) :
    delta.Satisfies (fun original robust => bound (robust - original)) ↔
      ∀ change, delta.absoluteChange = some change → bound change := by
  obtain ⟨original, robust, horiginal, hrobust, -⟩ := h
  rw [absoluteChange_eq horiginal hrobust]
  simp [ModelDelta.Satisfies, horiginal, hrobust]

/-- A bound on the candidate's value of a metric that is there. -/
theorem satisfies_robust_iff {F : Type} {delta : ModelDelta F} (h : delta.IsPresent)
    (bound : F → Prop) :
    delta.Satisfies (fun _ robust => bound robust) ↔
      ∀ robust, delta.robustValue = some robust → bound robust := by
  obtain ⟨original, robust, horiginal, hrobust, -⟩ := h
  simp [ModelDelta.Satisfies, horiginal, hrobust]

/-- A bound on a change, with a change that is unknown taken as zero. -/
theorem bound_orZero_change_iff {delta : ModelDelta (Number format)} (h : delta.IsPresent)
    (bound : Number format → Prop) :
    bound (orZero delta.absoluteChange) ↔
      delta.Satisfies fun original robust => bound (robust - original) := by
  obtain ⟨original, robust, horiginal, hrobust, -⟩ := h
  rw [absoluteChange_eq horiginal hrobust]
  simp [ModelDelta.Satisfies, horiginal, hrobust, orZero]

/-- A bound on a metric that is there is one on its value. -/
theorem bound_orZero_robust_iff {delta : ModelDelta (Number format)} (h : delta.IsPresent)
    (bound : Number format → Prop) :
    bound (orZero delta.robustValue) ↔ delta.Satisfies fun _ robust => bound robust := by
  obtain ⟨original, robust, horiginal, hrobust, -⟩ := h
  simp [ModelDelta.Satisfies, horiginal, hrobust, orZero]

/-- A reason is given when a bound is passed. -/
theorem reason_eq_nil_iff {x y : Number format} {reason : String} :
    (if x < y then [reason] else []) = [] ↔ y ≤ x := by
  split_ifs with h
  · exact ⟨False.elim, fun hle => absurd h (not_lt_of_ge hle)⟩
  · exact ⟨fun _ => le_of_not_gt h, fun _ => rfl⟩

/-- Nothing is objected to on the pilot cohort when its bounds hold. -/
theorem idRegressionReasons_eq_nil_iff {pilot : CohortComparison format counts}
    (h : pilot.HasMetrics faultClasses) :
    idRegressionReasons texts thresholds pilot = [] ↔
      pilot.balancedAccuracy.Satisfies (fun original robust =>
        -(robust - original) ≤ thresholds.maxPilotBalancedAccuracyDrop) ∧
      pilot.falseAlertEventsPerHealthyHour.Satisfies fun _ robust =>
        robust ≤ thresholds.maxPilotFalseAlertEventsPerHealthyHour := by
  rw [← bound_orZero_change_iff h.balancedAccuracy
      fun gain => -gain ≤ thresholds.maxPilotBalancedAccuracyDrop,
    ← bound_orZero_robust_iff h.falseAlerts
      fun rate => rate ≤ thresholds.maxPilotFalseAlertEventsPerHealthyHour]
  rw [idRegressionReasons, List.append_eq_nil_iff, reason_eq_nil_iff, reason_eq_nil_iff]
  rfl

/-- No class has collapsed when every recall is above the floor. -/
theorem collapsed_eq_nil_iff (h : AllMetricsPresent comparisons faultClasses) :
    collapsed texts thresholds comparisons faultClasses = [] ↔
      ∀ entry ∈ comparisons.items, ∀ cls ∈ faultClasses, ∃ delta,
        entry.2.perClassRecall.get? cls = some delta ∧
          delta.Satisfies fun _ robust => thresholds.classRecallCollapseFloor < robust := by
  rw [collapsed, List.flatMap_eq_nil_iff]
  refine forall₂_congr fun entry hentry => ?_
  rw [List.filterMap_eq_nil_iff]
  refine forall₂_congr fun cls hcls => ?_
  obtain ⟨delta, hdelta, hpresent⟩ := (h entry hentry).perClassRecall cls hcls
  have hcollapse : classCollapse texts thresholds entry.1 entry.2 cls = none ↔
      ∀ robust, delta.robustValue = some robust →
        thresholds.classRecallCollapseFloor < robust := by
    rw [classCollapse, hdelta, Option.bind_some]
    rcases delta.robustValue with _ | robustRecall <;> simp
  rw [hcollapse, ← satisfies_robust_iff hpresent]
  simp [hdelta]

/-- No cohort has regressed when the additional missed runs of each are within the bound. -/
theorem missedRunRegressions_eq_nil_iff (h : AllMetricsPresent comparisons faultClasses) :
    missedRunRegressions texts thresholds comparisons = [] ↔
      ∀ entry ∈ comparisons.items,
        entry.2.correctClassMissedRunCount.Satisfies fun original robust =>
          (robust - original).val ≤ thresholds.maxMissedRunCountRegression := by
  rw [missedRunRegressions, List.filterMap_eq_nil_iff]
  refine forall₂_congr fun entry hentry => ?_
  rw [satisfies_change_iff (h entry hentry).missedRuns
    fun change => change.val ≤ thresholds.maxMissedRunCountRegression, missedRunRegression]
  rcases entry.2.correctClassMissedRunCount.absoluteChange with _ | regression <;> simp

/-- The gains suffice when the bounds on them hold, and those on missed runs. -/
theorem insufficientReasons_eq_nil_iff {highNoise combinedOod : CohortComparison format counts}
    (hhighNoise : highNoise.HasMetrics faultClasses)
    (hcombinedOod : combinedOod.HasMetrics faultClasses) :
    insufficientReasons texts thresholds comparisons highNoise combinedOod = [] ↔
      highNoise.balancedAccuracy.Satisfies (fun original robust =>
        thresholds.minHighNoiseBalancedAccuracyImprovement ≤ robust - original) ∧
      combinedOod.balancedAccuracy.Satisfies (fun original robust =>
        thresholds.minCombinedOodBalancedAccuracyImprovement ≤ robust - original) ∧
      highNoise.falseAlertEventsPerHealthyHour.Satisfies (fun _ robust =>
        robust ≤ thresholds.maxHighNoiseFalseAlertEventsPerHealthyHour) ∧
      missedRunRegressions texts thresholds comparisons = [] := by
  rw [← bound_orZero_change_iff hhighNoise.balancedAccuracy
      fun gain => thresholds.minHighNoiseBalancedAccuracyImprovement ≤ gain,
    ← bound_orZero_change_iff hcombinedOod.balancedAccuracy
      fun gain => thresholds.minCombinedOodBalancedAccuracyImprovement ≤ gain,
    ← bound_orZero_robust_iff hhighNoise.falseAlerts
      fun rate => rate ≤ thresholds.maxHighNoiseFalseAlertEventsPerHealthyHour]
  rw [insufficientReasons, List.append_eq_nil_iff, List.append_eq_nil_iff, List.append_eq_nil_iff,
    reason_eq_nil_iff, reason_eq_nil_iff, reason_eq_nil_iff, and_assoc, and_assoc]
  rfl

/-- A cohort that is looked up is one of the cohorts. -/
theorem hasMetrics_of_get? (h : AllMetricsPresent comparisons faultClasses) {name : String}
    {comparison : CohortComparison format counts} (hget : comparisons.get? name = some comparison) :
    comparison.HasMetrics faultClasses := by
  obtain ⟨name', hmem, -⟩ := OrderedDict.get?_eq_some_iff.mp hget
  exact h (name', comparison) hmem

/-- The first gate promotes when every bound holds on every cohort that it covers. -/
theorem promotes_iff (h : AllMetricsPresent comparisons faultClasses) :
    Promotes texts thresholds comparisons faultClasses ↔
      MeetsBounds thresholds comparisons faultClasses := by
  constructor
  · intro hpromotes
    obtain ⟨pilot, highNoise, combinedOod, hpilot, hhighNoise, hcombinedOod⟩ :=
      exists_cohorts_of_promotes hpromotes
    -- the gate promotes if it has no reason against it, and each reason stands for a bound
    obtain ⟨hid, hcollapse, hinsufficient⟩ :=
      (promotes_iff_reasons hpilot hhighNoise hcombinedOod).mp hpromotes
    have hid' := (idRegressionReasons_eq_nil_iff (hasMetrics_of_get? h hpilot)).mp hid
    obtain ⟨hnoise, hood, halerts, hmissed⟩ := (insufficientReasons_eq_nil_iff
      (hasMetrics_of_get? h hhighNoise) (hasMetrics_of_get? h hcombinedOod)).mp hinsufficient
    exact ⟨⟨pilot, hpilot, hid'⟩, ⟨highNoise, hhighNoise, hnoise, halerts⟩,
      ⟨combinedOod, hcombinedOod, hood⟩, (collapsed_eq_nil_iff h).mp hcollapse,
      (missedRunRegressions_eq_nil_iff h).mp hmissed⟩
  · rintro ⟨⟨pilot, hpilot, hid⟩, ⟨highNoise, hhighNoise, hnoise, halerts⟩,
      ⟨combinedOod, hcombinedOod, hood⟩, hrecall, hmissed⟩
    rw [promotes_iff_reasons hpilot hhighNoise hcombinedOod,
      idRegressionReasons_eq_nil_iff (hasMetrics_of_get? h hpilot), collapsed_eq_nil_iff h,
      insufficientReasons_eq_nil_iff (hasMetrics_of_get? h hhighNoise)
        (hasMetrics_of_get? h hcombinedOod), missedRunRegressions_eq_nil_iff h]
    exact ⟨hid, hrecall, hnoise, hood, halerts, hmissed⟩

/-! ### Improvements -/

/-- The candidate's value is raised, or stays. -/
structure ModelDelta.RaisedTo (delta delta' : ModelDelta (Number format)) : Prop where
  original : delta'.originalValue = delta.originalValue
  robust : Option.Rel (· ≤ ·) delta.robustValue delta'.robustValue

/-- The candidate's value is lowered, or stays. -/
structure ModelDelta.LoweredTo (delta delta' : ModelDelta (Number format)) : Prop where
  original : delta'.originalValue = delta.originalValue
  robust : Option.Rel (· ≥ ·) delta.robustValue delta'.robustValue

/-- The candidate has raised some balanced accuracies or recalls, or lowered some rates of false
alerts or counts of missed runs. -/
structure CohortComparison.ImprovedTo (comparison comparison' : CohortComparison format counts) :
    Prop where
  balancedAccuracy : comparison.balancedAccuracy.RaisedTo comparison'.balancedAccuracy
  perClassRecall : ∀ cls, Option.Rel ModelDelta.RaisedTo
    (comparison.perClassRecall.get? cls) (comparison'.perClassRecall.get? cls)
  falseAlerts : comparison.falseAlertEventsPerHealthyHour.LoweredTo
    comparison'.falseAlertEventsPerHealthyHour
  missedRuns : comparison.correctClassMissedRunCount.LoweredTo
    comparison'.correctClassMissedRunCount

/-- The same cohorts, with an improved candidate. -/
def ImprovedTo (comparisons comparisons' : CohortComparisons format counts) : Prop :=
  ∀ name, Option.Rel CohortComparison.ImprovedTo (comparisons.get? name) (comparisons'.get? name)

/-- What is there on the left is there on the right. -/
theorem exists_right_of_rel {α β : Type} {r : α → β → Prop} {x : Option α} {y : Option β} {a : α}
    (h : Option.Rel r x y) (hx : x = some a) : ∃ b, y = some b ∧ r a b := by
  cases h with
  | none => cases hx
  | some hrel =>
      cases hx
      exact ⟨_, rfl, hrel⟩

/-- And the other way round. -/
theorem exists_left_of_rel {α β : Type} {r : α → β → Prop} {x : Option α} {y : Option β} {b : β}
    (h : Option.Rel r x y) (hy : y = some b) : ∃ a, x = some a ∧ r a b := by
  cases h with
  | none => cases hy
  | some hrel =>
      cases hy
      exact ⟨_, rfl, hrel⟩

/-- A bound that a greater value keeps to holds of a metric that is raised. -/
theorem ModelDelta.RaisedTo.satisfies {delta delta' : ModelDelta (Number format)}
    (h : delta.RaisedTo delta') {bound : Number format → Number format → Prop}
    (hbound : ∀ original robust robust', robust ≤ robust' → bound original robust →
      bound original robust') (hdelta : delta.Satisfies bound) : delta'.Satisfies bound := by
  obtain ⟨original, robust, horiginal, hrobust, hholds⟩ := hdelta
  obtain ⟨robust', hrobust', hle⟩ := exists_right_of_rel h.robust hrobust
  exact ⟨original, robust', h.original.trans horiginal, hrobust',
    hbound original robust robust' hle hholds⟩

/-- A bound that a smaller value keeps to holds of a metric that is lowered. -/
theorem ModelDelta.LoweredTo.satisfies {delta delta' : ModelDelta (Number format)}
    (h : delta.LoweredTo delta') {bound : Number format → Number format → Prop}
    (hbound : ∀ original robust robust', robust' ≤ robust → bound original robust →
      bound original robust') (hdelta : delta.Satisfies bound) : delta'.Satisfies bound := by
  obtain ⟨original, robust, horiginal, hrobust, hholds⟩ := hdelta
  obtain ⟨robust', hrobust', hle⟩ := exists_right_of_rel h.robust hrobust
  exact ⟨original, robust', h.original.trans horiginal, hrobust',
    hbound original robust robust' hle hholds⟩

/-- A cohort that is there is there for the improved candidate. -/
theorem ImprovedTo.exists_get? (h : ImprovedTo comparisons comparisons') {name : String}
    {cohort : CohortComparison format counts} (hget : comparisons.get? name = some cohort) :
    ∃ cohort', comparisons'.get? name = some cohort' ∧ cohort.ImprovedTo cohort' :=
  exists_right_of_rel (h name) hget

/-- Every cohort of the improved candidate was one before. -/
theorem ImprovedTo.exists_mem (h : ImprovedTo comparisons comparisons')
    {entry' : String × CohortComparison format counts} (hentry' : entry' ∈ comparisons'.items) :
    ∃ entry ∈ comparisons.items, entry.2.ImprovedTo entry'.2 := by
  have hget' : comparisons'.get? entry'.1 = some entry'.2 :=
    OrderedDict.get?_eq_some_iff.mpr ⟨entry'.1, hentry', rfl⟩
  obtain ⟨cohort, hget, himproved⟩ := exists_left_of_rel (h entry'.1) hget'
  obtain ⟨name, hmem, -⟩ := OrderedDict.get?_eq_some_iff.mp hget
  exact ⟨(name, cohort), hmem, himproved⟩

/-- A candidate that improves keeps to the bounds. -/
theorem MeetsBounds.mono (hbounds : MeetsBounds thresholds comparisons faultClasses)
    (h : ImprovedTo comparisons comparisons') :
    MeetsBounds thresholds comparisons' faultClasses where
  pilot := by
    obtain ⟨pilot, hget, haccuracy, halerts⟩ := hbounds.pilot
    obtain ⟨pilot', hget', himproved⟩ := h.exists_get? hget
    refine ⟨pilot', hget', himproved.balancedAccuracy.satisfies ?_ haccuracy,
      himproved.falseAlerts.satisfies (fun _ _ _ hle hholds => hle.trans hholds) halerts⟩
    intro original robust robust' hle hholds
    exact (Number.neg_anti (Number.sub_mono_left hle original)).trans hholds
  -- a gain over the original is greater for a greater value
  highNoise := by
    obtain ⟨highNoise, hget, haccuracy, halerts⟩ := hbounds.highNoise
    obtain ⟨highNoise', hget', himproved⟩ := h.exists_get? hget
    refine ⟨highNoise', hget', himproved.balancedAccuracy.satisfies ?_ haccuracy,
      himproved.falseAlerts.satisfies (fun _ _ _ hle hholds => hle.trans hholds) halerts⟩
    intro original robust robust' hle hholds
    exact hholds.trans (Number.sub_mono_left hle original)
  combinedOod := by
    obtain ⟨combinedOod, hget, haccuracy⟩ := hbounds.combinedOod
    obtain ⟨combinedOod', hget', himproved⟩ := h.exists_get? hget
    refine ⟨combinedOod', hget', himproved.balancedAccuracy.satisfies ?_ haccuracy⟩
    intro original robust robust' hle hholds
    exact hholds.trans (Number.sub_mono_left hle original)
  recalls := by
    intro entry' hentry' cls hcls
    obtain ⟨entry, hentry, himproved⟩ := h.exists_mem hentry'
    obtain ⟨delta, hdelta, hfloor⟩ := hbounds.recalls entry hentry cls hcls
    obtain ⟨delta', hdelta', hraised⟩ :=
      exists_right_of_rel (himproved.perClassRecall cls) hdelta
    exact ⟨delta', hdelta', hraised.satisfies (fun _ _ _ hle hholds => hholds.trans_le hle) hfloor⟩
  missedRuns := by
    intro entry' hentry'
    obtain ⟨entry, hentry, himproved⟩ := h.exists_mem hentry'
    refine himproved.missedRuns.satisfies ?_ (hbounds.missedRuns entry hentry)
    intro original robust robust' hle hholds
    exact (Number.le_iff.mp (Number.sub_mono_left hle original)).trans hholds

/-- An improved candidate has the metrics that it had. -/
theorem AllMetricsPresent.mono (hpresent : AllMetricsPresent comparisons faultClasses)
    (h : ImprovedTo comparisons comparisons') : AllMetricsPresent comparisons' faultClasses := by
  intro entry' hentry'
  obtain ⟨entry, hentry, himproved⟩ := h.exists_mem hentry'
  have hmetrics := hpresent entry hentry
  refine ⟨himproved.balancedAccuracy.satisfies (fun _ _ _ _ h => h) hmetrics.balancedAccuracy, ?_,
    himproved.falseAlerts.satisfies (fun _ _ _ _ h => h) hmetrics.falseAlerts,
    himproved.missedRuns.satisfies (fun _ _ _ _ h => h) hmetrics.missedRuns⟩
  intro cls hcls
  obtain ⟨delta, hdelta, hdeltaPresent⟩ := hmetrics.perClassRecall cls hcls
  obtain ⟨delta', hdelta', hraised⟩ := exists_right_of_rel (himproved.perClassRecall cls) hdelta
  exact ⟨delta', hdelta', hraised.satisfies (fun _ _ _ _ h => h) hdeltaPresent⟩

/-- A candidate that improves is promoted where it was. -/
theorem Promotes.mono (hpresent : AllMetricsPresent comparisons faultClasses)
    (h : ImprovedTo comparisons comparisons')
    (hpromotes : Promotes texts thresholds comparisons faultClasses) :
    Promotes texts thresholds comparisons' faultClasses :=
  (promotes_iff (hpresent.mono h)).mpr (((promotes_iff hpresent).mp hpromotes).mono h)

end Rule

/-- The gates apply one rule: the second decides what stands for the decision of the first, and both
promote a candidate when every bound holds on every cohort that it covers. A candidate that improves
is promoted where it was. -/
theorem promotionGates_agree (comparisons : CohortComparisons format counts)
    (faultClasses : List String) (hpresent : AllMetricsPresent comparisons faultClasses) :
    (decidePolicyPromotion texts thresholds comparisons faultClasses).map
        PolicyPromotionDecision.decision =
      (decidePromotion texts thresholds comparisons faultClasses).map
        (fun made => made.decision.counterpart) ∧
    (Promotes texts thresholds comparisons faultClasses ↔
      MeetsBounds thresholds comparisons faultClasses) ∧
    (PromotesPolicy texts thresholds comparisons faultClasses ↔
      MeetsBounds thresholds comparisons faultClasses) ∧
    ∀ comparisons', ImprovedTo comparisons comparisons' →
      (Promotes texts thresholds comparisons faultClasses →
        Promotes texts thresholds comparisons' faultClasses) ∧
      (PromotesPolicy texts thresholds comparisons faultClasses →
        PromotesPolicy texts thresholds comparisons' faultClasses) := by
  refine ⟨decision_decidePolicyPromotion, promotes_iff hpresent,
    promotesPolicy_iff_promotes.trans (promotes_iff hpresent), fun comparisons' himproved => ?_⟩
  simp only [promotesPolicy_iff_promotes]
  exact ⟨Promotes.mono hpresent himproved, Promotes.mono hpresent himproved⟩

/-- Exact metrics. -/
abbrev metricFormat : NumberFormat := .exact id id 3

/-- A metric with both of its values. -/
def bothValues (original robust : ℚ) : ModelDelta (Number metricFormat) :=
  ⟨some (.ofRat metricFormat original), some (.ofRat metricFormat robust)⟩

/-- A cohort with one class of faults, whose recall is the balanced accuracy. -/
def cohortOf (original robust : ℚ) : CohortComparison metricFormat metricFormat :=
  ⟨bothValues original robust, OrderedDict.empty.set "cooling" (bothValues original robust),
    bothValues 1 0.5, bothValues 3 4⟩

/-- The three cohorts that must be there. -/
def requiredCohorts : CohortComparisons metricFormat metricFormat :=
  ((OrderedDict.empty.set "pilot" (cohortOf 0.9 0.88)).set "high_noise" (cohortOf 0.5 0.6)).set
    "combined_ood_v1" (cohortOf 0.4 0.42)

/-- The cohort of the example has all metrics. -/
theorem hasMetrics_cohortOf (original robust : ℚ) :
    (cohortOf original robust).HasMetrics ["cooling"] where
  balancedAccuracy := ⟨_, _, rfl, rfl, trivial⟩
  perClassRecall cls hcls := by
    rw [List.mem_singleton.mp hcls]
    exact ⟨bothValues original robust, OrderedDict.get?_set_self, _, _, rfl, rfl, trivial⟩
  falseAlerts := ⟨_, _, rfl, rfl, trivial⟩
  missedRuns := ⟨_, _, rfl, rfl, trivial⟩

/-- A candidate within every bound is promoted by both gates. -/
theorem promotionGates_agree_requiredCohorts :
    MeetsBounds {} requiredCohorts ["cooling"] ∧
      PromotesPolicy ⟨fun x => toString x.val, fun x => toString x.val⟩ {} requiredCohorts
        ["cooling"] := by
  have hpresent : AllMetricsPresent requiredCohorts ["cooling"] := by
    have hentries : requiredCohorts.items = [("pilot", cohortOf 0.9 0.88),
        ("high_noise", cohortOf 0.5 0.6), ("combined_ood_v1", cohortOf 0.4 0.42)] := rfl
    rw [AllMetricsPresent, hentries]
    simp only [List.forall_mem_cons, List.not_mem_nil, false_imp_iff, implies_true, and_true]
    exact ⟨hasMetrics_cohortOf _ _, hasMetrics_cohortOf _ _, hasMetrics_cohortOf _ _⟩
  obtain ⟨-, hpromotes, hpromotesPolicy, -⟩ := promotionGates_agree
    ⟨fun x => toString x.val, fun x => toString x.val⟩ {} requiredCohorts ["cooling"] hpresent
  have hdecision : Promotes ⟨fun x => toString x.val, fun x => toString x.val⟩ {} requiredCohorts
      ["cooling"] := by
    rw [Promotes]
    decide +kernel
  exact ⟨hpromotes.mp hdecision, hpromotesPolicy.mpr (hpromotes.mp hdecision)⟩

end Odis.Simulator
