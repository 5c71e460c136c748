import Odis.Python.Binary64
import Odis.Reasoning.Totality

/-!
# Evidence of the hypotheses

What ties the hypotheses of a run to its evidence: the ids of the evidence are distinct, and every
id that a hypothesis gives is one of them. A hydrogen supply issue is supported by correlations
alone. A fuel flow that falls is enough for it, so without a correlation it is supported by nothing.
The numbers are of any type: where the trend of the fuel flow cannot be computed, there are no
hypotheses.

* `ids_generateEvidence_sublist`: the ids that evidence can have.
* `supportingIdsForKind_eq_nil_iff`: which hypotheses are supported by nothing.
* `grounded_iff`: when all the hypotheses of a run are grounded in its evidence.
-/

namespace Odis.Reasoning

open Exceptions Inference KeyedWindow

section Evidence

variable {F : Type} [PyFloat F] {observations : List (Observation F)}
  {signals : ReasoningSignals F} {texts : ValueTexts F}

/-! ## Ids -/

/-- The id of the evidence of a correlation. -/
def correlationId (rule : RelationshipRule) : String :=
  EvidenceSourceSignal.relationshipCorrelation.value ++ ":" ++ rule.measurementA ++ ":" ++
    rule.measurementB

/-- The id of the evidence of a contradiction. -/
def contradictionId (index : ℕ) : String :=
  EvidenceSourceSignal.relationshipContradiction.value ++ ":" ++ toString index

/-- The ids that evidence can have, with some correlations and a number of contradictions. -/
def possibleIds (correlations : List RelationshipRule) (contradictions : ℕ) : List String :=
  [EvidenceSourceSignal.latestReading.value] ++
    [EvidenceSourceSignal.detectedTrend.value, EvidenceSourceSignal.detectedVariation.value] ++
    [EvidenceSourceSignal.recentDelta.value] ++ [EvidenceSourceSignal.sampleSupport.value] ++
    correlations.map correlationId ++ (List.range contradictions).map contradictionId

/-- More correlations and contradictions only add ids. -/
theorem possibleIds_sublist {correlations rules : List RelationshipRule} {m n : ℕ}
    (hrules : correlations.Sublist rules) (hle : m ≤ n) :
    (possibleIds correlations m).Sublist (possibleIds rules n) :=
  ((List.Sublist.refl _).append (hrules.map _)).append
    ((List.range_sublist.mpr hle).map _)

/-- Each piece of evidence has an id of its own. -/
theorem ids_generateEvidence_sublist :
    ((generateEvidence texts signals).map Evidence.id).Sublist
      (possibleIds signals.relationshipAnalysis.correlations
        signals.relationshipAnalysis.contradictions.length) := by
  have hcontradictions : (signals.relationshipAnalysis.contradictions.zipIdx.map Prod.snd) =
      List.range signals.relationshipAnalysis.contradictions.length := by
    rw [List.zipIdx_map_snd, List.range_eq_range']
  rw [possibleIds, ← hcontradictions]
  simp only [generateEvidence, List.map_append, List.map_map]
  refine List.Sublist.append (List.Sublist.append (List.Sublist.append (List.Sublist.append
    (List.Sublist.append ?_ (List.Sublist.refl _)) ?_) ?_) (List.Sublist.refl _))
    (List.Sublist.refl _)
  -- each kind of evidence is there or left out
  · split
    · exact List.nil_sublist _
    · exact List.Sublist.refl _
  · split
    · exact List.Sublist.refl _
    · exact List.nil_sublist _
  · by_cases hprimary : signals.primaryObservations = []
    · rw [if_pos hprimary]
      exact List.nil_sublist _
    · rw [if_neg hprimary]
      exact List.Sublist.refl _

/-- The rules that hold are found in the order of the policy. -/
theorem rulesThatHold_sublist {directionA directionB : TrendDirection}
    {rules held : List RelationshipRule}
    (h : rulesThatHold directionA directionB observations rules = .ok held) :
    held.Sublist rules := by
  induction rules generalizing held with
  | nil =>
      cases h
      exact List.Sublist.refl _
  | cons rule rules ih =>
      obtain ⟨holds, -, h⟩ := bind_eq_ok.mp h
      obtain ⟨others, hothers, h⟩ := bind_eq_ok.mp h
      cases holds with
      | false =>
          cases h
          exact (ih hothers).cons rule
      | true =>
          cases h
          exact (ih hothers).cons_cons rule

/-- None of the rules is left out that holds. -/
theorem rulesThatHold_eq_nil_iff {directionA directionB : TrendDirection}
    {rules held : List RelationshipRule}
    (h : rulesThatHold directionA directionB observations rules = .ok held) :
    held = [] ↔
      ∀ rule ∈ rules, ruleHolds directionA directionB observations rule = .ok false := by
  induction rules generalizing held with
  | nil =>
      cases h
      simp
  | cons rule rules ih =>
      obtain ⟨holds, hholds, h⟩ := bind_eq_ok.mp h
      obtain ⟨others, hothers, h⟩ := bind_eq_ok.mp h
      rw [List.forall_mem_cons, ← ih hothers, hholds]
      cases holds with
      | false =>
          cases h
          simp
      | true =>
          cases h
          simp

/-- No rules are found where none holds. -/
theorem rulesThatHold_eq_nil {directionA directionB : TrendDirection}
    {rules : List RelationshipRule}
    (h : ∀ rule ∈ rules, ruleHolds directionA directionB observations rule = .ok false) :
    rulesThatHold directionA directionB observations rules = .ok [] := by
  induction rules with
  | nil => rfl
  | cons rule rules ih =>
      obtain ⟨hfirst, hrest⟩ := List.forall_mem_cons.mp h
      rw [rulesThatHold, hfirst, ih hrest]
      rfl

/-! ## Support -/

/-- What a hypothesis is supported by is evidence. -/
theorem exists_of_mem_supportingIdsForKind {kind : HypothesisKind} {evidence : List Evidence}
    {id : String} (h : id ∈ supportingIdsForKind kind evidence) :
    ∃ item ∈ evidence, item.id = id := by
  have hfilter : ∀ {keep : Evidence → Bool}, id ∈ (evidence.filter keep).map Evidence.id →
      ∃ item ∈ evidence, item.id = id := by
    intro keep h
    obtain ⟨item, hitem, hid⟩ := List.mem_map.mp h
    exact ⟨item, (List.mem_filter.mp hitem).1, hid⟩
  have htake : id ∈ (evidence.take 2).map Evidence.id → ∃ item ∈ evidence, item.id = id := by
    intro h
    obtain ⟨item, hitem, hid⟩ := List.mem_map.mp h
    exact ⟨item, List.mem_of_mem_take hitem, hid⟩
  cases kind with
  | unknown => exact htake h
  | sensorDrift => exact hfilter h
  | loadChange => exact htake h
  | coolingDegradation => exact hfilter h
  | hydrogenSupply => exact hfilter h

/-- The variation is always a piece of evidence. -/
theorem exists_detectedVariation (texts : ValueTexts F) (signals : ReasoningSignals F) :
    ∃ item ∈ generateEvidence texts signals, item.sourceSignal = .detectedVariation :=
  ⟨_, List.mem_append_left _ (List.mem_append_left _ (List.mem_append_left _
    (List.mem_append_left _ (List.mem_append_right _
      (List.mem_cons_of_mem _ List.mem_cons_self))))), rfl⟩

/-- Every correlation is a piece of evidence. -/
theorem exists_of_correlations_ne_nil (texts : ValueTexts F)
    (h : signals.relationshipAnalysis.correlations ≠ []) :
    ∃ item ∈ generateEvidence texts signals, item.sourceSignal = .relationshipCorrelation := by
  obtain ⟨rule, hrule⟩ := List.exists_mem_of_ne_nil _ h
  exact ⟨_, List.mem_append_left _ (List.mem_append_right _ (List.mem_map_of_mem hrule)), rfl⟩

/-- Nothing but a correlation is a piece of evidence for one. -/
theorem correlations_ne_nil_of_mem {item : Evidence} (hitem : item ∈ generateEvidence texts signals)
    (hsource : item.sourceSignal = .relationshipCorrelation) :
    signals.relationshipAnalysis.correlations ≠ [] := by
  rcases List.mem_append.mp hitem with hitem | hitem
  · rcases List.mem_append.mp hitem with hitem | hitem
    -- the other pieces of evidence come from other signals
    · exfalso
      rcases List.mem_append.mp hitem with hitem | hitem
      · rcases List.mem_append.mp hitem with hitem | hitem
        · rcases List.mem_append.mp hitem with hitem | hitem
          · split at hitem
            · cases hitem
            · rw [List.mem_singleton.mp hitem] at hsource
              cases hsource
          · rcases List.mem_pair.mp hitem with rfl | rfl <;> cases hsource
        · split at hitem
          · rw [List.mem_singleton.mp hitem] at hsource
            cases hsource
          · cases hitem
      · split at hitem
        · cases hitem
        · rw [List.mem_singleton.mp hitem] at hsource
          cases hsource
    · obtain ⟨rule, hrule, -⟩ := List.mem_map.mp hitem
      exact List.ne_nil_of_mem hrule
  · obtain ⟨entry, -, rfl⟩ := List.mem_map.mp hitem
    cases hsource

/-- What is supported by correlations alone is supported by nothing without them; everything else is
supported in any case. -/
theorem supportingIdsForKind_eq_nil_iff {kind : HypothesisKind} :
    supportingIdsForKind kind (generateEvidence texts signals) = [] ↔
      (kind = .coolingDegradation ∨ kind = .hydrogenSupply) ∧
        signals.relationshipAnalysis.correlations = [] := by
  have htake : ((generateEvidence texts signals).take 2).map Evidence.id ≠ [] := by
    simp [generateEvidence_ne_nil]
  have hcorrelation : ((generateEvidence texts signals).filter fun item =>
      item.sourceSignal ∈ [EvidenceSourceSignal.relationshipCorrelation]).map Evidence.id = [] ↔
        signals.relationshipAnalysis.correlations = [] := by
    rw [List.map_eq_nil_iff, List.filter_eq_nil_iff]
    constructor
    · intro hnone
      by_contra hne
      obtain ⟨item, hitem, hsource⟩ := exists_of_correlations_ne_nil texts hne
      exact hnone item hitem (by simp [hsource])
    · intro hnil item hitem hsource
      exact correlations_ne_nil_of_mem hitem (by simpa using hsource) hnil
  -- there is always evidence of the variation
  have hdrift : ((generateEvidence texts signals).filter fun item =>
      item.sourceSignal ∈ [EvidenceSourceSignal.relationshipContradiction,
        EvidenceSourceSignal.detectedVariation]).map Evidence.id ≠ [] := by
    obtain ⟨item, hitem, hsource⟩ := exists_detectedVariation texts signals
    intro hnil
    rw [List.map_eq_nil_iff, List.filter_eq_nil_iff] at hnil
    exact hnil item hitem (by simp [hsource])
  cases kind with
  | unknown => simpa [supportingIdsForKind] using htake
  | loadChange => simpa [supportingIdsForKind] using htake
  | sensorDrift => simpa [supportingIdsForKind] using hdrift
  | coolingDegradation => simpa [supportingIdsForKind] using hcorrelation
  | hydrogenSupply => simpa [supportingIdsForKind] using hcorrelation

/-! ## Hypotheses -/

/-- The hypotheses are the leading one and, where the history is short, an unresolved one. -/
structure LedBy (kind : FaultKind) (evidence : List Evidence) (leading : Hypothesis)
    (hypotheses : List Hypothesis) : Prop where
  cooling : leading.kind = .coolingDegradation ↔ kind = .coolingDegradation
  hydrogen : leading.kind = .hydrogenSupply ↔ kind = .hydrogenSupply
  support : leading.supportingEvidenceIds = supportingIdsForKind leading.kind evidence
  id_ne : leading.id ≠ "hypothesis-unknown"
  hypotheses : hypotheses = [leading] ∨ ∃ unresolved, hypotheses = [leading, unresolved] ∧
    unresolved.id = "hypothesis-unknown" ∧ unresolved.kind = .unknown ∧
    unresolved.supportingEvidenceIds = supportingIdsForKind .unknown evidence

/-- A leading hypothesis comes first, and the unresolved one after it if the support is short. -/
theorem ledBy_hypothesis {kind : FaultKind} {evidence : List Evidence} {id : String}
    {leadingKind : HypothesisKind} (hid : id ≠ "hypothesis-unknown")
    (hcooling : leadingKind = .coolingDegradation ↔ kind = .coolingDegradation)
    (hhydrogen : leadingKind = .hydrogenSupply ↔ kind = .hydrogenSupply)
    (rationale unresolved : String) (short : Prop) [Decidable short] :
    LedBy kind evidence (hypothesis evidence id leadingKind rationale)
      (hypothesis evidence id leadingKind rationale ::
        if short then [hypothesis evidence "hypothesis-unknown" .unknown unresolved] else []) where
  cooling := hcooling
  hydrogen := hhydrogen
  support := rfl
  id_ne := hid
  hypotheses := by
    by_cases hshort : short
    · rw [if_pos hshort]
      exact Or.inr ⟨_, rfl, rfl, rfl, rfl⟩
    · rw [if_neg hshort]
      exact Or.inl rfl

/-- What is generated is led by the hypothesis of the fault kind. -/
theorem ledBy_generateHypotheses {evidence : List Evidence} {hypotheses : List Hypothesis}
    (h : generateHypotheses signals evidence observations = .ok hypotheses) :
    ∃ kind leading, faultKind signals observations = .ok kind ∧
      LedBy kind evidence leading hypotheses := by
  obtain ⟨kind, hkind, h⟩ := bind_eq_ok.mp h
  refine ⟨kind, ?_⟩
  cases h
  cases kind with
  | coolingDegradation =>
      exact ⟨_, hkind, ledBy_hypothesis (by decide) (by decide) (by decide) _ _ _⟩
  | hydrogenSupply =>
      exact ⟨_, hkind, ledBy_hypothesis (by decide) (by decide) (by decide) _ _ _⟩
  | neither =>
      by_cases hdrift : signals.variation.level = .high ∨
          signals.relationshipAnalysis.contradictions ≠ []
      · simp only [if_pos hdrift]
        exact ⟨_, hkind, ledBy_hypothesis (by decide) (by decide) (by decide) _ _ _⟩
      · simp only [if_neg hdrift]
        exact ⟨_, hkind, ledBy_hypothesis (by decide) (by decide) (by decide) _ _ _⟩

/-- What is asked of the evidence and the hypotheses of a run: they can be told apart, and every
hypothesis is supported by evidence of the run. -/
structure Grounded (evidence : List Evidence) (hypotheses : List Hypothesis) : Prop where
  /-- No two pieces of evidence share an id. -/
  evidenceIds : (evidence.map Evidence.id).Nodup
  /-- There is a leading hypothesis, and at most one more. -/
  oneOrTwo : hypotheses.length = 1 ∨ hypotheses.length = 2
  /-- No two hypotheses share an id. -/
  hypothesisIds : (hypotheses.map Hypothesis.id).Nodup
  /-- What supports a hypothesis is evidence of the run. -/
  fromEvidence : ∀ h ∈ hypotheses, ∀ id ∈ h.supportingEvidenceIds, ∃ item ∈ evidence, item.id = id
  /-- Something supports every hypothesis. -/
  supported : ∀ h ∈ hypotheses, h.supportingEvidenceIds ≠ []

/-- All that is asked holds if the evidence is distinct and supports the leading hypothesis. -/
theorem LedBy.forall_isGrounded_iff {kind : FaultKind} {leading : Hypothesis}
    {hypotheses : List Hypothesis}
    (h : LedBy kind (generateEvidence texts signals) leading hypotheses)
    (hids : ((generateEvidence texts signals).map Evidence.id).Nodup) :
    Grounded (generateEvidence texts signals) hypotheses ↔
      leading.supportingEvidenceIds ≠ [] := by
  -- whatever a hypothesis cites is a piece of evidence
  have hleading : ∀ id ∈ leading.supportingEvidenceIds,
      ∃ item ∈ generateEvidence texts signals, item.id = id := by
    rw [h.support]
    exact fun id hid => exists_of_mem_supportingIdsForKind hid
  have hunknown : supportingIdsForKind .unknown (generateEvidence texts signals) ≠ [] := by
    intro hnil
    rcases (supportingIdsForKind_eq_nil_iff.mp hnil).1 with hkind | hkind <;> cases hkind
  -- the leading hypothesis stands alone, or with the unresolved one, which is always supported
  rcases h.hypotheses with rfl | ⟨unresolved, rfl, hid, -, hsupport⟩
  · refine ⟨fun hgrounded => hgrounded.supported leading List.mem_cons_self, fun hsupported => ?_⟩
    exact ⟨hids, Or.inl rfl, List.nodup_singleton _, by simpa using hleading, by simpa⟩
  · refine ⟨fun hgrounded => hgrounded.supported leading List.mem_cons_self, fun hsupported => ?_⟩
    refine ⟨hids, Or.inr rfl, ?_, ?_, ?_⟩
    · have hne : leading.id ≠ unresolved.id := hid ▸ h.id_ne
      simpa using hne
    · rw [List.forall_mem_cons]
      refine ⟨hleading, ?_⟩
      intro h' hmem
      rw [List.mem_singleton.mp hmem, hsupport]
      exact fun id hid => exists_of_mem_supportingIdsForKind hid
    · rw [List.forall_mem_cons]
      refine ⟨hsupported, ?_⟩
      intro h' hmem
      rw [List.mem_singleton.mp hmem, hsupport]
      exact hunknown

/-! ## The two profiles -/

/-- The profiles that the program has. -/
def IsBuiltIn (profile : StageProfile) : Prop := profile = .default ∨ profile = .fuelCell

variable {profile : StageProfile}

/-- Only relationships that contradict each other are unexpected, and under a profile that expects
anything none do. -/
theorem hasUnexpectedExpectations_eq_false (hprofile : IsBuiltIn profile)
    (h : SignalsOf profile.toOperationalProfile observations signals) :
    signals.hasUnexpectedExpectations = false := by
  rcases hprofile with rfl | rfl
  · exact (Except.ok.inj h.expectations).symm
  · obtain ⟨correlations, -, hrest⟩ := bind_eq_ok.mp h.relationshipAnalysis
    obtain ⟨contradictions, hcontradictions, hanalysis⟩ := bind_eq_ok.mp hrest
    have hnone : contradictions = [] := List.sublist_nil.mp (rulesThatHold_sublist hcontradictions)
    have hexpectations := Except.ok.inj h.expectations
    rw [← Except.ok.inj hanalysis, hnone] at hexpectations
    rw [← hexpectations]
    exact decide_eq_false fun hunexpected => hunexpected.2 rfl

/-- The evidence of a run is distinct. -/
theorem nodup_generateEvidence (texts : ValueTexts F) (hprofile : IsBuiltIn profile)
    (h : SignalsOf profile.toOperationalProfile observations signals) :
    ((generateEvidence texts signals).map Evidence.id).Nodup := by
  obtain ⟨correlations, hcorrelations, hrest⟩ := bind_eq_ok.mp h.relationshipAnalysis
  obtain ⟨contradictions, hcontradictions, hanalysis⟩ := bind_eq_ok.mp hrest
  have hids : ((generateEvidence texts signals).map Evidence.id).Sublist (possibleIds
      signals.relationshipAnalysis.correlations
      signals.relationshipAnalysis.contradictions.length) := ids_generateEvidence_sublist
  rw [← Except.ok.inj hanalysis] at hids
  have hpossible := hids.trans (possibleIds_sublist (rulesThatHold_sublist hcorrelations)
    (rulesThatHold_sublist hcontradictions).length_le)
  refine hpossible.nodup ?_
  rcases hprofile with rfl | rfl <;> decide +kernel

/-- Under neither profile are the stack temperature and the fuel flow found to be correlated as a
cooling degradation needs them to be. -/
theorem supportsCoolingDegradation_of_builtIn (hprofile : IsBuiltIn profile)
    (h : SignalsOf profile.toOperationalProfile observations signals) :
    supportsCoolingDegradation signals = false := by
  rcases hprofile with rfl | rfl
  · obtain ⟨correlations, hcorrelations, hrest⟩ := bind_eq_ok.mp h.relationshipAnalysis
    obtain ⟨contradictions, -, hanalysis⟩ := bind_eq_ok.mp hrest
    -- this profile correlates no other pair
    have hheld : correlations.Sublist [⟨"temperature", "pressure"⟩] :=
      rulesThatHold_sublist hcorrelations
    have hnone : ∀ correlation ∈ signals.relationshipAnalysis.correlations,
        ¬ (correlation = ⟨"stack_temperature", "fuel_flow"⟩ ∨
          correlation = ⟨"fuel_flow", "stack_temperature"⟩) := by
      rw [← Except.ok.inj hanalysis]
      intro correlation hmem
      rw [List.mem_singleton.mp (hheld.subset hmem)]
      decide
    rw [supportsCoolingDegradation]
    split
    · rfl
    · refine decide_eq_false fun hsupports => ?_
      obtain ⟨correlation, hmem, hpair⟩ := List.any_eq_true.mp hsupports.2.2.2
      exact hnone correlation hmem (of_decide_eq_true hpair)
  · exact supportsCoolingDegradation_eq_false h

/-- The fault is told apart by the fuel flow alone. -/
theorem faultKind_of_builtIn (hprofile : IsBuiltIn profile)
    (h : SignalsOf profile.toOperationalProfile observations signals) :
    faultKind signals observations = (fuelFlowDecreasing observations).map fun falling =>
      if falling then .hydrogenSupply else .neither := by
  rw [faultKind, supportsCoolingDegradation_of_builtIn hprofile h, supportsHydrogenSupply,
    hasUnexpectedExpectations_eq_false hprofile h]
  cases fuelFlowDecreasing observations with
  | error error => rfl
  | ok falling => cases falling <;> rfl

/-- There are hypotheses if the trend of the fuel flow can be told, and the leading one is supported
unless it is due to the fuel flow. -/
theorem exists_ledBy (texts : ValueTexts F) (hprofile : IsBuiltIn profile)
    (h : signalExtraction profile.toOperationalProfile observations = .ok signals) {falling : Bool}
    (hfalling : fuelFlowDecreasing observations = .ok falling) :
    ∃ kind leading hypotheses,
      generateHypotheses signals (generateEvidence texts signals) observations = .ok hypotheses ∧
      LedBy kind (generateEvidence texts signals) leading hypotheses ∧
      (leading.supportingEvidenceIds = [] ↔ falling = true ∧
        ∀ rule ∈ profile.relationshipPolicy.correlationRules,
          ruleHolds .increasing .decreasing observations rule = .ok false) := by
  have hsignals := signalsOf_signalExtraction h
  have hfault := faultKind_of_builtIn hprofile hsignals
  rw [hfalling] at hfault
  obtain ⟨hypotheses, hhypotheses⟩ : ∃ hypotheses, generateHypotheses signals
      (generateEvidence texts signals) observations = .ok hypotheses := by
    rw [generateHypotheses, hfault]
    exact ⟨_, rfl⟩
  -- the leading hypothesis is supported by what its kind looks at
  obtain ⟨kind, leading, hkind, hled⟩ := ledBy_generateHypotheses hhypotheses
  have hkind : kind = if falling then .hydrogenSupply else .neither :=
    Except.ok.inj (hkind.symm.trans hfault)
  refine ⟨kind, leading, hypotheses, hhypotheses, hled, ?_⟩
  obtain ⟨correlations, hheld, hrest⟩ := bind_eq_ok.mp hsignals.relationshipAnalysis
  obtain ⟨contradictions, -, hanalysis⟩ := bind_eq_ok.mp hrest
  have hcorrelations : signals.relationshipAnalysis.correlations = correlations := by
    rw [← Except.ok.inj hanalysis]
  rw [hled.support, supportingIdsForKind_eq_nil_iff, hled.cooling, hled.hydrogen,
    ← rulesThatHold_eq_nil_iff hheld, hcorrelations, hkind]
  cases falling <;> simp

/-- Without a trend of the fuel flow there are no hypotheses. -/
theorem exists_fuelFlowDecreasing_of_ok (hprofile : IsBuiltIn profile)
    (h : SignalsOf profile.toOperationalProfile observations signals) {evidence : List Evidence}
    {hypotheses : List Hypothesis}
    (hok : generateHypotheses signals evidence observations = .ok hypotheses) :
    ∃ falling, fuelFlowDecreasing observations = .ok falling := by
  obtain ⟨kind, hkind, -⟩ := bind_eq_ok.mp hok
  rw [faultKind_of_builtIn hprofile h] at hkind
  obtain ⟨falling, hfalling, -⟩ := map_eq_ok.mp hkind
  exact ⟨falling, hfalling⟩

/-- The hypotheses of a run are grounded in its evidence exactly if the trend of the fuel flow can
be told, and it does not fall or there is a correlation: without one, a hydrogen supply issue is
supported by nothing. -/
theorem grounded_iff (texts : ValueTexts F) (hprofile : IsBuiltIn profile)
    (h : signalExtraction profile.toOperationalProfile observations = .ok signals) :
    (∃ hypotheses, generateHypotheses signals (generateEvidence texts signals) observations =
        .ok hypotheses ∧ Grounded (generateEvidence texts signals) hypotheses) ↔
      ∃ falling, fuelFlowDecreasing observations = .ok falling ∧
        ¬ (falling = true ∧ ∀ rule ∈ profile.relationshipPolicy.correlationRules,
          ruleHolds .increasing .decreasing observations rule = .ok false) := by
  have hsignals := signalsOf_signalExtraction h
  have hids := nodup_generateEvidence texts hprofile hsignals
  constructor
  · rintro ⟨hypotheses, hhypotheses, hgrounded⟩
    obtain ⟨falling, hfalling⟩ := exists_fuelFlowDecreasing_of_ok hprofile hsignals hhypotheses
    obtain ⟨kind, leading, hypotheses', hhypotheses', hled, hunsupported⟩ :=
      exists_ledBy texts hprofile h hfalling
    cases hhypotheses.symm.trans hhypotheses'
    refine ⟨falling, hfalling, ?_⟩
    rw [← hunsupported]
    -- the leading hypothesis is the only one that may be supported by nothing
    exact (hled.forall_isGrounded_iff hids).mp hgrounded
  · rintro ⟨falling, hfalling, hsupported⟩
    obtain ⟨kind, leading, hypotheses, hhypotheses, hled, hunsupported⟩ :=
      exists_ledBy texts hprofile h hfalling
    rw [← hunsupported] at hsupported
    exact ⟨hypotheses, hhypotheses, (hled.forall_isGrounded_iff hids).mpr hsupported⟩

end Evidence

/-! ## A fuel flow of its own -/

/-- Eight readings of a fuel flow, four of one and then four of another value. -/
def fuelFlowTo (last : ℚ) : List (Observation Binary64) :=
  seriesOf "fuel_flow" (List.replicate 4 (.ofRat 1) ++ List.replicate 4 (.ofRat last))

/-- How the numbers are written. -/
def writtenNumbers : ValueTexts Binary64 :=
  ⟨fun value unit => toString value.toRat ++ " " ++ unit, fun value => toString value.toRat⟩

section FuelFlow

variable (last : ℚ)

/-- The readings are a history. -/
theorem isHistory_fuelFlowTo : IsHistory "stack-1" "fuel_flow" (fuelFlowTo last) :=
  isHistory_seriesOf "fuel_flow" _

/-- There are eight of them. -/
theorem length_fuelFlowTo : (fuelFlowTo last).length = 8 := length_seriesOf _ _

/-- All are of the fuel flow. -/
theorem ofKey_fuelFlowTo :
    ofKey Observation.measurementType "fuel_flow" (fuelFlowTo last) = fuelFlowTo last := by
  rw [ofKey, List.filter_eq_self]
  exact fun o ho => decide_eq_true ((isHistory_fuelFlowTo last).measurementType o ho)

/-- And none of another measurement. -/
theorem ofKey_fuelFlowTo_of_ne {m : String} (hm : m ≠ "fuel_flow") :
    ofKey Observation.measurementType m (fuelFlowTo last) = [] := by
  rw [ofKey, List.filter_eq_nil_iff]
  intro o ho heq
  exact hm ((of_decide_eq_true heq).symm.trans
    ((isHistory_fuelFlowTo last).measurementType o ho))

/-- No rule of the profile holds of one measurement alone. -/
theorem ruleHolds_fuelFlowTo : ∀ rule ∈ StageProfile.fuelCell.relationshipPolicy.correlationRules,
    ruleHolds .increasing .decreasing (fuelFlowTo last) rule = .ok false := by
  intro rule hrule
  have hother : rule.measurementA ≠ "fuel_flow" ∨ rule.measurementB ≠ "fuel_flow" := by
    have hall : ∀ rule ∈ StageProfile.fuelCell.relationshipPolicy.correlationRules,
        rule.measurementA ≠ "fuel_flow" ∨ rule.measurementB ≠ "fuel_flow" := by decide
    exact hall rule hrule
  rw [ruleHolds]
  refine if_pos ?_
  rcases hother with hA | hB
  · refine Or.inl ?_
    rw [ofKey_fuelFlowTo_of_ne last hA]
    exact Nat.two_pos
  · refine Or.inr ?_
    rw [ofKey_fuelFlowTo_of_ne last hB]
    exact Nat.two_pos

variable {last} {direction : TrendDirection}
  (h : splitHalfDirection (fuelFlowTo last) = .ok direction)

include h

/-- The detector finds the direction of the halves. -/
theorem detect_fuelFlowTo : detect (fuelFlowTo last) = .ok ⟨direction, "stack-1", "fuel_flow"⟩ := by
  have htwo : 2 ≤ (fuelFlowTo last).length := by
    rw [length_fuelFlowTo]
    decide
  rw [detect_series (isHistory_fuelFlowTo last).isSeries htwo,
    sortedByTimestamp_eq (isHistory_fuelFlowTo last).order.sorted, h]
  rfl

/-- The fuel flow decreases if this direction says so. -/
theorem fuelFlowDecreasing_fuelFlowTo :
    fuelFlowDecreasing (fuelFlowTo last) = .ok (decide (direction = .decreasing)) := by
  have hmany : ¬ (fuelFlowTo last).length < 2 := by
    rw [length_fuelFlowTo]
    decide
  unfold fuelFlowDecreasing
  dsimp only
  rw [ofKey_fuelFlowTo, if_neg hmany, detect_fuelFlowTo h]
  rfl

/-- The signals of the fuel flow can be extracted, and nothing is correlated. -/
theorem exists_signals_fuelFlowTo : ∃ signals,
    signalExtraction StageProfile.fuelCell.toOperationalProfile (fuelFlowTo last) =
      .ok signals := by
  have hprimary : primaryMeasurementObservations (fuelFlowTo last) = fuelFlowTo last :=
    ofKey_fuelFlowTo last
  have htwice : 2 ≤ (primaryMeasurementObservations (fuelFlowTo last)).length := by
    rw [hprimary, length_fuelFlowTo]
    decide
  have hanalysis : analyzeRelationships StageProfile.fuelCell.relationshipPolicy
      (fuelFlowTo last) = .ok ⟨[], []⟩ := by
    rw [analyzeRelationships, rulesThatHold_eq_nil (ruleHolds_fuelFlowTo last)]
    rfl
  exact ⟨_, signalExtraction_eq (isHistory_fuelFlowTo last).assetId
    (hprimary.symm ▸ (isHistory_fuelFlowTo last).isSeries) htwice
    (hprimary.symm ▸ detect_fuelFlowTo h) hanalysis⟩

end FuelFlow

/-- A fuel flow that falls to nothing decreases. -/
theorem splitHalfDirection_fallingFuelFlow :
    splitHalfDirection (fuelFlowTo 0) = .ok .decreasing := by decide +kernel

/-- One that stays is stable. -/
theorem splitHalfDirection_steadyFuelFlow :
    splitHalfDirection (fuelFlowTo 1) = .ok .stable := by decide +kernel

/-- A fuel flow that falls with nothing else measured is a hydrogen supply issue without
evidence. -/
theorem not_grounded_fallingFuelFlow :
    ¬ ∀ (observations : List (Observation Binary64)) (signals : ReasoningSignals Binary64),
      signalExtraction StageProfile.fuelCell.toOperationalProfile observations = .ok signals →
      ∃ hypotheses, generateHypotheses signals (generateEvidence writtenNumbers signals)
          observations = .ok hypotheses ∧
        Grounded (generateEvidence writtenNumbers signals) hypotheses := by
  intro hgrounded
  have hdirection := splitHalfDirection_fallingFuelFlow
  obtain ⟨signals, hsignals⟩ := exists_signals_fuelFlowTo hdirection
  obtain ⟨hypotheses, hhypotheses, hgrounded⟩ := hgrounded _ signals hsignals
  obtain ⟨kind, leading, hypotheses', hhypotheses', hled, hunsupported⟩ :=
    exists_ledBy writtenNumbers (Or.inr rfl) hsignals (fuelFlowDecreasing_fuelFlowTo hdirection)
  cases hhypotheses.symm.trans hhypotheses'
  have hleading : leading ∈ hypotheses := by
    rcases hled.hypotheses with rfl | ⟨unresolved, rfl, -⟩ <;> exact List.mem_cons_self
  exact hgrounded.supported leading hleading (hunsupported.mpr ⟨rfl, ruleHolds_fuelFlowTo _⟩)

/-- A steady fuel flow leads to hypotheses with evidence. -/
theorem grounded_iff_steadyFuelFlow : ∃ signals,
    signalExtraction StageProfile.fuelCell.toOperationalProfile (fuelFlowTo 1) = .ok signals ∧
      ∃ hypotheses, generateHypotheses signals (generateEvidence writtenNumbers signals)
          (fuelFlowTo 1) = .ok hypotheses ∧
        Grounded (generateEvidence writtenNumbers signals) hypotheses := by
  have hdirection := splitHalfDirection_steadyFuelFlow
  obtain ⟨signals, hsignals⟩ := exists_signals_fuelFlowTo hdirection
  refine ⟨signals, hsignals, (grounded_iff writtenNumbers (Or.inr rfl) hsignals).mpr ?_⟩
  exact ⟨false, fuelFlowDecreasing_fuelFlowTo hdirection, fun h => Bool.false_ne_true h.1⟩

end Odis.Reasoning
