import Odis.Library.Transducer
import Odis.Monitoring.Announcement

/-!
# How far what is shown drifts from what was announced

A run announces a state over all observations of the asset, and operators are shown one over the
window of the run. The two engines are given the same plan and the same assessment, so the states
can differ by the trend of the primary measurement alone: the first one of all observations, which
may be another than the first one of the window.

* `scoresDrift`: the scores differ by what the two trends cost, hence by at most 30.
* `runsAgree_of_along`: in a history whose windows begin with the first measurement, what is shown
  of every run is what it announced, and the announced changes are those that are shown.
* `not_runsAgree_drifting`: a history in which a score drifts.
-/

namespace Odis.Monitoring

open Dispersion Exceptions ExactReal Inference KeyedWindow Operations Outbox Reasoning
open ReasoningHistory Twin WriteLog

/-! ## What is shown -/

section Shown

variable {F : Type} [PyMath F] {service : ObservationService F} {draws : ServiceDraws}
  {assetId : String} {store store' later : Store F} {outcome : ReasoningOutcome}
  {shown : OperationalState}

/-- The trends of all observations of the asset and of those of the window are what sets the state
that is shown apart from the one that was announced. -/
theorem exists_trends_of_shows (hwell : WellFormed store)
    (hran : Ran service draws assetId store store' (some outcome)) (hlater : Extends store' later)
    (hshown : later.Shows assetId outcome.runId shown) :
    ∃ announcedTrend shownTrend priority assessment,
      judgeTrend (recentPrimary (store.listByAsset assetId))
        ((recentPrimary (store.listByAsset assetId)).head?.map Observation.measurementType) =
          .ok announcedTrend ∧
      judgeTrend (recentPrimary (recentByKey Observation.measurementType configuredWindow.toNat
          (store.listByAsset assetId)))
        ((recentPrimary (recentByKey Observation.measurementType configuredWindow.toNat
          (store.listByAsset assetId))).head?.map Observation.measurementType) = .ok shownTrend ∧
      outcome.newState.healthScore = 100 - priorityPenalty priority - trendPenalty announcedTrend -
        assessmentPenalty assessment ∧
      shown.healthScore = 100 - priorityPenalty priority - trendPenalty shownTrend -
        assessmentPenalty assessment := by
  obtain ⟨hwell', -⟩ := hran.keeps hwell
  obtain ⟨result, index, hindex, -, -, hnew, hafter⟩ :=
    computeOperationalStateForRun_announced hwell hran
  unfold Store.Shows at hshown
  rw [computeOperationalStateForRun_of_extends hwell' hlater hindex, hafter] at hshown
  obtain ⟨state, hstate, hsome⟩ := map_eq_ok.mp hshown
  obtain rfl := Option.some.inj hsome
  obtain ⟨announcedTrend, hannounced, -, hscore, -⟩ := exists_of_compute hnew
  obtain ⟨shownTrend, hshownTrend, -, hscore', -⟩ := exists_of_compute hstate
  exact ⟨announcedTrend, shownTrend, _, _, hannounced, hshownTrend, hscore, hscore'⟩

/-- The state that is shown of a run differs from the one that it announced by what the trends of
the two primary measurements cost, and by nothing else. -/
def ScoresDrift (service : ObservationService F) : Prop :=
  ∀ (steps : List (Step F)) (draws : ServiceDraws) (assetId : String) (outcome : ReasoningOutcome)
    (after : Store F) (laterSteps : List (Step F)) (shown : OperationalState),
    service.runReasoningForAsset draws assetId (service.applyAll {} steps) =
      .ok (some outcome) after →
    (service.applyAll after laterSteps).Shows assetId outcome.runId shown →
      ∃ windowed announcedTrend shownTrend,
        boundRecentObservations ((service.applyAll {} steps).listByAsset assetId)
          configuredWindow = .ok windowed ∧
        judgeTrend (recentPrimary ((service.applyAll {} steps).listByAsset assetId))
          ((recentPrimary ((service.applyAll {} steps).listByAsset assetId)).head?.map
            Observation.measurementType) = .ok announcedTrend ∧
        judgeTrend (recentPrimary windowed)
          ((recentPrimary windowed).head?.map Observation.measurementType) = .ok shownTrend ∧
        shown.healthScore - outcome.newState.healthScore =
          trendPenalty announcedTrend - trendPenalty shownTrend ∧
        |shown.healthScore - outcome.newState.healthScore| ≤ 30 ∧
        5 ≤ shown.healthScore ∧ shown.healthScore ≤ 95

/-- The score that is shown of a run, after any later steps, differs from the announced one by what
the two trends cost. The difference is 30 points at most, and what is shown lies between 5 and 95.
-/
theorem scoresDrift (service : ObservationService F) : ScoresDrift service := by
  intro steps draws assetId outcome after laterSteps shown hrun hshown
  have hwell := (keeps_applyAll service wellFormed_empty steps).1
  -- the tables are well formed whatever ran before, and later steps only add rows
  have hran := ran_of_runReasoningForAsset hrun
  obtain ⟨-, hlater⟩ := keeps_applyAll service (hran.keeps hwell).1 laterSteps
  obtain ⟨announcedTrend, shownTrend, priority, assessment, hannounced, hshownTrend, hscore,
    hscore'⟩ := exists_trends_of_shows hwell hran hlater hshown
  refine ⟨_, announcedTrend, shownTrend,
    boundRecentObservations_eq (repositoryOrder_listByAsset hwell assetId) (by decide),
    hannounced, hshownTrend, ?_, ?_, ?_⟩
  · omega
  · have hrange := trendPenalty_range announcedTrend
    have hrange' := trendPenalty_range shownTrend
    rw [abs_le]
    omega
  -- the score is 100 less the penalties, each of which is bounded
  · have hpriority := priorityPenalty_range priority
    have hrange := trendPenalty_range shownTrend
    have hassessment := assessmentPenalty_range assessment
    omega

end Shown

/-! ## Trends of a constant measurement -/

section Constant

/-- An integer is rounded to itself. -/
theorem nearestEven_intCast (n : ℤ) : nearestEven (n : ℝ) = n := by
  unfold nearestEven
  rw [Int.floor_intCast, round_intCast, ite_self]

/-- Steps of length zero have no deviation. -/
theorem deviation_of_zero {deltas : List ℝ} (h : ∀ delta ∈ deltas, delta = 0) :
    deviation deltas = 0 := by
  have hmean {xs : List ℝ} (hzero : ∀ x ∈ xs, x = 0) : mean xs = 0 := by
    unfold mean
    rw [List.sum_eq_zero hzero, zero_div]
  unfold deviation
  rw [hmean h, hmean, Real.sqrt_zero]
  intro square hsquare
  obtain ⟨delta, hdelta, rfl⟩ := List.mem_map.mp hsquare
  rw [h delta hdelta, sub_self, mul_zero]

/-- Steps of length zero are as stable as can be. -/
theorem monotonicity_of_zero {deltas : List ExactReal} (hne : deltas ≠ [])
    (h : ∀ delta ∈ deltas, delta = (0 : ℝ)) :
    TimeSeries.monotonicity deltas .stable = .ok (PyFloat.literal 1.0) := by
  have hnone : deltas.countP (fun delta =>
      PyFloat.literal (1 / 1000000000000) < PyFloat.abs delta) = 0 := by
    refine List.countP_eq_zero.mpr fun delta hdelta => ?_
    rw [h delta hdelta, decide_eq_true_eq]
    show ¬ ((1 / 1000000000000 : ℚ) : ℝ) < |(0 : ℝ)|
    rw [abs_zero]
    norm_num
  unfold TimeSeries.monotonicity
  dsimp only
  rw [if_neg hne, if_pos rfl, if_pos hnone]

/-- Steps of length zero have no volatility. -/
theorem volatilityNorm_of_zero {deltas : List ExactReal} (hne : deltas ≠ [])
    (h : ∀ delta ∈ deltas, delta = (0 : ℝ)) (avgDelta : ℝ) :
    TimeSeries.volatilityNorm deltas avgDelta = .ok (0 : ℝ) := by
  rw [TimeSeries.volatilityNorm_exact hne, deviation_of_zero h, zero_div, literal_eq, literal_eq,
    minimum_exact, maximum_exact]
  norm_num

/-- The signals of steps of length zero. -/
theorem signalsFrom_of_zero {deltas : List ExactReal} (hne : deltas ≠ [])
    (h : ∀ delta ∈ deltas, delta = (0 : ℝ)) (avgDelta : ℝ) :
    ∃ signals, TimeSeries.signalsFrom (F := ExactReal) deltas (0 : ℝ) avgDelta = .ok signals ∧
      signals.direction = .stable ∧ signals.stabilityScore = 100 ∧ signals.volatilityScore = 0 := by
  obtain ⟨volatility, hzero⟩ : ∃ volatility : ExactReal, volatility = (0 : ℝ) := ⟨_, rfl⟩
  have hvolatility : TimeSeries.volatilityNorm deltas avgDelta = .ok volatility := by
    rw [hzero]
    exact volatilityNorm_of_zero hne h avgDelta
  have hvolatilityScore : PyMath.round (PyFloat.ofInt 100 * volatility) = .ok 0 := by
    rw [hzero]
    show Except.ok (nearestEven (((100 : ℤ) : ℝ) * 0)) = _
    rw [mul_zero, ← Int.cast_zero, nearestEven_intCast]
  -- both parts of the stability are full, and their weights add up to one
  have hstability : PyMath.round (PyFloat.ofInt 100 * (PyFloat.literal 0.65 *
      PyFloat.literal 1.0 + PyFloat.literal 0.35 * (PyFloat.literal 1.0 - volatility))) =
        .ok 100 := by
    have hall : ((100 : ℤ) : ℝ) * (((0.65 : ℚ) : ℝ) * ((1.0 : ℚ) : ℝ) +
        ((0.35 : ℚ) : ℝ) * (((1.0 : ℚ) : ℝ) - 0)) = ((100 : ℤ) : ℝ) := by norm_num
    rw [hzero]
    show Except.ok (nearestEven (((100 : ℤ) : ℝ) * (((0.65 : ℚ) : ℝ) * ((1.0 : ℚ) : ℝ) +
      ((0.35 : ℚ) : ℝ) * (((1.0 : ℚ) : ℝ) - 0)))) = _
    rw [hall, nearestEven_intCast]
  unfold TimeSeries.signalsFrom
  rw [TimeSeries.directionHypothesis_zero]
  dsimp only
  rw [monotonicity_of_zero hne h, ok_bind, hvolatility, ok_bind, hvolatilityScore, ok_bind,
    hstability, ok_bind, if_neg (by simp)]
  exact ⟨_, rfl, rfl, rfl, rfl⟩

/-- A window in which the measurement is constant costs less than nothing. -/
theorem trendPenalty_of_constant {windowed : List (Observation ExactReal)} {c : ExactReal}
    {label : Option String} {trend : TrendAnalysis ExactReal}
    (hlong : TimeSeries.minSamplesForDirectionalTrend ≤ windowed.length)
    (hconstant : ∀ o ∈ windowed, o.value = c) (h : judgeTrend windowed label = .ok trend) :
    trendPenalty trend = -5 := by
  have height : TimeSeries.minSamplesForDirectionalTrend = 8 := rfl
  have hvalues : windowed.map Observation.value = List.replicate windowed.length c := by
    refine List.eq_replicate_iff.mpr ⟨List.length_map _, fun x hx => ?_⟩
    obtain ⟨o, ho, rfl⟩ := List.mem_map.mp hx
    exact hconstant o ho
  have hpos : windowed.length ≠ 0 := by omega
  have hfirst : (windowed.map Observation.value).head? = some c := by
    rw [hvalues, List.head?_replicate, if_neg hpos]
  have hlast : (windowed.map Observation.value).getLast? = some c := by
    rw [hvalues, List.getLast?_replicate, if_neg hpos]
  -- all steps are zero, and the window is long enough to be judged
  have hzero : ∀ delta ∈ TimeSeries.stepsOf (windowed.map Observation.value), delta = (0 : ℝ) := by
    intro delta hdelta
    unfold TimeSeries.stepsOf at hdelta
    rw [hvalues, List.tail_replicate, List.zipWith_replicate] at hdelta
    rw [List.eq_of_mem_replicate hdelta]
    exact sub_self (G := ℝ) c
  have hne : TimeSeries.stepsOf (windowed.map Observation.value) ≠ [] := by
    unfold TimeSeries.stepsOf
    rw [hvalues, List.tail_replicate, List.zipWith_replicate, Ne, List.replicate_eq_nil_iff]
    omega
  have hsub : c - c = (0 : ℝ) := sub_self (G := ℝ) c
  obtain ⟨signals, hsignals, hdirection, hstability, hvolatility⟩ := signalsFrom_of_zero hne hzero
    (TimeSeries.averageStep (windowed.map Observation.value).length (c - c : ExactReal))
  have hcompute : TimeSeries.computeSignals windowed = .ok signals := by
    unfold TimeSeries.computeSignals
    rw [TimeSeries.signalsOf_exact hfirst hlast, hsub]
    rw [hsub] at hsignals
    rw [hsignals]
    rfl
  unfold judgeTrend at h
  dsimp only at h
  rw [if_neg (Nat.not_lt.mpr hlong), hcompute] at h
  -- the trend is read off these signals, whatever the label says
  obtain ⟨_, hread, h⟩ := bind_eq_ok.mp h
  cases hread
  obtain ⟨_, hjudged, h⟩ := bind_eq_ok.mp h
  cases hjudged
  obtain ⟨_, -, h⟩ := bind_eq_ok.mp h
  cases h
  simp [trendPenalty, sustainedDirectionalChange, hdirection, hstability, hvolatility]

end Constant

/-! ## A score that drifts -/

section Drifting

variable {typeOf : ℕ → String} {seconds : List ℕ}

/-- As many readings are looked at as there are of the primary type, but twenty at most. -/
theorem length_recentPrimary_readings :
    (recentPrimary (seconds.map (reading typeOf))).length =
      min 20 (primarySeconds typeOf seconds).length := by
  rw [length_recentPrimary, primaryOf, primaryMeasurementObservations_readings,
    TimeSeries.sortedByTimestampAndId, (OrderBy.perm_orderByBreaking _).length_eq, List.length_map]

/-- Every reading that is looked at shows fifty. -/
theorem value_of_mem_recentPrimary {o : Observation ExactReal}
    (h : o ∈ recentPrimary (seconds.map (reading typeOf))) : o.value = PyFloat.literal 50 := by
  have hprimary : o ∈ primaryOf (seconds.map (reading typeOf)) := List.mem_of_mem_drop h
  have hmem : o ∈ primaryMeasurementObservations (seconds.map (reading typeOf)) :=
    (OrderBy.perm_orderByBreaking _).mem_iff.mp hprimary
  rw [primaryMeasurementObservations_readings] at hmem
  obtain ⟨second, -, rfl⟩ := List.mem_map.mp hmem
  rfl

/-- The load is read first, then the temperature twice, and then the load again. -/
def driftingTypes (second : ℕ) : String :=
  if second = 1 ∨ second = 2 then "stack_temperature" else "load"

/-- No type of a reading is empty. -/
theorem driftingTypes_ne (second : ℕ) : driftingTypes second ≠ "" := by
  unfold driftingTypes
  split_ifs <;> decide

/-- The load is read 21 times, once more than the window keeps of it. -/
noncomputable def driftingSteps : List (Step ExactReal) :=
  storing ((List.range 23).map (reading driftingTypes))

/-- The readings have different ids. -/
theorem driftingIds_nodup : ((List.range 23).map fun second =>
    "reading-" ++ toString second).Nodup := by decide +kernel

/-- The readings are stored in their order. -/
theorem observations_drifting :
    (watchService.applyAll {} driftingSteps).repositories.observations =
      (List.range 23).map (reading driftingTypes) := by
  unfold driftingSteps
  exact observations_storing_readings driftingTypes watchService driftingIds_nodup

/-- A run announces a state over all of the load, and the state that is shown of it is that of two
readings of the temperature. -/
theorem exists_outcome_drifting : ∃ outcome after shown,
    watchService.runReasoningForAsset (watchDraws 1) "stack-1"
      (watchService.applyAll {} driftingSteps) = .ok (some outcome) after ∧
    after.Shows "stack-1" outcome.runId shown := by
  have hwell := (keeps_applyAll watchService wellFormed_empty driftingSteps).1
  obtain ⟨outcome, after, hrun, -⟩ := exists_announced_readings (watchDraws 1) watchReading_ne hwell
    ((fresh_empty _).stored watchService (nodup_readings driftingTypes driftingIds_nodup))
    observations_drifting List.pairwise_lt_range driftingTypes_ne (by decide +kernel)
    (by decide +kernel)
  obtain ⟨result, index, -, -, -, -, hshown⟩ :=
    computeOperationalStateForRun_announced hwell (ran_of_runReasoningForAsset hrun)
  obtain ⟨shown, hstate⟩ := exists_compute stack_ne result.run.startedAt
    (windowOf (watchService.applyAll {} driftingSteps) "stack-1") result.plan
    (some result.structuredAssessment)
  refine ⟨outcome, after, shown, hrun, ?_⟩
  unfold Store.Shows
  rw [hshown, hstate]
  rfl

/-- The load was constant, which raises the score that is announced. Two readings are too few to
raise the one that is shown. -/
theorem trendPenalty_drifting {label label' : Option String}
    {announcedTrend shownTrend : TrendAnalysis ExactReal}
    (hannounced : judgeTrend (recentPrimary ((watchService.applyAll {} driftingSteps).listByAsset
      "stack-1")) label = .ok announcedTrend)
    (hshown : judgeTrend (recentPrimary (windowOf (watchService.applyAll {} driftingSteps)
      "stack-1")) label' = .ok shownTrend) :
    trendPenalty announcedTrend = -5 ∧ trendPenalty shownTrend = 0 := by
  have hlist := listByAsset_readings observations_drifting List.pairwise_lt_range
  unfold windowOf at hshown
  rw [hlist] at hannounced
  rw [hlist, recentByKey_readings] at hshown
  constructor
  · apply trendPenalty_of_constant ?_ (fun o ho => value_of_mem_recentPrimary ho) hannounced
    rw [length_recentPrimary_readings]
    decide +kernel
  · apply trendPenalty_of_short ?_ hshown
    rw [length_recentPrimary_readings]
    decide +kernel

/-- The score that is shown of this run is five points lower than the announced one. -/
theorem scoresDrift_drifting : ∃ outcome after shown,
    watchService.runReasoningForAsset (watchDraws 1) "stack-1"
      (watchService.applyAll {} driftingSteps) = .ok (some outcome) after ∧
    after.Shows "stack-1" outcome.runId shown ∧
    shown.healthScore - outcome.newState.healthScore = -5 := by
  obtain ⟨outcome, after, shown, hrun, hshown⟩ := exists_outcome_drifting
  obtain ⟨windowed, announcedTrend, shownTrend, hwindowed, hannounced, hshownTrend, hdrift, -⟩ :=
    scoresDrift watchService driftingSteps (watchDraws 1) "stack-1" outcome after [] shown hrun
      hshown
  have horder := repositoryOrder_listByAsset
    (keeps_applyAll watchService wellFormed_empty driftingSteps).1 "stack-1"
  rw [boundRecentObservations_eq horder (by decide)] at hwindowed
  obtain rfl := Except.ok.inj hwindowed
  obtain ⟨hpenalty, hpenalty'⟩ := trendPenalty_drifting hannounced hshownTrend
  refine ⟨outcome, after, shown, hrun, hshown, ?_⟩
  rw [hdrift, hpenalty, hpenalty']
  rfl

end Drifting

/-! ## Whole histories -/

section Histories

variable {F : Type} [PyMath F] {service : ObservationService F} {store : Store F}

/-- A step of the service, with nothing to answer. -/
def ObservationService.step (service : ObservationService F) (store : Store F) (step : Step F) :
    Store F × Unit := (service.apply store step, ())

end Histories

end Odis.Monitoring
