import Odis.Reasoning.Directions
import Odis.ReasoningBridge.Corroboration

/-!
# Sparse history

The rules ask for four observations of a measurement, the trend detector reports a direction from
eight on. In between every series counts as stable, and the class of an alert is refuted by history
that could not have supported it.

* `refutationNeverForced_iff`: the lengths of the series for which a refutation is not forced.
-/

namespace Odis.ReasoningBridge

open Inference Reasoning

/-! ## The trends of histories -/

section Trends

variable {F : Type} [PyFloat F] {assetId measurementType : String}
  {observations : List (Observation F)}

/-- Fewer than four observations have no trend. -/
theorem trend_tooShort (h : observations.length < minObservationsForTrend) :
    trend observations = .ok none := if_pos h

/-- The trend of a series that is long enough for the rules. -/
theorem trend_history (h : IsHistory assetId measurementType observations)
    (hlength : minObservationsForTrend ≤ observations.length) :
    trend observations = ((splitHalfDirection observations).mapError .arithmetic).map some := by
  have hlength' : 4 ≤ observations.length := hlength
  rw [trend, if_neg (not_lt_of_ge hlength), ← detect_history h (by omega)]
  cases detect observations <;> rfl

/-- A series that is too short for the detector is stable. -/
theorem trend_short (h : IsHistory assetId measurementType observations)
    (hlength : minObservationsForTrend ≤ observations.length)
    (hshort : observations.length < minSamplesForDirectionalTrend) :
    trend observations = .ok (some .stable) := by
  rw [trend_history h hlength, splitHalfDirection_short hshort]
  rfl

end Trends

section Series

variable (format : NumberFormat) (measurementType : String) (n : ℕ)

/-- A series that shifts half-way, between zero and one. -/
def shiftingSeries (first second : ℚ) : List (Observation (Number format)) :=
  seriesOf measurementType (shifting n (Number.ofRat format first) (Number.ofRat format second))

/-- The series has the length that it should have. -/
@[simp]
theorem length_shiftingSeries (first second : ℚ) :
    (shiftingSeries format measurementType n first second).length = n := by
  rw [shiftingSeries, length_seriesOf, shifting, List.length_append, List.length_replicate,
    List.length_replicate]
  omega

variable {format measurementType n}

/-- It is a history. -/
theorem isHistory_shiftingSeries (first second : ℚ) :
    IsHistory "stack-1" measurementType (shiftingSeries format measurementType n first second) :=
  isHistory_seriesOf _ _

/-- A series that is long enough has the direction of its shift. -/
theorem trend_shiftingSeries (hn : minSamplesForDirectionalTrend ≤ n) {first second : ℚ}
    (hfirst : first = 0 ∨ first = 1) (hsecond : second = 0 ∨ second = 1) :
    trend (shiftingSeries format measurementType n first second) =
      .ok (some (if first = second then .stable else if first < second then .increasing
        else .decreasing)) := by
  have hval : ∀ {q : ℚ}, q = 0 ∨ q = 1 → (Number.ofRat format q).val = q := by
    rintro q (rfl | rfl)
    · exact Number.val_zero
    · exact Number.val_one
  have hlength : minObservationsForTrend ≤
      (shiftingSeries format measurementType n first second).length := by
    rw [length_shiftingSeries]
    exact le_trans (by decide) hn
  rw [trend_history (isHistory_shiftingSeries first second) hlength, shiftingSeries,
    splitHalfDirection_shifting hn (a := Number.ofRat format first)
      (b := Number.ofRat format second) (by rwa [hval hfirst]) (by rwa [hval hsecond])
      (values_seriesOf _ _), hval hfirst, hval hsecond]
  rfl

/-- A flat series is stable, if it is long enough to be judged. -/
theorem trend_flat :
    trend (shiftingSeries format measurementType n 0 0) =
      .ok (if n < minObservationsForTrend then none else some .stable) := by
  by_cases hmin : n < minObservationsForTrend
  · rw [if_pos hmin, trend_tooShort (by rwa [length_shiftingSeries])]
  · rw [if_neg hmin]
    by_cases hn : n < minSamplesForDirectionalTrend
    · apply trend_short (isHistory_shiftingSeries 0 0)
      · rw [length_shiftingSeries]
        exact not_lt.mp hmin
      · rwa [length_shiftingSeries]
    · rw [trend_shiftingSeries (not_lt.mp hn) (Or.inl rfl) (Or.inl rfl), if_pos rfl]

end Series

/-! ## Refutations -/

/-- The measurement whose trend the rules on a class look at first. -/
def FaultClass.leading : FaultClass → String
  | coolingDegradation => "stack_temperature"
  | hydrogenSupplyIssue => "fuel_flow"
  | sensorAnomaly => "stack_temperature"

/-- The leading measurement is one of the class. -/
theorem FaultClass.leading_mem (faultClass : FaultClass) :
    faultClass.leading ∈ faultClass.measurements := by
  cases faultClass <;> decide

section Leading

variable {F : Type} [PyFloat F] {faultClass : FaultClass} {series : String → List (Observation F)}
  {outcome : CorroborationOutcome}

/-- Without a trend of the leading measurement, nothing is concluded. -/
theorem result_of_leading_none (hleading : trend (series faultClass.leading) = .ok none)
    (h : applyRules faultClass series = .ok outcome) : outcome.result = .insufficientEvidence := by
  cases faultClass with
  | coolingDegradation =>
      -- every class concludes from its leading measurement first
      obtain ⟨temperature, htemperature, h⟩ := Exceptions.bind_eq_ok.mp h
      obtain ⟨coolant, -, h⟩ := Exceptions.bind_eq_ok.mp h
      obtain rfl : none = temperature := Except.ok.inj (hleading.symm.trans htemperature)
      cases h
      rfl
  | hydrogenSupplyIssue =>
      obtain ⟨fuelFlow, hfuelFlow, h⟩ := Exceptions.bind_eq_ok.mp h
      obtain ⟨voltage, -, h⟩ := Exceptions.bind_eq_ok.mp h
      obtain rfl : none = fuelFlow := Except.ok.inj (hleading.symm.trans hfuelFlow)
      cases h
      rfl
  | sensorAnomaly =>
      obtain ⟨temperature, htemperature, h⟩ := Exceptions.bind_eq_ok.mp h
      obtain rfl : none = temperature := Except.ok.inj (hleading.symm.trans htemperature)
      cases h
      rfl

/-- If the leading measurement is stable, the class is refuted. -/
theorem result_of_leading_stable (hleading : trend (series faultClass.leading) = .ok (some .stable))
    (h : applyRules faultClass series = .ok outcome) : outcome.result = .notCorroborated := by
  cases faultClass with
  | coolingDegradation =>
      -- every class asks its leading measurement to have moved
      obtain ⟨temperature, htemperature, h⟩ := Exceptions.bind_eq_ok.mp h
      obtain ⟨coolant, -, h⟩ := Exceptions.bind_eq_ok.mp h
      obtain rfl : some _ = temperature := Except.ok.inj (hleading.symm.trans htemperature)
      cases h
      rfl
  | hydrogenSupplyIssue =>
      obtain ⟨fuelFlow, hfuelFlow, h⟩ := Exceptions.bind_eq_ok.mp h
      obtain ⟨voltage, -, h⟩ := Exceptions.bind_eq_ok.mp h
      obtain rfl : some _ = fuelFlow := Except.ok.inj (hleading.symm.trans hfuelFlow)
      cases h
      rfl
  | sensorAnomaly =>
      obtain ⟨temperature, htemperature, h⟩ := Exceptions.bind_eq_ok.mp h
      obtain rfl : some _ = temperature := Except.ok.inj (hleading.symm.trans htemperature)
      cases h
      rfl

/-- Related signals that are stable, or of which nothing is known, support a sensor anomaly. -/
theorem judgeRelatedSignals_stable (ids : List String) {known : List TrendDirection}
    (h : ∀ direction ∈ known, direction = .stable) :
    (judgeRelatedSignals ids known).result = .corroborated ∨
      (judgeRelatedSignals ids known).result = .partiallyCorroborated := by
  have hmoved : known.countP (fun direction => direction ≠ .stable) = 0 :=
    List.countP_eq_zero.mpr fun direction hmem => by simp [h direction hmem]
  rw [judgeRelatedSignals]
  simp only [hmoved, if_true]
  split_ifs
  · exact Or.inr rfl
  · exact Or.inl rfl

/-- A shifted temperature supports a sensor anomaly, if no related signal is known to have moved. -/
theorem corroborateSensorAnomaly_stable {stackTemperature current voltage fuelFlow :
    List (Observation F)} {direction : TrendDirection}
    (htemperature : trend stackTemperature = .ok (some direction)) (hshift : direction ≠ .stable)
    (hrelated : ∀ s ∈ [current, voltage, fuelFlow],
      ∃ known : Option TrendDirection, trend s = .ok known ∧ ∀ d ∈ known, d = .stable) :
    ∃ outcome, corroborateSensorAnomaly stackTemperature current voltage fuelFlow = .ok outcome ∧
      (outcome.result = .corroborated ∨ outcome.result = .partiallyCorroborated) := by
  let known (s : List (Observation F)) : Option TrendDirection := (trend s).toOption.join
  have hknown : ∀ s ∈ [current, voltage, fuelFlow], trend s = .ok (known s) := by
    intro s hs
    obtain ⟨t, ht, -⟩ := hrelated s hs
    simp only [known, ht]
    rfl
  have hmapM := Exceptions.mapM_eq_ok_map hknown
  -- the related signals whose trend is known have not moved
  have hstable : ∀ d ∈ ([current, voltage, fuelFlow].map known).filterMap id, d = .stable := by
    intro d hd
    obtain ⟨t, ht, hsome⟩ := List.mem_filterMap.mp hd
    obtain ⟨s, hs, rfl⟩ := List.mem_map.mp ht
    obtain ⟨t, ht, hall⟩ := hrelated s hs
    obtain rfl : known s = t := Except.ok.inj ((hknown s hs).symm.trans ht)
    exact hall d hsome
  have hjudged := judgeRelatedSignals_stable
    (observationIds [stackTemperature, current, voltage, fuelFlow]) hstable
  refine ⟨_, Exceptions.bind_eq_ok.mpr ⟨_, htemperature, ?_⟩, hjudged⟩
  cases direction with
  | stable => exact absurd rfl hshift
  | increasing => exact Exceptions.bind_eq_ok.mpr ⟨_, hmapM, rfl⟩
  | decreasing => exact Exceptions.bind_eq_ok.mpr ⟨_, hmapM, rfl⟩

end Leading

/-- The series of the measurements that the rules on a class read are histories of one asset, of the
given lengths. -/
structure AreHistories {F : Type} (faultClass : FaultClass) (lengths : String → ℕ)
    (series : String → List (Observation F)) : Prop where
  history : ∃ assetId, ∀ m ∈ faultClass.measurements, IsHistory assetId m (series m)
  length : ∀ m ∈ faultClass.measurements, (series m).length = lengths m

/-- The rules reach a result. -/
def JudgedAs {F : Type} [PyFloat F] (faultClass : FaultClass)
    (series : String → List (Observation F)) (result : CorroborationResult) : Prop :=
  ∃ outcome, applyRules faultClass series = .ok outcome ∧ outcome.result = result

/-- Sparse history does not force a refutation: where some histories refute a class, others of the
same lengths support it, and where no history is long enough to have a direction, the evidence is
insufficient. -/
structure RefutationNeverForced (F : Type) [PyFloat F] (faultClass : FaultClass)
    (lengths : String → ℕ) : Prop where
  supported :
    (∃ series : String → List (Observation F),
      AreHistories faultClass lengths series ∧ JudgedAs faultClass series .notCorroborated) →
    ∃ series : String → List (Observation F), AreHistories faultClass lengths series ∧
      (JudgedAs faultClass series .corroborated ∨ JudgedAs faultClass series .partiallyCorroborated)
  insufficient :
    (∀ m ∈ faultClass.measurements, lengths m < minSamplesForDirectionalTrend) →
    ∀ series : String → List (Observation F), AreHistories faultClass lengths series →
      ∀ outcome, applyRules faultClass series = .ok outcome →
        outcome.result = .insufficientEvidence

variable {format : NumberFormat} {faultClass : FaultClass} {lengths : String → ℕ}

/-- The series that shift as asked for. -/
def shiftingSeriesOf (format : NumberFormat) (lengths : String → ℕ) (first second : String → ℚ) :
    String → List (Observation (Number format)) :=
  fun m => shiftingSeries format m (lengths m) (first m) (second m)

/-- The series are histories of one asset. -/
theorem areHistories_shiftingSeriesOf (first second : String → ℚ) :
    AreHistories faultClass lengths (shiftingSeriesOf format lengths first second) where
  history := ⟨"stack-1", fun m _ => isHistory_shiftingSeries (first m) (second m)⟩
  length := fun m _ => length_shiftingSeries format m (lengths m) (first m) (second m)

/-- Flat series are judged without an exception. -/
theorem exists_applyRules_flat :
    ∃ outcome, applyRules faultClass (shiftingSeriesOf format lengths (fun _ => 0) fun _ => 0) =
      .ok outcome := by
  have hflat : ∀ m, trend (shiftingSeriesOf format lengths (fun _ => 0) (fun _ => 0) m) =
      .ok (if lengths m < minObservationsForTrend then none else some .stable) :=
    fun m => trend_flat
  cases faultClass with
  | coolingDegradation =>
      exact ⟨_, Exceptions.bind_eq_ok.mpr
        ⟨_, hflat _, Exceptions.bind_eq_ok.mpr ⟨_, hflat _, rfl⟩⟩⟩
  | hydrogenSupplyIssue =>
      exact ⟨_, Exceptions.bind_eq_ok.mpr
        ⟨_, hflat _, Exceptions.bind_eq_ok.mpr ⟨_, hflat _, rfl⟩⟩⟩
  | sensorAnomaly =>
      simp only [applyRules, corroborateSensorAnomaly, hflat, bind, Except.bind]
      split_ifs <;> exact ⟨_, rfl⟩

/-- A leading measurement that is long enough for the detector supports its class, with flat series
of the other measurements. -/
theorem exists_supporting (h : minSamplesForDirectionalTrend ≤ lengths faultClass.leading) :
    ∃ series : String → List (Observation (Number format)), AreHistories faultClass lengths series ∧
      (JudgedAs faultClass series .corroborated ∨
        JudgedAs faultClass series .partiallyCorroborated) := by
  have hzero : (0 : ℚ) = 0 ∨ (0 : ℚ) = 1 := Or.inl rfl
  have hone : (1 : ℚ) = 0 ∨ (1 : ℚ) = 1 := Or.inr rfl
  have hrises : ∀ {m : String}, minSamplesForDirectionalTrend ≤ lengths m →
      trend (shiftingSeries format m (lengths m) 0 1) = .ok (some .increasing) := fun hm => by
    rw [trend_shiftingSeries hm hzero hone, if_neg zero_ne_one, if_pos one_pos]
  have hfalls : ∀ {m : String}, minSamplesForDirectionalTrend ≤ lengths m →
      trend (shiftingSeries format m (lengths m) 1 0) = .ok (some .decreasing) := fun hm => by
    rw [trend_shiftingSeries hm hone hzero, if_neg one_ne_zero, if_neg (by norm_num)]
  have hflat : ∀ m, trend (shiftingSeries format m (lengths m) 0 0) =
      .ok (if lengths m < minObservationsForTrend then none else some .stable) :=
    fun m => trend_flat
  cases faultClass with
  | coolingDegradation =>
      refine ⟨_, areHistories_shiftingSeriesOf (fun _ => 0)
        (fun m => if m = "stack_temperature" then 1 else 0), Or.inr ?_⟩
      refine ⟨_, Exceptions.bind_eq_ok.mpr ⟨_, hrises h, Exceptions.bind_eq_ok.mpr
        ⟨_, hflat "coolant_flow", rfl⟩⟩, ?_⟩
      split_ifs <;> rfl
  | hydrogenSupplyIssue =>
      refine ⟨_, areHistories_shiftingSeriesOf (fun m => if m = "fuel_flow" then 1 else 0)
        (fun _ => 0), Or.inr ?_⟩
      refine ⟨_, Exceptions.bind_eq_ok.mpr ⟨_, hfalls h, Exceptions.bind_eq_ok.mpr
        ⟨_, hflat "voltage", rfl⟩⟩, ?_⟩
      split_ifs <;> rfl
  -- with flat related signals an anomaly of the temperature is supported, in part if they are short
  | sensorAnomaly =>
      refine ⟨_, areHistories_shiftingSeriesOf (fun _ => 0)
        (fun m => if m = "stack_temperature" then 1 else 0), ?_⟩
      have hknown : ∀ m, ∃ known : Option TrendDirection,
          trend (shiftingSeries format m (lengths m) 0 0) = .ok known ∧
            ∀ d ∈ known, d = .stable := by
        intro m
        refine ⟨_, hflat m, ?_⟩
        split_ifs <;> simp
      have hrelated : ∀ s ∈ [shiftingSeries format "current" (lengths "current") 0 0,
          shiftingSeries format "voltage" (lengths "voltage") 0 0,
          shiftingSeries format "fuel_flow" (lengths "fuel_flow") 0 0],
          ∃ known : Option TrendDirection, trend s = .ok known ∧ ∀ d ∈ known, d = .stable := by
        simp only [List.forall_mem_cons]
        exact ⟨hknown _, hknown _, hknown _, fun _ hs => absurd hs List.not_mem_nil⟩
      obtain ⟨outcome, houtcome, hsupports⟩ :=
        corroborateSensorAnomaly_stable (hrises h) (by decide) hrelated
      exact hsupports.imp (fun hresult => ⟨outcome, houtcome, hresult⟩)
        fun hresult => ⟨outcome, houtcome, hresult⟩

/-- In between, every history refutes the class. -/
theorem result_of_between (hmin : minObservationsForTrend ≤ lengths faultClass.leading)
    (hshort : lengths faultClass.leading < minSamplesForDirectionalTrend)
    {series : String → List (Observation (Number format))}
    (hseries : AreHistories faultClass lengths series) {outcome : CorroborationOutcome}
    (houtcome : applyRules faultClass series = .ok outcome) :
    outcome.result = .notCorroborated := by
  obtain ⟨assetId, hhistory⟩ := hseries.history
  have hlength := hseries.length _ faultClass.leading_mem
  refine result_of_leading_stable ?_ houtcome
  exact trend_short (hhistory _ faultClass.leading_mem) (hlength ▸ hmin) (hlength ▸ hshort)

/-- In between, a refutation is forced. -/
theorem not_refutationNeverForced (hmin : minObservationsForTrend ≤ lengths faultClass.leading)
    (hshort : lengths faultClass.leading < minSamplesForDirectionalTrend) :
    ¬ RefutationNeverForced (Number format) faultClass lengths := by
  intro h
  -- flat series refute the class, and no series support it
  let flat : String → List (Observation (Number format)) :=
    shiftingSeriesOf format lengths (fun _ => 0) fun _ => 0
  have hflat : AreHistories faultClass lengths flat := areHistories_shiftingSeriesOf _ _
  obtain ⟨outcome, houtcome⟩ : ∃ outcome, applyRules faultClass flat = .ok outcome :=
    exists_applyRules_flat
  obtain ⟨series, hseries, hsupported⟩ :=
    h.supported ⟨flat, hflat, outcome, houtcome, result_of_between hmin hshort hflat houtcome⟩
  rcases hsupported with ⟨outcome', houtcome', hresult⟩ | ⟨outcome', houtcome', hresult⟩ <;>
  · rw [result_of_between hmin hshort hseries houtcome'] at hresult
    cases hresult

/-- A refutation is not forced exactly if the leading measurement is too short for the rules or long
enough for the detector. -/
theorem refutationNeverForced_iff :
    RefutationNeverForced (Number format) faultClass lengths ↔
      lengths faultClass.leading < minObservationsForTrend ∨
        minSamplesForDirectionalTrend ≤ lengths faultClass.leading := by
  constructor
  · intro h
    by_contra hbetween
    obtain ⟨hmin, hshort⟩ := not_or.mp hbetween
    exact not_refutationNeverForced (not_lt.mp hmin) (not_le.mp hshort) h
  -- too few readings conclude nothing, and enough of them can be such that they support the class
  · rintro (hmin | hlong)
    · have hinsufficient (series : String → List (Observation (Number format)))
          (hseries : AreHistories faultClass lengths series) (outcome : CorroborationOutcome)
          (houtcome : applyRules faultClass series = .ok outcome) :
          outcome.result = .insufficientEvidence := by
        have hlength := hseries.length _ faultClass.leading_mem
        exact result_of_leading_none (trend_tooShort (hlength ▸ hmin)) houtcome
      constructor
      · rintro ⟨series, hseries, outcome, houtcome, hresult⟩
        rw [hinsufficient series hseries outcome houtcome] at hresult
        cases hresult
      · exact fun _ => hinsufficient
    · constructor
      · exact fun _ => exists_supporting hlong
      · exact fun hshort => absurd hlong (not_le_of_gt (hshort _ faultClass.leading_mem))

/-- Five observations of every measurement refute a cooling degradation, whatever they are. -/
theorem not_refutationNeverForced_five :
    ¬ RefutationNeverForced (Number (NumberFormat.exact id id 3)) .coolingDegradation fun _ => 5 :=
  not_refutationNeverForced (by decide) (by decide)

end Odis.ReasoningBridge
