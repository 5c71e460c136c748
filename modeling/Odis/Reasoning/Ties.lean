import Odis.Library.Exceptions
import Odis.Library.TieBreaking
import Odis.Python.Binary64
import Odis.Reasoning.Directions

/-!
# Observations of one instant

`detect` sorts a series by timestamp alone, so observations of one instant stay in the order in
which they are passed, while `analyze_trend_diagnostics` tells them apart by their ids. Which of
them fall into the first half decides the means that are compared, and in which order they are added
decides whether a partial sum overflows.

* `splitHalfDirection_eq_error`, `splitHalfDirection_of_finite`: what the detector says of a series
  in order.
* `halfShift_between`: every order of the ties lies between the two extreme ones.
* `detect_perm_iff`: the result depends on the order of the observations unless all the orders of
  the ties fail alike, or none fails and the two extreme orders are judged alike.
-/

namespace Odis.Reasoning

open Binary64 Inference Statistics OrderBy

variable {observations ordered : List (Observation Binary64)}

/-! ## The shift between the halves -/

/-- The values of observations as rationals; those that are not finite are zero. -/
def exactValues (observations : List (Observation Binary64)) : List ℚ :=
  observations.map fun o => o.value.toRat

/-- The observations whose values make up the first mean. -/
def firstHalf (ordered : List (Observation Binary64)) : List (Observation Binary64) :=
  ordered.take (ordered.length / 2)

/-- The observations whose values make up the second mean. -/
def secondHalf (ordered : List (Observation Binary64)) : List (Observation Binary64) :=
  ordered.drop (ordered.length - ordered.length / 2)

/-- The shift between the means of the halves, as long as the values are finite. -/
def halfShift (ordered : List (Observation Binary64)) : Double :=
  meanOf (exactValues (secondHalf ordered)) - meanOf (exactValues (firstHalf ordered))

/-- The deviation of the values, as long as they are finite. -/
def spreadOf (observations : List (Observation Binary64)) : Double :=
  deviation (exactValues observations)

/-- The values are finite. -/
def AllFinite (observations : List (Observation Binary64)) : Prop :=
  ∀ o ∈ observations, o.value.isFinite = true

instance (observations : List (Observation Binary64)) : Decidable (AllFinite observations) := by
  unfold AllFinite
  infer_instance

/-- The means of the first and of the second half. -/
def halfMeans (ordered : List (Observation Binary64)) :
    Except ArithmeticError (Binary64 × Binary64) := do
  let first ← PyFloat.fmean ((firstHalf ordered).map Observation.value)
  let second ← PyFloat.fmean ((secondHalf ordered).map Observation.value)
  return (first, second)

/-- What the detector raises on observations in order: what `fmean` raises on one of the halves, or,
unless the means of the halves are the same up to noise, what `pstdev` raises on a value that is not
finite. -/
def failure? (ordered : List (Observation Binary64)) : Option ArithmeticError :=
  match halfMeans ordered with
  | .error error => some error
  | .ok (first, second) =>
      if PyFloat.abs (second - first) ≤ stableEpsilon Binary64 ∨ AllFinite ordered then none
      else some .attributeError

/-- A shift is no noise, and large beside the spread. -/
def CountsAsTrend (spread shift : Double) : Prop :=
  stableEpsilon Double < PyFloat.abs shift ∧
    (spread ≤ stableEpsilon Double ∨ trendRatioThreshold Double ≤ PyFloat.abs shift / spread)

instance (spread shift : Double) : Decidable (CountsAsTrend spread shift) := by
  unfold CountsAsTrend
  infer_instance

/-- The direction of a shift. -/
def trendOf (spread shift : Double) : TrendDirection :=
  if CountsAsTrend spread shift then directionOf shift else .stable

/-- The tolerance is not negative. -/
theorem stableEpsilon_nonneg : 0 ≤ (stableEpsilon Double).val := by
  have hzero : (Number.ofRat .plainDouble 0).val = 0 := Number.val_zero
  exact hzero ▸ Number.ofRat_mono (by norm_num)

/-- It is a finite double. -/
theorem abs_stableEpsilon_le : |(stableEpsilon Double).val| ≤ maxDouble := by decide +kernel

/-- The detector compares the means of the halves, then the shift with the deviation. -/
theorem splitHalfDirection_eq (h : minSamplesForDirectionalTrend ≤ ordered.length) :
    splitHalfDirection ordered = (halfMeans ordered).bind fun means =>
      if PyFloat.abs (means.2 - means.1) ≤ stableEpsilon Binary64 then .ok .stable
      else (PyFloat.pstdev (ordered.map Observation.value)).bind fun spread =>
        if spread ≤ stableEpsilon Binary64 then .ok (directionOf (means.2 - means.1))
        else (PyFloat.truediv (PyFloat.abs (means.2 - means.1)) spread).bind fun ratio =>
          if ratio < trendRatioThreshold Binary64 then .ok .stable
          else .ok (directionOf (means.2 - means.1)) := by
  have hmany : ¬ ordered.length < minSamplesForDirectionalTrend := not_lt.mpr h
  rw [splitHalfDirection, halfMeans, firstHalf, secondHalf]
  simp only [List.length_map, if_neg hmany, List.map_take, List.map_drop]
  cases PyFloat.fmean ((ordered.map Observation.value).take (ordered.length / 2)) with
  | error error => rfl
  | ok first =>
      cases PyFloat.fmean ((ordered.map Observation.value).drop
        (ordered.length - ordered.length / 2)) with
      | error error => rfl
      | ok second => rfl

/-- What the detector raises. -/
theorem splitHalfDirection_eq_error (h : minSamplesForDirectionalTrend ≤ ordered.length)
    {error : ArithmeticError} (hfailure : failure? ordered = some error) :
    splitHalfDirection ordered = .error error := by
  rw [splitHalfDirection_eq h]
  rw [failure?] at hfailure
  cases hmeans : halfMeans ordered with
  | error error' =>
      rw [hmeans] at hfailure
      rw [← Option.some.inj hfailure]
      rfl
  | ok means =>
      rw [hmeans] at hfailure
      dsimp only at hfailure
      split_ifs at hfailure with hnone
      obtain ⟨hshift, hfinite⟩ := not_or.mp hnone
      have hne : ordered.map Observation.value ≠ [] := by
        rintro hnil
        rw [List.map_eq_nil_iff.mp hnil] at hfinite
        exact hfinite fun o ho => absurd ho List.not_mem_nil
      -- the halves have means, so what raises is the deviation over a value that is not finite
      have hspread : PyFloat.pstdev (ordered.map Observation.value) = .error .attributeError := by
        refine (if_neg hne).trans (if_neg fun hall => hfinite fun o ho => ?_)
        exact List.all_eq_true.mp hall o.value (List.mem_map_of_mem ho)
      rw [Except.bind, if_neg hshift, hspread, ← Option.some.inj hfailure]
      rfl

/-- What the detector says of values some of which are not finite, if it does not raise. -/
theorem splitHalfDirection_of_not_finite (h : minSamplesForDirectionalTrend ≤ ordered.length)
    (hnone : failure? ordered = none) (hfinite : ¬ AllFinite ordered) :
    splitHalfDirection ordered = .ok .stable := by
  rw [splitHalfDirection_eq h]
  rw [failure?] at hnone
  cases hmeans : halfMeans ordered with
  | error error =>
      rw [hmeans] at hnone
      cases hnone
  | ok means =>
      rw [hmeans] at hnone
      dsimp only at hnone
      split_ifs at hnone with hstable
      exact if_pos (hstable.resolve_right hfinite)

/-- The means of the halves of finite values are those of their exact sums. -/
theorem halfMeans_of_finite (h : minSamplesForDirectionalTrend ≤ ordered.length)
    (hfinite : AllFinite ordered) {means : Binary64 × Binary64}
    (hmeans : halfMeans ordered = .ok means) :
    means.2 - means.1 = ofDouble (halfShift ordered) := by
  have h8 : 8 ≤ ordered.length := h
  -- the mean of a half is that of its exact sum, unless a partial sum overflows
  have hmean : ∀ half : List (Observation Binary64), half ≠ [] → half ⊆ ordered →
      ∀ mean, PyFloat.fmean (half.map Observation.value) = .ok mean →
        mean = ofDouble (meanOf (exactValues half)) ∧
          |(meanOf (exactValues half)).val| ≤ maxDouble := by
    intro half hne hsub mean hok
    have hvalues : (half.map Observation.value).map toRat = exactValues half := List.map_map
    have hne' : half.map Observation.value ≠ [] := fun hnil => hne (List.map_eq_nil_iff.mp hnil)
    have hhalf : ∀ x ∈ half.map Observation.value, x.isFinite = true :=
      List.forall_mem_map.mpr fun o ho => hfinite o (hsub ho)
    refine ⟨?_, abs_meanOf_le fun hnil => hne (List.map_eq_nil_iff.mp hnil)⟩
    rw [← hvalues]
    rcases fmean_finite hne' hhalf with heq | heq
    · exact Except.ok.inj (hok.symm.trans heq)
    · cases hok.symm.trans heq
  rw [halfMeans] at hmeans
  obtain ⟨first, hfirst, hmeans⟩ := Exceptions.bind_eq_ok.mp hmeans
  obtain ⟨second, hsecond, hmeans⟩ := Exceptions.bind_eq_ok.mp hmeans
  obtain ⟨rfl, hle⟩ := hmean (firstHalf ordered)
    (List.ne_nil_of_length_pos (by rw [firstHalf, List.length_take]; omega))
    (List.take_subset _ _) _ hfirst
  obtain ⟨rfl, hle'⟩ := hmean (secondHalf ordered)
    (List.ne_nil_of_length_pos (by rw [secondHalf, List.length_drop]; omega))
    (List.drop_subset _ _) _ hsecond
  rw [← Except.ok.inj hmeans]
  exact ofDouble_sub hle' hle

/-- A shift that overflows has the direction of the exact one. -/
theorem directionOf_ofDouble (shift : Double) :
    directionOf (ofDouble shift) = directionOf shift := by
  have hzero : |(Number.ofRat .plainDouble 0).val| ≤ maxDouble :=
    abs_ofRat_le (by simpa using maxDouble_pos.le)
  have hiff : PyFloat.literal 0 < ofDouble shift ↔ PyFloat.literal 0 < shift :=
    ofDouble_lt_iff (Or.inl hzero)
  rw [directionOf, directionOf]
  simp only [hiff]

/-- What the detector says of finite values, if no partial sum overflows. -/
theorem splitHalfDirection_of_finite (h : minSamplesForDirectionalTrend ≤ ordered.length)
    (hnone : failure? ordered = none) (hfinite : AllFinite ordered) :
    splitHalfDirection ordered = .ok (trendOf (spreadOf ordered) (halfShift ordered)) := by
  have hne : ordered.map Observation.value ≠ [] := by
    have h8 : 8 ≤ ordered.length := h
    exact List.ne_nil_of_length_pos (by rw [List.length_map]; omega)
  obtain ⟨hpstdev, hle⟩ := pstdev_finite hne (List.forall_mem_map.mpr hfinite)
  rw [show (ordered.map Observation.value).map toRat = exactValues ordered from List.map_map,
    show deviation (exactValues ordered) = spreadOf ordered from rfl] at hpstdev hle
  rw [splitHalfDirection_eq h, hpstdev]
  cases hmeans : halfMeans ordered with
  | error error =>
      rw [failure?, hmeans] at hnone
      cases hnone
  | ok means =>
      simp only [Except.bind, halfMeans_of_finite h hfinite hmeans, directionOf_ofDouble, trendOf]
      have hepsilon := abs_stableEpsilon_le
      have hnoise : PyFloat.abs (ofDouble (halfShift ordered)) ≤ stableEpsilon Binary64 ↔
          PyFloat.abs (halfShift ordered) ≤ stableEpsilon Double := by
        rw [abs_ofDouble]
        exact ofDouble_le_iff hepsilon
      have hflat : ofDouble (spreadOf ordered) ≤ stableEpsilon Binary64 ↔
          spreadOf ordered ≤ stableEpsilon Double := ofDouble_le_iff hepsilon
      -- the three tests of the detector, each as over numbers without a greatest one
      by_cases hsmall : PyFloat.abs (halfShift ordered) ≤ stableEpsilon Double
      · have hcounts : ¬ CountsAsTrend (spreadOf ordered) (halfShift ordered) :=
          fun hcounts => not_le_of_gt hcounts.1 hsmall
        rw [if_pos (hnoise.mpr hsmall), if_neg hcounts]
      rw [if_neg fun h => hsmall (hnoise.mp h)]
      by_cases hspread : spreadOf ordered ≤ stableEpsilon Double
      · have hcounts : CountsAsTrend (spreadOf ordered) (halfShift ordered) :=
          ⟨not_le.mp hsmall, Or.inl hspread⟩
        rw [if_pos (hflat.mpr hspread), if_pos hcounts]
      rw [if_neg fun h => hspread (hflat.mp h)]
      have hpos : 0 < (spreadOf ordered).val :=
        lt_of_le_of_lt stableEpsilon_nonneg (Number.lt_iff.mp (not_le.mp hspread))
      have hshift : 0 ≤ (PyFloat.abs (halfShift ordered)).val := by
        rw [val_abs]
        exact abs_nonneg _
      have hthreshold : |(trendRatioThreshold Double).val| ≤ 1 := by decide +kernel
      obtain ⟨ratio, hratio, hless⟩ := truediv_ofDouble hshift hpos hle hthreshold
      have hless : ratio < trendRatioThreshold Binary64 ↔
          PyFloat.abs (halfShift ordered) / spreadOf ordered < trendRatioThreshold Double := hless
      rw [abs_ofDouble, hratio]
      by_cases hlow : PyFloat.abs (halfShift ordered) / spreadOf ordered <
          trendRatioThreshold Double
      · have hcounts : ¬ CountsAsTrend (spreadOf ordered) (halfShift ordered) :=
          fun hcounts => hcounts.2.elim hspread (not_le_of_gt hlow)
        rw [if_neg hcounts]
        exact if_pos (hless.mpr hlow)
      · have hcounts : CountsAsTrend (spreadOf ordered) (halfShift ordered) :=
          ⟨not_le.mp hsmall, Or.inr (not_lt.mp hlow)⟩
        rw [if_pos hcounts]
        exact if_neg fun h => hlow (hless.mp h)

/-! ## Larger shifts -/

/-- A shift that is further from zero counts as a trend as well. -/
theorem CountsAsTrend.of_abs_le {spread shift shift' : Double} (h : CountsAsTrend spread shift)
    (hle : |shift.val| ≤ |shift'.val|) : CountsAsTrend spread shift' := by
  have habs : PyFloat.abs shift ≤ PyFloat.abs shift' := by
    rwa [Number.le_iff, val_abs, val_abs]
  refine ⟨h.1.trans_le habs, ?_⟩
  by_cases hflat : spread ≤ stableEpsilon Double
  · exact Or.inl hflat
  · have hpos : 0 < spread.val :=
      lt_of_le_of_lt stableEpsilon_nonneg (Number.lt_iff.mp (lt_of_not_ge hflat))
    exact Or.inr ((h.2.resolve_left hflat).trans (Number.div_mono_left habs hpos))

/-- The directions, from falling to rising. -/
def TrendDirection.rank : TrendDirection → ℤ
  | increasing => 1
  | stable => 0
  | decreasing => -1

/-- The ranks tell the directions apart. -/
theorem TrendDirection.rank_injective : Function.Injective TrendDirection.rank := by
  rintro (_ | _ | _) (_ | _ | _) h <;> first | rfl | exact absurd h (by decide)

/-- The direction is that of the sign of the shift. -/
theorem directionOf_eq (shift : Double) :
    directionOf shift = if 0 < shift.val then .increasing else .decreasing := by
  have hiff : Number.ofRat .plainDouble 0 < shift ↔ 0 < shift.val := by
    rw [Number.lt_iff, Number.val_zero]
  by_cases hpos : 0 < shift.val
  · rw [if_pos hpos]
    exact if_pos (hiff.mpr hpos)
  · rw [if_neg hpos]
    exact if_neg fun hlt => hpos (hiff.mp hlt)

/-- A larger shift is judged to rise more. -/
theorem rank_trendOf_mono {spread shift shift' : Double} (h : shift.val ≤ shift'.val) :
    (trendOf spread shift).rank ≤ (trendOf spread shift').rank := by
  have hfalls : ∀ x, -1 ≤ (trendOf spread x).rank := fun x => by
    cases trendOf spread x <;> decide
  have hrises : ∀ x, (trendOf spread x).rank ≤ 1 := fun x => by
    cases trendOf spread x <;> decide
  by_cases hcounts : CountsAsTrend spread shift
  -- a rise that counts is followed by one, and a fall is the least of all
  · by_cases hpos : 0 < shift.val
    · have hle : |shift.val| ≤ |shift'.val| := by
        rwa [abs_of_pos hpos, abs_of_pos (hpos.trans_le h)]
      have hrising : trendOf spread shift' = .increasing := by
        rw [trendOf, if_pos (hcounts.of_abs_le hle), directionOf_eq, if_pos (hpos.trans_le h)]
      rw [hrising]
      exact hrises shift
    · have hfalling : trendOf spread shift = .decreasing := by
        rw [trendOf, if_pos hcounts, directionOf_eq, if_neg hpos]
      rw [hfalling]
      exact hfalls shift'
  · have hstable : trendOf spread shift = .stable := if_neg hcounts
    rw [hstable, trendOf]
    split_ifs with hcounts'
    · -- a shift that falls by enough would leave the smaller one no choice
      have hpos : 0 < shift'.val := by
        by_contra hneg
        have hnonpos := not_lt.mp hneg
        refine hcounts (hcounts'.of_abs_le ?_)
        rw [abs_of_nonpos hnonpos, abs_of_nonpos (h.trans hnonpos)]
        exact neg_le_neg h
      rw [directionOf_eq, if_pos hpos]
      decide
    · exact le_refl _

/-! ## The two extreme orders -/

/-- An order in which the detector may look at observations: their timestamps go up. -/
structure IsOrder (observations ordered : List (Observation Binary64)) : Prop where
  perm : ordered.Perm observations
  sorted : ordered.Pairwise fun a b => a.timestamp.instant ≤ b.timestamp.instant

/-- The observations by timestamp, those of one instant by increasing value. -/
def tiesAscending (observations : List (Observation Binary64)) : List (Observation Binary64) :=
  orderByBreaking (fun o => o.timestamp.instant) (fun o => o.value.toRat) observations

/-- The observations by timestamp, those of one instant by decreasing value. -/
def tiesDescending (observations : List (Observation Binary64)) : List (Observation Binary64) :=
  orderByBreaking (fun o => o.timestamp.instant) (fun o => -o.value.toRat) observations

/-- Breaking the ties by a value gives one of the orders. -/
theorem isOrder_orderByBreaking (value : Observation Binary64 → ℚ) :
    IsOrder observations (orderByBreaking (fun o => o.timestamp.instant) value observations) :=
  ⟨perm_orderByBreaking value, pairwise_le_orderByBreaking value⟩

/-- Both shifts count as a trend in the same direction, or neither does. -/
def SameTrend (spread shift shift' : Double) : Prop :=
  (CountsAsTrend spread shift ↔ CountsAsTrend spread shift') ∧
    (CountsAsTrend spread shift → (0 < shift.val ↔ 0 < shift'.val))

/-- The ties make no difference to a series: it is too short for a direction, or the detector fails
alike in every order, or it fails in none, and with finite values of one instant in increasing and
in decreasing order the shifts count as the same trend. -/
def TiesDecideNothing (observations : List (Observation Binary64)) : Prop :=
  observations.length < minSamplesForDirectionalTrend ∨
    (∃ error, ∀ ordered, IsOrder observations ordered → failure? ordered = some error) ∨
    (∀ ordered, IsOrder observations ordered → failure? ordered = none) ∧
      (AllFinite observations → SameTrend (spreadOf observations)
        (halfShift (tiesDescending observations)) (halfShift (tiesAscending observations)))

/-- Two shifts are judged alike exactly if they count alike and go the same way. -/
theorem trendOf_eq_iff {spread shift shift' : Double} :
    trendOf spread shift = trendOf spread shift' ↔ SameTrend spread shift shift' := by
  rw [trendOf, trendOf, SameTrend, directionOf_eq, directionOf_eq]
  by_cases hcounts : CountsAsTrend spread shift <;>
    by_cases hcounts' : CountsAsTrend spread shift' <;>
    by_cases hpos : 0 < shift.val <;> by_cases hpos' : 0 < shift'.val <;>
    simp [hcounts, hcounts', hpos, hpos']

/-- The mean grows with the sum. -/
theorem meanOf_mono {values values' : List ℚ} (hlength : values.length = values'.length)
    (hsum : values.sum ≤ values'.sum) : (meanOf values).val ≤ (meanOf values').val := by
  have hcount : 0 ≤ roundDouble values'.length := roundDouble_nonneg (Nat.cast_nonneg _)
  rw [meanOf, meanOf, hlength]
  apply roundDouble_mono
  apply div_le_div_of_nonneg_right _ hcount
  exact roundDouble_mono (max_le_max_left _ (min_le_min_left _ hsum))

/-- The sums of the values, over the front and over the rest. -/
theorem sum_take_add_sum_drop (observations : List (Observation Binary64)) (k : ℕ) :
    (exactValues (observations.take k)).sum + (exactValues (observations.drop k)).sum =
      (exactValues observations).sum := by
  rw [exactValues, exactValues, ← List.sum_append, ← List.map_append, List.take_append_drop,
    exactValues]

/-- Sums that are smaller over every front make for a larger shift. -/
theorem halfShift_mono {ordered' : List (Observation Binary64)} (hperm : ordered.Perm ordered')
    (hsum : ∀ k, (exactValues (ordered'.take k)).sum ≤ (exactValues (ordered.take k)).sum) :
    (halfShift ordered).val ≤ (halfShift ordered').val := by
  have hlength := hperm.length_eq
  have htotal : (exactValues ordered).sum = (exactValues ordered').sum := (hperm.map _).sum_eq
  rw [halfShift, halfShift, Number.val_sub, Number.val_sub]
  apply roundDouble_mono
  apply sub_le_sub
  · apply meanOf_mono
    · simp only [exactValues, secondHalf, List.length_map, List.length_drop, hlength]
    · rw [secondHalf, secondHalf, hlength]
      -- the second half is what the front leaves of the same total
      have hfront := hsum (ordered'.length - ordered'.length / 2)
      have hsplit := sum_take_add_sum_drop ordered (ordered'.length - ordered'.length / 2)
      have hsplit' := sum_take_add_sum_drop ordered' (ordered'.length - ordered'.length / 2)
      linarith
  · apply meanOf_mono
    · simp only [exactValues, firstHalf, List.length_map, List.length_take, hlength]
    · rw [firstHalf, firstHalf, hlength]
      exact hsum _

/-- The spread does not depend on the order. -/
theorem spreadOf_perm {observations' : List (Observation Binary64)}
    (h : observations.Perm observations') : spreadOf observations = spreadOf observations' := by
  have hvalues : (exactValues observations).Perm (exactValues observations') := h.map _
  have hmss : meanSquares (exactValues observations) = meanSquares (exactValues observations') := by
    simp only [meanSquares, hvalues.length_eq, hvalues.sum_eq, (hvalues.map _).sum_eq]
  rw [spreadOf, spreadOf, deviation, deviation, hmss]

/-- Every order of a series lies between the two extreme ones. -/
theorem halfShift_between (h : IsOrder observations ordered) :
    (halfShift (tiesDescending observations)).val ≤ (halfShift ordered).val ∧
      (halfShift ordered).val ≤ (halfShift (tiesAscending observations)).val := by
  constructor
  · apply halfShift_mono ((perm_orderByBreaking _).trans h.perm.symm)
    intro k
    -- descending ties are ascending ones of the negated values
    have hle : (((tiesDescending observations).take k).map fun o => -o.value.toRat).sum ≤
        ((ordered.take k).map fun o => -o.value.toRat).sum :=
      sum_take_orderByBreaking_le h.perm h.sorted k
    have hneg : ∀ xs : List (Observation Binary64),
        (xs.map fun o => -o.value.toRat).sum = -(exactValues xs).sum := fun xs => by
      rw [exactValues]
      induction xs with
      | nil => simp
      | cons o xs ih => rw [List.map_cons, List.sum_cons, ih, List.map_cons, List.sum_cons, neg_add]
    rw [hneg, hneg] at hle
    exact neg_le_neg_iff.mp hle
  · apply halfShift_mono (h.perm.trans (perm_orderByBreaking _).symm)
    intro k
    exact sum_take_orderByBreaking_le h.perm h.sorted k

/-- The trend of finite values is the same in every order if the extreme orders agree. -/
theorem trendOf_eq_of_isOrder (h : IsOrder observations ordered)
    (hsame : SameTrend (spreadOf observations) (halfShift (tiesDescending observations))
      (halfShift (tiesAscending observations))) :
    trendOf (spreadOf observations) (halfShift ordered) =
      trendOf (spreadOf observations) (halfShift (tiesDescending observations)) := by
  obtain ⟨hlower, hupper⟩ := halfShift_between h
  apply TrendDirection.rank_injective
  apply le_antisymm
  · rw [trendOf_eq_iff.mpr hsame]
    exact rank_trendOf_mono hupper
  · exact rank_trendOf_mono hlower

/-! ## Every order -/

/-- What the detector says of finite values in any order of their ties, if it does not raise. -/
theorem splitHalfDirection_of_isOrder (hlong : minSamplesForDirectionalTrend ≤ observations.length)
    (h : IsOrder observations ordered) (hnone : failure? ordered = none)
    (hfinite : AllFinite observations) :
    splitHalfDirection ordered = .ok (trendOf (spreadOf observations) (halfShift ordered)) := by
  rw [← spreadOf_perm h.perm]
  exact splitHalfDirection_of_finite (h.perm.length_eq.symm ▸ hlong) hnone
    fun o ho => hfinite o (h.perm.mem_iff.mp ho)

/-- All the orders of a series that is long enough are judged alike exactly if its ties decide
nothing. -/
theorem forall_splitHalfDirection_eq_iff
    (hlong : minSamplesForDirectionalTrend ≤ observations.length)
    {first : List (Observation Binary64)} (hfirst : IsOrder observations first) :
    (∀ ordered, IsOrder observations ordered →
        splitHalfDirection ordered = splitHalfDirection first) ↔
      TiesDecideNothing observations := by
  have hmany : ∀ {ordered}, IsOrder observations ordered →
      minSamplesForDirectionalTrend ≤ ordered.length := fun h => h.perm.length_eq.symm ▸ hlong
  rw [TiesDecideNothing, or_iff_right (not_lt.mpr hlong)]
  constructor
  · intro hsame
    -- if one order fails, so do all, and with the same exception
    cases hfailure : failure? first with
    | some error =>
        refine Or.inl ⟨error, fun ordered h => ?_⟩
        have herror := (hsame ordered h).trans (splitHalfDirection_eq_error (hmany hfirst) hfailure)
        cases hother : failure? ordered with
        | some error' =>
            rw [splitHalfDirection_eq_error (hmany h) hother] at herror
            rw [Except.error.inj herror]
        | none =>
            by_cases hfinite : AllFinite ordered
            · cases herror.symm.trans (splitHalfDirection_of_finite (hmany h) hother hfinite)
            · cases herror.symm.trans (splitHalfDirection_of_not_finite (hmany h) hother hfinite)
    | none =>
        have hok : ∃ direction, splitHalfDirection first = .ok direction := by
          by_cases hfinite : AllFinite first
          · exact ⟨_, splitHalfDirection_of_finite (hmany hfirst) hfailure hfinite⟩
          · exact ⟨_, splitHalfDirection_of_not_finite (hmany hfirst) hfailure hfinite⟩
        obtain ⟨direction, hdirection⟩ := hok
        have hnone : ∀ ordered, IsOrder observations ordered → failure? ordered = none := by
          intro ordered h
          cases hother : failure? ordered with
          | none => rfl
          | some error =>
              cases (splitHalfDirection_eq_error (hmany h) hother).symm.trans
                ((hsame ordered h).trans hdirection)
        refine Or.inr ⟨hnone, fun hfinite => ?_⟩
        -- the two extreme orders are among them
        have hextreme : ∀ value : Observation Binary64 → ℚ,
            trendOf (spreadOf observations)
              (halfShift (orderByBreaking (fun o => o.timestamp.instant) value observations)) =
                direction := by
          intro value
          have h : IsOrder observations _ := isOrder_orderByBreaking value
          have heq := (hsame _ h).trans hdirection
          rw [splitHalfDirection_of_isOrder hlong h (hnone _ h) hfinite] at heq
          exact Except.ok.inj heq
        exact trendOf_eq_iff.mp ((hextreme _).trans (hextreme _).symm)
  · rintro (⟨error, hall⟩ | ⟨hnone, htrend⟩) ordered h
    · rw [splitHalfDirection_eq_error (hmany h) (hall _ h),
        splitHalfDirection_eq_error (hmany hfirst) (hall _ hfirst)]
    by_cases hfinite : AllFinite observations
    · rw [splitHalfDirection_of_isOrder hlong h (hnone _ h) hfinite,
        splitHalfDirection_of_isOrder hlong hfirst (hnone _ hfirst) hfinite,
        trendOf_eq_of_isOrder h (htrend hfinite), trendOf_eq_of_isOrder hfirst (htrend hfinite)]
    · have hnot : ∀ {ordered}, IsOrder observations ordered → ¬ AllFinite ordered :=
        fun h hordered => hfinite fun o ho => hordered o (h.perm.mem_iff.mpr ho)
      rw [splitHalfDirection_of_not_finite (hmany h) (hnone _ h) (hnot h),
        splitHalfDirection_of_not_finite (hmany hfirst) (hnone _ hfirst) (hnot hfirst)]

/-- The detector orders by time, and leaves ties as they come. -/
theorem sortedByTimestamp_eq_orderBy {F : Type} (observations : List (Observation F)) :
    sortedByTimestamp observations = orderBy (fun o => o.timestamp.instant) observations := rfl

/-- The detector looks at the observations in one of their orders. -/
theorem isOrder_sortedByTimestamp {permuted : List (Observation Binary64)}
    (h : permuted.Perm observations) : IsOrder observations (sortedByTimestamp permuted) :=
  ⟨perm_orderBy.trans h, pairwise_le_orderBy⟩

/-- Two orders of a series have the same result if they do once they are sorted. -/
theorem detect_eq_iff {assetId measurementType : String}
    {permuted : List (Observation Binary64)} (h : IsSeries assetId measurementType observations)
    (hperm : permuted.Perm observations) (htwo : 2 ≤ observations.length) :
    detect permuted = detect observations ↔
      splitHalfDirection (sortedByTimestamp permuted) =
        splitHalfDirection (sortedByTimestamp observations) := by
  rw [detect_series h htwo, detect_series (h.perm hperm) (hperm.length_eq.symm ▸ htwo)]
  cases splitHalfDirection (sortedByTimestamp permuted) <;>
    cases splitHalfDirection (sortedByTimestamp observations) <;>
    simp [Except.mapError, Except.map]

/-- Observations of one measurement are judged alike in every order if and only if their ties decide
nothing. -/
theorem detect_perm_iff {assetId measurementType : String}
    (h : IsSeries assetId measurementType observations) :
    (∀ permuted, permuted.Perm observations → detect permuted = detect observations) ↔
      TiesDecideNothing observations := by
  by_cases hshort : observations.length < minSamplesForDirectionalTrend
  -- a short series is stable, or too short for the detector
  · refine iff_of_true ?_ (Or.inl hshort)
    intro permuted hperm
    have hlength := hperm.length_eq
    by_cases htwo : 2 ≤ observations.length
    · have hstable : ∀ obs : List (Observation Binary64),
          obs.length < minSamplesForDirectionalTrend →
            splitHalfDirection (sortedByTimestamp obs) = .ok .stable := fun obs hobs =>
        splitHalfDirection_short (by rwa [sortedByTimestamp, List.length_mergeSort])
      rw [detect_eq_iff h hperm htwo, hstable _ hshort, hstable _ (hlength ▸ hshort)]
    · have hfew : ∀ obs : List (Observation Binary64), obs.length < 2 →
          detect obs = .error .tooFewObservations := fun obs hobs => by
        match obs, hobs with
        | [], _ => rfl
        | [_], _ => rfl
      rw [hfew _ (not_le.mp htwo), hfew _ (hlength ▸ not_le.mp htwo)]
  have hlong := not_lt.mp hshort
  have htwo : 2 ≤ observations.length := le_trans (by decide) hlong
  rw [← forall_splitHalfDirection_eq_iff hlong (isOrder_sortedByTimestamp (List.Perm.refl _))]
  constructor
  · intro hsame ordered hordered
    -- an order of the ties is passed on as it is
    have heq := (detect_eq_iff h hordered.perm htwo).mp (hsame ordered hordered.perm)
    rwa [sortedByTimestamp_eq_orderBy ordered, orderBy_eq_self hordered.sorted] at heq
  · intro hsame permuted hperm
    exact (detect_eq_iff h hperm htwo).mpr (hsame _ (isOrder_sortedByTimestamp hperm))

/-! ## A tie between the halves -/

/-- A voltage at second `second`. -/
def voltageAt (i second : ℕ) (value : ℚ) : Observation Binary64 :=
  ⟨numberedId i, "stack-1", .utc (1000000 * second), "voltage", ofRat value, "unit",
    numberedId_ne i, stack1_ne_empty, unit_ne_empty⟩

-- the partial sum of the first two overflows, unless another one comes between them
example :
    let high : ℚ := 17 * 10 ^ 307
    let rest := [voltageAt 4 2 0, voltageAt 5 3 0, voltageAt 6 4 0, voltageAt 7 5 0]
    failure? ([voltageAt 0 0 high, voltageAt 1 0 high, voltageAt 2 0 (-high),
        voltageAt 3 1 (-high)] ++ rest) = some .overflowError ∧
      failure? ([voltageAt 0 0 high, voltageAt 2 0 (-high), voltageAt 1 0 high,
        voltageAt 3 1 (-high)] ++ rest) = none := by
  decide +kernel

/-- Eight voltages, the fourth and the fifth of which are of one instant. -/
def tiedVoltages (swapped : Bool) : List (Observation Binary64) :=
  [voltageAt 0 0 0, voltageAt 1 1 0, voltageAt 2 2 0] ++
    (if swapped then [voltageAt 4 3 10, voltageAt 3 3 0]
      else [voltageAt 3 3 0, voltageAt 4 3 10]) ++
    [voltageAt 5 4 10, voltageAt 6 5 0, voltageAt 7 6 0]

/-- The readings of the example are a series. -/
theorem isSeries_tiedVoltages (swapped : Bool) :
    IsSeries "stack-1" "voltage" (tiedVoltages swapped) := by
  cases swapped <;> constructor <;> decide +kernel

/-- The direction of the voltages, in the order in which they are passed. -/
theorem detect_tiedVoltages (swapped : Bool) :
    detect (tiedVoltages swapped) =
      .ok ⟨if swapped then .stable else .increasing, "stack-1", "voltage"⟩ := by
  have hsorted : (tiedVoltages swapped).Pairwise fun a b =>
      a.timestamp.instant ≤ b.timestamp.instant := by
    cases swapped <;> decide +kernel
  have hlength : 2 ≤ (tiedVoltages swapped).length := by
    cases swapped <;> decide
  have hdirection : splitHalfDirection (tiedVoltages swapped) =
      .ok (if swapped then .stable else .increasing) := by
    cases swapped <;> decide +kernel
  rw [detect_series (isSeries_tiedVoltages swapped) hlength, sortedByTimestamp_eq_orderBy,
    orderBy_eq_self hsorted, hdirection]
  rfl

/-- Two observations of one instant are passed in another order, and the voltage rises no more. -/
theorem not_detect_perm :
    ¬ ∀ (assetId measurementType : String) (observations permuted : List (Observation Binary64)),
      IsSeries assetId measurementType observations →
      (observations.map Observation.id).Nodup → permuted.Perm observations →
        (detect permuted).map DetectedTrend.direction =
          (detect observations).map DetectedTrend.direction := by
  intro h
  have hperm : (tiedVoltages true).Perm (tiedVoltages false) :=
    ((List.Perm.swap _ _ _).append_left _).append_right _
  have heq := h "stack-1" "voltage" (tiedVoltages false) (tiedVoltages true)
    (isSeries_tiedVoltages false) (by decide +kernel) hperm
  rw [detect_tiedVoltages, detect_tiedVoltages] at heq
  cases heq

/-- The law at voltages with a tie. -/
theorem detect_perm_iff_tiedVoltages :
    (∀ permuted, permuted.Perm (tiedVoltages false) →
      detect permuted = detect (tiedVoltages false)) ↔ TiesDecideNothing (tiedVoltages false) :=
  detect_perm_iff (isSeries_tiedVoltages false)

end Odis.Reasoning
