import Odis.Python.Statistics
import Odis.Reasoning.ObservationWindow
import Odis.Reasoning.TrendDetector

/-!
# Series of every direction

What the trend detector says of the series of a measurement. It reports a direction from eight
observations on; there is a series of each direction of every such length, whatever the format of
the numbers.

* `detect_history`: a series of one measurement is judged by its values.
* `splitHalfDirection_shifting`: the direction of a series that shifts half-way.
-/

namespace Odis.Reasoning

open Inference Statistics

/-- Observations of one measurement of an asset, in any order. -/
structure IsSeries {F : Type} (assetId measurementType : String)
    (observations : List (Observation F)) : Prop where
  assetId : ∀ o ∈ observations, o.assetId = assetId
  measurementType : ∀ o ∈ observations, o.measurementType = measurementType

/-- A series of a measurement of an asset, as the store lists it. -/
structure IsHistory {F : Type} (assetId measurementType : String)
    (observations : List (Observation F)) : Prop where
  assetId : ∀ o ∈ observations, o.assetId = assetId
  measurementType : ∀ o ∈ observations, o.measurementType = measurementType
  order : RepositoryOrder observations

/-- A history is a series. -/
theorem IsHistory.isSeries {F : Type} {assetId measurementType : String}
    {observations : List (Observation F)} (h : IsHistory assetId measurementType observations) :
    IsSeries assetId measurementType observations := ⟨h.assetId, h.measurementType⟩

/-- Whether observations are a series does not depend on their order. -/
theorem IsSeries.perm {F : Type} {assetId measurementType : String}
    {observations permuted : List (Observation F)}
    (h : IsSeries assetId measurementType observations)
    (hperm : permuted.Perm observations) : IsSeries assetId measurementType permuted :=
  ⟨fun o ho => h.assetId o (hperm.mem_iff.mp ho),
    fun o ho => h.measurementType o (hperm.mem_iff.mp ho)⟩

section Detect

variable {F : Type} [PyFloat F] {assetId measurementType : String}
  {observations : List (Observation F)}

omit [PyFloat F] in
/-- Sorted observations stay as they are when they are sorted again. -/
theorem sortedByTimestamp_eq (h : observations.Pairwise PrecedesOrEq) :
    sortedByTimestamp observations = observations := by
  apply List.mergeSort_of_pairwise
  refine h.imp ?_
  rintro a b (hlt | ⟨heq, -⟩)
  · exact decide_eq_true (le_of_lt hlt)
  · exact decide_eq_true (le_of_eq heq)

omit [PyFloat F] in
/-- The detectors find no observation of another asset or measurement. -/
theorem IsSeries.find?_other {first : Observation F} {rest : List (Observation F)}
    (h : IsSeries assetId measurementType (first :: rest)) :
    rest.find? (fun o =>
      o.assetId ≠ first.assetId ∨ o.measurementType ≠ first.measurementType) = none := by
  rw [List.find?_eq_none]
  intro o ho
  have hmem := List.mem_cons_of_mem first ho
  simp [h.assetId o hmem, h.measurementType o hmem, h.assetId first List.mem_cons_self,
    h.measurementType first List.mem_cons_self]

/-- A series of one measurement is judged by its values in the order of their timestamps. -/
theorem detect_series (h : IsSeries assetId measurementType observations)
    (hlength : 2 ≤ observations.length) :
    detect observations =
      ((splitHalfDirection (sortedByTimestamp observations)).mapError .arithmetic).map
        fun direction => ⟨direction, assetId, measurementType⟩ := by
  match observations, hlength with
  | first :: second :: rest, _ =>
      have hasset := h.assetId first List.mem_cons_self
      have htype := h.measurementType first List.mem_cons_self
      simp only [detect, h.find?_other]
      rw [hasset, htype]
      cases splitHalfDirection (sortedByTimestamp (first :: second :: rest)) <;> rfl

/-- A series in the order of the store is judged by its values. -/
theorem detect_history (h : IsHistory assetId measurementType observations)
    (hlength : 2 ≤ observations.length) :
    (detect observations).map DetectedTrend.direction =
      (splitHalfDirection observations).mapError .arithmetic := by
  rw [detect_series h.isSeries hlength, sortedByTimestamp_eq h.order.sorted]
  cases splitHalfDirection observations <;> rfl

/-- No direction is reported of a short series. -/
theorem splitHalfDirection_short (h : observations.length < minSamplesForDirectionalTrend) :
    splitHalfDirection observations = .ok .stable := by
  simp only [splitHalfDirection, List.length_map, h, if_true]
  rfl

end Detect

/-! ## Series that shift half-way -/

section Series

variable {F : Type}

/-- An id for each number. -/
def numberedId (i : ℕ) : String := String.ofList (List.replicate (i + 1) 'o')

/-- Numbered ids grow with their number. -/
theorem length_numberedId (i : ℕ) : (numberedId i).length = i + 1 := by
  rw [numberedId, String.length_ofList, List.length_replicate]

/-- So no two numbers have the same id. -/
theorem numberedId_injective : Function.Injective numberedId := by
  intro i j h
  have hlength := congrArg String.length h
  rw [length_numberedId, length_numberedId] at hlength
  exact Nat.succ.inj hlength

/-- And no id is empty. -/
theorem numberedId_ne (i : ℕ) : numberedId i ≠ "" := by
  intro h
  have hlength := congrArg String.length h
  rw [length_numberedId] at hlength
  exact Nat.succ_ne_zero i hlength

/-- The series of the given values, one every second. -/
def seriesOf (measurementType : String) (values : List F) : List (Observation F) :=
  values.zipIdx.map fun entry =>
    ⟨numberedId entry.2, "stack-1", .utc (1000000 * entry.2), measurementType, entry.1, "unit",
      numberedId_ne entry.2, stack1_ne_empty, unit_ne_empty⟩

variable (measurementType : String) (values : List F)

/-- There is one observation for each value. -/
@[simp]
theorem length_seriesOf : (seriesOf measurementType values).length = values.length := by
  simp [seriesOf]

/-- The observations have these values. -/
@[simp]
theorem values_seriesOf : (seriesOf measurementType values).map Observation.value = values := by
  rw [seriesOf, List.map_map]
  exact List.zipIdx_map_fst 0 values

/-- They are a history, second by second. -/
theorem isHistory_seriesOf : IsHistory "stack-1" measurementType
    (seriesOf measurementType values) where
  assetId := by
    intro o ho
    obtain ⟨entry, -, rfl⟩ := List.mem_map.mp ho
    rfl
  measurementType := by
    intro o ho
    obtain ⟨entry, -, rfl⟩ := List.mem_map.mp ho
    rfl
  order := by
    -- the seconds increase with the positions
    have hincreasing : values.zipIdx.Pairwise fun a b => a.2 < b.2 := by
      have hrange : (values.zipIdx.map Prod.snd).Pairwise (· < ·) := by
        rw [List.zipIdx_map_snd]
        exact List.pairwise_lt_range'
      exact List.pairwise_map.mp hrange
    constructor
    · refine List.pairwise_map.mpr (hincreasing.imp ?_)
      intro a b hlt
      refine Or.inl ?_
      show (1000000 * (a.2 : ℤ)) < 1000000 * b.2
      omega
    · rw [seriesOf, List.map_map]
      refine List.pairwise_map.mpr (hincreasing.imp ?_)
      exact fun hlt heq => hlt.ne (numberedId_injective heq)

end Series

variable {format : NumberFormat}

/-- Rounding a number up to one hardly changes it. -/
theorem round_bounds (format : NumberFormat) (q : ℚ) (h : |q| ≤ 1) :
    q - 1 / 100 ≤ format.round q ∧ format.round q ≤ q + 1 / 100 := by
  have hnear := abs_le.mp (format.round_near q h)
  constructor <;> linarith [hnear.1, hnear.2, show (1 : ℚ) / 2 ^ 53 ≤ 1 / 100 by norm_num]

/-- A shift that is large enough counts as a trend of zeros and ones, whatever their deviation. -/
theorem ratio_ge {shift spread ratio : Number format} (hshift : 17 / 20 ≤ shift.val)
    (hpos : 0 < spread.val) (hspread : spread.val ≤ 1)
    (hratio : PyFloat.truediv shift spread = .ok ratio) :
    ¬ ratio < trendRatioThreshold (Number format) := by
  obtain rfl : shift / spread = ratio := Except.ok.inj ((if_neg hpos.ne').symm.trans hratio)
  have hthreshold := (round_bounds format (8 / 10) (by norm_num)).2
  have hbound := (round_bounds format (17 / 20) (by norm_num)).1
  have hquotient : (17 / 20 : ℚ) ≤ shift.val / spread.val := by
    rw [le_div_iff₀ hpos]
    nlinarith
  have hround := format.round_mono hquotient
  rw [not_lt, Number.le_iff]
  show format.round (8 / 10) ≤ format.round (shift.val / spread.val)
  linarith

/-- A shift between zero and one, in either direction, is far from zero. -/
theorem shift_bounds {a b : Number format}
    (h : a.val = 0 ∧ b.val = 1 ∨ a.val = 1 ∧ b.val = 0) :
    17 / 20 ≤ (PyFloat.abs (b - a)).val ∧
      directionOf (b - a) = if a.val < b.val then .increasing else .decreasing := by
  have hzero : (Number.ofRat format 0).val = 0 := Number.val_zero
  rcases h with ⟨ha, hb⟩ | ⟨ha, hb⟩
  · have hval : (b - a).val = 1 := by
      rw [Number.val_sub, ha, hb, sub_zero, format.round_one]
    have hpos : Number.ofRat format 0 < b - a := by
      rw [Number.lt_iff, hzero, hval]
      exact one_pos
    constructor
    · rw [show PyFloat.abs (b - a) = b - a from if_neg (not_lt_of_gt hpos), hval]
      norm_num
    · rw [ha, hb, if_pos one_pos]
      exact if_pos hpos
  · have hval : (b - a).val = format.round (-1) := by
      rw [Number.val_sub, ha, hb, zero_sub]
    -- rounding may change minus one, but not by much
    have hupper := (round_bounds format (-1) (by norm_num)).2
    have hneg : b - a < Number.ofRat format 0 := by
      rw [Number.lt_iff, hzero, hval]
      linarith
    constructor
    · rw [show PyFloat.abs (b - a) = -(b - a) from if_pos hneg]
      have hbound := (round_bounds format (9 / 10) (by norm_num)).1
      have hmono : format.round (9 / 10) ≤ format.round (-(b - a).val) :=
        format.round_mono (by linarith)
      show (17 / 20 : ℚ) ≤ format.round (-(b - a).val)
      linarith
    · rw [ha, hb, if_neg (by norm_num)]
      exact if_neg (not_lt_of_gt hneg)

/-- The values of a series whose first half is one number and whose second half is another. -/
def shifting (n : ℕ) (first second : Number format) : List (Number format) :=
  List.replicate (n / 2) first ++ List.replicate (n - n / 2) second

/-- The direction of a series of zeros and ones that shifts half-way. -/
theorem splitHalfDirection_shifting {ordered : List (Observation (Number format))} {n : ℕ}
    (hn : minSamplesForDirectionalTrend ≤ n) {a b : Number format}
    (ha : a.val = 0 ∨ a.val = 1) (hb : b.val = 0 ∨ b.val = 1)
    (hvalues : ordered.map Observation.value = shifting n a b) :
    splitHalfDirection ordered =
      .ok (if a.val = b.val then .stable else if a.val < b.val then .increasing
        else .decreasing) := by
  have hn : 8 ≤ n := hn
  have hlength : (shifting n a b).length = n := by
    rw [shifting, List.length_append, List.length_replicate, List.length_replicate]
    omega
  have hne : shifting n a b ≠ [] := List.ne_nil_of_length_pos (by omega)
  have hfirst : (shifting n a b).take (n / 2) = List.replicate (n / 2) a := by
    rw [shifting, List.take_left' (List.length_replicate)]
  have hsecond : (shifting n a b).drop (n - n / 2) = List.replicate (n / 2) b := by
    rw [shifting, List.drop_append, List.drop_replicate, List.drop_replicate,
      List.length_replicate, show n / 2 - (n - n / 2) = 0 by omega, List.replicate_zero,
      List.nil_append]
    congr 1
    omega
  have hzeroOne : ∀ x ∈ shifting n a b, x.val = 0 ∨ x.val = 1 := by
    intro x hx
    rcases List.mem_append.mp hx with hx | hx
    · exact List.eq_of_mem_replicate hx ▸ ha
    · exact List.eq_of_mem_replicate hx ▸ hb
  -- the spread of zeros and ones is bounded, so a shift of one is not small beside it
  obtain ⟨spread, hspread, hnonneg, hle⟩ := pstdev_zeros_ones hne hzeroOne
  have hepsilon := round_bounds format (1 / 1000000000) (by norm_num)
  have hzero : (Number.ofRat format 0).val = 0 := Number.val_zero
  have hepsilon_nonneg : 0 ≤ (stableEpsilon (Number format)).val :=
    hzero ▸ Number.ofRat_mono (by norm_num)
  rw [splitHalfDirection]
  simp only [hvalues, hlength, hfirst, hsecond, fmean_replicate (by omega : 0 < n / 2) ha,
    fmean_replicate (by omega : 0 < n / 2) hb, hspread, bind, Except.bind,
    if_neg (show ¬ n < minSamplesForDirectionalTrend from not_lt_of_ge hn)]
  by_cases heq : a.val = b.val
  · have hval : (b - a).val = 0 := by
      rw [Number.val_sub, heq, sub_self, format.round_zero]
    -- without a shift the halves agree
    have hsmall : PyFloat.abs (b - a) ≤ stableEpsilon (Number format) := by
      have hself : ¬ b - a < Number.ofRat format 0 := by
        rw [Number.lt_iff, hval, Number.val_zero]
        exact lt_irrefl 0
      rw [show PyFloat.abs (b - a) = b - a from if_neg hself, Number.le_iff, hval]
      exact hepsilon_nonneg
    rw [if_pos heq, if_pos hsmall]
    rfl
  · have hcases : a.val = 0 ∧ b.val = 1 ∨ a.val = 1 ∧ b.val = 0 := by
      rcases ha with ha | ha <;> rcases hb with hb | hb <;> simp_all
    obtain ⟨hshift, hdirection⟩ := shift_bounds hcases
    have hlarge : ¬ PyFloat.abs (b - a) ≤ stableEpsilon (Number format) := by
      rw [Number.le_iff]
      refine not_le_of_gt ?_
      show format.round (1 / 1000000000) < _
      linarith [hepsilon.2]
    rw [if_neg heq, ← hdirection, if_neg hlarge]
    -- a spread within the tolerance is not divided by
    by_cases hflat : spread ≤ stableEpsilon (Number format)
    · rw [if_pos hflat]
      rfl
    · rw [if_neg hflat]
      have hpos : 0 < spread.val := by
        rw [Number.le_iff, not_le] at hflat
        linarith
      have hratio : PyFloat.truediv (PyFloat.abs (b - a)) spread =
          .ok (PyFloat.abs (b - a) / spread) := if_neg hpos.ne'
      rw [hratio]
      simp only [if_neg (ratio_ge hshift hpos hle hratio)]
      rfl

end Odis.Reasoning
