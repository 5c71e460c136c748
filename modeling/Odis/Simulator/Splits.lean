import Mathlib.Data.List.FinRange
import Mathlib.Data.Prod.Lex
import Mathlib.Data.String.Basic
import Odis.Library.KeyedWindow
import Odis.Library.OrderBy
import Odis.Simulator.RunPlan

/-!
# Splits

`assign_splits` (`dataset/splits.py`) assigns every planned run to one of three splits. The runs of
a class and a target asset are sorted, shuffled with a seed of their own, and cut at counts that
come from the proportions by rounding and repair. Whatever the counts are, the three slices of a
stratum make it up.

* `assignSplits_spec`: every run is in exactly one split, whatever the order of the plan.
* `isPartition_planRuns`: so it is for the runs that a specification plans.
-/

namespace Odis.Simulator

open Arithmetic Exceptions KeyedWindow OrderBy

/-! ## Slices -/

section Slices

variable {α : Type*}

/-- A bound of a slice, counted from the end where it is negative. -/
def sliceBound (length : ℕ) (i : ℤ) : ℕ := if 0 ≤ i then min i.toNat length else (length + i).toNat

/-- `xs[start:stop]`. -/
def slice (xs : List α) (start stop : ℤ) : List α :=
  (xs.take (sliceBound xs.length stop)).drop (sliceBound xs.length start)

/-- `xs[start:]`. -/
def sliceFrom (xs : List α) (start : ℤ) : List α := xs.drop (sliceBound xs.length start)

/-- Two counts, not negative, cut a list into three slices. -/
theorem slice_append (xs : List α) {a b : ℤ} (ha : 0 ≤ a) (hb : 0 ≤ b) :
    slice xs 0 a ++ (slice xs a (a + b) ++ sliceFrom xs (a + b)) = xs := by
  have hle : sliceBound xs.length a ≤ sliceBound xs.length (a + b) := by
    rw [sliceBound, sliceBound, if_pos ha, if_pos (by omega)]
    omega
  have hzero : sliceBound xs.length 0 = 0 := by simp [sliceBound]
  rw [slice, slice, sliceFrom, hzero, List.drop_zero]
  generalize sliceBound xs.length a = i at hle ⊢
  generalize sliceBound xs.length (a + b) = j at hle ⊢
  have hdrop : xs.drop j = (xs.drop i).drop (j - i) := by
    rw [List.drop_drop, Nat.add_sub_cancel' hle]
  rw [List.drop_take, hdrop, List.take_append_drop, List.take_append_drop]

end Slices

/-! ## Counts -/

section Counts

variable {format : NumberFormat}

/-- `int(x)`. -/
def truncate (x : Number format) : ℤ := x.val.num.tdiv x.val.den

/-- `max(range(3), key=counts)`: the first split with the greatest count. -/
def largestSplit (counts : Split → ℤ) : Split :=
  [Split.validation, Split.test].foldl
    (fun best split => if counts best < counts split then split else best) .train

/-- A split that is to have runs but has none takes one from the largest split. -/
def repairSplit (proportions : SplitProportions (Number format)) (counts : Split → ℤ)
    (split : Split) : Split → ℤ :=
  if literal 0 < proportions.val.of split ∧ counts split = 0 then
    let donor := largestSplit counts
    if 1 < counts donor then
      let taken := Function.update counts donor (counts donor - 1)
      Function.update taken split (taken split + 1)
    else counts
  else counts

/-- `_split_counts`. -/
def splitCounts (n : ℕ) (proportions : SplitProportions (Number format)) : Split → ℤ :=
  if n = 0 then fun _ => 0
  else
    let raw (split : Split) : Number format := proportions.val.of split * literal n
    let floors (split : Split) : ℤ := truncate (raw split)
    let remainder : ℤ := n - (floors .train + floors .validation + floors .test)
    let order := Split.all.mergeSort fun i j =>
      raw j - literal (floors j) ≤ raw i - literal (floors i)
    let counts (split : Split) : ℤ :=
      floors split + if split ∈ slice order 0 remainder then 1 else 0
    let nonzeroSplits := Split.all.countP fun split => literal 0 < proportions.val.of split
    if nonzeroSplits ≤ n then Split.all.foldl (repairSplit proportions) counts else counts

/-- The repair takes no count below zero. -/
theorem repairSplit_nonneg {proportions : SplitProportions (Number format)} {counts : Split → ℤ}
    (h : ∀ split, 0 ≤ counts split) (split other : Split) :
    0 ≤ repairSplit proportions counts split other := by
  rw [repairSplit]
  dsimp only
  split_ifs with _ hdonor
  -- a run is only taken from a split that has more than one
  · have htaken : ∀ s, 0 ≤ Function.update counts (largestSplit counts)
        (counts (largestSplit counts) - 1) s := by
      intro s
      by_cases hs : s = largestSplit counts
      · rw [hs, Function.update_self]
        omega
      · rw [Function.update_of_ne hs]
        exact h s
    by_cases hother : other = split
    · rw [hother, Function.update_self]
      have := htaken split
      omega
    · rw [Function.update_of_ne hother]
      exact htaken other
  · exact h other
  · exact h other

/-- Repairs leave no count negative. -/
theorem foldl_repairSplit_nonneg {proportions : SplitProportions (Number format)}
    (splits : List Split) {counts : Split → ℤ} (h : ∀ split, 0 ≤ counts split) (split : Split) :
    0 ≤ splits.foldl (repairSplit proportions) counts split := by
  induction splits generalizing counts with
  | nil => exact h split
  | cons first splits ih => exact ih fun other => repairSplit_nonneg h first other

/-- No count is negative. -/
theorem splitCounts_nonneg (n : ℕ) (proportions : SplitProportions (Number format))
    (split : Split) : 0 ≤ splitCounts n proportions split := by
  have hraw : ∀ split, 0 ≤ (proportions.val.of split * literal (n : ℚ)).val := by
    intro split
    have hproportion : 0 ≤ (proportions.val.of split).val := by
      have hnonneg := Number.le_iff.mp (proportions.nonneg split)
      have hzero : (PyFloat.literal 0.0 : Number format).val = 0 := by
        show format.round 0.0 = 0
        rw [show (0.0 : ℚ) = 0 by norm_num, format.round_zero]
      rwa [hzero] at hnonneg
    have hn : 0 ≤ (literal (n : ℚ) : Number format).val :=
      format.round_zero ▸ format.round_mono (Nat.cast_nonneg n)
    exact format.round_zero ▸ format.round_mono (mul_nonneg hproportion hn)
  -- what is rounded down is not negative, and runs are only added to it
  have hfloors : ∀ split, 0 ≤ truncate (proportions.val.of split * literal (n : ℚ)) := fun split =>
    Int.tdiv_nonneg (Rat.num_nonneg.mpr (hraw split)) (Int.natCast_nonneg _)
  have hcounts (chosen : List Split) (split : Split) :
      0 ≤ truncate (proportions.val.of split * literal (n : ℚ)) +
        if split ∈ chosen then 1 else 0 := by
    have := hfloors split
    split_ifs <;> omega
  rw [splitCounts]
  split_ifs
  · exact le_rfl
  · dsimp only
    split_ifs
    · exact foldl_repairSplit_nonneg _ (hcounts _) split
    · exact hcounts _ split

end Counts

/-! ## Assignment -/

section Assignment

variable {format : NumberFormat}

/-- `SplitAssignment`. -/
structure SplitAssignment (F : Type) [PyFloat F] where
  datasetId : String
  proportions : SplitProportions F
  train : List String
  validation : List String
  test : List String

/-- The permutation that `random.Random(seed).shuffle` applies to a list of a length. -/
abbrev Shuffle : Type := String → (n : ℕ) → Equiv.Perm (Fin n)

/-- A list after `random.Random(seed).shuffle`. -/
def shuffled (shuffle : Shuffle) (seed : String) (xs : List String) : List String :=
  List.ofFn (xs.get ∘ shuffle seed xs.length)

/-- A shuffle only permutes the runs. -/
theorem perm_shuffled (shuffle : Shuffle) (seed : String) (xs : List String) :
    (shuffled shuffle seed xs).Perm xs := by
  have hperm := (shuffle seed xs.length).ofFn_comp_perm xs.get
  rwa [List.ofFn_get] at hperm

/-- What a run is stratified by. -/
def stratum {F : Type} [PyFloat F] (run : PlannedRun F) : String × String :=
  (run.classLabel, run.runConfig.targetAssetId)

/-- The ids of the runs, by stratum. -/
def strata {F : Type} [PyFloat F] (plannedRuns : List (PlannedRun F)) :
    OrderedDict (id : String × String → String × String) (List String) :=
  (grouped stratum plannedRuns).mapValues fun runs => runs.map PlannedRun.simulationRunId

/-- The runs of a stratum, shuffled. -/
def stratumRuns {F : Type} [PyFloat F] (shuffle : Shuffle) (datasetId : String)
    (plannedRuns : List (PlannedRun F)) (key : String × String) : List String :=
  let runIds := orderBy id (((strata plannedRuns).get? key).getD [])
  shuffled shuffle (datasetId ++ ":split:" ++ key.1 ++ ":" ++ key.2) runIds

/-- The strata, sorted. -/
def sortedStrata {F : Type} [PyFloat F] (plannedRuns : List (PlannedRun F)) :
    List (String × String) :=
  orderBy toLex ((strata plannedRuns).items.map Prod.fst)

/-- A round of the loop of `assign_splits`: a stratum is cut into slices. -/
def extendSplits (shuffle : Shuffle) (proportions : SplitProportions (Number format))
    (plannedRuns : List (PlannedRun (Number format))) (splits : SplitAssignment (Number format))
    (key : String × String) : SplitAssignment (Number format) :=
  let runIds := stratumRuns shuffle splits.datasetId plannedRuns key
  let counts := splitCounts runIds.length proportions
  { splits with
    train := splits.train ++ slice runIds 0 (counts .train)
    validation := splits.validation ++
      slice runIds (counts .train) (counts .train + counts .validation)
    test := splits.test ++ sliceFrom runIds (counts .train + counts .validation) }

/-- `assign_splits`. -/
def assignSplits (shuffle : Shuffle) (plannedRuns : List (PlannedRun (Number format)))
    (proportions : SplitProportions (Number format)) (datasetId : String) :
    SplitAssignment (Number format) :=
  (sortedStrata plannedRuns).foldl (extendSplits shuffle proportions plannedRuns)
    ⟨datasetId, proportions, [], [], []⟩

/-- The runs of all splits. -/
def SplitAssignment.runIds {F : Type} [PyFloat F] (splits : SplitAssignment F) : List String :=
  splits.train ++ splits.validation ++ splits.test

/-- Every run is in exactly one split, and nothing else is in any of them. -/
structure IsPartition (runIds : List String) (splits : SplitAssignment (Number format)) : Prop where
  covers : ∀ runId, runId ∈ runIds ↔
    runId ∈ splits.train ∨ runId ∈ splits.validation ∨ runId ∈ splits.test
  once : (splits.train ++ splits.validation ++ splits.test).Nodup

variable {shuffle : Shuffle} {datasetId : String}
  {proportions : SplitProportions (Number format)}
  {plannedRuns plannedRuns' : List (PlannedRun (Number format))}

/-- The ids of a stratum are those of its runs. -/
theorem get?_strata {key : String × String} : ((strata plannedRuns).get? key).getD [] =
    (ofKey stratum key plannedRuns).map PlannedRun.simulationRunId := by
  rw [strata, OrderedDict.get?_mapValues, get?_grouped]
  split_ifs with hnil
  · rw [hnil]
    rfl
  · rfl

/-- The strata are those of the runs. -/
theorem mem_keys_strata {key : String × String} :
    key ∈ (strata plannedRuns).items.map Prod.fst ↔ ∃ run ∈ plannedRuns, stratum run = key := by
  have hkeys : (strata plannedRuns).items.map Prod.fst =
      (grouped stratum plannedRuns).items.map Prod.fst := by
    rw [strata, OrderedDict.mapValues, List.map_map]
    rfl
  rw [hkeys, List.mem_map]
  constructor
  · rintro ⟨⟨key, runs⟩, hitem, rfl⟩
    obtain ⟨rfl, hne⟩ := mem_items_grouped.mp hitem
    obtain ⟨run, hrun⟩ := List.exists_mem_of_ne_nil _ hne
    exact ⟨run, mem_ofKey.mp hrun⟩
  · rintro ⟨run, hrun, hstratum⟩
    have hne := List.ne_nil_of_mem (mem_ofKey.mpr ⟨hrun, hstratum⟩)
    exact ⟨(key, ofKey stratum key plannedRuns), mem_items_grouped.mpr ⟨rfl, hne⟩, rfl⟩

/-- The strata are those of the runs. -/
theorem mem_sortedStrata {key : String × String} :
    key ∈ sortedStrata plannedRuns ↔ ∃ run ∈ plannedRuns, stratum run = key := by
  rw [sortedStrata, mem_orderBy, mem_keys_strata]

/-- No stratum comes twice. -/
theorem nodup_sortedStrata : (sortedStrata plannedRuns).Nodup :=
  (List.mergeSort_perm _ _).nodup_iff.mpr (strata plannedRuns).nodup

/-- Neither the sorting nor the shuffling changes what runs a stratum has. -/
theorem perm_stratumRuns {key : String × String} :
    (stratumRuns shuffle datasetId plannedRuns key).Perm
      ((ofKey stratum key plannedRuns).map PlannedRun.simulationRunId) := by
  rw [stratumRuns, get?_strata]
  exact (perm_shuffled shuffle _ _).trans (List.mergeSort_perm _ _)

/-- A round assigns the runs of its stratum. -/
theorem perm_extendSplits {splits : SplitAssignment (Number format)} {key : String × String} :
    (extendSplits shuffle proportions plannedRuns splits key).runIds.Perm
      (splits.runIds ++ stratumRuns shuffle splits.datasetId plannedRuns key) := by
  rw [extendSplits, SplitAssignment.runIds, SplitAssignment.runIds]
  dsimp only
  generalize stratumRuns shuffle splits.datasetId plannedRuns key = runIds
  have hcut := slice_append runIds (splitCounts_nonneg runIds.length proportions .train)
    (splitCounts_nonneg runIds.length proportions .validation)
  generalize splitCounts runIds.length proportions = counts at hcut ⊢
  conv_rhs => rw [← hcut]
  rw [List.perm_iff_count]
  intro runId
  simp only [List.count_append]
  omega

/-- The loop assigns the runs of the strata, one stratum after the other. -/
theorem perm_foldl_extendSplits (keys : List (String × String))
    (splits : SplitAssignment (Number format)) :
    (keys.foldl (extendSplits shuffle proportions plannedRuns) splits).runIds.Perm
      (splits.runIds ++ keys.flatMap (stratumRuns shuffle splits.datasetId plannedRuns)) := by
  induction keys generalizing splits with
  | nil => simp
  | cons key keys ih =>
      rw [List.foldl_cons, List.flatMap_cons, ← List.append_assoc]
      exact (ih _).trans (perm_extendSplits.append_right _)

/-- The splits have the planned runs, each as often as it is planned. -/
theorem perm_assignSplits :
    (assignSplits shuffle plannedRuns proportions datasetId).runIds.Perm
      (plannedRuns.map PlannedRun.simulationRunId) := by
  refine (perm_foldl_extendSplits _ _).trans ?_
  have hcover : ∀ run ∈ plannedRuns, stratum run ∈ sortedStrata plannedRuns := fun run hrun =>
    mem_sortedStrata.mpr ⟨run, hrun, rfl⟩
  refine List.Perm.trans ?_
    ((perm_flatMap_ofKey nodup_sortedStrata hcover).map PlannedRun.simulationRunId)
  rw [List.map_flatMap]
  exact List.Perm.flatMap_left _ fun key _ => perm_stratumRuns

/-- The order of the plan does not change the strata. -/
theorem sortedStrata_eq_of_perm (hperm : plannedRuns'.Perm plannedRuns) :
    sortedStrata plannedRuns' = sortedStrata plannedRuns := by
  have hnodup (runs : List (PlannedRun (Number format))) :
      (((strata runs).items.map Prod.fst).map toLex).Nodup :=
    (strata runs).nodup.map toLex.injective
  refine orderBy_eq_of_mem_iff (hnodup _) (hnodup _) fun key => ?_
  rw [mem_keys_strata, mem_keys_strata]
  exact exists_congr fun run => and_congr_left fun _ => hperm.mem_iff

/-- Nor does it change the shuffled runs of a stratum, as they are sorted first. -/
theorem stratumRuns_eq_of_perm (hnodup : (plannedRuns.map PlannedRun.simulationRunId).Nodup)
    (hperm : plannedRuns'.Perm plannedRuns) (key : String × String) :
    stratumRuns shuffle datasetId plannedRuns' key =
      stratumRuns shuffle datasetId plannedRuns key := by
  have hsub (runs : List (PlannedRun (Number format))) :
      ((ofKey stratum key runs).map PlannedRun.simulationRunId).Sublist
        (runs.map PlannedRun.simulationRunId) := List.filter_sublist.map _
  have hmap := (hperm.filter fun run => stratum run = key).map PlannedRun.simulationRunId
  have hsorted : orderBy id (((strata plannedRuns').get? key).getD []) =
      orderBy id (((strata plannedRuns).get? key).getD []) := by
    rw [get?_strata, get?_strata]
    apply orderBy_eq_of_mem_iff
    · rw [List.map_id]
      exact ((hperm.map _).nodup_iff.mpr hnodup).sublist (hsub plannedRuns')
    · rw [List.map_id]
      exact hnodup.sublist (hsub plannedRuns)
    · exact fun runId => hmap.mem_iff
  rw [stratumRuns, stratumRuns, hsorted]

/-- Runs with distinct ids are assigned to one split each. -/
theorem isPartition_assignSplits
    (hnodup : (plannedRuns.map PlannedRun.simulationRunId).Nodup) :
    IsPartition (plannedRuns.map PlannedRun.simulationRunId)
      (assignSplits shuffle plannedRuns proportions datasetId) := by
  have hassigned : (assignSplits shuffle plannedRuns proportions datasetId).runIds.Perm
      (plannedRuns.map PlannedRun.simulationRunId) := perm_assignSplits
  refine ⟨fun runId => ?_, hassigned.nodup_iff.mpr hnodup⟩
  rw [← hassigned.mem_iff, SplitAssignment.runIds, List.mem_append, List.mem_append, or_assoc]

/-- A plan in another order is assigned alike. -/
theorem assignSplits_eq_of_perm (hnodup : (plannedRuns.map PlannedRun.simulationRunId).Nodup)
    (hperm : plannedRuns'.Perm plannedRuns) :
    assignSplits shuffle plannedRuns' proportions datasetId =
      assignSplits shuffle plannedRuns proportions datasetId := by
  have hround : extendSplits shuffle proportions plannedRuns' =
      extendSplits shuffle proportions plannedRuns := by
    funext splits key
    rw [extendSplits, extendSplits, stratumRuns_eq_of_perm hnodup hperm]
  rw [assignSplits, assignSplits, sortedStrata_eq_of_perm hperm, hround]

/-- The runs that a specification plans have distinct ids, so its splits partition them. -/
theorem isPartition_planRuns [FloatRounding (Number format)]
    {random : RandomSource (Number format)} {spec : DatasetSpec (Number format)}
    (h : planRuns random spec = .ok plannedRuns) :
    IsPartition (plannedRuns.map PlannedRun.simulationRunId)
      (assignSplits shuffle plannedRuns spec.val.splitProportions spec.val.datasetId) :=
  isPartition_assignSplits (nodup_planRuns h)

/-- Every planned run is assigned to exactly one split, and a plan in another order is assigned
alike. -/
theorem assignSplits_spec (shuffle : Shuffle) (proportions : SplitProportions (Number format))
    (datasetId : String) (plannedRuns : List (PlannedRun (Number format)))
    (hnodup : (plannedRuns.map PlannedRun.simulationRunId).Nodup) :
    IsPartition (plannedRuns.map PlannedRun.simulationRunId)
        (assignSplits shuffle plannedRuns proportions datasetId) ∧
      ∀ plannedRuns' : List (PlannedRun (Number format)), plannedRuns'.Perm plannedRuns →
        assignSplits shuffle plannedRuns' proportions datasetId =
          assignSplits shuffle plannedRuns proportions datasetId :=
  ⟨isPartition_assignSplits hnodup, fun _ => assignSplits_eq_of_perm hnodup⟩

/-- The numbers of the plan below. -/
abbrev PlanNumber : Type := Number (NumberFormat.exact id id 3)

/-- A healthy run of an hour. -/
def healthyRunFields (runId : String) : RunConfigFields PlanNumber where
  simulationRunId := runId
  scenarioName := .normalOperation
  targetAssetId := "FC-001"
  durationSimSeconds := literal 3600
  dtSeconds := literal 1
  runStartTime := .utc 0
  faultStartSimSeconds := none
  faultDurationSimSeconds := none
  faultSeverity := literal 0.0
  operatingConditions := ⟨literal 60, literal 15, literal 120, literal 0, literal 0, literal 0⟩

/-- A run with a given id. -/
def healthyRun (simulationRunId : String)
    (h : (healthyRunFields simulationRunId).check.toBool = true) : PlannedRun PlanNumber where
  simulationRunId
  datasetId := "healthy"
  classLabel := "normal_operation"
  runConfig := ⟨healthyRunFields simulationRunId, 1, [], eq_ok_of_toBool h⟩

/-- Two healthy runs. -/
def healthyPlan : List (PlannedRun PlanNumber) :=
  [healthyRun "healthy-normal_operation-0000" (by decide +kernel),
    healthyRun "healthy-normal_operation-0001" (by decide +kernel)]

/-- Most of the runs are for training. -/
def mostlyTraining : SplitProportions PlanNumber where
  val := ⟨literal 0.7, literal 0.15, literal 0.15⟩
  valid := eq_ok_of_toBool (by decide +kernel)

/-- The two runs of the example are partitioned. -/
theorem isPartition_healthyPlan :
    IsPartition ["healthy-normal_operation-0000", "healthy-normal_operation-0001"]
      (assignSplits (fun _ _ => Equiv.refl _) healthyPlan mostlyTraining "healthy") :=
  (assignSplits_spec (fun _ _ => Equiv.refl _) mostlyTraining "healthy" healthyPlan
    (by decide)).1

end Assignment

end Odis.Simulator
