import Mathlib.Data.List.DropRight
import Mathlib.Data.Prod.Lex
import Mathlib.Data.String.Basic
import Odis.Library.OrderBy
import Odis.ReasoningBridge.Service

/-!
# The series an alert is corroborated on

An alert is to be judged by the latest observations before it. `_corroborate` asks for the rows of
the window in ascending order and limits their number, so that a window with more rows than the
limit is cut at its end: the latest observations are the ones that are left out.

* `judgesLatest_iff`: the alerts that are judged by the latest observations.
-/

namespace Odis.ReasoningBridge

open Inference OrderBy

variable {F J : Type} [PyFloat F]

/-- What the rows of the store are ordered by. -/
def rowKey (o : Observation F) : ℤ ×ₗ String := toLex (o.timestamp.instant, o.id)

/-- The rows of a measurement between two points in time. -/
def inWindow (observations : List (Observation F)) (assetId : String) (start finish : Datetime)
    (measurementType : String) : List (Observation F) :=
  observations.filter fun o =>
    o.assetId = assetId ∧ start.instant ≤ o.timestamp.instant ∧
      o.timestamp.instant ≤ finish.instant ∧ o.measurementType = measurementType

/-- The most recent rows, at most `limit` of them. -/
def mostRecent (limit : ℕ) (rows : List (Observation F)) : List (Observation F) :=
  (orderBy rowKey rows).rtake limit

section Window

variable {observations : List (Observation F)} {assetId measurementType : String}
  {start finish : Datetime} {limit : ℕ}

omit [PyFloat F] in
/-- The rows are ordered by their keys. -/
theorem observedBefore_eq (a b : Observation F) :
    observedBefore a b = decide (rowKey a ≤ rowKey b) := by
  simp [observedBefore, rowKey, Prod.Lex.toLex_le_toLex]

omit [PyFloat F] in
/-- Rows with the same key have the same id. -/
theorem rowKey_injective_id {a b : Observation F} (h : rowKey a = rowKey b) : a.id = b.id :=
  congrArg (fun key => (ofLex key).2) h

omit [PyFloat F] in
/-- Oldest first, the query returns the front of the window. -/
theorem listByAssetInTimeRange_oldestFirst :
    listByAssetInTimeRange observations assetId start finish measurementType limit false =
      (orderBy rowKey (inWindow observations assetId start finish measurementType)).take limit := by
  rw [listByAssetInTimeRange, orderBy, inWindow]
  simp only [Bool.false_eq_true, if_false, observedBefore_eq]

omit [PyFloat F] in
/-- The rows of a window are in increasing order, because no two have one id. -/
theorem pairwise_rowKey_window (hids : (observations.map Observation.id).Nodup) :
    (orderBy rowKey (inWindow observations assetId start finish measurementType)).Pairwise
      fun a b => rowKey a < rowKey b := by
  apply pairwise_orderBy
  have hwindow := hids.sublist ((List.filter_sublist (p := fun o : Observation F =>
    o.assetId = assetId ∧ start.instant ≤ o.timestamp.instant ∧
      o.timestamp.instant ≤ finish.instant ∧ o.measurementType = measurementType)).map _)
  refine List.pairwise_map.mpr ((List.pairwise_map.mp hwindow).imp ?_)
  exact fun hne heq => hne (rowKey_injective_id heq)

end Window

/-- An alert is judged by the latest observations: the series of every measurement is made of the
most recent rows of the window, and has the newest of them. -/
def JudgesLatest (env : BridgeEnvironment) (delivery : Delivery F J) (faultClass : FaultClass) :
    Prop :=
  ∀ start, delivery.event.sourceTimestamp.sub? env.corroborationWindow = some start →
    ∀ m ∈ faultClass.measurements,
      let rows := inWindow delivery.observations delivery.event.assetId start
        delivery.event.sourceTimestamp m
      (fetchSeries env delivery start m).Perm (mostRecent env.corroborationSampleLimit rows) ∧
        ∀ newest ∈ rows, (∀ o ∈ rows, rowKey o ≤ rowKey newest) →
          newest ∈ fetchSeries env delivery start m

variable {env : BridgeEnvironment} {delivery : Delivery F J} {faultClass : FaultClass}

/-- An alert is judged by the latest observations exactly if the window has no more rows of each
measurement than the limit. -/
theorem judgesLatest_iff (hids : (delivery.observations.map Observation.id).Nodup) :
    JudgesLatest env delivery faultClass ↔
      ∀ start, delivery.event.sourceTimestamp.sub? env.corroborationWindow = some start →
        ∀ m ∈ faultClass.measurements,
          (inWindow delivery.observations delivery.event.assetId start
            delivery.event.sourceTimestamp m).length ≤ env.corroborationSampleLimit := by
  refine forall₄_congr fun start _ m _ => ?_
  have hsorted : (orderBy rowKey (inWindow delivery.observations delivery.event.assetId start
      delivery.event.sourceTimestamp m)).Pairwise fun a b => rowKey a < rowKey b :=
    pairwise_rowKey_window hids
  dsimp only
  -- what is fetched are the first rows of the window, what is asked for are the last ones
  rw [fetchSeries, listByAssetInTimeRange_oldestFirst, mostRecent]
  generalize inWindow delivery.observations delivery.event.assetId start
    delivery.event.sourceTimestamp m = rows at hsorted ⊢
  have hlength : (orderBy rowKey rows).length = rows.length := by
    rw [orderBy, List.length_mergeSort]
  constructor
  · rintro ⟨-, hnewest⟩
    rw [← hlength]
    -- the newest row is among the first ones only if there are no others
    apply length_le_of_getLast_mem_take hsorted
    intro hne
    apply hnewest _ (mem_orderBy.mp (List.getLast_mem hne))
    intro o ho
    exact le_getLast hsorted (mem_orderBy.mpr ho)
  · intro hlimit
    rw [← hlength] at hlimit
    rw [List.take_of_length_le hlimit, List.rtake, Nat.sub_eq_zero_of_le hlimit, List.drop_zero]
    exact ⟨List.Perm.refl _, fun newest hmem _ => mem_orderBy.mpr hmem⟩

/-! ## A trend that is cut off -/

/-- A stack temperature, read every second, that starts to rise after twenty seconds. -/
def risingTemperature : List (Observation ℚ) :=
  (List.range 40).map fun i =>
    ⟨(refusingBridge 0).uuid4 i, "stack-1", .utc (1000000 * i), "stack_temperature",
      if i < 20 then 60 else 60 + ((i : ℤ) - 20), "celsius", (refusingBridge 0).uuid4_ne i,
      stack1_ne_empty, by decide⟩

/-- An alert after the forty seconds. -/
def lateAlert : Delivery ℚ Unit :=
  { delivered (alert "event-1" .confirmed 40) with observations := risingTemperature }

/-- The readings have different ids. -/
theorem nodup_risingTemperature : (risingTemperature.map Observation.id).Nodup := by
  rw [risingTemperature, List.map_map]
  exact List.nodup_range.map (refusingBridge 0).uuid4_injective

/-- An alert of the first twenty seconds is judged by all of them. -/
theorem judgesLatest_flat :
    JudgesLatest (refusingBridge 0) { lateAlert with observations := risingTemperature.take 20 }
      .coolingDegradation := by
  refine (judgesLatest_iff ?_).mpr ?_
  · rw [List.map_take]
    exact nodup_risingTemperature.sublist (List.take_sublist _ _)
  · intro start _ m _
    exact (List.length_filter_le _ _).trans (List.length_take_le _ _)

/-- All of them are in the window. -/
theorem inWindow_risingTemperature :
    inWindow risingTemperature "stack-1" (.utc (-860000000)) (.utc 40000000) "stack_temperature" =
      risingTemperature :=
  List.filter_eq_self.mpr (List.all_eq_true.mp (by decide +kernel))

/-- The first twenty are fetched. -/
theorem fetchSeries_risingTemperature :
    fetchSeries (refusingBridge 0) lateAlert (.utc (-860000000)) "stack_temperature" =
      risingTemperature.take 20 := by
  have hsorted : risingTemperature.Pairwise fun a b => rowKey a < rowKey b := by
    rw [risingTemperature, List.pairwise_map]
    refine (List.pairwise_lt_range (n := 40)).imp ?_
    intro i j hij
    refine Prod.Lex.toLex_lt_toLex.mpr (Or.inl ?_)
    show (1000000 * (i : ℤ)) < 1000000 * j
    omega
  have hordered : orderBy rowKey risingTemperature = risingTemperature :=
    List.mergeSort_of_pairwise (hsorted.imp fun hlt => decide_eq_true hlt.le)
  rw [fetchSeries, listByAssetInTimeRange_oldestFirst]
  refine (congrArg (fun rows => (orderBy rowKey rows).take 20) inWindow_risingTemperature).trans ?_
  rw [hordered]

/-- With the default limit of twenty, the alert is corroborated on the flat part, and what the
latest observations show is left out. -/
theorem not_judgesLatest_risingTemperature :
    ¬ JudgesLatest (refusingBridge 0) lateAlert .coolingDegradation := by
  intro h
  have hnewest := (h (.utc (-860000000)) (by decide +kernel) "stack_temperature" (by decide)).2
    (risingTemperature.get ⟨39, by decide⟩)
  have hwindow : inWindow lateAlert.observations lateAlert.event.assetId (.utc (-860000000))
      lateAlert.event.sourceTimestamp "stack_temperature" = risingTemperature :=
    inWindow_risingTemperature
  rw [hwindow, fetchSeries_risingTemperature] at hnewest
  have hmem := hnewest (List.get_mem _ _) fun o ho => by
    have hlast : risingTemperature.all (fun o =>
        observedBefore o (risingTemperature.get ⟨39, by decide⟩)) = true := by decide +kernel
    have hbefore := List.all_eq_true.mp hlast o ho
    rw [observedBefore_eq] at hbefore
    exact of_decide_eq_true hbefore
  -- the rows that are fetched end at the twentieth second
  have hearly :
      (risingTemperature.take 20).all (fun o => o.timestamp.instant < 20000000) = true := by
    decide +kernel
  have hlate := List.all_eq_true.mp hearly _ hmem
  revert hlate
  decide +kernel

end Odis.ReasoningBridge
