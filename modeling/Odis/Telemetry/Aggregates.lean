import Mathlib.Algebra.BigOperators.Group.List.Basic
import Mathlib.Algebra.Order.Field.Rat
import Mathlib.Data.Prod.Lex
import Mathlib.Data.String.Basic
import Odis.Inference.Telemetry
import Odis.Library.KeyedWindow
import Odis.Library.OrderBy
import Odis.Python.Rationals

/-!
# Telemetry aggregates

The two repositories of aggregates. `InMemoryTelemetryAggregateRepository` selects observations and
groups them into buckets; `SqlAlchemyTelemetryAggregateRepository` selects buckets from views that
group all observations. The first truncates a timestamp in the offset it is written with, the
second in UTC.

* `agree_iff_balanced`: when the two return the same points.
* `agree_iff_uncut`: where offsets shift no bucket, when no bucket is cut by the range.
* `not_agree_cutBucket`: a range that starts between the start of a bucket and its observation.

Values are exact rationals: the rounding of a sum of `float`s is not modelled.
-/

namespace Odis.Telemetry

open Inference KeyedWindow

/-! ## Buckets -/

/-- `TelemetryBucket`. -/
inductive TelemetryBucket where
  | oneHour
  | oneDay
  deriving DecidableEq, Repr

/-- `_BUCKET_WIDTH`, in microseconds. -/
def TelemetryBucket.width : TelemetryBucket → ℤ
  | oneHour => 3600000000
  | oneDay => 86400000000

/-- `_bucket_start`: the wall-clock time is truncated to the hour, or to the day. -/
def bucketStart (bucket : TelemetryBucket) (timestamp : Datetime) : Datetime :=
  { timestamp with
    instant := timestamp.instant - (timestamp.instant + timestamp.utcOffset) % bucket.width }

/-- `time_bucket(width, timestamp)`: the instant is truncated in UTC. -/
def timeBucket (bucket : TelemetryBucket) (timestamp : Datetime) : Datetime :=
  .utc (timestamp.instant - timestamp.instant % bucket.width)

/-- What a point is about: the instant its bucket starts at, and a measurement. -/
abbrev PointKey : Type := ℤ ×ₗ String

/-- `TelemetryAggregatePoint`. -/
structure TelemetryAggregatePoint where
  bucket : Datetime
  measurementType : String
  avgValue : ℚ
  minValue : ℚ
  maxValue : ℚ
  sampleCount : ℕ
  unit : String
  unit_ne : unit ≠ ""
  sampleCount_pos : 1 ≤ sampleCount

/-- The order of `(timestamp, id)`. -/
def recordedKey (observation : Observation ℚ) : ℤ ×ₗ String :=
  toLex (observation.timestamp.instant, observation.id)

/-- `max(observations, key=key)`: the first of the last ones. -/
def latestBy {κ : Type} [LinearOrder κ] (key : Observation ℚ → κ) (first : Observation ℚ)
    (rest : List (Observation ℚ)) : Observation ℚ :=
  rest.foldl (fun best o => if key best < key o then o else best) first

/-- The point of a group, with the unit of one of its observations. -/
def pointOf (bucket : Datetime) (measurementType : String) (unitOf first : Observation ℚ)
    (rest : List (Observation ℚ)) : TelemetryAggregatePoint where
  bucket := bucket
  measurementType := measurementType
  avgValue := PyFloat.ratMean ((first :: rest).map Observation.value)
  minValue := PyFloat.minimum first.value (rest.map Observation.value)
  maxValue := PyFloat.maximum first.value (rest.map Observation.value)
  sampleCount := (first :: rest).length
  unit := unitOf.unit
  unit_ne := unitOf.unit_ne
  sampleCount_pos := Nat.succ_pos _

/-! ## The repositories -/

/-- The arguments of `list_by_asset`. -/
structure Query where
  assetId : String
  bucket : TelemetryBucket
  start : Option Datetime
  finish : Option Datetime
  measurementType : Option String

namespace Query

variable (query : Query)

/-- An instant is in the range of the query. -/
def within (instant : Instant) : Bool :=
  (∀ start ∈ query.start, start.instant ≤ instant) ∧
    ∀ finish ∈ query.finish, instant ≤ finish.instant

/-- The query asks for a measurement. -/
def asks (measurementType : String) : Bool :=
  ∀ asked ∈ query.measurementType, measurementType = asked

end Query

/-- `list_by_asset_in_time_range`, without a limit and the oldest first. -/
def listByAssetInTimeRange (observations : List (Observation ℚ)) (query : Query) :
    List (Observation ℚ) :=
  (observations.filter fun o =>
    o.assetId = query.assetId ∧ query.within o.timestamp.instant ∧
      query.asks o.measurementType).mergeSort fun a b => recordedKey a ≤ recordedKey b

/-- `_aggregate_observations`. The key of a group keeps the datetime that it was first met with. -/
def aggregateObservations (bucket : TelemetryBucket) (observations : List (Observation ℚ)) :
    List TelemetryAggregatePoint :=
  let key (o : Observation ℚ) : PointKey :=
    toLex ((bucketStart bucket o.timestamp).instant, o.measurementType)
  (OrderBy.orderBy Prod.fst (grouped key observations).items).filterMap fun
    | (_, []) => none
    | (_, first :: rest) =>
        some (pointOf (bucketStart bucket first.timestamp) first.measurementType
          (latestBy recordedKey first rest) first rest)

/-- `InMemoryTelemetryAggregateRepository.list_by_asset`. -/
def inMemoryListByAsset (observations : List (Observation ℚ)) (query : Query) :
    List TelemetryAggregatePoint :=
  aggregateObservations query.bucket (listByAssetInTimeRange observations query)

/-- A row of `observations_hourly` or `observations_daily`: its asset, and the other columns. -/
structure ViewRow where
  assetId : String
  point : TelemetryAggregatePoint

/-- The rows of a view, with `last(unit, timestamp)` as their unit. -/
def viewRows (bucket : TelemetryBucket) (observations : List (Observation ℚ)) : List ViewRow :=
  let key (o : Observation ℚ) : Instant × String × String :=
    ((timeBucket bucket o.timestamp).instant, o.assetId, o.measurementType)
  (grouped key observations).items.filterMap fun
    | (_, []) => none
    | (_, first :: rest) =>
        some ⟨first.assetId, pointOf (timeBucket bucket first.timestamp) first.measurementType
          (latestBy (fun o => o.timestamp.instant) first rest) first rest⟩

/-- The instant and the measurement of a point. -/
def TelemetryAggregatePoint.key (point : TelemetryAggregatePoint) : PointKey :=
  toLex (point.bucket.instant, point.measurementType)

/-- `SqlAlchemyTelemetryAggregateRepository.list_by_asset`. -/
def sqlAlchemyListByAsset (observations : List (Observation ℚ)) (query : Query) :
    List TelemetryAggregatePoint :=
  (OrderBy.orderBy (fun row : ViewRow => row.point.key)
    ((viewRows query.bucket observations).filter fun row =>
      row.assetId = query.assetId ∧ query.within row.point.bucket.instant ∧
        query.asks row.point.measurementType)).map ViewRow.point

/-! ## Statistics -/

/-- The statistics of a point. -/
structure Statistics where
  average : ℚ
  minimum : ℚ
  maximum : ℚ
  count : ℕ
  deriving DecidableEq

/-- What is compared of a point: its bucket as an instant, its measurement, its statistics. -/
def TelemetryAggregatePoint.compared (point : TelemetryAggregatePoint) : PointKey × Statistics :=
  (point.key, ⟨point.avgValue, point.minValue, point.maxValue, point.sampleCount⟩)

/-- The two repositories return the same points, in the same order. -/
def Agree (observations : List (Observation ℚ)) (query : Query) : Prop :=
  (inMemoryListByAsset observations query).map TelemetryAggregatePoint.compared =
    (sqlAlchemyListByAsset observations query).map TelemetryAggregatePoint.compared

/-- The statistics describe the values. -/
structure Describes (statistics : Statistics) (values : List ℚ) : Prop where
  average : statistics.average = values.sum / values.length
  minimum : IsLeast {v | v ∈ values} statistics.minimum
  maximum : IsGreatest {v | v ∈ values} statistics.maximum
  count : statistics.count = values.length

/-- The order of the values does not matter. -/
theorem Describes.perm {statistics : Statistics} {values values' : List ℚ}
    (h : Describes statistics values) (hperm : values.Perm values') :
    Describes statistics values' := by
  have hmem : {v | v ∈ values'} = {v | v ∈ values} := Set.ext fun v => hperm.mem_iff.symm
  constructor
  · rw [h.average, hperm.sum_eq, hperm.length_eq]
  · rw [hmem]
    exact h.minimum
  · rw [hmem]
    exact h.maximum
  · rw [h.count, hperm.length_eq]

/-- Values have one description. -/
theorem Describes.unique {statistics statistics' : Statistics} {values : List ℚ}
    (h : Describes statistics values) (h' : Describes statistics' values) :
    statistics = statistics' := by
  obtain ⟨average, minimum, maximum, count⟩ := statistics
  obtain ⟨average', minimum', maximum', count'⟩ := statistics'
  obtain rfl : average = average' := h.average.trans h'.average.symm
  obtain rfl : minimum = minimum' := h.minimum.unique h'.minimum
  obtain rfl : maximum = maximum' := h.maximum.unique h'.maximum
  obtain rfl : count = count' := h.count.trans h'.count.symm
  rfl

/-- The point of a group describes its values. -/
theorem describes_pointOf (bucket : Datetime) (measurementType : String)
    (unitOf first : Observation ℚ) (rest : List (Observation ℚ)) :
    Describes (pointOf bucket measurementType unitOf first rest).compared.2
      ((first :: rest).map Observation.value) where
  average := rfl
  minimum := isLeast_minimum _ _
  maximum := isGreatest_maximum _ _
  count := (List.length_map _).symm

/-! ## What each repository counts -/

namespace Query

variable (query : Query) (key : PointKey) (observation : Observation ℚ)

/-- The observation is counted in a point of the in-memory repository. -/
def countsInMemory : Bool :=
  (observation.assetId = query.assetId ∧ query.within observation.timestamp.instant ∧
      query.asks observation.measurementType) ∧
    toLex ((bucketStart query.bucket observation.timestamp).instant,
      observation.measurementType) = key

/-- The observation is counted in a point of the views that is selected. -/
def countsInView : Bool :=
  (observation.assetId = query.assetId ∧
      query.within (timeBucket query.bucket observation.timestamp).instant ∧
        query.asks observation.measurementType) ∧
    toLex ((timeBucket query.bucket observation.timestamp).instant,
      observation.measurementType) = key

end Query

section Members

variable {observations : List (Observation ℚ)} {query : Query} {key : PointKey}
  {statistics : Statistics}

variable (observations query key) in
/-- The groups of the in-memory repository, but for their order. -/
theorem inMemoryGroup_perm :
    (ofKey (fun o : Observation ℚ => toLex ((bucketStart query.bucket o.timestamp).instant,
        o.measurementType)) key (listByAssetInTimeRange observations query)).Perm
      (observations.filter (query.countsInMemory key)) := by
  refine ((List.mergeSort_perm _ _).filter _).trans ?_
  rw [List.filter_filter]
  refine List.Perm.of_eq (List.filter_congr fun o _ => ?_)
  rw [Bool.eq_iff_iff, Query.countsInMemory, Bool.and_eq_true, decide_eq_true_eq,
    decide_eq_true_eq, decide_eq_true_eq]
  exact and_comm

/-- The entry of a group makes a point with its key. -/
theorem mem_inMemory_iff :
    (key, statistics) ∈
        (inMemoryListByAsset observations query).map TelemetryAggregatePoint.compared ↔
      observations.filter (query.countsInMemory key) ≠ [] ∧
        Describes statistics
          ((observations.filter (query.countsInMemory key)).map Observation.value) := by
  have hperm := inMemoryGroup_perm observations query key
  simp only [inMemoryListByAsset, aggregateObservations, List.mem_map, List.mem_filterMap,
    OrderBy.mem_orderBy]
  constructor
  · rintro ⟨point, ⟨⟨k, group⟩, hitem, hpoint⟩, hcompared⟩
    obtain ⟨hgroup, hne⟩ := mem_items_grouped.mp hitem
    cases group with
    | nil => exact absurd rfl hne
    | cons first rest =>
        obtain rfl := Option.some.inj hpoint
        obtain ⟨rfl, rfl⟩ := Prod.mk.inj hcompared
        have hkey := (mem_ofKey.mp (hgroup ▸ List.mem_cons_self)).2
        have hperm' : (first :: rest).Perm (observations.filter (query.countsInMemory k)) :=
          hgroup ▸ inMemoryGroup_perm observations query _
        -- bucket and measurement of a point are the key of its group
        have hsame : (pointOf (bucketStart query.bucket first.timestamp) first.measurementType
            (latestBy recordedKey first rest) first rest).key = k := hkey
        rw [hsame]
        refine ⟨fun hnil => ?_, (describes_pointOf _ _ _ _ _).perm (hperm'.map _)⟩
        rw [hnil] at hperm'
        exact absurd hperm'.length_eq (by simp)
  · rintro ⟨hne, hdescribes⟩
    cases hgroup : ofKey (fun o : Observation ℚ =>
        toLex ((bucketStart query.bucket o.timestamp).instant, o.measurementType)) key
          (listByAssetInTimeRange observations query) with
    | nil =>
        rw [hgroup] at hperm
        exact absurd (List.nil_perm.mp hperm) hne
    | cons first rest =>
        have hkey := (mem_ofKey.mp (hgroup ▸ List.mem_cons_self)).2
        refine ⟨_, ⟨(key, first :: rest), mem_items_grouped.mpr ⟨hgroup.symm, by simp⟩, rfl⟩, ?_⟩
        rw [hgroup] at hperm
        exact Prod.ext hkey
          (((describes_pointOf _ _ _ _ _).perm (hperm.map _)).unique hdescribes)

/-- The points of the in-memory repository come in the order of their keys. -/
theorem increasing_inMemory :
    ((inMemoryListByAsset observations query).map TelemetryAggregatePoint.compared).Pairwise
      fun a b => a.1 < b.1 := by
  rw [List.pairwise_map, inMemoryListByAsset, aggregateObservations]
  have hitems := OrderBy.pairwise_orderBy
    (grouped (fun o : Observation ℚ => (toLex ((bucketStart query.bucket o.timestamp).instant,
      o.measurementType) : PointKey)) (listByAssetInTimeRange observations query)).nodup
  refine List.Pairwise.filterMap _ ?_ (List.Pairwise.and_mem.mp hitems)
  rintro ⟨k, group⟩ ⟨k', group'⟩ ⟨hmem, hmem', hlt⟩ point hpoint point' hpoint'
  rw [OrderBy.mem_orderBy, mem_items_grouped] at hmem hmem'
  cases group with
  | nil => exact absurd rfl hmem.2
  | cons first rest =>
      cases group' with
      | nil => exact absurd rfl hmem'.2
      | cons first' rest' =>
          obtain rfl := Option.some.inj hpoint
          obtain rfl := Option.some.inj hpoint'
          -- a point is compared by the key of its first observation, which is that of its group
          have hkey := (mem_ofKey.mp (hmem.1 ▸ List.mem_cons_self)).2
          have hkey' := (mem_ofKey.mp (hmem'.1 ▸ List.mem_cons_self)).2
          rw [← hkey, ← hkey'] at hlt
          exact hlt

/-! ### The views -/

/-- A row of a view is that of a group. -/
theorem mem_viewRows_iff {bucket : TelemetryBucket} {row : ViewRow} :
    row ∈ viewRows bucket observations ↔ ∃ k first rest,
      first :: rest = ofKey (fun o : Observation ℚ =>
        ((timeBucket bucket o.timestamp).instant, o.assetId, o.measurementType)) k observations ∧
      row = ⟨first.assetId, pointOf (timeBucket bucket first.timestamp) first.measurementType
        (latestBy (fun o => o.timestamp.instant) first rest) first rest⟩ := by
  simp only [viewRows, List.mem_filterMap]
  constructor
  · rintro ⟨⟨k, group⟩, hitem, hrow⟩
    obtain ⟨hgroup, hne⟩ := mem_items_grouped.mp hitem
    cases group with
    | nil => exact absurd rfl hne
    | cons first rest => exact ⟨k, first, rest, hgroup, (Option.some.inj hrow).symm⟩
  · rintro ⟨k, first, rest, hgroup, rfl⟩
    exact ⟨(k, first :: rest), mem_items_grouped.mpr ⟨hgroup, by simp⟩, rfl⟩

/-- The group of a row of the asset. -/
theorem viewGroup_eq {first : Observation ℚ} (hasset : first.assetId = query.assetId)
    (hrange : query.within (timeBucket query.bucket first.timestamp).instant)
    (hasks : query.asks first.measurementType) :
    ofKey (fun o : Observation ℚ => ((timeBucket query.bucket o.timestamp).instant, o.assetId,
        o.measurementType))
        ((timeBucket query.bucket first.timestamp).instant, first.assetId, first.measurementType)
        observations =
      observations.filter (query.countsInView
        (toLex ((timeBucket query.bucket first.timestamp).instant, first.measurementType))) := by
  refine List.filter_congr fun o _ => ?_
  rw [Bool.eq_iff_iff, Query.countsInView, decide_eq_true_eq, decide_eq_true_eq]
  constructor
  · rintro h
    obtain ⟨hinstant, hrest⟩ := Prod.mk.inj h
    obtain ⟨hassets, hmeasurement⟩ := Prod.mk.inj hrest
    rw [hinstant, hmeasurement]
    exact ⟨⟨hassets.trans hasset, hrange, hasks⟩, rfl⟩
  · rintro ⟨⟨hassets, -⟩, hkey⟩
    obtain ⟨hinstant, hmeasurement⟩ := Prod.mk.inj (toLex.injective hkey)
    exact Prod.ext hinstant (Prod.ext (hassets.trans hasset.symm) hmeasurement)

/-- The points of the views are those of the keys that they count, each with the description of its
values. -/
theorem mem_sqlAlchemy_iff :
    (key, statistics) ∈
        (sqlAlchemyListByAsset observations query).map TelemetryAggregatePoint.compared ↔
      observations.filter (query.countsInView key) ≠ [] ∧
        Describes statistics
          ((observations.filter (query.countsInView key)).map Observation.value) := by
  simp only [sqlAlchemyListByAsset, List.map_map, List.mem_map, OrderBy.mem_orderBy,
    List.mem_filter, mem_viewRows_iff, decide_eq_true_eq, Function.comp_apply]
  constructor
  · rintro ⟨row, ⟨⟨k, first, rest, hgroup, rfl⟩, hasset, hrange, hasks⟩, hcompared⟩
    obtain ⟨rfl, rfl⟩ := Prod.mk.inj hcompared
    have hkey := (mem_ofKey.mp (hgroup ▸ List.mem_cons_self)).2
    rw [← hkey, viewGroup_eq hasset hrange hasks] at hgroup
    have hsame : (pointOf (timeBucket query.bucket first.timestamp) first.measurementType
        (latestBy (fun o => o.timestamp.instant) first rest) first rest).key =
          toLex ((timeBucket query.bucket first.timestamp).instant, first.measurementType) := rfl
    rw [hsame, ← hgroup]
    exact ⟨List.cons_ne_nil _ _, describes_pointOf _ _ _ _ _⟩
  · rintro ⟨hne, hdescribes⟩
    cases hgroup : observations.filter (query.countsInView key) with
    | nil => exact absurd hgroup hne
    | cons first rest =>
        have hfirst : query.countsInView key first = true :=
          (List.mem_filter.mp (hgroup ▸ List.mem_cons_self)).2
        rw [Query.countsInView, decide_eq_true_eq] at hfirst
        obtain ⟨⟨hasset, hrange, hasks⟩, rfl⟩ := hfirst
        -- the group of the view is what is counted for the key
        have hview := (viewGroup_eq hasset hrange hasks).trans hgroup
        refine ⟨_, ⟨⟨_, first, rest, hview.symm, rfl⟩, hasset, hrange, hasks⟩, ?_⟩
        rw [hgroup] at hdescribes
        exact Prod.ext rfl ((describes_pointOf _ _ _ _ _).unique hdescribes)

/-- The points of the views come in the order of their keys. -/
theorem increasing_sqlAlchemy :
    ((sqlAlchemyListByAsset observations query).map TelemetryAggregatePoint.compared).Pairwise
      fun a b => a.1 < b.1 := by
  rw [List.pairwise_map, sqlAlchemyListByAsset, List.pairwise_map]
  refine (OrderBy.pairwise_orderBy ?_).imp id
  -- rows of one asset with the same instant and measurement have the same group
  have hrows : (viewRows query.bucket observations).Pairwise fun row row' =>
      (row.point.bucket.instant, row.assetId, row.point.measurementType) ≠
        (row'.point.bucket.instant, row'.assetId, row'.point.measurementType) := by
    -- the keys of the groups are distinct
    have hnodup := List.pairwise_map.mp (grouped (fun o : Observation ℚ =>
      ((timeBucket query.bucket o.timestamp).instant, o.assetId, o.measurementType))
        observations).nodup
    refine List.Pairwise.filterMap _ ?_ (List.Pairwise.and_mem.mp hnodup)
    rintro ⟨k, group⟩ ⟨k', group'⟩ ⟨hmem, hmem', hne⟩ row hrow row' hrow'
    rw [mem_items_grouped] at hmem hmem'
    cases group with
    | nil => exact absurd rfl hmem.2
    | cons first rest =>
        cases group' with
        | nil => exact absurd rfl hmem'.2
        | cons first' rest' =>
            obtain rfl := Option.some.inj hrow
            obtain rfl := Option.some.inj hrow'
            have hkey := (mem_ofKey.mp (hmem.1 ▸ List.mem_cons_self)).2
            have hkey' := (mem_ofKey.mp (hmem'.1 ▸ List.mem_cons_self)).2
            rw [← hkey, ← hkey'] at hne
            exact hne
  rw [List.Nodup, List.pairwise_map]
  refine (List.Pairwise.and_mem.mp (hrows.filter _)).imp ?_
  rintro row row' ⟨hmem, hmem', hne⟩ hkey
  have hasset := (of_decide_eq_true (List.mem_filter.mp hmem).2).1
  have hasset' := (of_decide_eq_true (List.mem_filter.mp hmem').2).1
  obtain ⟨hinstant, hmeasurement⟩ := Prod.mk.inj (toLex.injective hkey)
  exact hne (by rw [hinstant, hmeasurement, hasset, hasset'])

end Members

/-! ## Agreement -/

/-- Sets in which each value is undercut from the other set have the same least value. -/
theorem isLeast_of_undercut {α : Type} [PartialOrder α] {A B : Set α} {m : α}
    (hA : ∀ x ∈ A, ∃ y ∈ B, y ≤ x) (hB : ∀ y ∈ B, ∃ x ∈ A, x ≤ y) (h : IsLeast A m) :
    IsLeast B m := by
  have hle : ∀ y ∈ B, m ≤ y := by
    intro y hy
    obtain ⟨x, hx, hxy⟩ := hB y hy
    exact (h.2 hx).trans hxy
  obtain ⟨y, hy, hym⟩ := hA m h.1
  obtain rfl : m = y := le_antisymm (hle y hy) hym
  exact ⟨hy, hle⟩

/-- Two ways of counting observations differ in a way that no statistic shows: those that only one
of them counts are as many on both sides and have the same sum, and none of them is beyond the
values that the other way counts. -/
structure Balanced (observations : List (Observation ℚ)) (counted counted' : Observation ℚ → Bool) :
    Prop where
  count : (observations.filter fun o => counted o && !counted' o).length =
    (observations.filter fun o => counted' o && !counted o).length
  sum : ((observations.filter fun o => counted o && !counted' o).map Observation.value).sum =
    ((observations.filter fun o => counted' o && !counted o).map Observation.value).sum
  lower : ∀ o ∈ observations.filter counted, ∃ o' ∈ observations.filter counted',
    o'.value ≤ o.value
  lower' : ∀ o ∈ observations.filter counted', ∃ o' ∈ observations.filter counted,
    o'.value ≤ o.value
  upper : ∀ o ∈ observations.filter counted, ∃ o' ∈ observations.filter counted',
    o.value ≤ o'.value
  upper' : ∀ o ∈ observations.filter counted', ∃ o' ∈ observations.filter counted,
    o.value ≤ o'.value

section Agreement

variable {observations : List (Observation ℚ)} {counted counted' : Observation ℚ → Bool}

variable (observations) in
/-- What is counted is counted by both ways, or by one of them only. -/
theorem split_counted (counted counted' : Observation ℚ → Bool) :
    (observations.filter counted).Perm
      ((observations.filter fun o => counted o && counted' o) ++
        observations.filter fun o => counted o && !counted' o) := by
  have hsplit := (List.filter_append_perm counted' (observations.filter counted)).symm
  rw [List.filter_filter, List.filter_filter] at hsplit
  simpa only [Bool.and_comm] using hsplit

/-- Counted the same way, observations balance. -/
theorem Balanced.of_eq (h : ∀ o ∈ observations, counted o = counted' o) :
    Balanced observations counted counted' := by
  have hfilter : observations.filter counted = observations.filter counted' :=
    List.filter_congr h
  have hnone : ∀ o ∈ observations, (counted o && !counted' o) = (counted' o && !counted o) := by
    intro o ho
    rw [h o ho]
  have honly := List.filter_congr hnone
  refine ⟨by rw [honly], by rw [honly], ?_, ?_, ?_, ?_⟩
  all_goals
    rw [hfilter]
    exact fun o ho => ⟨o, ho, le_rfl⟩

/-- Balancing goes both ways. -/
theorem Balanced.symm (h : Balanced observations counted counted') :
    Balanced observations counted' counted :=
  ⟨h.count.symm, h.sum.symm, h.lower', h.lower, h.upper', h.upper⟩

/-- The values of balanced countings have the same descriptions. -/
theorem Balanced.describes {statistics : Statistics} (h : Balanced observations counted counted')
    (hdescribes : Describes statistics ((observations.filter counted).map Observation.value)) :
    Describes statistics ((observations.filter counted').map Observation.value) := by
  have hboth : (observations.filter fun o => counted o && counted' o) =
      observations.filter fun o => counted' o && counted o :=
    List.filter_congr fun o _ => Bool.and_comm _ _
  have hsplit := (split_counted observations counted counted').map
    Observation.value
  have hsplit' := (split_counted observations counted' counted).map
    Observation.value
  rw [List.map_append] at hsplit hsplit'
  -- what both count is the same, and what only one counts balances
  have hlength : ((observations.filter counted').map Observation.value).length =
      ((observations.filter counted).map Observation.value).length := by
    rw [hsplit.length_eq, hsplit'.length_eq, hboth, List.length_append, List.length_append,
      List.length_map, List.length_map, List.length_map, h.count]
  have hsum : ((observations.filter counted').map Observation.value).sum =
      ((observations.filter counted).map Observation.value).sum := by
    rw [hsplit.sum_eq, hsplit'.sum_eq, hboth, List.sum_append, List.sum_append, h.sum]
  constructor
  · rw [hdescribes.average, hsum, hlength]
  · refine isLeast_of_undercut ?_ ?_ hdescribes.minimum
    · rintro v hv
      obtain ⟨o, ho, rfl⟩ := List.mem_map.mp hv
      obtain ⟨o', ho', hle⟩ := h.lower o ho
      exact ⟨_, List.mem_map_of_mem ho', hle⟩
    · rintro v hv
      obtain ⟨o, ho, rfl⟩ := List.mem_map.mp hv
      obtain ⟨o', ho', hle⟩ := h.lower' o ho
      exact ⟨_, List.mem_map_of_mem ho', hle⟩
  · refine isLeast_of_undercut (α := ℚᵒᵈ) ?_ ?_ hdescribes.maximum
    · rintro v hv
      obtain ⟨o, ho, rfl⟩ := List.mem_map.mp hv
      obtain ⟨o', ho', hle⟩ := h.upper o ho
      exact ⟨_, List.mem_map_of_mem ho', hle⟩
    · rintro v hv
      obtain ⟨o, ho, rfl⟩ := List.mem_map.mp hv
      obtain ⟨o', ho', hle⟩ := h.upper' o ho
      exact ⟨_, List.mem_map_of_mem ho', hle⟩
  · rw [hdescribes.count, hlength]

/-- Values that are there have a description. -/
theorem exists_describes {values : List ℚ} (h : values ≠ []) :
    ∃ statistics, Describes statistics values := by
  cases values with
  | nil => exact absurd rfl h
  | cons x xs =>
      exact ⟨⟨_, PyFloat.minimum x xs, PyFloat.maximum x xs, _⟩, rfl, isLeast_minimum x xs,
        isGreatest_maximum x xs, rfl⟩

/-- The least value that one way counts is counted by the other, or undercut. -/
theorem exists_value_le {statistics : Statistics}
    (h : Describes statistics ((observations.filter counted).map Observation.value))
    (h' : Describes statistics ((observations.filter counted').map Observation.value)) :
    ∀ o ∈ observations.filter counted, ∃ o' ∈ observations.filter counted',
      o'.value ≤ o.value := by
  intro o ho
  obtain ⟨o', ho', hvalue⟩ := List.mem_map.mp h'.minimum.1
  exact ⟨o', ho', hvalue.le.trans (h.minimum.2 (List.mem_map_of_mem ho))⟩

/-- Under a common description every value that one counts is reached by one that the other counts.
-/
theorem exists_le_value {statistics : Statistics}
    (h : Describes statistics ((observations.filter counted).map Observation.value))
    (h' : Describes statistics ((observations.filter counted').map Observation.value)) :
    ∀ o ∈ observations.filter counted, ∃ o' ∈ observations.filter counted',
      o.value ≤ o'.value := by
  intro o ho
  obtain ⟨o', ho', hvalue⟩ := List.mem_map.mp h'.maximum.1
  exact ⟨o', ho', (h.maximum.2 (List.mem_map_of_mem ho)).trans hvalue.ge⟩

/-- Countings whose values have a description in common balance. -/
theorem balanced_of_describes {statistics : Statistics}
    (h : Describes statistics ((observations.filter counted).map Observation.value))
    (h' : Describes statistics ((observations.filter counted').map Observation.value)) :
    Balanced observations counted counted' := by
  have hboth : (observations.filter fun o => counted o && counted' o) =
      observations.filter fun o => counted' o && counted o :=
    List.filter_congr fun o _ => Bool.and_comm _ _
  have hlength : (observations.filter counted).length = (observations.filter counted').length := by
    have hcount := h.count.symm.trans h'.count
    rwa [List.length_map, List.length_map] at hcount
  -- the averages agree, and so do the counts, so the sums do
  have hsum : ((observations.filter counted).map Observation.value).sum =
      ((observations.filter counted').map Observation.value).sum := by
    have haverage := h.average.symm.trans h'.average
    rw [List.length_map, List.length_map, hlength] at haverage
    have hpos : 0 < (observations.filter counted').length := by
      obtain ⟨o, ho, -⟩ := List.mem_map.mp h'.minimum.1
      exact List.length_pos_of_mem ho
    have hne : ((observations.filter counted').length : ℚ) ≠ 0 := by
      exact_mod_cast hpos.ne'
    exact (div_left_inj' hne).mp haverage
  have hsplit := split_counted observations counted counted'
  have hsplit' := split_counted observations counted' counted
  rw [hboth] at hsplit
  refine ⟨?_, ?_, exists_value_le h h', exists_value_le h' h, exists_le_value h h',
    exists_le_value h' h⟩
  · rw [hsplit.length_eq, hsplit'.length_eq, List.length_append, List.length_append] at hlength
    exact Nat.add_left_cancel hlength
  · rw [(hsplit.map _).sum_eq, (hsplit'.map _).sum_eq, List.map_append, List.map_append,
      List.sum_append, List.sum_append] at hsum
    exact add_left_cancel hsum

/-- Two ways of counting show the same points exactly if they balance. -/
theorem describes_iff_balanced :
    (∀ statistics,
        (observations.filter counted ≠ [] ∧
            Describes statistics ((observations.filter counted).map Observation.value)) ↔
          (observations.filter counted' ≠ [] ∧
            Describes statistics ((observations.filter counted').map Observation.value))) ↔
      Balanced observations counted counted' := by
  have hne : ∀ {l : List (Observation ℚ)}, l ≠ [] → l.map Observation.value ≠ [] :=
    fun h hmap => h (List.map_eq_nil_iff.mp hmap)
  constructor
  · intro h
    by_cases hnil : observations.filter counted = []
    · -- no point on either side
      have hnil' : observations.filter counted' = [] := by
        by_contra hsome
        obtain ⟨statistics, hdescribes⟩ := exists_describes (hne hsome)
        exact ((h statistics).mpr ⟨hsome, hdescribes⟩).1 hnil
      refine Balanced.of_eq fun o ho => ?_
      rw [Bool.eq_false_iff.mpr (List.filter_eq_nil_iff.mp hnil o ho),
        Bool.eq_false_iff.mpr (List.filter_eq_nil_iff.mp hnil' o ho)]
    -- the description of one side is that of the other
    · obtain ⟨statistics, hdescribes⟩ := exists_describes (hne hnil)
      exact balanced_of_describes hdescribes ((h statistics).mp ⟨hnil, hdescribes⟩).2
  · have hforward : ∀ {c c' : Observation ℚ → Bool}, Balanced observations c c' →
        ∀ statistics, observations.filter c ≠ [] ∧
          Describes statistics ((observations.filter c).map Observation.value) →
        observations.filter c' ≠ [] ∧
          Describes statistics ((observations.filter c').map Observation.value) := by
      rintro c c' h statistics ⟨hsome, hdescribes⟩
      obtain ⟨o, ho⟩ := List.exists_mem_of_ne_nil _ hsome
      obtain ⟨o', ho', -⟩ := h.lower o ho
      exact ⟨List.ne_nil_of_mem ho', h.describes hdescribes⟩
    exact fun h statistics => ⟨hforward h statistics, hforward h.symm statistics⟩

end Agreement

section Queries

variable (observations : List (Observation ℚ)) (query : Query)

/-- The two repositories are compared point by point. -/
theorem agree_iff_described :
    Agree observations query ↔ ∀ key statistics,
      (observations.filter (query.countsInMemory key) ≠ [] ∧
          Describes statistics
            ((observations.filter (query.countsInMemory key)).map Observation.value)) ↔
        (observations.filter (query.countsInView key) ≠ [] ∧
          Describes statistics
            ((observations.filter (query.countsInView key)).map Observation.value)) := by
  rw [Agree, OrderBy.eq_iff_of_increasing increasing_inMemory
    increasing_sqlAlchemy, Prod.forall]
  refine forall_congr' fun key => forall_congr' fun statistics => ?_
  rw [mem_inMemory_iff, mem_sqlAlchemy_iff]

/-- The two repositories return the same points exactly if, for every bucket and measurement, what
only one of them counts balances out. -/
theorem agree_iff_balanced :
    Agree observations query ↔ ∀ key,
      Balanced observations (query.countsInMemory key) (query.countsInView key) := by
  rw [agree_iff_described]
  exact forall_congr' fun key => describes_iff_balanced

variable {observations query}

/-- Where the offset of no timestamp shifts its bucket, the two return the same points exactly if
the range cuts no bucket with an observation of the asset and the measurement. -/
theorem agree_iff_uncut
    (haligned : ∀ o ∈ observations, o.timestamp.utcOffset % query.bucket.width = 0) :
    Agree observations query ↔ ∀ o ∈ observations, o.assetId = query.assetId →
      query.asks o.measurementType →
        (query.within o.timestamp.instant ↔
          query.within (timeBucket query.bucket o.timestamp).instant) := by
  -- both use the same buckets, since the offsets are whole buckets
  have hbucket : ∀ o ∈ observations, (bucketStart query.bucket o.timestamp).instant =
      (timeBucket query.bucket o.timestamp).instant := by
    intro o ho
    rw [bucketStart, timeBucket, Datetime.utc, Int.add_emod, haligned o ho, Int.add_zero,
      Int.emod_emod_of_dvd _ (dvd_refl _)]
  rw [agree_iff_described]
  simp only [describes_iff_balanced]
  constructor
  · intro h o ho hasset hasks
    have hkey := h (toLex ((timeBucket query.bucket o.timestamp).instant, o.measurementType))
    constructor
    · intro hin
      have hcounted : o ∈ observations.filter (query.countsInMemory
          (toLex ((timeBucket query.bucket o.timestamp).instant, o.measurementType))) := by
        rw [List.mem_filter, Query.countsInMemory, decide_eq_true_eq, hbucket o ho]
        exact ⟨ho, ⟨hasset, hin, hasks⟩, rfl⟩
      -- a point of its key is selected from the views
      obtain ⟨o', ho', -⟩ := hkey.lower o hcounted
      rw [List.mem_filter, Query.countsInView, decide_eq_true_eq] at ho'
      obtain ⟨-, ⟨-, hin', -⟩, hkey'⟩ := ho'
      rwa [(Prod.mk.inj (toLex.injective hkey')).1] at hin'
    · intro hin
      by_contra hout
      -- what the in-memory repository counts for the key is counted by the view, and not conversely
      have hnone : (observations.filter fun o' =>
          query.countsInMemory
              (toLex ((timeBucket query.bucket o.timestamp).instant, o.measurementType)) o' &&
            !query.countsInView
              (toLex ((timeBucket query.bucket o.timestamp).instant, o.measurementType)) o') =
          [] := by
        rw [List.filter_eq_nil_iff]
        intro o' ho' hboth
        rw [Bool.and_eq_true, Bool.not_eq_true', Query.countsInMemory, Query.countsInView,
          decide_eq_true_eq, decide_eq_false_iff_not, hbucket o' ho'] at hboth
        obtain ⟨⟨⟨hasset', -, hasks'⟩, hkey'⟩, hnot⟩ := hboth
        refine hnot ⟨⟨hasset', ?_, hasks'⟩, hkey'⟩
        rwa [(Prod.mk.inj (toLex.injective hkey')).1]
      have hcount := hkey.count
      rw [hnone, List.length_nil, eq_comm, List.length_eq_zero_iff,
        List.filter_eq_nil_iff] at hcount
      refine hcount o ho ?_
      rw [Bool.and_eq_true, Bool.not_eq_true', Query.countsInMemory, Query.countsInView,
        decide_eq_true_eq, decide_eq_false_iff_not]
      exact ⟨⟨⟨hasset, hin, hasks⟩, rfl⟩, fun hmemory => hout hmemory.1.2.1⟩
  · intro h key
    -- conversely, both count the same observations
    refine Balanced.of_eq fun o ho => ?_
    rw [Bool.eq_iff_iff, Query.countsInMemory, Query.countsInView, decide_eq_true_eq,
      decide_eq_true_eq, hbucket o ho]
    refine and_congr_left fun _ => and_congr_right fun hasset => and_congr_left fun hasks => ?_
    exact h o ho hasset hasks

end Queries

/-! ## The difference -/

section Difference

theorem obs1_ne_empty : ("obs-1" : String) ≠ "" := by decide

theorem volt_ne_empty : ("V" : String) ≠ "" := by decide

/-- An observation of half past ten. -/
def halfPastTen : Observation ℚ where
  id := "obs-1"
  assetId := "stack-1"
  timestamp := .utc 37800000000
  measurementType := "voltage"
  value := 1
  unit := "V"
  id_ne := obs1_ne_empty
  assetId_ne := stack1_ne_empty
  unit_ne := volt_ne_empty

/-- The hourly points of an asset from a quarter past ten on. -/
def fromQuarterPastTen : Query where
  assetId := "stack-1"
  bucket := .oneHour
  start := some (.utc 36900000000)
  finish := none
  measurementType := none

/-- The in-memory repository returns a point, and the other one none: its bucket starts at ten. -/
theorem not_agree_cutBucket : ¬ ∀ observations query, Agree observations query := by
  intro h
  have hagree := h [halfPastTen] fromQuarterPastTen
  rw [agree_iff_uncut (by decide)] at hagree
  have hcut := (hagree halfPastTen List.mem_cons_self rfl (by decide)).mp (by decide)
  exact absurd hcut (by decide)

end Difference

end Odis.Telemetry
