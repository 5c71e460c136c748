import Odis.Twin.Codec

/-!
# Twins and their cache

`DigitalTwinService` (`application/digital_twin_service.py`) assembles the twin of an asset from
what the monitoring service reads, and keeps it in a cache: a dict (`memory_digital_twin_cache.py`)
or Redis (`redis_digital_twin_cache.py`). A Redis that does not fail and keys that do not expire are
taken for granted.

* `transparent_iff`: which twins the cache in Redis returns as they were set.
-/

namespace Odis.Twin

open Exceptions Investigation Json Operations

variable {F State : Type}

/-! ## Assembly -/

/-- `Asset`. -/
structure Asset where
  id : String
  name : String
  type : String
  location : Location
  id_ne : id ≠ ""
  name_ne : name ≠ ""
  type_ne : type ≠ ""

/-- What `MonitoringService` reads of an asset, or of a recommendation. -/
structure MonitoringService (F : Type) where
  assetExists : String → Bool
  latestRunId : String → Option { runId : String // runId ≠ "" }
  operationalState : String → Option OperationalState
  recommendation : String → Option Recommendation
  latestNotification : String → Except PyException (Option Notification)
  latestInvestigationTransition :
    String → Option { event : InvestigationEvent // event.occurredAt.InRange }
  timeline : String → Option (List (TimelineEvent F))

/-- `ForecastInferenceService`. -/
structure ForecastInferenceService (F : Type) where
  assetExists : String → Bool
  getForecasts : String → Except PyException (List (TelemetryForecast F))

/-- `DigitalTwinService`, but for its cache. -/
structure DigitalTwinService (F : Type) where
  monitoring : MonitoringService F
  forecastInference : Option (ForecastInferenceService F)
  assetCatalog : String → Option Asset
  timelinePreviewLimit : ℤ
  /-- The catalog has its assets under their ids. -/
  assetCatalog_id : ∀ assetId asset, assetCatalog assetId = some asset → asset.id = assetId

/-- The exceptions of `get_for_asset`. -/
inductive TwinError where
  | assetNotFound (assetId : String)
  | noReasoningHistory (assetId : String)
  | raised (exception : PyException)
  deriving DecidableEq, Repr

/-- The characters that `str.strip` takes away. -/
def isSpace (c : Char) : Bool :=
  let n := c.toNat
  (9 ≤ n ∧ n ≤ 13) ∨ (28 ≤ n ∧ n ≤ 32) ∨ n = 133 ∨ n = 160 ∨ n = 5760 ∨ (8192 ≤ n ∧ n ≤ 8202) ∨
    n = 8232 ∨ n = 8233 ∨ n = 8239 ∨ n = 8287 ∨ n = 12288

/-- `s.strip()`. -/
def strip (s : String) : String :=
  String.ofList (((s.toList.dropWhile isSpace).reverse.dropWhile isSpace).reverse)

/-- `asset_id.replace("-", " ").strip()`. -/
def derivedName (assetId : String) : String :=
  strip (String.ofList (assetId.toList.map fun c => if c = '-' then ' ' else c))

/-- `_derive_unknown_asset`. -/
def deriveUnknownAsset (assetId : String) : Except TwinError Asset :=
  if hid : assetId = "" then .error (.raised .valueError)
  else if hname : derivedName assetId = "" then
    .ok ⟨assetId, assetId, "unknown", ⟨"unknown", by decide⟩, hid, hid, by decide⟩
  else .ok ⟨assetId, derivedName assetId, "unknown", ⟨"unknown", by decide⟩, hid, hname, by decide⟩

namespace DigitalTwinService

variable (service : DigitalTwinService F)

/-- `_preview_timeline`. -/
def previewTimeline (timeline : List (TimelineEvent F)) : List (TimelineEvent F) :=
  if service.timelinePreviewLimit ≤ 0 then []
  else timeline.drop (timeline.length - service.timelinePreviewLimit.toNat)

/-- `_load_telemetry_forecasts`. -/
def loadTelemetryForecasts (assetId : String) : Except TwinError (List (TelemetryForecast F)) :=
  match service.forecastInference with
  | none => .ok []
  | some forecastInference =>
      if forecastInference.assetExists assetId then
        match forecastInference.getForecasts assetId with
        | .ok forecasts => .ok forecasts
        | .error .valueError => .ok []
        | .error exception => .error (.raised exception)
      else .ok []

/-- The asset in the catalog, or one derived from its id. -/
def assetOf (assetId : String) : Except TwinError Asset :=
  match service.assetCatalog assetId with
  | some asset => .ok asset
  | none => deriveUnknownAsset assetId

/-- `_assemble`. -/
def assemble (assetId : String) : Except TwinError (DigitalTwin F) :=
  if !service.monitoring.assetExists assetId then .error (.assetNotFound assetId)
  else
    match service.monitoring.latestRunId assetId with
    | none => .error (.noReasoningHistory assetId)
    | some runId =>
        match service.monitoring.operationalState assetId,
          service.monitoring.recommendation assetId with
        | some operationalState, some recommendation => do
            let notification ←
              (service.monitoring.latestNotification assetId).mapError TwinError.raised
            let investigation :=
              service.monitoring.latestInvestigationTransition recommendation.id
            let timeline := (service.monitoring.timeline assetId).getD []
            let asset ← service.assetOf assetId
            let telemetryForecasts ← service.loadTelemetryForecasts assetId
            return {
              assetId := asset.id
              assetName := asset.name
              assetType := asset.type
              location := asset.location
              operationalState := operationalState
              recommendation := recommendation
              notification := notification
              investigation := investigation
              latestReasoningRunId := runId.val
              timelinePreview := service.previewTimeline timeline
              telemetryForecasts := telemetryForecasts
              lastUpdated := operationalState.lastUpdated
              assetId_ne := asset.id_ne
              assetName_ne := asset.name_ne
              assetType_ne := asset.type_ne
              latestReasoningRunId_ne := runId.property }
        | _, _ => .error (.noReasoningHistory assetId)

end DigitalTwinService

/-! ## Caches -/

section Caches

/-- A cache of twins: its content, and its operations. -/
structure TwinCache (F State : Type) where
  empty : State
  get : State → String → State × Option (DigitalTwin F)
  set : State → DigitalTwin F → State
  invalidate : State → String → State

/-- `MemoryDigitalTwinCache`. -/
def memoryCache (F : Type) : TwinCache F (String → Option (DigitalTwin F)) where
  empty _ := none
  get store assetId := (store, store assetId)
  set store twin := Function.update store twin.assetId (some twin)
  invalidate store assetId := Function.update store assetId none

/-- A value that the class has stored in Redis. -/
structure StoredTwin (F : Type) where
  raw : Json F
  written : ∃ twin, serialize twin = raw

/-- `_key`. -/
def cacheKey (assetId : String) : String := "digital_twin:" ++ assetId

/-- `RedisDigitalTwinCache`. -/
def redisCache (F : Type) : TwinCache F (String → Option (StoredTwin F)) where
  empty _ := none
  get store assetId :=
    match store (cacheKey assetId) with
    | none => (store, none)
    | some raw =>
        match deserialize raw.raw with
        | .ok twin => (store, some twin)
        -- `_delete_stale_key`
        | .error _ => (Function.update store (cacheKey assetId) none, none)
  set store twin := Function.update store (cacheKey twin.assetId) (some ⟨serialize twin, twin, rfl⟩)
  invalidate store assetId := Function.update store (cacheKey assetId) none

/-- `get_for_asset`. -/
def getForAsset (cache : TwinCache F State) (service : DigitalTwinService F) (state : State)
    (assetId : String) : State × Except TwinError (DigitalTwin F) :=
  match cache.get state assetId with
  | (state, some cached) => (state, .ok cached)
  | (state, none) =>
      match service.assemble assetId with
      | .error error => (state, .error error)
      | .ok twin => (cache.set state twin, .ok twin)

/-- A call of a cache. -/
inductive CacheCall (F : Type) where
  | get (assetId : String)
  | set (twin : DigitalTwin F)
  | invalidate (assetId : String)

/-- A call, and the twin that it returns. -/
def TwinCache.call (cache : TwinCache F State) (state : State) :
    CacheCall F → State × Option (DigitalTwin F)
  | .get assetId => cache.get state assetId
  | .set twin => (cache.set state twin, none)
  | .invalidate assetId => (cache.invalidate state assetId, none)

/-- What the calls of a sequence return. -/
def TwinCache.returned (cache : TwinCache F State) (state : State) :
    List (CacheCall F) → List (Option (DigitalTwin F))
  | [] => []
  | call :: calls => (cache.call state call).2 :: cache.returned (cache.call state call).1 calls

/-- The first call returns from the state that it finds, the others from the one that it leaves. -/
theorem TwinCache.returned_cons (cache : TwinCache F State) (state : State) (call : CacheCall F)
    (calls : List (CacheCall F)) : cache.returned state (call :: calls) =
      (cache.call state call).2 :: cache.returned (cache.call state call).1 calls :=
  rfl

end Caches

/-! ## Transparency -/

section Transparency

variable {twins : Set (DigitalTwin F)} {service : DigitalTwinService F}

/-- No two assets share a key. -/
theorem cacheKey_injective : Function.Injective cacheKey := by
  intro a b h
  have hlist := congrArg String.toList h
  rw [cacheKey, cacheKey, String.toList_append, String.toList_append] at hlist
  exact String.toList_inj.mp (List.append_cancel_left hlist)

/-- The cache is transparent for some twins: each of them comes back from its payload, sequences of
calls that set such twins return the same from Redis as from a dict, and a service that assembles
such twins returns from the cache what it returned when it filled it. -/
structure Transparent (twins : Set (DigitalTwin F)) : Prop where
  roundTrip : ∀ twin ∈ twins, deserialize (serialize twin) = .ok twin
  sameTwins : ∀ calls : List (CacheCall F), (∀ twin, .set twin ∈ calls → twin ∈ twins) →
    (redisCache F).returned (redisCache F).empty calls =
      (memoryCache F).returned (memoryCache F).empty calls
  hit : ∀ service : DigitalTwinService F,
    (∀ assetId twin, service.assemble assetId = .ok twin → twin ∈ twins) →
      ∀ state assetId twin, (getForAsset (redisCache F) service state assetId).2 = .ok twin →
        (getForAsset (redisCache F) service
          (getForAsset (redisCache F) service state assetId).1 assetId).2 = .ok twin

/-- The content of the dict, serialized. -/
def Serializes (memory : String → Option (DigitalTwin F))
    (redis : String → Option (StoredTwin F)) : Prop :=
  ∀ assetId, redis (cacheKey assetId) =
    (memory assetId).map fun twin => ⟨serialize twin, twin, rfl⟩

/-- Both caches still hold the same twins after one is put in, or taken out. -/
theorem Serializes.update {memory : String → Option (DigitalTwin F)}
    {redis : String → Option (StoredTwin F)} (h : Serializes memory redis) (assetId : String)
    (twin : Option (DigitalTwin F)) :
    Serializes (Function.update memory assetId twin)
      (Function.update redis (cacheKey assetId)
        (twin.map fun twin => ⟨serialize twin, twin, rfl⟩)) := by
  intro other
  by_cases hother : other = assetId
  · subst hother
    rw [Function.update_self, Function.update_self]
  · rw [Function.update_of_ne hother,
      Function.update_of_ne fun hkey => hother (cacheKey_injective hkey)]
    exact h other

/-- A cache of twins without forecasts returns the same from Redis as from a dict. -/
theorem returned_eq {memory : String → Option (DigitalTwin F)}
    {redis : String → Option (StoredTwin F)} (h : Serializes memory redis)
    (hmemory : ∀ assetId twin, memory assetId = some twin → twin.telemetryForecasts = [])
    {calls : List (CacheCall F)}
    (hcalls : ∀ twin, .set twin ∈ calls → twin.telemetryForecasts = []) :
    (redisCache F).returned redis calls = (memoryCache F).returned memory calls := by
  induction calls generalizing memory redis with
  | nil => rfl
  | cons call calls ih =>
      have hrest : ∀ twin, .set twin ∈ calls → twin.telemetryForecasts = [] :=
        fun twin hmem => hcalls twin (List.mem_cons_of_mem _ hmem)
      cases call with
      | get assetId =>
          -- a twin without forecasts comes back from its text as it was
          have hget : (redisCache F).get redis assetId = (redis, memory assetId) := by
            have hkey := h assetId
            unfold redisCache
            dsimp only
            rw [hkey]
            cases hstored : memory assetId with
            | none => rfl
            | some twin =>
                have hback := (roundTrip_iff twin).mpr (hmemory assetId twin hstored)
                rw [Option.map_some]
                dsimp only
                rw [hback]
          have hcall : (redisCache F).call redis (.get assetId) = (redis, memory assetId) := hget
          rw [TwinCache.returned_cons, TwinCache.returned_cons, hcall]
          exact congrArg _ (ih h hmemory hrest)
      | set twin =>
          -- what is held afterwards is the new twin or one that was held before
          refine congrArg _ (ih (h.update twin.assetId (some twin)) ?_ hrest)
          intro assetId other hother
          by_cases hid : assetId = twin.assetId
          · subst hid
            rw [Function.update_self] at hother
            rw [← Option.some.inj hother]
            exact hcalls twin List.mem_cons_self
          · rw [Function.update_of_ne hid] at hother
            exact hmemory assetId other hother
      | invalidate assetId =>
          -- what is held afterwards was held before
          refine congrArg _ (ih (h.update assetId none) ?_ hrest)
          intro other twin hother
          by_cases hid : other = assetId
          · subst hid
            rw [Function.update_self] at hother
            cases hother
          · rw [Function.update_of_ne hid] at hother
            exact hmemory other twin hother

/-- The asset of a twin is the one that it was assembled for. -/
theorem assetId_of_assemble {assetId : String} {twin : DigitalTwin F}
    (h : service.assemble assetId = .ok twin) : twin.assetId = assetId := by
  unfold DigitalTwinService.assemble at h
  split_ifs at h
  split at h
  · cases h
  · split at h
    · obtain ⟨notification, -, h⟩ := bind_eq_ok.mp h
      obtain ⟨asset, hasset, h⟩ := bind_eq_ok.mp h
      obtain ⟨forecasts, -, h⟩ := bind_eq_ok.mp h
      rw [← Except.ok.inj h]
      show asset.id = assetId
      unfold DigitalTwinService.assetOf at hasset
      -- the asset is the one of the catalogue or derived from the id
      cases hcatalog : service.assetCatalog assetId with
      | some found =>
          rw [hcatalog] at hasset
          rw [← Except.ok.inj hasset]
          exact service.assetCatalog_id assetId found hcatalog
      | none =>
          rw [hcatalog] at hasset
          unfold deriveUnknownAsset at hasset
          dsimp only at hasset
          split_ifs at hasset <;> rw [← Except.ok.inj hasset]
    · cases h

/-- What is stored can be read. -/
theorem deserialize_stored (raw : StoredTwin F) :
    ∃ twin, deserialize raw.raw = .ok twin := by
  obtain ⟨raw, twin, rfl⟩ := raw
  exact ⟨_, deserialize_serialize twin⟩

/-- A twin without forecasts is returned from the cache that it was put in. -/
theorem getForAsset_hit (hassemble : ∀ assetId twin, service.assemble assetId = .ok twin →
      twin.telemetryForecasts = [])
    {state : String → Option (StoredTwin F)} {assetId : String} {twin : DigitalTwin F}
    (h : (getForAsset (redisCache F) service state assetId).2 = .ok twin) :
    (getForAsset (redisCache F) service
      (getForAsset (redisCache F) service state assetId).1 assetId).2 = .ok twin := by
  -- a stored twin that can be read is returned, and the cache left as it is
  have hhit (state : String → Option (StoredTwin F)) (raw : StoredTwin F) (cached : DigitalTwin F)
      (hstored : state (cacheKey assetId) = some raw) (hread : deserialize raw.raw = .ok cached) :
      getForAsset (redisCache F) service state assetId = (state, .ok cached) := by
    have hget : (redisCache F).get state assetId = (state, some cached) := by
      unfold redisCache
      dsimp only
      rw [hstored]
      dsimp only
      rw [hread]
    unfold getForAsset
    rw [hget]
  cases hstored : state (cacheKey assetId) with
  | some raw =>
      obtain ⟨cached, hread⟩ := deserialize_stored raw
      rw [hhit state raw cached hstored hread] at h ⊢
      rw [hhit state raw cached hstored hread]
      exact h
  | none =>
      have hget : (redisCache F).get state assetId = (state, none) := by
        unfold redisCache
        dsimp only
        rw [hstored]
      cases hassembled : service.assemble assetId with
      | error error =>
          -- nothing is set when the assembly fails
          have hfailed :
              getForAsset (redisCache F) service state assetId = (state, .error error) := by
            unfold getForAsset
            rw [hget]
            dsimp only
            rw [hassembled]
          rw [hfailed] at h
          cases h
      | ok assembled =>
          -- after a miss the assembled twin is set under the key of its asset
          have hfilled : getForAsset (redisCache F) service state assetId =
              ((redisCache F).set state assembled, .ok assembled) := by
            unfold getForAsset
            rw [hget]
            dsimp only
            rw [hassembled]
          rw [hfilled] at h ⊢
          obtain rfl := Except.ok.inj h
          have hid := assetId_of_assemble hassembled
          have hset : (redisCache F).set state assembled (cacheKey assetId) =
              some ⟨serialize assembled, assembled, rfl⟩ := by
            rw [← hid]
            exact Function.update_self _ _ _
          rw [hhit _ _ assembled hset ((roundTrip_iff assembled).mpr
            (hassemble assetId assembled hassembled))]

/-- The cache is transparent for twins exactly if they have no forecasts. -/
theorem transparent_iff (twins : Set (DigitalTwin F)) :
    Transparent twins ↔ ∀ twin ∈ twins, twin.telemetryForecasts = [] := by
  constructor
  · intro h twin hmem
    exact (roundTrip_iff twin).mp (h.roundTrip twin hmem)
  · intro h
    refine ⟨fun twin hmem => (roundTrip_iff twin).mpr (h twin hmem), ?_, ?_⟩
    · intro calls hcalls
      have hempty : Serializes (memoryCache F).empty (redisCache F).empty := fun _ => rfl
      exact returned_eq hempty (fun _ _ hnone => by cases hnone)
        fun twin hmem => h twin (hcalls twin hmem)
    · intro service hservice state assetId twin hreturned
      exact getForAsset_hit (fun assetId twin hassembled =>
        h twin (hservice assetId twin hassembled)) hreturned

end Transparency

section PumpService

/-- An instant. -/
def firstMinute : Timestamp := ⟨.utc 60000000, by decide⟩

/-- A service that has read a run of a pump, and forecasts its load. -/
def pumpService : DigitalTwinService ℚ where
  monitoring :=
    { assetExists := fun _ => true
      latestRunId := fun _ => some ⟨"run-1", by decide⟩
      operationalState := fun _ =>
        some ⟨"pump-1", 70, .normal, .low, 90, "Load is stable.", "Monitor the asset.", firstMinute,
          by decide, by decide, by decide, by decide, by decide⟩
      recommendation := fun _ =>
        some ⟨"recommendation-1", "pump-1", .monitor, .p3, .scheduled, "Monitor", "Keep watching.",
          ["Inspect the pump."], "None", firstMinute, by decide, by decide, by decide, by decide,
          by decide, by decide, by decide⟩
      latestNotification := fun _ => .ok none
      latestInvestigationTransition := fun _ => none
      timeline := fun _ => some [] }
  forecastInference := some
    { assetExists := fun _ => true
      getForecasts := fun _ => .ok [⟨"pump-1", "load", "percent", "moving-average", firstMinute,
        firstMinute, [⟨⟨.utc 120000000, by decide⟩, 55⟩], by decide, by decide, by decide,
        by decide, by decide, .singleton _⟩] }
  assetCatalog _ := none
  timelinePreviewLimit := 10
  assetCatalog_id := by simp

/-- The twin of the pump loses its forecast in Redis. -/
theorem not_transparent_pumpService :
    ¬ Transparent { twin | ∃ assetId, pumpService.assemble assetId = .ok twin } := by
  intro h
  have hone : (pumpService.assemble "pump-1").map (fun twin => twin.telemetryForecasts.length) =
      .ok 1 := by
    rfl
  cases hassembled : pumpService.assemble "pump-1" with
  | error error =>
      rw [hassembled] at hone
      cases hone
  | ok twin =>
      rw [hassembled] at hone
      have hback := (roundTrip_iff twin).mp (h.roundTrip twin ⟨"pump-1", hassembled⟩)
      have hlength : twin.telemetryForecasts.length = 1 := Except.ok.inj hone
      rw [hback] at hlength
      cases hlength

end PumpService

end Odis.Twin
