import Odis.InferenceWorker.HandOff

/-!
# What an assembler keeps

An assembler keeps at most `max_tracked_assets` buffers, each with at most
`max_buffered_timestamps_per_asset` samples in progress. The buffers are in the order in which
their assets were last active (`ByRecency`), so that the one that is evicted is the least recently
active one.
-/

namespace Odis.InferenceWorker

open Features Inference

variable {F : Type} [PyFloat F]

/-! ## Calls -/

/-- A call, with the state it leaves and what it returns or raises. -/
def AssemblerCall.run (config : AssemblerConfig F) (assembler : SampleAssembler F) :
    AssemblerCall F → SampleAssembler F × Except (AssemblyError F) (List (AssemblyOutcome F))
  | .ingest event now => InferenceWorker.ingest config assembler event now
  | .sweepTimeouts now =>
      let swept := InferenceWorker.sweepTimeouts config assembler now
      (swept.1, .ok swept.2)

/-- The asset that a call is about. -/
def AssemblerCall.asset? : AssemblerCall F → Option String
  | .ingest event _ => some event.assetId
  | .sweepTimeouts _ => none

/-- The assembler after a sequence of calls. -/
abbrev assemblerAfter (config : AssemblerConfig F) (calls : List (AssemblerCall F)) :
    SampleAssembler F :=
  Transducer.after (AssemblerCall.run config) .empty calls

/-- The tracked assets, the least recently active first. -/
def trackedAssets (assembler : SampleAssembler F) : List String :=
  assembler.items.map Prod.fst

/-- The tracked assets are those with a buffer. -/
theorem mem_trackedAssets_iff {assembler : SampleAssembler F} {a : String} :
    a ∈ trackedAssets assembler ↔ ∃ buffer, assembler.get? a = some buffer := by
  simp only [OrderedDict.get?_eq_some_iff, trackedAssets, List.mem_map, id_eq]
  constructor
  · rintro ⟨entry, hmem, rfl⟩
    exact ⟨entry.2, entry.1, hmem, rfl⟩
  · rintro ⟨buffer, a', hmem, rfl⟩
    exact ⟨_, hmem, rfl⟩

/-- An asset without a buffer is not tracked. -/
theorem not_mem_trackedAssets_iff {assembler : SampleAssembler F} {a : String} :
    a ∉ trackedAssets assembler ↔ assembler.get? a = none := by
  rw [mem_trackedAssets_iff, ← Option.ne_none_iff_exists', not_not]

/-- What a call about an asset does to the tracked assets: the asset comes last, and where it is
new and there is no room for it, the first one goes. -/
inductive TrackingEffect (limit : ℕ) (before : List String) (asset : String) : List String → Prop
  | known (tracked : asset ∈ before) :
      TrackingEffect limit before asset (before.filter (· ≠ asset) ++ [asset])
  | room (untracked : asset ∉ before) (room : before.length < limit) :
      TrackingEffect limit before asset (before ++ [asset])
  | evicts (oldest : String) (rest : List String) (tracked : before = oldest :: rest)
      (untracked : asset ∉ before) (full : limit ≤ before.length) :
      TrackingEffect limit before asset (rest ++ [asset])

section Effect

variable {config : AssemblerConfig F} {assembler : SampleAssembler F} {assetId : String} {now : F}

variable (config assembler assetId now) in
/-- The buffer of an asset is one of those that `_buffer_for` leaves. -/
theorem get?_bufferFor :
    (bufferFor config assembler assetId now).2.1.get? assetId =
      some (bufferFor config assembler assetId now).1 := by
  rw [bufferFor]
  cases hget : assembler.get? assetId with
  | some buffer => simpa using hget
  | none => simp

/-- Opening a buffer moves a tracked asset to the end, or adds one and evicts the first if there is
no room. -/
theorem trackedAssets_bufferFor (config : AssemblerConfig F) (assembler : SampleAssembler F)
    (assetId : String) (now : F) :
    TrackingEffect config.maxAssets (trackedAssets assembler) assetId
      (trackedAssets (bufferFor config assembler assetId now).2.1) := by
  cases hget : assembler.get? assetId with
  | some buffer =>
      obtain ⟨_, hmem, rfl⟩ := OrderedDict.get?_eq_some_iff.mp hget
      rename_i key
      have hitem : assembler.getItem? key = some (key, buffer) :=
        OrderedDict.getItem?_eq_some_iff.mpr ⟨hmem, rfl⟩
      -- `move_to_end` keeps the order of the others
      have hafter : trackedAssets (assembler.moveToEnd key) =
          (trackedAssets assembler).filter (· ≠ key) ++ [key] := by
        rw [trackedAssets, OrderedDict.items_moveToEnd hitem, List.map_append, trackedAssets,
          List.filter_map]
        rfl
      simp only [bufferFor, id_eq] at hget ⊢
      simp only [hget]
      rw [hafter]
      exact .known (mem_trackedAssets_iff.mpr ⟨buffer, hget⟩)
  | none =>
      have huntracked := not_mem_trackedAssets_iff.mpr hget
      simp only [bufferFor, hget]
      split_ifs with hfull
      · cases hpop : assembler.popFirst with
        | none =>
            -- there is no room only where something is tracked
            have hempty := OrderedDict.popFirst_eq_none hpop
            have hlength : assembler.length = 0 := by rw [OrderedDict.length, hempty]; rfl
            have hpos := config.maxAssets_pos
            omega
        | some popped =>
            obtain ⟨⟨oldest, buffer⟩, kept⟩ := popped
            have hitems := OrderedDict.items_popFirst hpop
            have hbefore : trackedAssets assembler = oldest :: trackedAssets kept := by
              rw [trackedAssets, hitems]
              rfl
            -- the asset was not tracked, so it is not among those that are kept
            have hkept : kept.get? assetId = none := by
              rw [← not_mem_trackedAssets_iff]
              rw [hbefore] at huntracked
              exact fun hmem => huntracked (List.mem_cons_of_mem _ hmem)
            have hafter : trackedAssets (kept.set assetId (.fresh now)) =
                trackedAssets kept ++ [assetId] := by
              rw [trackedAssets, OrderedDict.items_set_of_get?_eq_none hkept, List.map_append]
              rfl
            dsimp only
            rw [hafter]
            refine .evicts oldest _ hbefore huntracked ?_
            rwa [trackedAssets, List.length_map]
      · have hafter : trackedAssets (assembler.set assetId (.fresh now)) =
            trackedAssets assembler ++ [assetId] := by
          rw [trackedAssets, OrderedDict.items_set_of_get?_eq_none hget, List.map_append]
          rfl
        dsimp only
        rw [hafter]
        refine .room huntracked ?_
        rw [trackedAssets, List.length_map]
        exact Nat.lt_of_not_le hfull

/-- An event does the same, since what follows only fills the buffer. -/
theorem trackedAssets_ingest (config : AssemblerConfig F) (assembler : SampleAssembler F)
    (event : TelemetryObservationEvent F) (now : F) :
    TrackingEffect config.maxAssets (trackedAssets assembler) event.assetId
      (trackedAssets (ingest config assembler event now).1) := by
  have hkeys : trackedAssets (ingest config assembler event now).1 =
      trackedAssets (bufferFor config assembler event.assetId now).2.1 :=
    OrderedDict.keys_set (get?_bufferFor _ _ _ _)
  rw [hkeys]
  exact trackedAssets_bufferFor config assembler event.assetId now

variable (config now) in
/-- A sweep evicts no asset. -/
theorem trackedAssets_sweepTimeouts :
    trackedAssets (sweepTimeouts config assembler now).1 = trackedAssets assembler := by
  rw [trackedAssets, sweepTimeouts, OrderedDict.map, List.map_map]
  rfl

end Effect

/-- A call keeps within the limit on the tracked assets. -/
theorem TrackingEffect.length_le {limit : ℕ} {before after : List String} {asset : String}
    (h : TrackingEffect limit before asset after) (hle : before.length ≤ limit) :
    after.length ≤ limit := by
  cases h with
  | known tracked =>
      have hlt : (before.filter (· ≠ asset)).length < before.length :=
        List.length_filter_lt_length_iff_exists.mpr ⟨asset, tracked, by simp⟩
      rw [List.length_append, List.length_singleton]
      omega
  | room untracked room =>
      rw [List.length_append, List.length_singleton]
      omega
  | evicts oldest rest tracked untracked full =>
      rw [tracked, List.length_cons] at hle
      rwa [List.length_append, List.length_singleton]

/-! ## Recency -/

/-- After the last call about `a` there was a call about `b`. -/
def ActiveAfter (past : List (AssemblerCall F)) (a b : String) : Prop :=
  ∃ earlier later, past = earlier ++ later ∧ (∀ call ∈ later, call.asset? ≠ some a) ∧
    ∃ call ∈ later, call.asset? = some b

/-- The tracked assets are in the order in which they were last active. -/
def ByRecency (past : List (AssemblerCall F)) (assembler : SampleAssembler F) : Prop :=
  (trackedAssets assembler).Pairwise (ActiveAfter past)

section Recency

variable {past : List (AssemblerCall F)} {call : AssemblerCall F} {a b : String}

/-- One more call of another asset keeps the order of two assets. -/
theorem ActiveAfter.snoc (h : ActiveAfter past a b) (hne : call.asset? ≠ some a) :
    ActiveAfter (past ++ [call]) a b := by
  obtain ⟨earlier, later, rfl, hlater, active, hactive, hb⟩ := h
  refine ⟨earlier, later ++ [call], List.append_assoc .., ?_, active,
    List.mem_append_left _ hactive, hb⟩
  intro other hother
  rcases List.mem_append.mp hother with hold | hnew
  · exact hlater other hold
  · rwa [List.mem_singleton.mp hnew]

/-- The asset of the last call is active after every other one. -/
theorem activeAfter_last (hcall : call.asset? = some b) (hne : a ≠ b) :
    ActiveAfter (past ++ [call]) a b := by
  refine ⟨past, [call], rfl, ?_, call, List.mem_singleton_self _, hcall⟩
  intro other hother
  rw [List.mem_singleton.mp hother, hcall]
  exact fun heq => hne (Option.some.inj heq).symm

/-- Assets in the order of their activity, and then the one that a call is about. -/
theorem pairwise_snoc {kept : List String} {asset : String}
    (hkept : kept.Pairwise (ActiveAfter past))
    (hcall : call.asset? = some asset) (hne : ∀ a ∈ kept, a ≠ asset) :
    (kept ++ [asset]).Pairwise (ActiveAfter (past ++ [call])) := by
  rw [List.pairwise_append]
  refine ⟨hkept.imp_of_mem fun ha _ h => ?_, List.pairwise_singleton _ _, ?_⟩
  · refine h.snoc ?_
    rw [hcall]
    exact fun heq => hne _ ha (Option.some.inj heq).symm
  · intro a ha b hb
    rw [List.mem_singleton.mp hb]
    exact activeAfter_last hcall (hne a ha)

/-- A call about an asset keeps the order. -/
theorem TrackingEffect.pairwise {limit : ℕ} {before after : List String} {asset : String}
    (h : TrackingEffect limit before asset after) (hbefore : before.Pairwise (ActiveAfter past))
    (hcall : call.asset? = some asset) : after.Pairwise (ActiveAfter (past ++ [call])) := by
  cases h with
  | known tracked =>
      refine pairwise_snoc (hbefore.sublist List.filter_sublist) hcall fun a ha => ?_
      simpa using (List.mem_filter.mp ha).2
  | room untracked room =>
      refine pairwise_snoc hbefore hcall ?_
      rintro a ha rfl
      exact untracked ha
  | evicts oldest rest tracked untracked full =>
      subst tracked
      refine pairwise_snoc (List.pairwise_cons.mp hbefore).2 hcall ?_
      rintro a ha rfl
      exact untracked (List.mem_cons_of_mem _ ha)

/-- An asset loses its buffer only to a new one that needs the room, and is then the least
recently active one. -/
theorem TrackingEffect.of_evicted {limit : ℕ} {before after : List String} {asset : String}
    (h : TrackingEffect limit before asset after) (hbefore : before.Pairwise (ActiveAfter past))
    (ha : a ∈ before) (hgone : a ∉ after) :
    asset ∉ before ∧ limit ≤ before.length ∧ ∀ b ∈ before, b ≠ a → ActiveAfter past a b := by
  cases h with
  -- a tracked asset takes no other's room
  | known tracked =>
      refine absurd ?_ hgone
      rw [List.mem_append, List.mem_filter, List.mem_singleton]
      by_cases heq : a = asset
      · exact .inr heq
      · exact .inl ⟨ha, by simpa using heq⟩
  | room untracked room => exact absurd (List.mem_append_left _ ha) hgone
  | evicts oldest rest tracked untracked full =>
      refine ⟨untracked, full, ?_⟩
      subst tracked
      rcases List.mem_cons.mp ha with rfl | hrest
      -- the one that goes stands first, and the list is by the last activity
      · intro b hb hne
        rcases List.mem_cons.mp hb with rfl | hb
        · exact absurd rfl hne
        · exact (List.pairwise_cons.mp hbefore).1 b hb
      · exact absurd (List.mem_append_left _ hrest) hgone

/-- In every run the assets are tracked in the order of their last events. -/
theorem byRecency_after (config : AssemblerConfig F) (calls : List (AssemblerCall F)) :
    ByRecency calls (assemblerAfter config calls) := by
  have hempty : ByRecency ([] : List (AssemblerCall F)) .empty := List.Pairwise.nil
  refine Transducer.after_induction _ (P := ByRecency) _ hempty ?_ calls
  intro past call h
  cases call with
  | ingest event now => exact (trackedAssets_ingest config _ event now).pairwise h rfl
  | sweepTimeouts now =>
      change (trackedAssets (sweepTimeouts config _ now).1).Pairwise _
      rw [trackedAssets_sweepTimeouts]
      refine List.Pairwise.imp (fun hactive => hactive.snoc ?_) h
      rintro ⟨⟩

end Recency

/-! ## Samples in progress -/

section Bounds

variable {config : AssemblerConfig F} {assembler : SampleAssembler F}
  {event : TelemetryObservationEvent F} {now : F}

/-- No buffer has more samples in progress than the limit. -/
def PendingBounded (config : AssemblerConfig F) (assembler : SampleAssembler F) : Prop :=
  ∀ entry ∈ assembler.items, entry.2.pending.length ≤ config.maxBuffered

/-- There is room for one more sample once room was made. -/
theorem length_makeRoom {pending : PendingSamples F} {assetId : String}
    (h : pending.length ≤ config.maxBuffered) :
    (makeRoom config pending assetId).1.length < config.maxBuffered := by
  rw [makeRoom]
  split_ifs with hroom
  · exact hroom
  · have hpos := config.maxBuffered_pos
    cases hpop : pending.popFirst with
    | none =>
        have hlength : pending.length = 0 := by
          rw [OrderedDict.length, OrderedDict.popFirst_eq_none hpop]; rfl
        omega
    | some popped =>
        have hitems := OrderedDict.items_popFirst hpop
        have hlength : pending.length = popped.2.length + 1 := by
          rw [OrderedDict.length, hitems]; rfl
        dsimp only
        omega

variable (event now) in
/-- The sample in progress of an event's instant is in the buffer, which keeps to the limit. -/
theorem pendingFor_bounded {buffer : AssetBuffer F}
    (h : buffer.pending.length ≤ config.maxBuffered) :
    (pendingFor config buffer event now).2.1.pending.length ≤ config.maxBuffered ∧
      (pendingFor config buffer event now).2.1.pending.get? event.timestamp =
        some (pendingFor config buffer event now).1 := by
  rw [pendingFor]
  cases hget : buffer.pending.get? event.timestamp with
  | some pending => exact ⟨h, hget⟩
  | none =>
      refine ⟨?_, OrderedDict.get?_set_self⟩
      exact Nat.le_trans OrderedDict.length_set_le (length_makeRoom h)

/-- Applying a reading to a pending sample adds none. -/
theorem length_applyReading {buffer : AssetBuffer F} {pending : PendingSample F}
    (hget : buffer.pending.get? event.timestamp = some pending) :
    (applyReading buffer pending event).1.pending.length ≤ buffer.pending.length := by
  rw [applyReading]
  split
  · split_ifs
    · exact Nat.le_refl _
    · exact OrderedDict.length_erase_le
  · rw [addReading]
    split_ifs
    · exact Nat.le_of_eq (OrderedDict.length_set (by rw [hget]; rfl))
    · exact OrderedDict.length_erase_le

/-- An event keeps its buffer to the limit. -/
theorem ingestInto_bounded {buffer : AssetBuffer F}
    (h : buffer.pending.length ≤ config.maxBuffered) :
    (ingestInto config buffer event now).1.pending.length ≤ config.maxBuffered := by
  have haccepted : (ingestAccepted config buffer event now).1.pending.length ≤
      config.maxBuffered := by
    obtain ⟨hle, hget⟩ := pendingFor_bounded event now h
    exact Nat.le_trans (length_applyReading hget) hle
  rw [ingestInto]
  split
  · split_ifs
    · exact h
    · exact haccepted
  · exact haccepted

/-- The buffer of an event's asset, new or not, and the other ones keep to the limit. -/
theorem PendingBounded.bufferFor (h : PendingBounded config assembler) (assetId : String) :
    PendingBounded config (bufferFor config assembler assetId now).2.1 := by
  intro entry hentry
  rw [InferenceWorker.bufferFor] at hentry
  -- a new buffer is empty
  have hfresh : (AssetBuffer.fresh now).pending.length ≤ config.maxBuffered := Nat.zero_le _
  cases hget : assembler.get? assetId with
  | some buffer =>
      rw [hget] at hentry
      refine h entry ?_
      obtain ⟨e, hitem⟩ : ∃ e, assembler.getItem? assetId = some e := by
        rw [OrderedDict.get?, Option.map_eq_some_iff] at hget
        exact ⟨_, hget.choose_spec.1⟩
      -- a tracked asset is moved, not changed
      rw [OrderedDict.items_moveToEnd hitem, List.mem_append, List.mem_singleton] at hentry
      rcases hentry with hkept | rfl
      · exact (OrderedDict.mem_erase.mp hkept).1
      · exact (OrderedDict.getItem?_eq_some_iff.mp hitem).1
  | none =>
      rw [hget] at hentry
      rcases OrderedDict.mem_set hentry with ⟨-, hvalue⟩ | ⟨hmem, -⟩
      · rw [hvalue]
        exact hfresh
      · split_ifs at hmem
        · split at hmem
          next evictedAssetId evictedBuffer kept hpop =>
            refine h entry ?_
            rw [OrderedDict.items_popFirst hpop]
            exact List.mem_cons_of_mem _ hmem
          · exact h entry hmem
        · exact h entry hmem

/-- An event keeps all buffers to the limit. -/
theorem PendingBounded.ingest (h : PendingBounded config assembler) :
    PendingBounded config (ingest config assembler event now).1 := by
  intro entry hentry
  rcases OrderedDict.mem_set hentry with ⟨-, hvalue⟩ | ⟨hmem, -⟩
  · rw [hvalue]
    refine ingestInto_bounded ?_
    obtain ⟨key, hmem, -⟩ := OrderedDict.get?_eq_some_iff.mp
      (get?_bufferFor config assembler event.assetId now)
    exact h.bufferFor event.assetId _ hmem
  · exact h.bufferFor event.assetId entry hmem

/-- A sweep only removes samples. -/
theorem PendingBounded.sweepTimeouts (h : PendingBounded config assembler) :
    PendingBounded config (sweepTimeouts config assembler now).1 := by
  intro entry hentry
  obtain ⟨entry', hmem, rfl⟩ := List.mem_map.mp hentry
  exact Nat.le_trans (List.length_filter_le _ _) (h entry' hmem)

/-- The limits are kept after every sequence of calls. -/
theorem bounded_after (config : AssemblerConfig F) (calls : List (AssemblerCall F)) :
    (trackedAssets (assemblerAfter config calls)).length ≤ config.maxAssets ∧
      PendingBounded config (assemblerAfter config calls) := by
  let P : List (AssemblerCall F) → SampleAssembler F → Prop := fun _ assembler =>
    (trackedAssets assembler).length ≤ config.maxAssets ∧ PendingBounded config assembler
  refine Transducer.after_induction _ (P := P) _ ⟨Nat.zero_le _, ?_⟩ ?_ calls
  · intro entry hentry
    exact absurd hentry List.not_mem_nil
  · rintro past call ⟨htracked, hpending⟩
    cases call with
    | ingest event now =>
        exact ⟨(trackedAssets_ingest config _ event now).length_le htracked, hpending.ingest⟩
    | sweepTimeouts now =>
        refine ⟨?_, hpending.sweepTimeouts⟩
        change (trackedAssets (InferenceWorker.sweepTimeouts config _ now).1).length ≤ _
        rw [trackedAssets_sweepTimeouts]
        exact htracked

end Bounds

end Odis.InferenceWorker
