import Odis.InferenceWorker.Building
import Odis.InferenceWorker.Tracking

/-!
# The ledger of an assembler

Every entry that an assembler opens, for an asset and an instant, is closed by one outcome or still
pending: the entries opened so far are those closed so far and those pending, as multisets. An
event is reported by one outcome about its own instant, after one rejection for each entry that it
evicts.

The exception is an event that completes a sample one of whose readings came with an empty event
id: its entry is removed, and then the sample is refused (`exists_assemble_iff`).

* `meetsPolicy_iff_named`: an assembler meets its policy at every call of a run exactly if no call
  completes a sample with an unnamed reading.
* `unnamed_not_meetsPolicy`: a run of seven readings of one instant.
-/

namespace Odis.InferenceWorker

open Features Inference

variable {F : Type} [PyFloat F]

/-! ## Entries -/

/-- What an entry is for: an asset and an instant. -/
abbrev EntryKey : Type := String × Instant

/-- The entry of the instant of an event. -/
def TelemetryObservationEvent.key (event : TelemetryObservationEvent F) : EntryKey :=
  (event.assetId, event.timestamp.instant)

/-- The entry that an outcome is about. -/
def AssemblyOutcome.key : AssemblyOutcome F → EntryKey
  | .pending assetId timestamp => (assetId, timestamp.instant)
  | .complete assetId timestamp _ => (assetId, timestamp.instant)
  | .rejected assetId timestamp _ _ => (assetId, timestamp.instant)

/-- An outcome closes the entry it is about, unless it reports a pending one or a late event. -/
def AssemblyOutcome.closes : AssemblyOutcome F → Bool
  | .pending _ _ => false
  | .complete _ _ _ => true
  | .rejected _ _ reason _ => reason ≠ .late

/-- The entries that outcomes close. -/
def closedBy (outcomes : List (AssemblyOutcome F)) : List EntryKey :=
  (outcomes.filter AssemblyOutcome.closes).map AssemblyOutcome.key

/-- The pending entries of a buffer. -/
def bufferKeys (assetId : String) (buffer : AssetBuffer F) : List EntryKey :=
  buffer.pending.items.map fun entry => (assetId, entry.1.instant)

/-- The pending entries of an assembler. -/
def pendingKeys (assembler : SampleAssembler F) : List EntryKey :=
  assembler.items.flatMap fun entry => bufferKeys entry.1 entry.2

/-- An entry is given up: it timed out, or was evicted. -/
def AssemblyOutcome.IsGivenUp (outcome : AssemblyOutcome F) : Prop :=
  ∃ assetId timestamp detail, outcome = .rejected assetId timestamp .incompleteTimeout detail

section Keys

variable {assembler : SampleAssembler F} {assetId : String} {buffer : AssetBuffer F}
  {outcomes more : List (AssemblyOutcome F)} {k : EntryKey}

/-- No outcomes close no entries. -/
@[simp]
theorem closedBy_nil : closedBy ([] : List (AssemblyOutcome F)) = [] := rfl

/-- The entries that outcomes close, one list after the other. -/
@[simp]
theorem closedBy_append : closedBy (outcomes ++ more) = closedBy outcomes ++ closedBy more := by
  rw [closedBy, List.filter_append, List.map_append]
  rfl

/-- Rejections of entries that are given up close them. -/
theorem closedBy_of_givenUp (h : ∀ o ∈ outcomes, o.IsGivenUp) :
    closedBy outcomes = outcomes.map AssemblyOutcome.key := by
  rw [closedBy, List.filter_eq_self.mpr]
  intro o ho
  obtain ⟨_, _, _, rfl⟩ := h o ho
  rfl

/-- What is reported of entries given up says so. -/
theorem givenUp_incomplete (cause : String) (entries : List (Datetime × PendingSample F)) :
    ∀ o ∈ entries.map (incompleteOutcome assetId cause), o.IsGivenUp := by
  intro o ho
  obtain ⟨entry, -, rfl⟩ := List.mem_map.mp ho
  exact ⟨_, _, _, rfl⟩

/-- And it closes these entries. -/
@[simp]
theorem closedBy_incomplete (assetId cause : String) (entries : List (Datetime × PendingSample F)) :
    closedBy (entries.map (incompleteOutcome assetId cause)) =
      entries.map fun entry => (assetId, entry.1.instant) := by
  rw [closedBy_of_givenUp (givenUp_incomplete cause entries), List.map_map]
  rfl

/-- The entries of a buffer are those at the instants of its pending samples. -/
theorem mem_bufferKeys_iff : k ∈ bufferKeys assetId buffer ↔
    k.1 = assetId ∧ ∃ entry ∈ buffer.pending.items, entry.1.instant = k.2 := by
  rw [bufferKeys, List.mem_map]
  constructor
  · rintro ⟨entry, hmem, rfl⟩
    exact ⟨rfl, entry, hmem, rfl⟩
  · rintro ⟨rfl, entry, hmem, hinstant⟩
    exact ⟨entry, hmem, by rw [hinstant]⟩

/-- An instant is pending in a buffer once it has an entry. -/
theorem mem_bufferKeys_self_iff {timestamp : Datetime} :
    (assetId, timestamp.instant) ∈ bufferKeys assetId buffer ↔
      (buffer.pending.get? timestamp).isSome := by
  rw [mem_bufferKeys_iff, and_iff_right rfl, Option.isSome_iff_exists]
  constructor
  · rintro ⟨entry, hmem, hinstant⟩
    exact ⟨entry.2, OrderedDict.get?_eq_some_iff.mpr ⟨entry.1, hmem, hinstant⟩⟩
  · rintro ⟨pending, hget⟩
    obtain ⟨t, hmem, hinstant⟩ := OrderedDict.get?_eq_some_iff.mp hget
    exact ⟨_, hmem, hinstant⟩

/-- The entries of an asset are those of its buffer. -/
theorem mem_pendingKeys_iff : k ∈ pendingKeys assembler ↔
    ∃ buffer, assembler.get? k.1 = some buffer ∧ k ∈ bufferKeys k.1 buffer := by
  rw [pendingKeys, List.mem_flatMap]
  constructor
  · rintro ⟨⟨a, buffer⟩, hmem, hkey⟩
    obtain ⟨rfl, -⟩ := mem_bufferKeys_iff.mp hkey
    exact ⟨buffer, OrderedDict.get?_eq_some_iff.mpr ⟨k.1, hmem, rfl⟩, hkey⟩
  · rintro ⟨buffer, hget, hkey⟩
    obtain ⟨a, hmem, rfl⟩ := OrderedDict.get?_eq_some_iff.mp hget
    exact ⟨_, hmem, hkey⟩

/-- No entry is pending twice. -/
theorem nodup_pendingKeys (assembler : SampleAssembler F) : (pendingKeys assembler).Nodup := by
  rw [pendingKeys, List.nodup_flatMap]
  constructor
  · intro entry _
    have hnodup := entry.2.pending.nodup
    rw [bufferKeys]
    refine List.Nodup.of_map Prod.snd ?_
    rwa [List.map_map]
  · refine (List.pairwise_map.mp assembler.nodup).imp ?_
    intro e e' hne k hk hk'
    exact hne ((mem_bufferKeys_iff.mp hk).1.symm.trans (mem_bufferKeys_iff.mp hk').1)

/-- The entries of one buffer and those of the others, when the buffer is replaced. -/
theorem pendingKeys_set (replaced : AssetBuffer F) (hget : assembler.get? assetId = some buffer) :
    ∃ rest, (pendingKeys assembler).Perm (bufferKeys assetId buffer ++ rest) ∧
      (pendingKeys (assembler.set assetId replaced)).Perm
        (bufferKeys assetId replaced ++ rest) := by
  refine ⟨pendingKeys (assembler.erase assetId), ?_, ?_⟩
  · obtain ⟨a, hmem, rfl⟩ := OrderedDict.get?_eq_some_iff.mp hget
    have hitem : assembler.getItem? (id a) = some (a, buffer) :=
      OrderedDict.getItem?_eq_some_iff.mpr ⟨hmem, rfl⟩
    simpa [pendingKeys] using (OrderedDict.perm_erase hitem).flatMap_right
      fun entry => bufferKeys entry.1 entry.2
  · obtain ⟨a, hident, hperm⟩ :=
      OrderedDict.perm_set (d := assembler) (k := assetId) (v := replaced)
    obtain rfl : a = assetId := hident
    simpa [pendingKeys] using hperm.flatMap_right fun entry => bufferKeys entry.1 entry.2

end Keys

/-! ## Calls -/

/-- The entry that a call opens: that of an event which is not late, if it is not pending. -/
def openedBy (assembler : SampleAssembler F) : AssemblerCall F → List EntryKey
  | .ingest event _ =>
      if AtOrBefore event (latestProcessed assembler event.assetId) ∨
          event.key ∈ pendingKeys assembler then []
      else [event.key]
  | .sweepTimeouts _ => []

section Calls

variable {config : AssemblerConfig F} {assembler : SampleAssembler F}
  {event : TelemetryObservationEvent F} {now : F} {outcomes : List (AssemblyOutcome F)}

variable (config assembler event now) in
/-- Opening a buffer gives up the entries of the one that it evicts, which is of another asset. -/
theorem ledger_bufferFor :
    (pendingKeys assembler).Perm (closedBy (bufferFor config assembler event.assetId now).2.2 ++
        pendingKeys (bufferFor config assembler event.assetId now).2.1) ∧
      (∀ o ∈ (bufferFor config assembler event.assetId now).2.2, o.IsGivenUp) ∧
      event.key ∉ closedBy (bufferFor config assembler event.assetId now).2.2 := by
  cases hget : assembler.get? event.assetId with
  | some buffer =>
      obtain ⟨a, hmem, hident⟩ := OrderedDict.get?_eq_some_iff.mp hget
      have hitem := OrderedDict.getItem?_eq_some_iff.mpr ⟨hmem, hident⟩
      simp only [bufferFor, hget, closedBy_nil, List.nil_append, List.not_mem_nil,
        not_false_eq_true, and_true, false_implies, implies_true]
      refine List.Perm.flatMap_right _ ?_
      -- the asset has a buffer, which is moved to the end
      rw [OrderedDict.items_moveToEnd hitem]
      exact (OrderedDict.perm_erase hitem).trans (List.perm_append_singleton _ _).symm
  | none =>
      -- a new buffer has no entries
      have hfresh : ∀ kept : SampleAssembler F, kept.get? event.assetId = none →
          pendingKeys (kept.set event.assetId (.fresh now)) = pendingKeys kept := by
        intro kept hkept
        rw [pendingKeys, OrderedDict.items_set_of_get?_eq_none hkept, List.flatMap_append]
        exact List.append_nil _
      simp only [bufferFor, hget]
      split_ifs
      · cases hpop : assembler.popFirst with
        | none =>
            refine ⟨?_, by simp, by simp⟩
            dsimp only
            rw [hfresh _ hget]
            exact List.Perm.refl _
        | some popped =>
            -- the oldest buffer is evicted, and its entries are given up
            obtain ⟨⟨evictedAssetId, evictedBuffer⟩, kept⟩ := popped
            have hitems := OrderedDict.items_popFirst hpop
            have hothers := OrderedDict.get?_eq_none_iff.mp hget
            rw [hitems] at hothers
            have hkept : kept.get? event.assetId = none :=
              OrderedDict.get?_eq_none_iff.mpr fun e he => hothers e (List.mem_cons_of_mem _ he)
            refine ⟨?_, givenUp_incomplete _ _, ?_⟩
            · dsimp only
              rw [hfresh _ hkept, closedBy_incomplete, pendingKeys, hitems, List.flatMap_cons]
              exact List.Perm.refl _
            · rw [closedBy_incomplete, List.mem_map]
              rintro ⟨entry, -, hkey⟩
              exact hothers _ List.mem_cons_self (Prod.mk.inj hkey).1
      · refine ⟨?_, by simp, by simp⟩
        dsimp only
        rw [hfresh _ hget]
        exact List.Perm.refl _

variable (config event now) in
/-- Opening a sample gives up the oldest one of the buffer, if there is no room. -/
theorem ledger_pendingFor (buffer : AssetBuffer F) :
    (bufferKeys event.assetId buffer ++
        if event.key ∈ bufferKeys event.assetId buffer then [] else [event.key]).Perm
      (closedBy (pendingFor config buffer event now).2.2 ++
        bufferKeys event.assetId (pendingFor config buffer event now).2.1) ∧
      (∀ o ∈ (pendingFor config buffer event now).2.2, o.IsGivenUp) ∧
      event.key ∉ closedBy (pendingFor config buffer event now).2.2 := by
  have hmem : event.key ∈ bufferKeys event.assetId buffer ↔
      (buffer.pending.get? event.timestamp).isSome := mem_bufferKeys_self_iff
  cases hget : buffer.pending.get? event.timestamp with
  | some pending =>
      rw [hget] at hmem
      simp [pendingFor, hget, hmem]
  | none =>
      -- a sample that is opened comes last
      have hopened : ∀ kept : PendingSamples F, kept.get? event.timestamp = none →
          bufferKeys event.assetId { buffer with
              pending := kept.set event.timestamp (.fresh now) } =
            bufferKeys event.assetId { buffer with pending := kept } ++ [event.key] := by
        intro kept hkept
        rw [bufferKeys, OrderedDict.items_set_of_get?_eq_none hkept, List.map_append]
        rfl
      rw [if_neg (by rw [hmem, hget]; exact Bool.false_ne_true)]
      simp only [pendingFor, hget, makeRoom]
      split_ifs
      · refine ⟨?_, by simp, by simp⟩
        dsimp only
        rw [hopened _ hget]
        exact List.Perm.refl _
      · cases hpop : buffer.pending.popFirst with
        | none =>
            refine ⟨?_, by simp, by simp⟩
            dsimp only
            rw [hopened _ hget]
            exact List.Perm.refl _
        | some popped =>
            -- the oldest sample is evicted, which is not that of the event
            obtain ⟨oldest, kept⟩ := popped
            have hitems := OrderedDict.items_popFirst hpop
            have hothers := OrderedDict.get?_eq_none_iff.mp hget
            rw [hitems] at hothers
            have hkept : kept.get? event.timestamp = none :=
              OrderedDict.get?_eq_none_iff.mpr fun e he => hothers e (List.mem_cons_of_mem _ he)
            have hclosed := closedBy_incomplete event.assetId
              "evicted to stay within max_buffered_timestamps_per_asset; missing measurement(s): "
              [oldest]
            refine ⟨?_, givenUp_incomplete _ [oldest], ?_⟩
            · dsimp only
              rw [List.map_singleton, List.map_singleton] at hclosed
              rw [hopened _ hkept, hclosed, bufferKeys, hitems, List.map_cons]
              exact List.Perm.refl _
            · rw [List.map_singleton, List.map_singleton] at hclosed
              rw [hclosed, List.mem_singleton]
              intro hkey
              exact hothers _ List.mem_cons_self (Prod.mk.inj hkey).2.symm

/-- An entry is removed with the outcome that closes it, and kept with one that does not. -/
theorem ledger_applyReading {buffer : AssetBuffer F} {pending : PendingSample F}
    {outcome : AssemblyOutcome F} (hget : buffer.pending.get? event.timestamp = some pending)
    (h : (applyReading buffer pending event).2 = .ok outcome) :
    (bufferKeys event.assetId buffer).Perm (closedBy [outcome] ++
        bufferKeys event.assetId (applyReading buffer pending event).1) ∧
      outcome.key = event.key := by
  -- the entry, and the buffer without it
  have hremoved : (bufferKeys event.assetId buffer).Perm (event.key ::
      bufferKeys event.assetId
        { buffer with pending := buffer.pending.erase event.timestamp }) := by
    obtain ⟨t, hmem, hident⟩ := OrderedDict.get?_eq_some_iff.mp hget
    have hitem := OrderedDict.getItem?_eq_some_iff.mpr ⟨hmem, hident⟩
    have hperm := (OrderedDict.perm_erase hitem).map fun e => (event.assetId, e.1.instant)
    rw [List.map_cons, hident] at hperm
    exact hperm
  rw [applyReading] at h ⊢
  cases hreading : pending.readings event.measurement with
  | some existing =>
      simp only [hreading] at h ⊢
      split_ifs at h ⊢
      -- a duplicate is ignored, and a conflict removes the entry
      · cases h
        exact ⟨List.Perm.refl _, rfl⟩
      · cases h
        exact ⟨hremoved, rfl⟩
  | none =>
      simp only [hreading, addReading] at h ⊢
      split_ifs at h ⊢
      · cases h
        refine ⟨?_, rfl⟩
        -- a reading that does not complete the sample leaves the entry where it was
        have hkeys := congrArg (List.map fun t : Datetime => (event.assetId, t.instant))
          (OrderedDict.keys_set (v := pending.record event) hget)
        rw [List.map_map, List.map_map] at hkeys
        have hsame : bufferKeys event.assetId { buffer with
            pending := buffer.pending.set event.timestamp (pending.record event) } =
              bufferKeys event.assetId buffer := hkeys
        dsimp only
        rw [hsame]
        exact List.Perm.refl _
      · obtain ⟨sample, -, rfl⟩ := Exceptions.map_eq_ok.mp h
        exact ⟨hremoved, rfl⟩

/-- What an event does to the buffer of its asset. -/
theorem ledger_ingestInto {buffer : AssetBuffer F}
    (h : (ingestInto config buffer event now).2 = .ok outcomes) :
    (bufferKeys event.assetId buffer ++
        if AtOrBefore event buffer.latestProcessedTimestamp ∨
            event.key ∈ bufferKeys event.assetId buffer then [] else [event.key]).Perm
      (closedBy outcomes ++ bufferKeys event.assetId (ingestInto config buffer event now).1) ∧
      ∃ evicted own, outcomes = evicted ++ [own] ∧ own.key = event.key ∧
        (∀ o ∈ evicted, o.IsGivenUp) ∧ event.key ∉ closedBy evicted := by
  by_cases hlate : AtOrBefore event buffer.latestProcessedTimestamp
  · obtain ⟨latest, hlatest, hle⟩ := hlate
    simp only [ingestInto, hlatest, if_pos hle] at h ⊢
    cases h
    -- a late event opens nothing and closes nothing
    rw [if_pos (.inl ⟨latest, rfl, hle⟩), List.append_nil]
    exact ⟨List.Perm.refl _, [], _, rfl, rfl, by simp, by simp⟩
  · rw [ingestInto_of_not_late hlate] at h ⊢
    rw [ingestAccepted] at h ⊢
    obtain ⟨own, hown, rfl⟩ := Exceptions.map_eq_ok.mp h
    -- otherwise the sample is opened, if need be, and the reading is applied to it
    obtain ⟨hopened, hgiven, hother⟩ :=
      ledger_pendingFor config event now buffer
    have hget : (pendingFor config buffer event now).2.1.pending.get? event.timestamp =
        some (pendingFor config buffer event now).1 := by
      rw [pendingFor]
      cases hget : buffer.pending.get? event.timestamp with
      | some pending => exact hget
      | none => exact OrderedDict.get?_set_self
    obtain ⟨happlied, hkey⟩ := ledger_applyReading hget hown
    refine ⟨?_, _, own, rfl, hkey, hgiven, hother⟩
    rw [closedBy_append, List.append_assoc]
    simp only [hlate, false_or]
    exact hopened.trans (happlied.append_left _)

/-- What an event that is not refused does to the entries, and its report. -/
theorem ledger_ingest (h : (ingest config assembler event now).2 = .ok outcomes) :
    (pendingKeys assembler ++ openedBy assembler (.ingest event now)).Perm
      (closedBy outcomes ++ pendingKeys (ingest config assembler event now).1) ∧
      ∃ evicted own, outcomes = evicted ++ [own] ∧ own.key = event.key ∧
        (∀ o ∈ evicted, o.IsGivenUp) ∧ event.key ∉ closedBy evicted := by
  obtain ⟨hbuffers, hgiven, hother⟩ :=
    ledger_bufferFor config assembler event now
  set buffer := (bufferFor config assembler event.assetId now).1 with hbuffer
  set buffers := (bufferFor config assembler event.assetId now).2.1 with hbuffersDef
  have hget : buffers.get? event.assetId = some buffer := get?_bufferFor _ _ _ _
  -- no evicted entry is that of the event, so it was pending in its buffer or not at all
  have hopens : openedBy assembler (.ingest event now) =
      if AtOrBefore event buffer.latestProcessedTimestamp ∨
        event.key ∈ bufferKeys event.assetId buffer then [] else [event.key] := by
    have hpending : event.key ∈ pendingKeys assembler ↔
        event.key ∈ bufferKeys event.assetId buffer := by
      rw [hbuffers.mem_iff, List.mem_append, or_iff_right hother, mem_pendingKeys_iff]
      constructor
      · rintro ⟨buffer', hget', hmem⟩
        obtain rfl := Option.some.inj (hget.symm.trans hget')
        exact hmem
      · exact fun hmem => ⟨buffer, hget, hmem⟩
    simp only [openedBy, hpending, hbuffer, latest_bufferFor]
  have hresult : (ingest config assembler event now).2 =
      (ingestInto config { buffer with lastActiveMonotonic := now } event now).2.map
        ((bufferFor config assembler event.assetId now).2.2 ++ ·) := rfl
  rw [hresult] at h
  obtain ⟨into, hinto, rfl⟩ := Exceptions.map_eq_ok.mp h
  obtain ⟨hperm, evicted, own, rfl, hkey, hgiven', hother'⟩ := ledger_ingestInto hinto
  obtain ⟨rest, hrest, hset⟩ := pendingKeys_set
    (ingestInto config { buffer with lastActiveMonotonic := now } event now).1 hget
  have hafter : (ingest config assembler event now).1 = buffers.set event.assetId
      (ingestInto config { buffer with lastActiveMonotonic := now } event now).1 := rfl
  refine ⟨?_, (bufferFor config assembler event.assetId now).2.2 ++ evicted, own,
    (List.append_assoc ..).symm, hkey, ?_, ?_⟩
  -- the three balances are added up key by key
  · rw [hopens, hafter, List.perm_iff_count]
    intro k
    have hsame : bufferKeys event.assetId { buffer with lastActiveMonotonic := now } =
        bufferKeys event.assetId buffer := rfl
    rw [hsame] at hperm
    have hbuffers := hbuffers.count_eq k
    have hperm := hperm.count_eq k
    have hrest := hrest.count_eq k
    have hset := hset.count_eq k
    simp only [List.count_append, closedBy_append] at hbuffers hperm hrest hset ⊢
    omega
  · intro o ho
    rcases List.mem_append.mp ho with ho | ho
    · exact hgiven o ho
    · exact hgiven' o ho
  · rw [closedBy_append, List.mem_append]
    exact not_or_intro hother hother'

/-- A sweep gives up the entries that have expired. -/
theorem ledger_sweepTimeouts :
    (pendingKeys assembler).Perm (closedBy (sweepTimeouts config assembler now).2 ++
      pendingKeys (sweepTimeouts config assembler now).1) := by
  -- the expired entries of every buffer are reported as incomplete
  have hclosed : closedBy (sweepTimeouts config assembler now).2 =
      assembler.items.flatMap fun entry =>
        (entry.2.pending.items.filter (expired config now)).map
          fun e => (entry.1, e.1.instant) := by
    rw [sweepTimeouts]
    induction assembler.items with
    | nil => rfl
    | cons entry rest ih =>
        rw [List.flatMap_cons, closedBy_append, ih, closedBy_incomplete, List.flatMap_cons]
  -- and the others are kept
  have hkept : pendingKeys (sweepTimeouts config assembler now).1 =
      assembler.items.flatMap fun entry =>
        (entry.2.pending.items.filter fun e => !expired config now e).map
          fun e => (entry.1, e.1.instant) := by
    rw [pendingKeys, sweepTimeouts, OrderedDict.map, List.flatMap_map]
    rfl
  rw [hclosed, hkept]
  refine List.Perm.trans (List.Perm.flatMap_left _ fun entry _ => ?_)
    (List.flatMap_append_perm _ _ _).symm
  rw [← List.map_append]
  exact ((List.filter_append_perm _ _).map _).symm

end Calls

/-! ## Runs -/

/-- What is recorded of a call: the entry it opens, and what it returns or raises. -/
structure CallRecord (F : Type) [PyFloat F] where
  opened : List EntryKey
  result : Except (AssemblyError F) (List (AssemblyOutcome F))

/-- The entries that a call closes with an outcome. -/
def CallRecord.closed (call : CallRecord F) : List EntryKey :=
  match call.result with
  | .ok outcomes => closedBy outcomes
  | .error _ => []

/-- A call, with the state it leaves and its record. -/
def AssemblerCall.recorded (config : AssemblerConfig F) (assembler : SampleAssembler F)
    (call : AssemblerCall F) : SampleAssembler F × CallRecord F :=
  ((call.run config assembler).1, ⟨openedBy assembler call, (call.run config assembler).2⟩)

/-- The records of a run. -/
def callRecords (config : AssemblerConfig F) (calls : List (AssemblerCall F)) :
    List (CallRecord F) :=
  Transducer.outputs (AssemblerCall.recorded config) .empty calls

/-- Every entry opened so far was closed by one outcome, or is pending. -/
def Balanced (config : AssemblerConfig F) (calls : List (AssemblerCall F)) : Prop :=
  ((callRecords config calls).flatMap CallRecord.opened).Perm
    ((callRecords config calls).flatMap CallRecord.closed ++
      pendingKeys (assemblerAfter config calls))

/-- The last outcome is the one about the instant of the event. The others reject, one by one, the
entries that the event evicted. -/
def ReportsEvent (before after : SampleAssembler F) (event : TelemetryObservationEvent F)
    (result : Except (AssemblyError F) (List (AssemblyOutcome F))) : Prop :=
  ∃ evicted own, result = .ok (evicted ++ [own]) ∧ own.key = event.key ∧
    (∀ o ∈ evicted, o.IsGivenUp) ∧
    (evicted.map AssemblyOutcome.key).Perm
      ((pendingKeys before).filter fun k => k ≠ event.key ∧ k ∉ pendingKeys after)

/-- What an assembler does at a call that comes after those of `past`: it stays within its limits,
and accounts for every event and every entry that was opened. -/
structure MeetsPolicy (config : AssemblerConfig F) (past : List (AssemblerCall F))
    (call : AssemblerCall F) : Prop where
  /-- No more assets are tracked than `max_tracked_assets`. -/
  tracked : (trackedAssets (assemblerAfter config (past ++ [call]))).length ≤ config.maxAssets
  /-- Nor has any of them more pending timestamps than allowed. -/
  pending : PendingBounded config (assemblerAfter config (past ++ [call]))
  /-- Every entry that was opened is pending, or was closed by one outcome. -/
  balanced : Balanced config (past ++ [call])
  /-- No entry is pending twice. -/
  distinct : (pendingKeys (assemblerAfter config (past ++ [call]))).Nodup
  /-- The event of the call has the outcomes that the policy has for it. -/
  reported : ∀ event now, call = .ingest event now →
    ReportsEvent (assemblerAfter config past) (assemblerAfter config (past ++ [call])) event
      (call.run config (assemblerAfter config past)).2
  /-- An asset loses its buffer to a new one only, and is then the least recently active one. -/
  evicted : ∀ a ∈ trackedAssets (assemblerAfter config past),
    a ∉ trackedAssets (assemblerAfter config (past ++ [call])) →
      (∃ asset, call.asset? = some asset ∧ asset ∉ trackedAssets (assemblerAfter config past)) ∧
      config.maxAssets ≤ (trackedAssets (assemblerAfter config past)).length ∧
      ∀ b ∈ trackedAssets (assemblerAfter config past), b ≠ a → ActiveAfter past a b

/-- A sample that the call completes has no reading with an empty event id. -/
def CompletesNamed (assembler : SampleAssembler F) : AssemblerCall F → Prop
  | .ingest event _ => ∀ pending, Completes assembler event pending →
      ∀ m reading, (pending.record event).readings m = some reading → reading.eventId ≠ ""
  | .sweepTimeouts _ => True

section Runs

variable {config : AssemblerConfig F} {past : List (AssemblerCall F)} {call : AssemblerCall F}

/-- The assembler after one more call. -/
theorem assemblerAfter_concat :
    assemblerAfter config (past ++ [call]) =
      (call.run config (assemblerAfter config past)).1 := by
  rw [assemblerAfter, Transducer.after_append]
  rfl

/-- The records of the calls, with one more call. -/
theorem callRecords_concat :
    callRecords config (past ++ [call]) = callRecords config past ++
      [⟨openedBy (assemblerAfter config past) call,
        (call.run config (assemblerAfter config past)).2⟩] := by
  rw [callRecords, Transducer.outputs_append]
  rfl

variable (config) in
/-- An event is refused exactly if it completes a sample with an unnamed reading. -/
theorem exists_ingest_iff {assembler : SampleAssembler F} {event : TelemetryObservationEvent F}
    {now : F} : (∃ outcomes, (ingest config assembler event now).2 = .ok outcomes) ↔
      CompletesNamed assembler (.ingest event now) := by
  by_cases hcompletes : ∃ pending, Completes assembler event pending
  · obtain ⟨pending, hcompletes⟩ := hcompletes
    -- an event completes one entry at most
    have hunique : ∀ pending', Completes assembler event pending' → pending' = pending := by
      intro pending' h
      rw [← completing_eq_some] at h hcompletes
      exact Option.some.inj (h.symm.trans hcompletes)
    -- the call returns what building the observations of that entry returns
    obtain ⟨hresult, -⟩ := ingest_of_completes config now hcompletes
    obtain ⟨buffer, -, -, -, -, hmissing⟩ := id hcompletes
    rw [hresult]
    constructor
    · rintro ⟨outcomes, houtcomes⟩ pending' hcompletes'
      obtain ⟨sample, hsample, -⟩ := Exceptions.map_eq_ok.mp houtcomes
      rw [hunique pending' hcompletes']
      exact (exists_assemble_iff event hmissing).mp ⟨sample, hsample⟩
    · intro hnamed
      obtain ⟨sample, hsample⟩ :=
        (exists_assemble_iff event hmissing).mpr (hnamed pending hcompletes)
      exact ⟨_, Exceptions.map_eq_ok.mpr ⟨sample, hsample, rfl⟩⟩
  · push Not at hcompletes
    obtain ⟨-, outcomes, houtcomes, -⟩ := ingest_of_not_completes config now hcompletes
    exact iff_of_true ⟨outcomes, houtcomes⟩ fun pending h => absurd h (hcompletes pending)

/-- What a call does to the entries, unless it raises. -/
theorem ledger_run {assembler : SampleAssembler F} {outcomes : List (AssemblyOutcome F)}
    (h : (call.run config assembler).2 = .ok outcomes) :
    (pendingKeys assembler ++ openedBy assembler call).Perm
      (closedBy outcomes ++ pendingKeys (call.run config assembler).1) := by
  cases call with
  | ingest event now => exact (ledger_ingest h).1
  | sweepTimeouts now =>
      cases h
      rw [openedBy, List.append_nil]
      exact ledger_sweepTimeouts

variable (config) in
/-- A call returns exactly if it completes no sample with an unnamed reading. -/
theorem exists_run_iff {assembler : SampleAssembler F} :
    (∃ outcomes, (call.run config assembler).2 = .ok outcomes) ↔
      CompletesNamed assembler call := by
  cases call with
  | ingest event now => exact exists_ingest_iff config
  | sweepTimeouts now => exact iff_of_true ⟨_, rfl⟩ trivial

/-- A call keeps the balance. -/
theorem Balanced.concat (h : Balanced config past)
    (hnamed : CompletesNamed (assemblerAfter config past) call) :
    Balanced config (past ++ [call]) := by
  obtain ⟨outcomes, houtcomes⟩ := (exists_run_iff config).mpr hnamed
  have hledger := ledger_run houtcomes
  rw [Balanced, List.perm_iff_count] at h ⊢
  intro k
  have hpast := h k
  have hcall := hledger.count_eq k
  rw [callRecords_concat, assemblerAfter_concat, houtcomes]
  simp only [List.flatMap_append, List.flatMap_singleton, CallRecord.closed, List.count_append]
    at hpast hcall ⊢
  omega

/-- What was opened in a run was closed or is pending. -/
theorem balanced_after (calls : List (AssemblerCall F))
    (hnamed : Transducer.Along (AssemblerCall.run config) CompletesNamed .empty calls) :
    Balanced config calls := by
  induction calls using List.reverseRecOn with
  | nil => exact List.Perm.nil
  | append_singleton past call ih =>
      obtain ⟨hpast, hcall⟩ := (Transducer.along_concat _).mp hnamed
      exact (ih hpast).concat hcall

/-- An event that is not refused is reported. -/
theorem reportsEvent_of_ingest {assembler : SampleAssembler F} {event : TelemetryObservationEvent F}
    {now : F} {outcomes : List (AssemblyOutcome F)}
    (h : (ingest config assembler event now).2 = .ok outcomes) :
    ReportsEvent assembler (ingest config assembler event now).1 event
      (ingest config assembler event now).2 := by
  obtain ⟨hperm, evicted, own, rfl, hkey, hgiven, hother⟩ := ledger_ingest h
  refine ⟨evicted, own, h, hkey, hgiven, ?_⟩
  rw [closedBy_append, closedBy_of_givenUp hgiven] at hperm
  rw [closedBy_of_givenUp hgiven] at hother
  have hnodup := nodup_pendingKeys assembler
  rw [List.perm_iff_count]
  intro k
  by_cases hk : k = event.key
  · rw [hk, List.count_eq_zero.mpr hother, List.count_eq_zero.mpr]
    simp
  · -- the entry of another instant is not opened, and closed only if it is evicted
    have hopened : (openedBy assembler (.ingest event now)).count k = 0 := by
      rw [openedBy, List.count_eq_zero]
      split_ifs
      · exact List.not_mem_nil
      · simpa using hk
    have hown : (closedBy [own]).count k = 0 := by
      rw [closedBy, List.count_eq_zero, List.mem_map]
      rintro ⟨o, ho, rfl⟩
      rw [List.mem_singleton.mp (List.mem_of_mem_filter ho)] at hk
      exact hk hkey
    have hcount := hperm.count_eq k
    have hbefore := List.nodup_iff_count_le_one.mp hnodup k
    simp only [List.count_append, hopened, hown] at hcount
    -- an entry that is gone was evicted, and one that is left was not
    by_cases hafter : k ∈ pendingKeys (ingest config assembler event now).1
    · have hpos := List.count_pos_iff.mpr hafter
      have hout : k ∉ (pendingKeys assembler).filter fun k => decide (k ≠ event.key ∧
          k ∉ pendingKeys (ingest config assembler event now).1) := by
        simp [hafter]
      rw [List.count_eq_zero.mpr hout]
      omega
    · rw [List.count_filter (by simp [hk, hafter])]
      rw [List.count_eq_zero.mpr hafter] at hcount
      omega

/-- An assembler meets its policy at every call of a run exactly if no call completes a sample
with an unnamed reading. -/
theorem meetsPolicy_iff_named (config : AssemblerConfig F) (calls : List (AssemblerCall F)) :
    (∀ past call rest, calls = past ++ call :: rest → MeetsPolicy config past call) ↔
      Transducer.Along (AssemblerCall.run config) CompletesNamed .empty calls := by
  constructor
  · intro h
    rw [Transducer.along_iff_forall_split]
    intro past call rest hsplit
    cases call with
    | ingest event now =>
        -- an event that is reported was not refused
        obtain ⟨evicted, own, hresult, -⟩ := (h past _ rest hsplit).reported event now rfl
        exact (exists_run_iff config).mp ⟨_, hresult⟩
    | sweepTimeouts now => trivial
  · rintro hnamed past call rest rfl
    -- the calls up to this one are a run that meets the condition as well
    have hprefix : Transducer.Along (AssemblerCall.run config) CompletesNamed .empty
        (past ++ [call]) := by
      rw [Transducer.along_iff_forall_split] at hnamed ⊢
      intro before call' after hsplit
      apply hnamed before call' (after ++ rest)
      rw [← List.cons_append, ← List.append_assoc, ← hsplit, List.append_assoc]
      rfl
    obtain ⟨hbounded, hpending⟩ := bounded_after config (past ++ [call])
    refine ⟨hbounded, hpending, balanced_after _ hprefix, nodup_pendingKeys _, ?_, ?_⟩
    · rintro event now rfl
      obtain ⟨-, hcall⟩ := (Transducer.along_concat _).mp hprefix
      obtain ⟨outcomes, houtcomes⟩ := (exists_ingest_iff config).mpr hcall
      rw [assemblerAfter_concat]
      exact reportsEvent_of_ingest houtcomes
    · intro a ha hgone
      rw [assemblerAfter_concat] at hgone
      cases call with
      | ingest event now =>
          -- an asset is evicted only for another one, and is the least recent
          obtain ⟨huntracked, hfull, hrecent⟩ :=
            (trackedAssets_ingest config _ event now).of_evicted (byRecency_after config past)
              ha hgone
          exact ⟨⟨_, rfl, huntracked⟩, hfull, hrecent⟩
      | sweepTimeouts now =>
          refine absurd ha ?_
          rwa [← trackedAssets_sweepTimeouts config now]

end Runs

/-! ## The defect -/

section Unnamed

/-- A reading with an empty event id. -/
def unnamedReading (m : FeatureMeasurement) : AssemblerCall Rat :=
  .ingest { reading "stack-1" stack1_ne_empty 1 m with eventId := "" } 0

/-- The seven readings of one instant, without ids. -/
def unnamedReadings : List (AssemblerCall Rat) := defaultMeasurements.map unnamedReading

/-- The last of seven readings without ids is refused, and its entry closed by no outcome. -/
theorem unnamed_not_meetsPolicy : ¬ ∀ past call rest,
    unnamedReadings = past ++ call :: rest → MeetsPolicy singleAssetConfig past call := by
  intro h
  have hlast := h (unnamedReadings.take 6) (unnamedReading .coolantFlow) [] rfl
  obtain ⟨evicted, own, hresult, -⟩ := hlast.reported _ _ rfl
  have hrefused : ((unnamedReading .coolantFlow).run singleAssetConfig
      (assemblerAfter singleAssetConfig (unnamedReadings.take 6))).2.isOk = false := by
    decide +kernel
  rw [hresult] at hrefused
  contradiction

end Unnamed

end Odis.InferenceWorker
