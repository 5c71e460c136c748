import Mathlib.Data.List.Induction

/-!
# What a job queue is for

For each asset a queue keeps a slot: nothing outstanding, a job that waits, or a job that runs;
a job that is outstanding may owe a follow-up (`dirty`). A request asks for a run that starts
after it. `serves_of_requested` says that a slot never loses one: as long as no job was claimed
after a request, a job waits for it, or the running job owes a follow-up.
-/

namespace Odis.ReasoningJobs

/-- What is outstanding for an asset. -/
inductive Slot where
  | idle
  | pending (dirty : Bool)
  | running (dirty : Bool)
  deriving DecidableEq, Repr

/-- What happens to a slot. -/
inductive SlotEvent where
  | enqueued
  | claimed
  | finished
  deriving DecidableEq, Repr

namespace Slot

/-- A slot after an event. A request is absorbed by the job that is outstanding, and a job that
absorbed one is followed by another when it finishes. -/
def step : Slot → SlotEvent → Slot
  | idle, .enqueued => pending false
  | pending _, .enqueued => pending true
  | running _, .enqueued => running true
  | pending dirty, .claimed => running dirty
  | running true, .finished => pending false
  | running false, .finished => idle
  -- nothing pending to claim, or nothing running to finish
  | slot, _ => slot

/-- A run that starts later is certain: a job waits, or the running one owes a follow-up. -/
def Serves : Slot → Prop
  | idle => False
  | pending _ => True
  | running dirty => dirty = true

/-- A request is served by the slot it leads to. -/
theorem serves_enqueued (slot : Slot) : (slot.step .enqueued).Serves := by
  cases slot <;> simp [step, Serves]

/-- A job that finishes hands what it serves over to its follow-up. -/
theorem Serves.finished {slot : Slot} (h : slot.Serves) : (slot.step .finished).Serves := by
  cases slot with
  | idle => exact h
  | pending dirty => simp [step, Serves]
  | running dirty =>
      obtain rfl : dirty = true := h
      simp [step, Serves]

end Slot

/-- Some request came after the latest claim. -/
def RequestedSinceClaim (history : List SlotEvent) : Prop :=
  ∃ before after, history = before ++ .enqueued :: after ∧ .claimed ∉ after

/-- No request is lost: a slot serves every request that came after the latest claim. -/
theorem serves_of_requested {history : List SlotEvent} (h : RequestedSinceClaim history)
    (slot : Slot) : (history.foldl Slot.step slot).Serves := by
  obtain ⟨before, after, rfl, hclaim⟩ := h
  rw [List.foldl_append, List.foldl_cons]
  generalize before.foldl Slot.step slot = slot
  -- from the request on, every event is another request or the end of a job
  induction after using List.reverseRecOn with
  | nil => exact slot.serves_enqueued
  | append_singleton after event ih =>
      rw [List.mem_append, not_or] at hclaim
      rw [List.foldl_append, List.foldl_cons, List.foldl_nil]
      cases event with
      | enqueued => exact Slot.serves_enqueued _
      | claimed => simp at hclaim
      | finished => exact (ih hclaim.1).finished

end Odis.ReasoningJobs
