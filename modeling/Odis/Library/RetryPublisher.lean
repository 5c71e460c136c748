import Mathlib.Data.List.Infix
import Mathlib.Data.Nat.Find

/-!
# Publishing with retries

A broker accepts or refuses each attempt to publish a message. A publisher attempts a message again
until it is accepted, up to a number of retries. Whether an attempt is accepted is read off a
stream, by the number of attempts made before it.
-/

namespace RetryPublisher

variable {M : Type*}

/-- A broker as its publisher sees it: the attempts made so far, and the messages accepted, the
oldest first. -/
structure Broker (M : Type*) where
  attempts : ℕ
  log : List M

/-- A broker before the first attempt. -/
def Broker.fresh : Broker M := ⟨0, []⟩

/-- Attempt to publish a message, up to `retries` more times after a refused attempt. Whether it
was accepted is returned. -/
def publish (accepts : ℕ → Bool) (message : M) : ℕ → Broker M → Broker M × Bool
  | 0, broker =>
      if accepts broker.attempts then (⟨broker.attempts + 1, broker.log ++ [message]⟩, true)
      else (⟨broker.attempts + 1, broker.log⟩, false)
  | retries + 1, broker =>
      if accepts broker.attempts then (⟨broker.attempts + 1, broker.log ++ [message]⟩, true)
      else publish accepts message retries ⟨broker.attempts + 1, broker.log⟩

/-- Of the first attempt to publish a message and its retries, which follow `attempts` others, the
one after `refused` of them is the first to be accepted. -/
def AcceptedAt (accepts : ℕ → Bool) (retries attempts refused : ℕ) : Prop :=
  refused ≤ retries ∧ accepts (attempts + refused) = true ∧
    ∀ k < refused, accepts (attempts + k) = false

instance {accepts : ℕ → Bool} {retries attempts refused : ℕ} :
    Decidable (AcceptedAt accepts retries attempts refused) :=
  inferInstanceAs (Decidable (_ ∧ _ ∧ _))

variable {accepts : ℕ → Bool} {message : M} {retries refused : ℕ} {broker : Broker M}

/-- The first attempt is accepted, or it is refused and a retry is accepted. -/
theorem acceptedAt_succ {attempts : ℕ} :
    AcceptedAt accepts (retries + 1) attempts (refused + 1) ↔
      accepts attempts = false ∧ AcceptedAt accepts retries (attempts + 1) refused := by
  unfold AcceptedAt
  rw [Nat.succ_le_succ_iff, Nat.add_right_comm, ← Nat.add_assoc, Nat.forall_lt_succ_left]
  simp only [Nat.add_zero, Nat.add_right_comm attempts _ 1, ← Nat.add_assoc]
  tauto

/-- A message is accepted at one attempt only. -/
theorem AcceptedAt.unique {attempts refused' : ℕ} (h : AcceptedAt accepts retries attempts refused)
    (h' : AcceptedAt accepts retries attempts refused') : refused = refused' := by
  rcases lt_trichotomy refused refused' with hlt | heq | hlt
  · exact absurd (h.2.1.symm.trans (h'.2.2 refused hlt)) (by decide)
  · exact heq
  · exact absurd (h'.2.1.symm.trans (h.2.2 refused' hlt)) (by decide)

/-- Where an attempt is accepted not all are refused. -/
theorem AcceptedAt.not_refused {attempts : ℕ} (h : AcceptedAt accepts retries attempts refused) :
    ¬ ∀ k ≤ retries, accepts (attempts + k) = false :=
  fun hrefused => absurd (h.2.1.symm.trans (hrefused refused h.1)) (by decide)

/-- A message that is accepted is in the log, after as many attempts as it took. -/
theorem publish_of_accepted (h : AcceptedAt accepts retries broker.attempts refused) :
    publish accepts message retries broker =
      (⟨broker.attempts + refused + 1, broker.log ++ [message]⟩, true) := by
  induction retries generalizing broker refused with
  | zero =>
      obtain rfl := Nat.le_zero.mp h.1
      exact if_pos h.2.1
  | succ retries ih =>
      rw [publish]
      cases refused with
      | zero => exact if_pos h.2.1
      | succ refused =>
          obtain ⟨hfirst, hlater⟩ := acceptedAt_succ.mp h
          rw [if_neg (by simp [hfirst]), ih hlater]
          simp only [Nat.add_right_comm, ← Nat.add_assoc]

/-- A message that is refused on all attempts is not in the log. -/
theorem publish_of_refused (h : ∀ k ≤ retries, accepts (broker.attempts + k) = false) :
    publish accepts message retries broker =
      (⟨broker.attempts + retries + 1, broker.log⟩, false) := by
  induction retries generalizing broker with
  | zero => exact if_neg (by simpa using h 0 le_rfl)
  | succ retries ih =>
      have hfirst : accepts broker.attempts = false := h 0 (Nat.zero_le _)
      have hlater (k : ℕ) (hk : k ≤ retries) : accepts (broker.attempts + 1 + k) = false := by
        rw [Nat.add_assoc, Nat.add_comm 1]
        exact h (k + 1) (Nat.succ_le_succ hk)
      rw [publish, if_neg (by simp [hfirst]), ih hlater]
      simp only [Nat.add_assoc, Nat.add_comm 1]

/-- Some attempt is the first to be accepted, or all are refused. -/
theorem exists_acceptedAt_or (accepts : ℕ → Bool) (retries attempts : ℕ) :
    (∃ refused, AcceptedAt accepts retries attempts refused) ∨
      ∀ k ≤ retries, accepts (attempts + k) = false := by
  by_cases h : ∃ k, k ≤ retries ∧ accepts (attempts + k) = true
  · left
    obtain ⟨hle, haccepts⟩ := Nat.find_spec h
    refine ⟨Nat.find h, hle, haccepts, fun k hk => ?_⟩
    simpa using not_and.mp (Nat.find_min h hk) (hk.le.trans hle)
  · right
    push Not at h
    exact fun k hk => by simpa using h k hk

/-- A message whose first attempt is accepted. -/
theorem publish_of_accepts (h : accepts broker.attempts = true) :
    publish accepts message retries broker =
      (⟨broker.attempts + 1, broker.log ++ [message]⟩, true) := by
  cases retries <;> exact if_pos h

/-- A message that was accepted is the last one of the log. -/
theorem log_publish (accepts : ℕ → Bool) (message : M) (retries : ℕ) (broker : Broker M) :
    (publish accepts message retries broker).1.log =
      broker.log ++ if (publish accepts message retries broker).2 then [message] else [] := by
  rcases exists_acceptedAt_or accepts retries broker.attempts with ⟨refused, h⟩ | h
  · simp [publish_of_accepted h]
  · simp [publish_of_refused h]

end RetryPublisher
