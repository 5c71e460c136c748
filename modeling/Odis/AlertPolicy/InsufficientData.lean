import Odis.AlertPolicy.RunCharacterisation

/-!
# Insufficient data and class changes

A row that is not valid leaves a confirmed machine as it is, its switch streak included. The rows
of a streak are then all of one kind and may still be apart: a streak that was begun before an
invalid row is continued after it (`classChange_bridged`). They are consecutive in every run in
which no invalid row is met during a switch streak (`classChange_consecutive`).
-/

namespace Odis.AlertPolicy

open TrailingRun

section

variable {F : Type} [LE F] [DecidableLE F] {classes : ClassOrder}

/-- Every class change at a row has the last `entry_persistence` rows valid and evidence for the
new class, so no `insufficient_data` row is among them. -/
def ClassChangesConsecutive (config : StateMachineConfig F) (rows : List (AlertRow F classes))
    (outcomes : List (StepOutcome F)) : Prop :=
  ∀ i event d, eventAt outcomes i = some event → event.eventType = .classChange →
    event.faultClass = some d → config.entryPersistence ≤ i + 1 ∧
      ∀ j, j ≤ i → i < j + config.entryPersistence →
        RowAt rows (fun row => row.valid = true ∧ row.reading.QualifiesFor config d) j

/-- No row that is not valid is met while a switch streak is in progress. -/
def NoGapInSwitchStreak (rows : List (AlertRow F classes)) (outcomes : List (StepOutcome F)) :
    Prop :=
  ∀ i, RowAt rows (fun row => row.valid = false) i → (machineBefore outcomes i).switchClass = none

namespace Phase

/-- The switch streak of a phase is at the end of the rows read, invalid ones included. -/
def SwitchAtEnd (config : StateMachineConfig F) (past : List (AlertRow F classes)) :
    Phase → Prop
  | healthy _ => True
  | confirmed _ _ switch => ∀ d k, switch = some (d, k) →
      LastAll k (fun row => row.valid = true ∧ row.reading.QualifiesFor config d) past

/-- The streak of a confirmed phase extended with a valid row is at the end of the rows read. -/
theorem SwitchAtEnd.extendRun {config : StateMachineConfig F} {past : List (AlertRow F classes)}
    {c : String} {e : ℕ} {switch : Option (String × ℕ)}
    (h : (confirmed c e switch).SwitchAtEnd config past) {row : AlertRow F classes}
    (hvalid : row.valid = true) {d : String} {k : ℕ}
    (hrun : TrailingRun.extendRun (switchLabel config c) switch row.reading = some (d, k)) :
    LastAll k (fun row => row.valid = true ∧ row.reading.QualifiesFor config d) (past ++ [row]) :=
  lastAll_of_extendRun (fun row : AlertRow F classes => switchLabel config c row.reading)
    (fun _ hlabel => ⟨hvalid, ((switchLabel_eq_some_iff ..).mp hlabel).2⟩) h hrun

/-- One step keeps the streak at the end of the rows read, unless it reads an invalid row during
the streak. -/
theorem SwitchAtEnd.step {config : StateMachineConfig F} {past : List (AlertRow F classes)}
    {φ : Phase} (h : φ.SwitchAtEnd config past) {row : AlertRow F classes}
    (hgap : row.valid = false → φ.toState.switchClass = none) :
    (φ.step config row).1.SwitchAtEnd config (past ++ [row]) := by
  cases hvalid : row.valid with
  | false =>
      cases φ with
      -- a machine that has confirmed nothing has no switch streak
      | healthy pending => simp [Phase.step, hvalid, fresh, SwitchAtEnd]
      | confirmed c e switch =>
          -- the streak would be kept across the invalid row, but there is none
          have hnone : switch = none := Option.map_eq_none_iff.mp (hgap hvalid)
          simp [Phase.step, hvalid, hnone, SwitchAtEnd]
  | true =>
      cases φ with
      | healthy pending =>
          simp only [Phase.step, hvalid, if_true, stepHealthy]
          split <;> simp [SwitchAtEnd]
      | confirmed c e switch =>
          simp only [Phase.step, hvalid, if_true, stepConfirmed]
          split_ifs
          · trivial
          · split
            · simp [SwitchAtEnd]
            -- the streak goes on, and the row is its last one
            · exact fun d k hrun => h.extendRun hvalid hrun

/-- A class change read off a step is the label of a complete switch streak. -/
theorem SwitchAtEnd.of_classChange {config : StateMachineConfig F}
    {past : List (AlertRow F classes)} {φ : Phase} (h : φ.SwitchAtEnd config past)
    {row : AlertRow F classes} {event : AlertEvent F}
    (hevent : (φ.step config row).2.2 = some event) (htype : event.eventType = .classChange)
    {d : String} (hclass : event.faultClass = some d) :
    LastAll config.entryPersistence
      (fun row => row.valid = true ∧ row.reading.QualifiesFor config d) (past ++ [row]) := by
  -- a row that is not valid has no event
  cases hvalid : row.valid with
  | false => cases φ <;> simp [Phase.step, hvalid] at hevent
  | true =>
      cases φ with
      | healthy pending =>
          simp only [Phase.step, hvalid, if_true, stepHealthy] at hevent
          split at hevent
          · cases hevent
            cases htype
          · cases hevent
      -- only a confirmed phase changes its class, and only where its switch streak is complete
      | confirmed c e switch =>
          simp only [Phase.step, hvalid, if_true, stepConfirmed] at hevent
          split_ifs at hevent
          · cases hevent
            cases htype
          · split at hevent
            · next d' hd' =>
                cases hevent
                cases hclass
                obtain ⟨k, hrun, hk⟩ := (completed_eq_some_iff ..).mp hd'
                exact (h.extendRun hvalid hrun).mono hk
            · cases hevent

/-- In a run that meets no invalid row during a switch streak, the streak is always at the end of
the rows read. -/
theorem switchAtEnd_after (config : StateMachineConfig F) (rows : List (AlertRow F classes))
    (hgap : NoGapInSwitchStreak rows (trace config rows)) {i : ℕ} (hi : i ≤ rows.length) :
    (Transducer.after (transduce config) fresh (rows.take i)).SwitchAtEnd config
      (rows.take i) := by
  induction i with
  | zero => trivial
  | succ i ih =>
      rw [List.take_succ_eq_append_getElem (by omega), Transducer.after_append]
      refine (ih (by omega)).step fun hvalid => ?_
      rw [← machineBefore_trace config rows (by omega)]
      exact hgap i ⟨by omega, hvalid⟩

end Phase

/-- In every run that meets no invalid row during a switch streak, the rows behind a class change
are valid and consecutive. -/
theorem classChange_consecutive (config : StateMachineConfig F) (rows : List (AlertRow F classes))
    (outcomes : List (StepOutcome F)) (hrun : runOutcomes config .fresh rows = .ok outcomes)
    (hgap : NoGapInSwitchStreak rows outcomes) :
    ClassChangesConsecutive config rows outcomes := by
  obtain rfl : Phase.trace config rows = outcomes := by
    rw [← Phase.toState_fresh, runOutcomes_toState] at hrun
    exact Except.ok.inj hrun
  intro i event d hevent htype hclass
  have hi : i < rows.length := by
    by_contra hge
    rw [eventAt, List.getElem?_eq_none (by simpa using hge)] at hevent
    cases hevent
  rw [Phase.eventAt_trace config rows hi] at hevent
  have hlast := (Phase.switchAtEnd_after config rows hgap (Nat.le_of_lt hi)).of_classChange
    hevent htype hclass
  rw [← List.take_succ_eq_append_getElem hi] at hlast
  exact (lastAll_take_iff hi).mp hlast

end

/-- Two rows of hydrogen evidence after an `insufficient_data` row. -/
def unbridgedRows : List (AlertRow ℕ plantAlphaClasses) :=
  [⟨10, ⟨[90, 10, 0, 0], rfl⟩, true⟩, ⟨20, ⟨[90, 10, 0, 0], rfl⟩, true⟩,
    ⟨30, ⟨[0, 0, 0, 0], rfl⟩, false⟩, ⟨40, ⟨[0, 10, 90, 0], rfl⟩, true⟩,
    ⟨50, ⟨[0, 10, 90, 0], rfl⟩, true⟩]

/-- The class change of a run that meets its invalid row outside a switch streak. -/
theorem classChange_consecutive_unbridged :
    let config : StateMachineConfig ℕ := ⟨60, 2, 50, 2⟩
    ∃ outcomes, runOutcomes config .fresh unbridgedRows = .ok outcomes ∧
      eventAt outcomes 4 =
        some (classChangeEvent 50 "cooling_degradation" "hydrogen_supply_issue") ∧
      ClassChangesConsecutive config unbridgedRows outcomes := by
  intro config
  have hrun := runOutcomes_toState config .fresh unbridgedRows
  refine ⟨_, hrun, by decide +kernel, classChange_consecutive _ _ _ hrun ?_⟩
  rintro i ⟨hi, hinvalid⟩
  match i, hi with
  | 2, _ => decide +kernel
  | 0, _ | 1, _ | 3, _ | 4, _ => cases hinvalid

/-- Two rows of hydrogen evidence with an `insufficient_data` row between them. -/
def bridgedRows : List (AlertRow ℕ plantAlphaClasses) :=
  [⟨10, ⟨[90, 10, 0, 0], rfl⟩, true⟩, ⟨20, ⟨[90, 10, 0, 0], rfl⟩, true⟩,
    ⟨30, ⟨[0, 10, 90, 0], rfl⟩, true⟩, ⟨40, ⟨[0, 0, 0, 0], rfl⟩, false⟩,
    ⟨50, ⟨[0, 10, 90, 0], rfl⟩, true⟩]

/-- The class of a machine that asks for two consecutive rows of evidence changes on two that
have an `insufficient_data` row between them. -/
theorem classChange_bridged :
    let config : StateMachineConfig ℕ := ⟨60, 2, 50, 2⟩
    1 ≤ config.entryPersistence ∧
    ∃ outcomes, runOutcomes config .fresh bridgedRows = .ok outcomes ∧
      eventAt outcomes 4 =
        some (classChangeEvent 50 "cooling_degradation" "hydrogen_supply_issue") ∧
      ¬ ClassChangesConsecutive config bridgedRows outcomes := by
  intro config
  have hevent : eventAt (Phase.trace config bridgedRows) 4 =
      some (classChangeEvent 50 "cooling_degradation" "hydrogen_supply_issue") := by
    decide +kernel
  refine ⟨by decide, _, runOutcomes_toState config .fresh bridgedRows, hevent, fun h => ?_⟩
  obtain ⟨-, hrows⟩ := h 4 _ _ hevent rfl rfl
  obtain ⟨_, hvalid, _⟩ := hrows 3 (by decide) (by decide)
  cases hvalid

end Odis.AlertPolicy
