import Odis.AlertPolicy.RunCharacterisation

/-!
# Rows that are not valid

An `insufficient_data` row breaks the entry evidence of a healthy machine and leaves a confirmed one
as it is. What is said of such rows here compares a run with the run without the row, and with runs
that give it other probabilities.

* `invalidRows_sound`: what a row that is not valid does to a run, and what it does not.
-/

namespace Odis.AlertPolicy

open TrailingRun

section

variable {F : Type} [LE F] [DecidableLE F] {classes : ClassOrder}

/-- Two rows differ at most in the probabilities that are given for a row that is not valid. -/
structure AgreeWhereValid (row row' : AlertRow F classes) : Prop where
  elapsed_eq : row'.elapsed = row.elapsed
  valid_eq : row'.valid = row.valid
  proba_eq : row.valid = true → row'.proba = row.proba

/-- What the rows that are not valid do to a run with the given outcomes. -/
structure InvalidRowsSound (config : StateMachineConfig F) (rows : List (AlertRow F classes))
    (outcomes : List (StepOutcome F)) : Prop where
  /-- No event is emitted on such a row, and the confirmed class stays. -/
  quiet : ∀ i, RowAt rows (fun row => row.valid = false) i → eventAt outcomes i = none ∧
    (machineBefore outcomes (i + 1)).confirmedClass = (machineBefore outcomes i).confirmedClass
  /-- Without such a row, met while a class is confirmed, the outcomes of all others are the
  same. -/
  transparent : ∀ before row after, rows = before ++ row :: after → row.valid = false →
    (machineBefore outcomes before.length).confirmedClass ≠ none →
    runOutcomes config .fresh (before ++ after) = .ok (outcomes.eraseIdx before.length)
  /-- The last `entry_persistence` rows at a new alert are valid and consecutive, and all of them
  are evidence for its class. -/
  consecutive : ∀ i event, eventAt outcomes i = some event → event.eventType = .newAlert →
    config.entryPersistence ≤ i + 1 ∧ ∃ c, event.faultClass = some c ∧
      ∀ j, j ≤ i → i < j + config.entryPersistence →
        RowAt rows (fun row => row.valid = true ∧ row.reading.QualifiesFor config c) j
  /-- Nothing depends on the probabilities that are given for such a row. -/
  unread : ∀ rows', List.Forall₂ AgreeWhereValid rows rows' →
    runOutcomes config .fresh rows' = .ok outcomes

namespace Phase

/-! ## One step -/

/-- A row that is not valid emits nothing and keeps the confirmed class. -/
theorem step_invalid (config : StateMachineConfig F) (φ : Phase) {row : AlertRow F classes}
    (hvalid : row.valid = false) : (φ.step config row).2.2 = none ∧
      (φ.step config row).1.toState.confirmedClass = φ.toState.confirmedClass := by
  cases φ <;> simp [step, hvalid, fresh, toState]

/-- A row that is not valid leaves a confirmed phase as it is. -/
theorem step_invalid_of_confirmed (config : StateMachineConfig F) {φ : Phase}
    {row : AlertRow F classes} (hvalid : row.valid = false)
    (hconfirmed : φ.toState.confirmedClass ≠ none) : (φ.step config row).1 = φ := by
  cases φ with
  | healthy pending => exact absurd rfl hconfirmed
  | confirmed c exitStreak switch => simp [step, hvalid]

/-- A step does not tell rows apart that agree where they are valid. -/
theorem step_congr (config : StateMachineConfig F) (φ : Phase) {row row' : AlertRow F classes}
    (h : AgreeWhereValid row row') : φ.transduce config row = φ.transduce config row' := by
  obtain ⟨helapsed, hvalid, hproba⟩ := h
  have hstep : φ.step config row = φ.step config row' := by
    cases hrow : row.valid with
    | false => cases φ <;> simp [step, hvalid, hrow]
    | true => simp only [step, hvalid, hrow, AlertRow.reading, hproba hrow, helapsed]
  rw [transduce, transduce, hstep]

/-- The entry evidence of a healthy phase is at the end of the rows read, invalid ones included. -/
def PendingAtEnd (config : StateMachineConfig F) (past : List (AlertRow F classes)) :
    Phase → Prop
  | healthy pending => ∀ c k, pending = some (c, k) →
      LastAll k (fun row => row.valid = true ∧ row.reading.QualifiesFor config c) past
  | confirmed .. => True

variable {config : StateMachineConfig F} {past : List (AlertRow F classes)} {φ : Phase}
  {row : AlertRow F classes}

/-- The evidence of a healthy phase extended with a valid row is at the end of the rows read. -/
theorem PendingAtEnd.extendRun {pending : Option (String × ℕ)}
    (h : (healthy pending).PendingAtEnd config past) (hvalid : row.valid = true) {c : String}
    {k : ℕ}
    (hrun : TrailingRun.extendRun (entryLabel config) pending row.reading = some (c, k)) :
    LastAll k (fun row => row.valid = true ∧ row.reading.QualifiesFor config c) (past ++ [row]) :=
  lastAll_of_extendRun (fun row : AlertRow F classes => entryLabel config row.reading)
    (fun _ hlabel => ⟨hvalid, (entryLabel_eq_some_iff ..).mp hlabel⟩) h hrun

/-- A step keeps what is known of the entry streak: the rows that end the past are its evidence. -/
theorem PendingAtEnd.step (h : φ.PendingAtEnd config past) :
    (φ.step config row).1.PendingAtEnd config (past ++ [row]) := by
  cases hvalid : row.valid with
  | false => cases φ <;> simp [Phase.step, hvalid, fresh, PendingAtEnd]
  | true =>
      cases φ with
      | healthy pending =>
          simp only [Phase.step, hvalid, if_true, stepHealthy]
          split
          · trivial
          · exact fun c k hrun => h.extendRun hvalid hrun
      | confirmed c exitStreak switch =>
          simp only [Phase.step, hvalid, if_true, stepConfirmed]
          -- a phase that is left for the healthy one has no evidence yet
          split_ifs
          · simp [fresh, PendingAtEnd]
          · split <;> trivial

/-- A new alert read off a step is the label of complete entry evidence. -/
theorem PendingAtEnd.of_newAlert (h : φ.PendingAtEnd config past) {event : AlertEvent F}
    (hevent : (φ.step config row).2.2 = some event) (htype : event.eventType = .newAlert) :
    ∃ c, event.faultClass = some c ∧ LastAll config.entryPersistence
      (fun row => row.valid = true ∧ row.reading.QualifiesFor config c) (past ++ [row]) := by
  cases hvalid : row.valid with
  | false =>
      rw [(step_invalid config φ hvalid).1] at hevent
      cases hevent
  | true =>
      cases φ with
      -- only a healthy phase raises an alert, and only where its entry streak is complete
      | healthy pending =>
          simp only [Phase.step, hvalid, if_true, stepHealthy] at hevent
          split at hevent
          next c hc =>
            cases hevent
            obtain ⟨k, hrun, hk⟩ := (completed_eq_some_iff ..).mp hc
            exact ⟨c, rfl, (h.extendRun hvalid hrun).mono hk⟩
          · cases hevent
      | confirmed c exitStreak switch =>
          simp only [Phase.step, hvalid, if_true, stepConfirmed] at hevent
          split_ifs at hevent
          · cases hevent
            cases htype
          · split at hevent
            · cases hevent
              cases htype
            · cases hevent

/-! ## Runs -/

/-- After any run from the start, the entry streak is evidence at the end of the rows. -/
theorem pendingAtEnd_after (config : StateMachineConfig F) (rows : List (AlertRow F classes)) :
    (Transducer.after (transduce config) fresh rows).PendingAtEnd config rows := by
  apply Transducer.after_induction
  · intro c k hrun
    cases hrun
  · exact fun past row h => h.step

end Phase

/-- What the rows that are not valid do to a run, whatever its rows are. -/
theorem invalidRows_sound (config : StateMachineConfig F) (rows : List (AlertRow F classes)) :
    ∃ outcomes, runOutcomes config .fresh rows = .ok outcomes ∧
      runStateMachine config (rows.map AlertRow.elapsed) (rows.map AlertRow.proba)
          (some (rows.map AlertRow.valid)) =
        .ok ⟨outcomes.map StepOutcome.rowState, outcomes.filterMap StepOutcome.event⟩ ∧
      InvalidRowsSound config rows outcomes := by
  refine ⟨_, runOutcomes_fresh config rows, runStateMachine_eq config rows, ?_⟩
  constructor
  case quiet =>
    rintro i ⟨hi, hinvalid⟩
    obtain ⟨hevent, hclass⟩ := Phase.step_invalid config
      (Transducer.after (Phase.transduce config) .fresh (rows.take i)) hinvalid
    rw [Phase.eventAt_trace config rows hi, Phase.machineBefore_trace config rows hi]
    refine ⟨hevent, ?_⟩
    rw [machineBefore, Transducer.getElem?_outputs _ _ _ i hi]
    exact hclass
  -- a row that leaves the phase as it is can be left out of the run
  case transparent =>
    rintro before row after rfl hinvalid hconfirmed
    rw [runOutcomes_fresh]
    refine congrArg Except.ok (Transducer.outputs_eraseIdx _ ?_)
    rw [Phase.machineBefore_trace config _ (by simp), List.take_left] at hconfirmed
    exact Phase.step_invalid_of_confirmed config hinvalid hconfirmed
  -- the evidence of a new alert is in the rows right before it, and all of them are valid
  case consecutive =>
    intro i event hevent htype
    have hi : i < rows.length := by
      by_contra hge
      rw [eventAt, List.getElem?_eq_none (by simpa using hge)] at hevent
      cases hevent
    rw [Phase.eventAt_trace config rows hi] at hevent
    obtain ⟨c, hclass, hlast⟩ :=
      (Phase.pendingAtEnd_after config (rows.take i)).of_newAlert hevent htype
    rw [← List.take_succ_eq_append_getElem hi] at hlast
    obtain ⟨hlength, hall⟩ := lastAll_take_iff hi |>.mp hlast
    exact ⟨hlength, c, hclass, hall⟩
  case unread =>
    intro rows' hagree
    rw [runOutcomes_fresh, Transducer.outputs_eq_of_forall₂ _
      (fun φ _ _ h => Phase.step_congr config φ h) hagree]

end

end Odis.AlertPolicy
