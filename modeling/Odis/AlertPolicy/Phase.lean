import Odis.AlertPolicy.StateMachine
import Odis.Library.TrailingRun
import Odis.Library.Transducer

/-!
# Phases of the alert machine

What the seven fields of `AlertMachineState` stand for. A machine is in one of two phases:
healthy, with the run of fault evidence it is following, or confirmed, with the run of healthy
evidence and the run of evidence for another class. `Phase` has no other value, so the states
the source guards against (a confirmed state without a class, a streak without a class) cannot
be written down; `Phase.toState` lays a phase out in the fields of the source.

* `stepStateMachine_toState`: the transition of the source, on the state of a phase, succeeds and
  is the transition of the phase.
* `runOutcomes_toState`, `runStateMachine_eq`: so is a whole run.
-/

namespace Odis.AlertPolicy

open TrailingRun

/-- The phase of a machine. The runs carry the class followed and the length of the streak. -/
inductive Phase where
  | healthy (pending : Option (String × ℕ))
  | confirmed (faultClass : String) (exitStreak : ℕ) (switch : Option (String × ℕ))
  deriving DecidableEq, Repr

namespace Phase

/-- The phase a machine starts in. -/
def fresh : Phase := .healthy none

/-- The fields of the source for a phase. -/
def toState : Phase → AlertMachineState
  | healthy pending =>
      { state := healthyState
        confirmedClass := none
        pendingClass := pending.map Prod.fst
        pendingStreak := (pending.map Prod.snd).getD 0
        exitStreak := 0
        switchClass := none
        switchStreak := 0 }
  | confirmed faultClass exitStreak switch =>
      { state := confirmedState faultClass
        confirmedClass := some faultClass
        pendingClass := none
        pendingStreak := 0
        exitStreak
        switchClass := switch.map Prod.fst
        switchStreak := (switch.map Prod.snd).getD 0 }

/-- The fresh phase is the fresh state. -/
@[simp]
theorem toState_fresh : fresh.toState = .fresh := rfl

/-- The exit streak of a confirmed phase. -/
@[simp]
theorem toState_exitStreak (c : String) (e : ℕ) (switch : Option (String × ℕ)) :
    (confirmed c e switch).toState.exitStreak = e := rfl

/-- The text of the state in a healthy phase. -/
@[simp]
theorem toState_healthy_state (pending : Option (String × ℕ)) :
    (healthy pending).toState.state = healthyState := rfl

/-- The text of the state in a confirmed phase. -/
@[simp]
theorem toState_confirmed_state (c : String) (e : ℕ) (switch : Option (String × ℕ)) :
    (confirmed c e switch).toState.state = confirmedState c := rfl

end Phase

/-- One input of a run: a row of the sequence, and whether it is valid. -/
structure AlertRow (F : Type) (classes : ClassOrder) where
  elapsed : F
  proba : ProbaRow F classes
  valid : Bool

section

variable {F : Type} [LE F] [DecidableLE F] {classes : ClassOrder}

/-- What the machine reads from a row. -/
def AlertRow.reading (row : AlertRow F classes) : RowReading F := readRow row.proba

/-- A row is evidence for the fault class `c`: it has its largest probability there, and that
probability meets `entry_probability`. -/
def RowReading.QualifiesFor (config : StateMachineConfig F) (c : String)
    (reading : RowReading F) : Prop :=
  c ≠ healthyState ∧ reading.diag = c ∧ config.entryProbability ≤ reading.diagProb

/-- The class a row is entry evidence for. -/
def entryLabel (config : StateMachineConfig F) (reading : RowReading F) : Option String :=
  if reading.Qualifies config then some reading.diag else none

/-- The class a row is switch evidence for, while `confirmedClass` is confirmed. -/
def switchLabel (config : StateMachineConfig F) (confirmedClass : String)
    (reading : RowReading F) : Option String :=
  if reading.diag ≠ confirmedClass ∧ reading.Qualifies config then some reading.diag else none

/-- A row is labelled with the class that it is entry evidence for. -/
@[simp]
theorem entryLabel_eq_some_iff (config : StateMachineConfig F) (reading : RowReading F)
    (c : String) :
    entryLabel config reading = some c ↔ reading.QualifiesFor config c := by
  simp only [RowReading.QualifiesFor, entryLabel, Option.ite_none_right_eq_some, Option.some.injEq]
  constructor
  · rintro ⟨⟨hne, hle⟩, rfl⟩
    exact ⟨hne, rfl, hle⟩
  · rintro ⟨hne, rfl, hle⟩
    exact ⟨⟨hne, hle⟩, rfl⟩

/-- A row is labelled with the class that it is switch evidence for, which is not the confirmed one.
-/
@[simp]
theorem switchLabel_eq_some_iff (config : StateMachineConfig F) (confirmedClass : String)
    (reading : RowReading F) (d : String) :
    switchLabel config confirmedClass reading = some d ↔
      confirmedClass ≠ d ∧ reading.QualifiesFor config d := by
  rw [← entryLabel_eq_some_iff]
  simp only [switchLabel, entryLabel, Option.ite_none_right_eq_some, Option.some.injEq]
  constructor
  · rintro ⟨⟨hne, hq⟩, rfl⟩
    exact ⟨hne.symm, hq, rfl⟩
  · rintro ⟨hne, hq, rfl⟩
    exact ⟨⟨hne.symm, hq⟩, rfl⟩

namespace Phase

/-- How a row is reported while the run `pending` of entry evidence is followed. -/
def pendingName : Option (String × ℕ) → String
  | none => healthyState
  | some (c, _) => pendingState c

/-- The healthy phase after a valid row: the run of entry evidence is followed, and confirms its
class when it reaches `entry_persistence`. -/
def stepHealthy (config : StateMachineConfig F) (pending : Option (String × ℕ)) (elapsed : F)
    (reading : RowReading F) : Phase × String × Option (AlertEvent F) :=
  let pending' := extendRun (entryLabel config) pending reading
  match completed config.entryPersistence pending' with
  | some c => (confirmed c 0 none, confirmedState c, some (newAlertEvent elapsed c))
  | none => (healthy pending', pendingName pending', none)

/-- The exit streak after a valid row. -/
def nextExit (config : StateMachineConfig F) (exitStreak : ℕ) (reading : RowReading F) : ℕ :=
  if reading.HealthyEvidence config then exitStreak + 1 else 0

/-- The confirmed phase after a valid row: a complete run of healthy evidence clears the class,
and otherwise a complete run of evidence for another class replaces it. -/
def stepConfirmed (config : StateMachineConfig F) (faultClass : String) (exitStreak : ℕ)
    (switch : Option (String × ℕ)) (elapsed : F) (reading : RowReading F) :
    Phase × String × Option (AlertEvent F) :=
  let switch' := extendRun (switchLabel config faultClass) switch reading
  if config.exitPersistence ≤ nextExit config exitStreak reading then
    (fresh, healthyState, some (clearedEvent elapsed faultClass))
  else
    match completed config.entryPersistence switch' with
    | some d => (confirmed d 0 none, confirmedState d, some (classChangeEvent elapsed faultClass d))
    | none =>
        (confirmed faultClass (nextExit config exitStreak reading) switch',
          confirmedState faultClass, none)

/-- The transition of a phase on one row. A row that is not valid drops the entry evidence of a
healthy machine and leaves a confirmed one as it is. -/
def step (config : StateMachineConfig F) (φ : Phase) (row : AlertRow F classes) :
    Phase × String × Option (AlertEvent F) :=
  if row.valid then
    match φ with
    | healthy pending => stepHealthy config pending row.elapsed row.reading
    | confirmed c exitStreak switch =>
        stepConfirmed config c exitStreak switch row.elapsed row.reading
  else
    match φ with
    | healthy _ => (fresh, insufficientDataState, none)
    | confirmed .. => (φ, insufficientDataState, none)

/-- The outcome of the source for a transition of a phase. -/
def outcome (result : Phase × String × Option (AlertEvent F)) : StepOutcome F :=
  ⟨result.1.toState, result.2.1, result.2.2⟩

/-- A healthy phase steps as the healthy branch of the source does. -/
theorem stepHealthy_toState (config : StateMachineConfig F) (pending : Option (String × ℕ))
    (elapsed : F) (reading : RowReading F) :
    AlertPolicy.stepHealthy config (healthy pending).toState elapsed reading =
      outcome (stepHealthy config pending elapsed reading) := by
  by_cases hq : reading.Qualifies config
  · rcases pending with _ | ⟨c, k⟩
    · by_cases hn : config.entryPersistence ≤ 1 <;>
        simp [AlertPolicy.stepHealthy, stepHealthy, toState, outcome, extendRun, continued,
          pendingName, entryLabel, hq, hn]
    · by_cases hc : reading.diag = c
      · subst hc
        by_cases hn : config.entryPersistence ≤ k + 1 <;>
          simp [AlertPolicy.stepHealthy, stepHealthy, toState, outcome, extendRun, continued,
            pendingName, entryLabel, hq, hn]
      · by_cases hn : config.entryPersistence ≤ 1 <;>
          simp [AlertPolicy.stepHealthy, stepHealthy, toState, outcome, extendRun, continued,
            pendingName, entryLabel, hq, hn, hc]
  · simp [AlertPolicy.stepHealthy, stepHealthy, toState, outcome, extendRun, pendingName,
      entryLabel, hq]

/-- The streak the source keeps for switch evidence is the run the phase follows. -/
theorem switchStreak_toState (config : StateMachineConfig F) (c : String) (e : ℕ)
    (switch : Option (String × ℕ)) (reading : RowReading F) :
    (if reading.diag ≠ c ∧ reading.Qualifies config then
      (some reading.diag,
        if some reading.diag = (confirmed c e switch).toState.switchClass then
          (confirmed c e switch).toState.switchStreak + 1 else 1)
    else (none, 0)) =
      ((extendRun (switchLabel config c) switch reading).map Prod.fst,
        ((extendRun (switchLabel config c) switch reading).map Prod.snd).getD 0) := by
  by_cases hq : reading.diag ≠ c ∧ reading.Qualifies config
  · rcases switch with _ | ⟨d, k⟩
    · simp [toState, extendRun, switchLabel, continued, hq]
    · by_cases hd : reading.diag = d
      · subst hd
        simp [toState, extendRun, switchLabel, continued, hq]
      · simp [toState, extendRun, switchLabel, continued, hq, hd]
  · simp [extendRun, switchLabel, hq]

/-- A confirmed phase steps as the confirmed branch of the source does. -/
theorem stepConfirmed_toState (config : StateMachineConfig F) (c : String) (e : ℕ)
    (switch : Option (String × ℕ)) (elapsed : F) (reading : RowReading F) :
    AlertPolicy.stepConfirmed config (confirmed c e switch).toState c elapsed reading =
      outcome (stepConfirmed config c e switch elapsed reading) := by
  rw [AlertPolicy.stepConfirmed, switchStreak_toState, stepConfirmed]
  have hnext : (if reading.HealthyEvidence config then
      (confirmed c e switch).toState.exitStreak + 1 else 0) = nextExit config e reading := rfl
  simp only [hnext]
  by_cases hexit : config.exitPersistence ≤ nextExit config e reading
  · simp [outcome, hexit]
  · rcases extendRun (switchLabel config c) switch reading with _ | ⟨d, k⟩
    · simp [toState, outcome, hexit]
    · by_cases hn : config.entryPersistence ≤ k <;> simp [toState, outcome, hexit, hn]

/-- The transition of the source, on the state of a phase, succeeds and is the transition of the
phase. In particular its assertion on the confirmed class holds. -/
theorem stepStateMachine_toState (config : StateMachineConfig F) (φ : Phase)
    (row : AlertRow F classes) :
    stepStateMachine config φ.toState row.elapsed row.proba row.valid =
      .ok (outcome (φ.step config row)) := by
  cases hvalid : row.valid with
  | false => cases φ <;> simp [stepStateMachine, step, stepInvalid, toState, outcome, hvalid, fresh]
  | true =>
      cases φ with
      | healthy pending =>
          simp only [stepStateMachine, step, hvalid, toState_healthy_state, if_true,
            stepHealthy_toState, AlertRow.reading]
      | confirmed c e switch =>
          have hclass : (confirmed c e switch).toState.confirmedClass = some c := rfl
          simp only [stepStateMachine, step, hvalid, toState_confirmed_state, hclass, if_true,
            confirmedState_ne_healthyState, if_false, stepConfirmed_toState,
            AlertRow.reading]

/-- The name a valid row shows for the machine after it. -/
def shownState (m : AlertMachineState) : String :=
  match m.pendingClass with
  | some c => pendingState c
  | none => m.state

/-- A phase is never shown as a lack of data: that is shown of rows that are not valid. -/
theorem shownState_ne_insufficientDataState (φ : Phase) :
    shownState φ.toState ≠ insufficientDataState := by
  cases φ with
  | healthy pending =>
      cases pending with
      | none => decide
      | some run => exact pendingState_ne_insufficientDataState run.1
  | confirmed c exitStreak switch => exact confirmedState_ne_insufficientDataState c

/-- The state a row is reported with is read off the machine after it, unless the row is not
valid. -/
theorem rowState_step (config : StateMachineConfig F) (φ : Phase) (row : AlertRow F classes) :
    (φ.step config row).2.1 =
      if row.valid then shownState (φ.step config row).1.toState else insufficientDataState := by
  cases hvalid : row.valid with
  | false => cases φ <;> simp [step, hvalid]
  | true =>
      cases φ with
      -- a completed streak is reported as confirmed, a streak on its way as suspected
      | healthy pending =>
          simp only [step, hvalid, if_true, stepHealthy]
          cases completed config.entryPersistence
              (extendRun (entryLabel config) pending row.reading) with
          | some c => rfl
          | none => cases extendRun (entryLabel config) pending row.reading <;> rfl
      | confirmed c exitStreak switch =>
          simp only [step, hvalid, if_true, stepConfirmed]
          split_ifs
          · rfl
          · cases completed config.entryPersistence
              (extendRun (switchLabel config c) switch row.reading) <;> rfl

end Phase

/-! ## Runs -/

/-- The outcome of the transition on each row of a run, from the carried state `m`. -/
def runOutcomes (config : StateMachineConfig F) (m : AlertMachineState) :
    List (AlertRow F classes) → Except StepError (List (StepOutcome F))
  | [] => .ok []
  | row :: rows =>
      match stepStateMachine config m row.elapsed row.proba row.valid with
      | .error error => .error error
      | .ok outcome => (runOutcomes config outcome.next rows).map (outcome :: ·)

/-- The phase as a transducer from rows to outcomes. -/
def Phase.transduce (config : StateMachineConfig F) (φ : Phase) (row : AlertRow F classes) :
    Phase × StepOutcome F :=
  ((φ.step config row).1, outcome (φ.step config row))

/-- The outcomes of a run from the state of a phase are those of the phases. In particular every
run succeeds. -/
theorem runOutcomes_toState (config : StateMachineConfig F) (φ : Phase)
    (rows : List (AlertRow F classes)) :
    runOutcomes config φ.toState rows =
      .ok (Transducer.outputs (Phase.transduce config) φ rows) := by
  induction rows generalizing φ with
  | nil => rfl
  | cons row rows ih =>
      have hnext : (Phase.outcome (φ.step config row)).next = (φ.step config row).1.toState := rfl
      rw [runOutcomes, Phase.stepStateMachine_toState]
      simp only [hnext, ih]
      rfl

/-- The states of a run's rows are read off the machine states after them. -/
theorem rowStates_outputs (config : StateMachineConfig F) (φ : Phase)
    (rows : List (AlertRow F classes)) :
    (Transducer.outputs (Phase.transduce config) φ rows).map StepOutcome.rowState =
      List.zipWith
        (fun row outcome =>
          if row.valid then Phase.shownState outcome.next else insufficientDataState)
        rows (Transducer.outputs (Phase.transduce config) φ rows) := by
  induction rows generalizing φ with
  | nil => rfl
  | cons row rows ih =>
      rw [Transducer.outputs_cons, List.map_cons, List.zipWith_cons_cons, ih]
      exact congrArg (· :: _) (Phase.rowState_step config φ row)

/-- The machine after a run. -/
def machineAfter (outcomes : List (StepOutcome F)) : AlertMachineState :=
  (outcomes.getLast?.map StepOutcome.next).getD .fresh

/-- The machine after some outcomes is the phase that the rows lead to. -/
theorem machineAfter_outputs (config : StateMachineConfig F) (rows : List (AlertRow F classes)) :
    machineAfter (Transducer.outputs (Phase.transduce config) .fresh rows) =
      (Transducer.after (Phase.transduce config) .fresh rows).toState := by
  induction rows using List.reverseRecOn with
  | nil => rfl
  | append_singleton rows row _ =>
      simp [machineAfter, Phase.transduce, Phase.outcome]

/-- The row-by-row loop of the source is the list of its outcomes, read off. -/
theorem runLoop_eq (config : StateMachineConfig F) (m : AlertMachineState)
    (rows : List (AlertRow F classes)) :
    runLoop config m (rows.map AlertRow.elapsed) (rows.map AlertRow.proba)
        (rows.map AlertRow.valid) =
      match runOutcomes config m rows with
      | .error error => .error (.step error)
      | .ok outcomes =>
          .ok ⟨outcomes.map StepOutcome.rowState, outcomes.filterMap StepOutcome.event⟩ := by
  induction rows generalizing m with
  | nil => rfl
  | cons row rows ih =>
      simp only [List.map_cons, runLoop, runOutcomes]
      cases stepStateMachine config m row.elapsed row.proba row.valid with
      | error error => rfl
      | ok outcome =>
          simp only [ih]
          cases runOutcomes config outcome.next rows with
          | error error => rfl
          | ok outcomes =>
              cases hevent : outcome.event <;>
                simp [Except.map, hevent]

/-- A run from a fresh machine succeeds, with the outcomes of the phases. -/
theorem runOutcomes_fresh (config : StateMachineConfig F) (rows : List (AlertRow F classes)) :
    runOutcomes config .fresh rows =
      .ok (Transducer.outputs (Phase.transduce config) .fresh rows) := by
  rw [← Phase.toState_fresh, runOutcomes_toState]

/-- `run_state_machine` returns what the outcomes say. -/
theorem runStateMachine_eq (config : StateMachineConfig F) (rows : List (AlertRow F classes)) :
    runStateMachine config (rows.map AlertRow.elapsed) (rows.map AlertRow.proba)
        (some (rows.map AlertRow.valid)) =
      .ok ⟨(Transducer.outputs (Phase.transduce config) .fresh rows).map StepOutcome.rowState,
        (Transducer.outputs (Phase.transduce config) .fresh rows).filterMap StepOutcome.event⟩ := by
  rw [runStateMachine, Option.getD_some, runLoop_eq, runOutcomes_fresh]

/-- Only a row that is not valid is reported with insufficient data. -/
theorem rowState_ne_insufficientDataState (config : StateMachineConfig F) (φ : Phase)
    {rows : List (AlertRow F classes)} (hvalid : ∀ row ∈ rows, row.valid = true) :
    ∀ outcome ∈ Transducer.outputs (Phase.transduce config) φ rows,
      outcome.rowState ≠ insufficientDataState := by
  induction rows generalizing φ with
  | nil =>
      intro outcome houtcome
      cases houtcome
  | cons row rows ih =>
      rw [Transducer.outputs_cons, List.forall_mem_cons]
      refine ⟨?_, ih _ fun row' hrow' => hvalid row' (List.mem_cons_of_mem row hrow')⟩
      show (φ.step config row).2.1 ≠ insufficientDataState
      rw [Phase.rowState_step, if_pos (hvalid row List.mem_cons_self)]
      exact Phase.shownState_ne_insufficientDataState _

/-- Without a mask every row is valid. -/
theorem runStateMachine_none (config : StateMachineConfig F) {rows : List (AlertRow F classes)}
    (hvalid : ∀ row ∈ rows, row.valid = true) :
    runStateMachine config (rows.map AlertRow.elapsed) (rows.map AlertRow.proba) none =
      runStateMachine config (rows.map AlertRow.elapsed) (rows.map AlertRow.proba)
        (some (rows.map AlertRow.valid)) := by
  have hmask : List.replicate (rows.map AlertRow.proba).length true = rows.map AlertRow.valid := by
    symm
    rw [List.length_map, List.eq_replicate_iff]
    exact ⟨by simp, by simpa using hvalid⟩
  rw [runStateMachine, runStateMachine, Option.getD_none, hmask, Option.getD_some]

end

end Odis.AlertPolicy
