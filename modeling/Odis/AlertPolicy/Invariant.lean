import Odis.AlertPolicy.RunCharacterisation

/-!
# The states a machine can be in

The seven fields of `AlertMachineState` overlap, and each `return` of the transition sets all of
them. A machine that started fresh keeps them consistent (`MachineInvariant`), and the events that
it emits follow one another (`EventChain`), whatever rows it reads (`machineSound_after`).
-/

namespace Odis.AlertPolicy

open TrailingRun

section Statements

variable {F : Type}

/-- The fields of a machine that has confirmed no class. -/
structure HealthyFields (config : StateMachineConfig F) (m : AlertMachineState) : Prop where
  exitStreak : m.exitStreak = 0
  switchClass : m.switchClass = none
  switchStreak : m.switchStreak = 0
  pendingClass_iff : m.pendingClass = none ↔ m.pendingStreak = 0
  pendingStreak_lt : m.pendingStreak < config.entryPersistence

/-- The fields of a machine that has confirmed the class `c`. -/
structure ConfirmedFields (config : StateMachineConfig F) (c : String) (m : AlertMachineState) :
    Prop where
  state : m.state = confirmedState c
  ne_healthy : c ≠ healthyState
  pendingClass : m.pendingClass = none
  pendingStreak : m.pendingStreak = 0
  exitStreak_lt : m.exitStreak < config.exitPersistence
  switchClass_iff : m.switchClass = none ↔ m.switchStreak = 0
  switchClass_ne : m.switchClass ≠ some c
  switchStreak_lt : m.switchStreak < config.entryPersistence

/-- The fields of a machine agree: a machine with a confirmed class is in the state of that class,
every other one is in the healthy state. -/
structure MachineInvariant (config : StateMachineConfig F) (m : AlertMachineState) : Prop where
  state_healthy_iff : m.state = healthyState ↔ m.confirmedClass = none
  /-- Without a confirmed class there is no streak but the one of the pending class. -/
  healthy : m.confirmedClass = none → HealthyFields config m
  /-- With one nothing is pending, and no streak is long enough to leave the class. -/
  confirmed : ∀ c, m.confirmedClass = some c → ConfirmedFields config c m

/-- The events that the machine can emit: a fault class is confirmed from the healthy state,
changes to another one, or is cleared back to the healthy state. -/
inductive WellFormedEvent : AlertEvent F → Prop
  | newAlert (elapsed : F) (c : String) (fault : c ≠ healthyState) :
      WellFormedEvent (newAlertEvent elapsed c)
  | classChange (elapsed : F) (c d : String) (fault : d ≠ healthyState) (other : c ≠ d) :
      WellFormedEvent (classChangeEvent elapsed c d)
  | cleared (elapsed : F) (c : String) (fault : c ≠ healthyState) :
      WellFormedEvent (clearedEvent elapsed c)

/-- The events of a log are well formed, and each one starts from the state that the one before it
ends in, the first one from `state`. -/
def EventChain : String → List (AlertEvent F) → Prop
  | _, [] => True
  | state, event :: events =>
      event.fromState = state ∧ WellFormedEvent event ∧ EventChain event.toState events

end Statements

section Steps

variable {F : Type} [LE F] [DecidableLE F] {classes : ClassOrder} {config : StateMachineConfig F}

namespace Phase

/-- A run of evidence in progress has rows, and fewer than confirm its class. -/
def InProgress (persistence : ℕ) (run : Option (String × ℕ)) : Prop :=
  ∀ c n, run = some (c, n) → 1 ≤ n ∧ n < persistence

/-- The streaks of a phase are in progress, and follow other classes than the one confirmed. -/
def Bounded (config : StateMachineConfig F) : Phase → Prop
  | healthy pending => InProgress config.entryPersistence pending
  | confirmed c exitStreak switch =>
      c ≠ healthyState ∧ exitStreak < config.exitPersistence ∧
        InProgress config.entryPersistence switch ∧ ∀ n, switch ≠ some (c, n)

/-- What a row does to the state and the log: without an event the state stays, and an event leads
from the state before the row to the one after it. -/
def Links (before after : Phase) : Option (AlertEvent F) → Prop
  | none => after.toState.state = before.toState.state
  | some event =>
      event.fromState = before.toState.state ∧ WellFormedEvent event ∧
        event.toState = after.toState.state

omit [LE F] [DecidableLE F] in
/-- The fresh phase has no streak to bound. -/
theorem bounded_fresh : fresh.Bounded config := by
  intro c n h
  cases h

omit [LE F] [DecidableLE F] in
/-- A run that is not complete is in progress. -/
theorem inProgress_extendRun {label : RowReading F → Option String} {persistence : ℕ}
    {run : Option (String × ℕ)} {reading : RowReading F}
    (h : completed persistence (extendRun label run reading) = none) :
    InProgress persistence (extendRun label run reading) := by
  intro c n hrun
  have hpos : 1 ≤ n := by
    rw [extendRun] at hrun
    obtain ⟨c', -, heq⟩ := Option.map_eq_some_iff.mp hrun
    cases heq
    exact one_le_continued run c
  refine ⟨hpos, ?_⟩
  rw [hrun, completed_some] at h
  simpa using h

omit [LE F] [DecidableLE F] in
/-- The states that the fields of a bounded phase describe. -/
theorem machineInvariant_toState (hentry : 1 ≤ config.entryPersistence) {φ : Phase}
    (h : φ.Bounded config) : MachineInvariant config φ.toState := by
  -- a phase is healthy or confirmed, with or without a streak, and each of the four is read off its
  -- fields
  cases φ with
  | healthy pending =>
      refine ⟨iff_of_true rfl rfl, fun _ => ?_, ?_⟩
      · cases pending with
        | none => exact ⟨rfl, rfl, rfl, iff_of_true rfl rfl, hentry⟩
        | some run =>
            obtain ⟨hpos, hlt⟩ := h run.1 run.2 rfl
            refine ⟨rfl, rfl, rfl, iff_of_false ?_ ?_, hlt⟩
            · rintro ⟨⟩
            · exact Nat.ne_of_gt hpos
      · rintro c ⟨⟩
  | confirmed c exitStreak switch =>
      obtain ⟨hne, hexit, hswitch, hother⟩ := h
      refine ⟨iff_of_false (confirmedState_ne_healthyState c) ?_, ?_, ?_⟩
      · rintro ⟨⟩
      · rintro ⟨⟩
      · rintro c' ⟨⟩
        cases switch with
        | none =>
            refine ⟨rfl, hne, rfl, rfl, hexit, iff_of_true rfl rfl, ?_, hentry⟩
            rintro ⟨⟩
        | some run =>
            obtain ⟨hpos, hlt⟩ := hswitch run.1 run.2 rfl
            refine ⟨rfl, hne, rfl, rfl, hexit, iff_of_false ?_ ?_, ?_, hlt⟩
            · rintro ⟨⟩
            · exact Nat.ne_of_gt hpos
            · intro hclass
              have hclass : run.1 = c := Option.some.inj hclass
              exact hother run.2 (by rw [← hclass])

/-- A valid row met by a healthy machine. -/
theorem stepHealthy_links (hexit : 1 ≤ config.exitPersistence) (pending : Option (String × ℕ))
    (elapsed : F) (reading : RowReading F) :
    let stepped := stepHealthy config pending elapsed reading
    stepped.1.Bounded config ∧ Links (healthy pending) stepped.1 stepped.2.2 := by
  rw [stepHealthy]
  split
  next c hcompleted =>
    have hlabel := (entryLabel_eq_some_iff _ _ _).mp (label_of_completed_extendRun _ hcompleted)
    have hne : c ≠ healthyState := hlabel.1
    refine ⟨⟨hne, hexit, ?_, ?_⟩, rfl, .newAlert elapsed c hne, rfl⟩
    · rintro d n ⟨⟩
    · rintro n ⟨⟩
  next hrun => exact ⟨inProgress_extendRun hrun, rfl⟩

/-- A valid row met by a machine that has confirmed a class. -/
theorem stepConfirmed_links (hexit : 1 ≤ config.exitPersistence) {c : String}
    (hne : c ≠ healthyState) (exitStreak : ℕ) (switch : Option (String × ℕ)) (elapsed : F)
    (reading : RowReading F) :
    let stepped := stepConfirmed config c exitStreak switch elapsed reading
    stepped.1.Bounded config ∧ Links (confirmed c exitStreak switch) stepped.1 stepped.2.2 := by
  dsimp only [stepConfirmed]
  split_ifs with hcleared
  · exact ⟨bounded_fresh, rfl, .cleared elapsed c hne, rfl⟩
  · split
    next d hcompleted =>
      obtain ⟨hother, hlabel⟩ :=
        (switchLabel_eq_some_iff _ _ _ _).mp (label_of_completed_extendRun _ hcompleted)
      refine ⟨⟨hlabel.1, hexit, ?_, ?_⟩, rfl, .classChange elapsed c d hlabel.1 hother, rfl⟩
      · rintro d n ⟨⟩
      · rintro n ⟨⟩
    next hrun =>
      refine ⟨⟨hne, Nat.lt_of_not_le hcleared, inProgress_extendRun hrun, ?_⟩, rfl⟩
      -- the class that is followed is not the one confirmed
      intro n hswitch
      rw [extendRun] at hswitch
      obtain ⟨d, hlabel, heq⟩ := Option.map_eq_some_iff.mp hswitch
      cases heq
      exact ((switchLabel_eq_some_iff _ _ _ _).mp hlabel).1 rfl

/-- A row keeps the streaks of a phase in progress, and links its event to the states. -/
theorem Bounded.step (hexit : 1 ≤ config.exitPersistence) {φ : Phase} (h : φ.Bounded config)
    (row : AlertRow F classes) :
    (φ.step config row).1.Bounded config ∧ Links φ (φ.step config row).1
    (φ.step config row).2.2 := by
  cases φ with
  | healthy pending =>
      rw [Phase.step]
      split_ifs
      · exact stepHealthy_links hexit pending row.elapsed row.reading
      · exact ⟨bounded_fresh, rfl⟩
  | confirmed c exitStreak switch =>
      rw [Phase.step]
      split_ifs
      · exact stepConfirmed_links hexit h.1 exitStreak switch row.elapsed row.reading
      · exact ⟨h, rfl⟩

/-- The events of a run from a bounded phase follow one another, from its state on. -/
theorem Bounded.eventChain (hexit : 1 ≤ config.exitPersistence) {φ : Phase}
    (h : φ.Bounded config) (rows : List (AlertRow F classes)) :
    EventChain φ.toState.state
      ((Transducer.outputs (transduce config) φ rows).filterMap StepOutcome.event) := by
  induction rows generalizing φ with
  | nil => trivial
  | cons row rows ih =>
      obtain ⟨hnext, hlinks⟩ := h.step hexit row
      have htail := ih hnext
      rw [Transducer.outputs_cons]
      cases hevent : (φ.step config row).2.2 with
      -- a quiet row leaves the state that the next event starts from
      | none =>
          rw [hevent] at hlinks
          have hquiet : ((transduce config φ row).2).event = none := hevent
          rw [List.filterMap_cons_none hquiet, ← hlinks]
          exact htail
      | some event =>
          rw [hevent] at hlinks
          obtain ⟨hfrom, hwell, hto⟩ := hlinks
          have hemits : ((transduce config φ row).2).event = some event := hevent
          rw [List.filterMap_cons_some hemits]
          refine ⟨hfrom, hwell, ?_⟩
          rw [hto]
          exact htail

/-- The phases that a fresh machine reaches are bounded. -/
theorem bounded_after (hexit : 1 ≤ config.exitPersistence) (rows : List (AlertRow F classes)) :
    (Transducer.after (transduce config) fresh rows).Bounded config := by
  let P : List (AlertRow F classes) → Phase → Prop := fun _ φ => φ.Bounded config
  refine Transducer.after_induction _ (P := P) _ bounded_fresh ?_ rows
  intro past row h
  exact (h.step hexit row).1

end Phase

/-- A run over any rows succeeds, in particular its assertion holds; it leaves a machine whose
fields agree, and its events follow one another from the healthy state. -/
theorem machineSound_after (config : StateMachineConfig F) (hentry : 1 ≤ config.entryPersistence)
    (hexit : 1 ≤ config.exitPersistence) (rows : List (AlertRow F classes)) :
    ∃ outcomes, runOutcomes config .fresh rows = .ok outcomes ∧
      runStateMachine config (rows.map AlertRow.elapsed) (rows.map AlertRow.proba)
          (some (rows.map AlertRow.valid)) =
        .ok ⟨outcomes.map StepOutcome.rowState, outcomes.filterMap StepOutcome.event⟩ ∧
      MachineInvariant config (machineAfter outcomes) ∧
      EventChain healthyState (outcomes.filterMap StepOutcome.event) := by
  refine ⟨_, runOutcomes_fresh config rows, runStateMachine_eq config rows, ?_, ?_⟩
  · rw [machineAfter_outputs]
    exact Phase.machineInvariant_toState hentry (Phase.bounded_after hexit rows)
  · exact Phase.bounded_fresh.eventChain hexit rows

end Steps

/-- The invariant in a run with an invalid row between two rows of evidence. -/
theorem machineSound_after_interrupted :
    let config : StateMachineConfig ℕ := ⟨60, 2, 50, 2⟩
    let rows : List (AlertRow ℕ plantAlphaClasses) :=
      [⟨10, ⟨[90, 10, 0, 0], rfl⟩, true⟩, ⟨20, ⟨[0, 0, 0, 0], rfl⟩, false⟩,
        ⟨30, ⟨[70, 20, 10, 0], rfl⟩, true⟩, ⟨40, ⟨[80, 10, 10, 0], rfl⟩, true⟩]
    ∃ outcomes, runOutcomes config .fresh rows = .ok outcomes ∧
      runStateMachine config (rows.map AlertRow.elapsed) (rows.map AlertRow.proba)
          (some (rows.map AlertRow.valid)) =
        .ok ⟨outcomes.map StepOutcome.rowState, outcomes.filterMap StepOutcome.event⟩ ∧
      MachineInvariant config (machineAfter outcomes) ∧
      EventChain healthyState (outcomes.filterMap StepOutcome.event) :=
  machineSound_after _ (by decide) (by decide) _

end Odis.AlertPolicy
