import Odis.AlertPolicy.Phase

/-!
# What a run of the alert machine emits

The counters of the machine are suffix lengths: what a phase carries is the evidence at the end
of the rows read since the last event (`Tracks`). Read by position, this says exactly when each
event is emitted (`runStateMachine_characterised`).
-/

namespace Odis.AlertPolicy

open TrailingRun

section

variable {F : Type}

/-- The event emitted at row `i` of a run, if any. -/
def eventAt (outcomes : List (StepOutcome F)) (i : ℕ) : Option (AlertEvent F) :=
  outcomes[i]?.bind StepOutcome.event

/-- The state of the machine that row `i` of a run meets. -/
def machineBefore (outcomes : List (StepOutcome F)) : ℕ → AlertMachineState
  | 0 => .fresh
  | i + 1 => (outcomes[i]?.map StepOutcome.next).getD .fresh

/-- Row `i` of a run emits an event of one of the given kinds. -/
def EmittedAt (outcomes : List (StepOutcome F)) (kinds : List AlertEventType) (i : ℕ) : Prop :=
  ∃ event, eventAt outcomes i = some event ∧ event.eventType ∈ kinds

/-- The event of an earlier row is not changed by later ones. -/
@[simp]
theorem eventAt_append_left {outcomes more : List (StepOutcome F)} {i : ℕ}
    (h : i < outcomes.length) : eventAt (outcomes ++ more) i = eventAt outcomes i := by
  rw [eventAt, eventAt, List.getElem?_append_left h]

/-- The event of the last row. -/
@[simp]
theorem eventAt_append_length (outcomes : List (StepOutcome F)) (outcome : StepOutcome F) :
    eventAt (outcomes ++ [outcome]) outcomes.length = outcome.event := by
  simp [eventAt]

/-- The event of a row is that of a beginning of the run with this row. -/
theorem eventAt_take {outcomes : List (StepOutcome F)} {i n : ℕ} (h : i < n) :
    eventAt (outcomes.take n) i = eventAt outcomes i := by
  rw [eventAt, eventAt, List.getElem?_take_of_lt h]

/-- Whether an event is emitted at a row does not depend on later rows. -/
theorem emittedAt_append_left {outcomes more : List (StepOutcome F)} {kinds : List AlertEventType}
    {i : ℕ} (h : i < outcomes.length) :
    EmittedAt (outcomes ++ more) kinds i ↔ EmittedAt outcomes kinds i := by
  rw [EmittedAt, EmittedAt, eventAt_append_left h]

/-- Whether a row has an event of some kinds is seen in a beginning of the run with this row. -/
theorem emittedAt_take {outcomes : List (StepOutcome F)} {kinds : List AlertEventType} {i n : ℕ}
    (h : i < n) : EmittedAt (outcomes.take n) kinds i ↔ EmittedAt outcomes kinds i := by
  rw [EmittedAt, EmittedAt, eventAt_take h]

end

section

variable {F : Type} {classes : ClassOrder}

/-- Row `i` of the sequence satisfies `p`. -/
def RowAt (rows : List (AlertRow F classes)) (p : AlertRow F classes → Prop) (i : ℕ) : Prop :=
  ∃ h : i < rows.length, p rows[i]

/-- The last rows up to a position, by position. -/
theorem lastAll_take_iff {rows : List (AlertRow F classes)} {p : AlertRow F classes → Prop}
    {i n : ℕ} (hi : i < rows.length) : LastAll n p (rows.take (i + 1)) ↔
      n ≤ i + 1 ∧ ∀ j, j ≤ i → i < j + n → RowAt rows p j := by
  have hlen : (rows.take (i + 1)).length = i + 1 := by
    rw [List.length_take]
    omega
  have hdrop := lastAll_drop_iff (l := rows.take (i + 1)) (Nat.zero_le _) n p
  rw [List.drop_zero] at hdrop
  rw [hdrop]
  refine and_congr (by omega) ⟨fun hall j hj hjn => ?_, fun hall j hj hjn => ?_⟩
  · have hp := hall j (by omega) (by omega)
    rw [List.getElem_take] at hp
    exact ⟨by omega, hp⟩
  · obtain ⟨_, hp⟩ := hall j (by omega) (by omega)
    rw [List.getElem_take]
    exact hp

/-- Whether a row satisfies a condition is seen in a beginning of the rows with this row. -/
theorem rowAt_take {rows : List (AlertRow F classes)} {p : AlertRow F classes → Prop} {i n : ℕ}
    (h : i < n) : RowAt (rows.take n) p i ↔ RowAt rows p i := by
  simp only [RowAt, List.getElem_take, List.length_take]
  constructor
  · rintro ⟨hi, hp⟩
    exact ⟨by omega, hp⟩
  · rintro ⟨hi, hp⟩
    exact ⟨by omega, hp⟩

end

section

variable {F : Type} [LE F] [DecidableLE F] {classes : ClassOrder}

namespace Phase

/-- What a phase carries is the evidence of the valid rows read since it was entered. -/
def Reads (config : StateMachineConfig F) (since : List (AlertRow F classes)) : Phase → Prop
  | healthy pending => pending = trailingRun (fun row => entryLabel config row.reading) since
  | confirmed c exitStreak switch =>
      exitStreak = trailingCount (fun row => row.reading.HealthyEvidence config) since ∧
        switch = trailingRun (fun row => switchLabel config c row.reading) since

/-- The kinds of event a phase is entered by. -/
def enteredBy : Phase → List AlertEventType
  | healthy _ => [.cleared]
  | confirmed .. => [.newAlert, .classChange]

/-- The fresh phase has read no rows. -/
theorem reads_fresh (config : StateMachineConfig F) :
    fresh.Reads config ([] : List (AlertRow F classes)) := rfl

/-! ## One step -/

/-- The run of entry evidence of a healthy phase, after one more row. -/
theorem extendRun_entryLabel {config : StateMachineConfig F} {pending : Option (String × ℕ)}
    {since : List (AlertRow F classes)} (hreads : (healthy pending).Reads config since)
    (row : AlertRow F classes) :
    extendRun (entryLabel config) pending row.reading =
      trailingRun (fun row => entryLabel config row.reading) (since ++ [row]) := by
  rw [trailingRun_concat, ← hreads]
  rfl

/-- The exit streak of a confirmed phase, after one more row. -/
theorem exitStreak_succ {config : StateMachineConfig F} {c : String} {e : ℕ}
    {switch : Option (String × ℕ)} {since : List (AlertRow F classes)}
    (hreads : (confirmed c e switch).Reads config since) (row : AlertRow F classes) :
    nextExit config e row.reading =
      trailingCount (fun row => row.reading.HealthyEvidence config) (since ++ [row]) := by
  rw [trailingCount_concat, ← hreads.1]
  rfl

/-- The run of switch evidence of a confirmed phase, after one more row. -/
theorem extendRun_switchLabel {config : StateMachineConfig F} {c : String} {e : ℕ}
    {switch : Option (String × ℕ)} {since : List (AlertRow F classes)}
    (hreads : (confirmed c e switch).Reads config since) (row : AlertRow F classes) :
    extendRun (switchLabel config c) switch row.reading =
      trailingRun (fun row => switchLabel config c row.reading) (since ++ [row]) := by
  rw [trailingRun_concat, ← hreads.2]
  rfl

/-- On a valid row a healthy phase goes by the run of entry evidence since it was entered. -/
theorem step_healthy {config : StateMachineConfig F} {pending : Option (String × ℕ)}
    {since : List (AlertRow F classes)} (hreads : (healthy pending).Reads config since)
    {row : AlertRow F classes} (hvalid : row.valid = true) :
    let run := trailingRun (fun row => entryLabel config row.reading) (since ++ [row])
    (healthy pending).step config row =
      match completed config.entryPersistence run with
      | some c => (confirmed c 0 none, confirmedState c, some (newAlertEvent row.elapsed c))
      | none => (healthy run, pendingName run, none) := by
  intro run
  have hrun : extendRun (entryLabel config) pending row.reading = run :=
    extendRun_entryLabel hreads row
  rw [step, if_pos hvalid, ← hrun]
  rfl

/-- On a valid row a confirmed phase goes by the evidence since it was entered. -/
theorem step_confirmed {config : StateMachineConfig F} {c : String} {e : ℕ}
    {switch : Option (String × ℕ)} {since : List (AlertRow F classes)}
    (hreads : (confirmed c e switch).Reads config since)
    {row : AlertRow F classes} (hvalid : row.valid = true) :
    let exitStreak :=
      trailingCount (fun row => row.reading.HealthyEvidence config) (since ++ [row])
    let run := trailingRun (fun row => switchLabel config c row.reading) (since ++ [row])
    (confirmed c e switch).step config row =
      if config.exitPersistence ≤ exitStreak then
        (fresh, healthyState, some (clearedEvent row.elapsed c))
      else
        match completed config.entryPersistence run with
        | some d => (confirmed d 0 none, confirmedState d, some (classChangeEvent row.elapsed c d))
        | none => (confirmed c exitStreak run, confirmedState c, none) := by
  intro exitStreak run
  have hexit : nextExit config e row.reading = exitStreak := exitStreak_succ hreads row
  have hrun : extendRun (switchLabel config c) switch row.reading = run :=
    extendRun_switchLabel hreads row
  rw [step, if_pos hvalid, ← hexit, ← hrun]
  rfl

/-- A step that emits nothing adds its row to the evidence and stays in the phase. -/
theorem step_quiet {config : StateMachineConfig F} {φ : Phase}
    {since : List (AlertRow F classes)} (hreads : φ.Reads config since)
    {row : AlertRow F classes} (hvalid : row.valid = true)
    (hquiet : (φ.step config row).2.2 = none) :
    (φ.step config row).1.Reads config (since ++ [row]) ∧
      (φ.step config row).1.enteredBy = φ.enteredBy := by
  cases φ with
  | healthy pending =>
      rw [step_healthy hreads hvalid] at hquiet ⊢
      split at hquiet
      · cases hquiet
      · exact ⟨rfl, rfl⟩
  | confirmed c e switch =>
      rw [step_confirmed hreads hvalid] at hquiet ⊢
      split_ifs at hquiet ⊢
      split at hquiet
      · cases hquiet
      · exact ⟨⟨rfl, rfl⟩, rfl⟩

/-- A step that emits an event enters the next phase with no evidence. -/
theorem step_event {config : StateMachineConfig F} {φ : Phase}
    {since : List (AlertRow F classes)} (hreads : φ.Reads config since)
    {row : AlertRow F classes} (hvalid : row.valid = true) {event : AlertEvent F}
    (hevent : (φ.step config row).2.2 = some event) :
    (φ.step config row).1.Reads config ([] : List (AlertRow F classes)) ∧
      event.eventType ∈ (φ.step config row).1.enteredBy := by
  cases φ with
  | healthy pending =>
      rw [step_healthy hreads hvalid] at hevent ⊢
      split at hevent
      · cases hevent
        exact ⟨⟨rfl, rfl⟩, by simp [newAlertEvent, enteredBy]⟩
      · cases hevent
  | confirmed c e switch =>
      rw [step_confirmed hreads hvalid] at hevent ⊢
      split_ifs at hevent ⊢
      · cases hevent
        exact ⟨rfl, by simp [clearedEvent, enteredBy, fresh]⟩
      · split at hevent
        · cases hevent
          exact ⟨⟨rfl, rfl⟩, by simp [classChangeEvent, enteredBy]⟩
        · cases hevent

/-- A class is confirmed by a step exactly when the phase is healthy and the rows since it was
entered end with `entry_persistence` rows of evidence for it. -/
theorem emits_newAlert_iff {config : StateMachineConfig F} (hentry : 1 ≤ config.entryPersistence)
    {φ : Phase} {since : List (AlertRow F classes)} (hreads : φ.Reads config since)
    {row : AlertRow F classes} (hvalid : row.valid = true) (c : String) :
    (φ.step config row).2.2 = some (newAlertEvent row.elapsed c) ↔
      φ.toState.state = healthyState ∧
        LastAll config.entryPersistence (fun row => row.reading.QualifiesFor config c)
          (since ++ [row]) := by
  cases φ with
  | healthy pending =>
      simp only [toState_healthy_state, true_and, ← entryLabel_eq_some_iff]
      rw [step_healthy hreads hvalid, ← completed_trailingRun_iff _ hentry]
      split
      · next c' hrun => simp [hrun]
      · next hrun => simp [hrun]
  | confirmed c' e switch =>
      simp only [toState_confirmed_state, confirmedState_ne_healthyState, false_and, iff_false]
      rw [step_confirmed hreads hvalid]
      split_ifs
      · simp
      · split <;> simp

/-- A class is cleared by a step exactly when it is confirmed and the rows since the phase was
entered end with `exit_persistence` rows of healthy evidence. -/
theorem emits_cleared_iff {config : StateMachineConfig F}
    {φ : Phase} {since : List (AlertRow F classes)} (hreads : φ.Reads config since)
    {row : AlertRow F classes} (hvalid : row.valid = true) (c : String) :
    (φ.step config row).2.2 = some (clearedEvent row.elapsed c) ↔
      φ.toState.state = confirmedState c ∧
        LastAll config.exitPersistence (fun row => row.reading.HealthyEvidence config)
          (since ++ [row]) := by
  cases φ with
  | healthy pending =>
      simp only [toState_healthy_state, (confirmedState_ne_healthyState c).symm, false_and,
        iff_false]
      rw [step_healthy hreads hvalid]
      split <;> simp
  | confirmed c' e switch =>
      rw [step_confirmed hreads hvalid, ← le_trailingCount_iff, toState_confirmed_state,
        confirmedState_injective.eq_iff]
      split_ifs with hexit
      · simp [hexit]
      · split <;> simp [hexit]

/-- The class changes in a step exactly when another one is confirmed, it is not cleared, and
the rows since the phase was entered end with `entry_persistence` rows of evidence for the new
class. -/
theorem emits_classChange_iff {config : StateMachineConfig F}
    (hentry : 1 ≤ config.entryPersistence) {φ : Phase} {since : List (AlertRow F classes)}
    (hreads : φ.Reads config since) {row : AlertRow F classes} (hvalid : row.valid = true)
    (c d : String) :
    (φ.step config row).2.2 = some (classChangeEvent row.elapsed c d) ↔
      φ.toState.state = confirmedState c ∧ c ≠ d ∧
        ¬ LastAll config.exitPersistence (fun row => row.reading.HealthyEvidence config)
            (since ++ [row]) ∧
        LastAll config.entryPersistence (fun row => row.reading.QualifiesFor config d)
          (since ++ [row]) := by
  cases φ with
  | healthy pending =>
      simp only [toState_healthy_state, (confirmedState_ne_healthyState c).symm, false_and,
        iff_false]
      rw [step_healthy hreads hvalid]
      split <;> simp
  -- the streaks of the phase are counted from the rows since it was entered
  | confirmed c' e switch =>
      rw [step_confirmed hreads hvalid, ← le_trailingCount_iff, toState_confirmed_state,
        confirmedState_injective.eq_iff]
      -- a complete switch streak is evidence in `entry_persistence` rows at the end
      have hrun : completed config.entryPersistence
            (trailingRun (fun row => switchLabel config c' row.reading) (since ++ [row])) = some d ↔
          c' ≠ d ∧ LastAll config.entryPersistence (fun row => row.reading.QualifiesFor config d)
            (since ++ [row]) := by
        rw [completed_trailingRun_iff _ hentry]
        simp only [switchLabel_eq_some_iff]
        exact lastAll_and_const hentry
      -- a class that is cleared does not change as well
      split_ifs with hexit
      · simp [hexit]
      · split
        · next d' hd' =>
            rw [hd', Option.some.injEq] at hrun
            simp only [Option.some.injEq, classChangeEvent_inj, hrun]
            constructor
            · rintro ⟨rfl, hne, hall⟩
              exact ⟨rfl, hne, hexit, hall⟩
            · rintro ⟨rfl, hne, -, hall⟩
              exact ⟨rfl, hne, hall⟩
        · next hd' =>
            rw [hd'] at hrun
            simp only [reduceCtorEq, false_iff] at hrun ⊢
            rintro ⟨rfl, hne, -, hall⟩
            exact hrun ⟨hne, hall⟩

/-- A step emits at most one of the three events. -/
theorem emits_only {config : StateMachineConfig F} {φ : Phase}
    {since : List (AlertRow F classes)} (hreads : φ.Reads config since)
    {row : AlertRow F classes} (hvalid : row.valid = true) {event : AlertEvent F}
    (hevent : (φ.step config row).2.2 = some event) :
    (∃ c, event = newAlertEvent row.elapsed c) ∨ (∃ c, event = clearedEvent row.elapsed c) ∨
      ∃ c d, event = classChangeEvent row.elapsed c d := by
  cases φ with
  | healthy pending =>
      rw [step_healthy hreads hvalid] at hevent
      split at hevent
      · next c _ => exact .inl ⟨c, (Option.some.inj hevent).symm⟩
      · cases hevent
  | confirmed c e switch =>
      rw [step_confirmed hreads hvalid] at hevent
      split_ifs at hevent
      · exact .inr (.inl ⟨c, (Option.some.inj hevent).symm⟩)
      · split at hevent
        · next d _ => exact .inr (.inr ⟨c, d, (Option.some.inj hevent).symm⟩)
        · cases hevent

/-! ## Runs -/

/-- The outcomes of a fresh machine. -/
abbrev trace (config : StateMachineConfig F) (rows : List (AlertRow F classes)) :
    List (StepOutcome F) :=
  Transducer.outputs (Phase.transduce config) fresh rows

/-- The phase of a machine after the rows read so far: no event was emitted since the row
`b - 1`, the event at that row entered the phase, and the phase carries the evidence of the rows
after it. -/
structure Tracks (config : StateMachineConfig F) (past : List (AlertRow F classes)) (φ : Phase)
    (b : ℕ) : Prop where
  le_length : b ≤ past.length
  quiet : ∀ j, b ≤ j → j < past.length → eventAt (trace config past) j = none
  entered : b = 0 ∨ EmittedAt (trace config past) φ.enteredBy (b - 1)
  reads : φ.Reads config (past.drop b)

/-- The evidence a phase carries is tracked through one more row. -/
theorem Tracks.snoc {config : StateMachineConfig F} {past : List (AlertRow F classes)} {b : ℕ}
    {row : AlertRow F classes}
    (h : Tracks config past (Transducer.after (Phase.transduce config) fresh past) b)
    (hvalid : row.valid = true) :
    ∃ b', Tracks config (past ++ [row])
      (Transducer.after (Phase.transduce config) fresh (past ++ [row])) b' := by
  set φ := Transducer.after (Phase.transduce config) fresh past with hφ
  have hlen : (trace config past).length = past.length := Transducer.length_outputs ..
  -- the trace, the phase and the last event of the longer run, in terms of one step
  have htrace : trace config (past ++ [row]) =
      trace config past ++ [Phase.outcome (φ.step config row)] := by
    rw [trace, Transducer.outputs_append, ← hφ]
    rfl
  have hafter : Transducer.after (Phase.transduce config) fresh (past ++ [row]) =
      (φ.step config row).1 := by
    rw [Transducer.after_append, ← hφ]
    rfl
  have hlast : eventAt (trace config (past ++ [row])) past.length = (φ.step config row).2.2 := by
    rw [htrace, ← hlen, eventAt_append_length]
    rfl
  rw [hafter]
  cases hevent : (φ.step config row).2.2 with
  -- without an event the phase goes on, entered where it was before
  | none =>
      obtain ⟨hreads, hentered⟩ := step_quiet h.reads hvalid hevent
      refine ⟨b, ?_, ?_, ?_, ?_⟩
      · have := h.le_length
        simp only [List.length_append, List.length_singleton]
        omega
      · intro j hbj hj
        rw [List.length_append, List.length_singleton] at hj
        rcases Nat.lt_succ_iff_lt_or_eq.mp hj with hlt | rfl
        · rw [htrace, eventAt_append_left (by omega)]
          exact h.quiet j hbj hlt
        · rw [hlast, hevent]
      · rw [hentered]
        rcases h.entered with hb | hb
        · exact .inl hb
        · by_cases hb0 : b = 0
          · exact .inl hb0
          · have := h.le_length
            rw [htrace, emittedAt_append_left (by omega)]
            exact .inr hb
      · rw [List.drop_append_of_le_length h.le_length]
        exact hreads
  -- with an event a phase is entered after this row, and has read nothing yet
  | some event =>
      obtain ⟨hreads, hmem⟩ := step_event h.reads hvalid hevent
      refine ⟨past.length + 1, ?_, ?_, .inr ⟨event, ?_, hmem⟩, ?_⟩
      · simp
      · intro j hbj hj
        simp only [List.length_append, List.length_singleton] at hj
        omega
      · rw [Nat.add_sub_cancel, hlast, hevent]
      · rw [List.drop_of_length_le (by simp)]
        exact hreads

/-- Over valid rows the evidence a phase carries is tracked from the start. -/
theorem exists_tracks (config : StateMachineConfig F) (past : List (AlertRow F classes))
    (hvalid : ∀ row ∈ past, row.valid = true) :
    ∃ b, Tracks config past (Transducer.after (Phase.transduce config) fresh past) b := by
  induction past using List.reverseRecOn with
  | nil => exact ⟨0, Nat.le_refl 0, by simp, .inl rfl, reads_fresh config⟩
  | append_singleton past row ih =>
      obtain ⟨b, hb⟩ := ih fun r hr => hvalid r (List.mem_append_left _ hr)
      exact hb.snoc (hvalid row (by simp))

/-- The evidence tracked since the phase was entered, by position in the whole run. -/
theorem Tracks.lastAll_iff {config : StateMachineConfig F} {rows : List (AlertRow F classes)}
    {φ : Phase} {i b : ℕ} (hi : i < rows.length) (h : Tracks config (rows.take i) φ b) (n : ℕ)
    (p : AlertRow F classes → Prop) :
    LastAll n p ((rows.take i).drop b ++ [rows[i]]) ↔
      EvidenceWindow n i (EmittedAt (trace config rows) φ.enteredBy) (RowAt rows p) := by
  have hlen : (rows.take i).length = i := by rw [List.length_take]; omega
  have hb : b ≤ i := hlen ▸ h.le_length
  have htrace : trace config (rows.take i) = (trace config rows).take i :=
    Transducer.outputs_take ..
  have hrows : (rows.take i).drop b ++ [rows[i]] = (rows.take (i + 1)).drop b := by
    rw [List.take_succ_eq_append_getElem hi, List.drop_append_of_le_length (by omega)]
  -- the row before the evidence emitted the event that entered the phase, unless the run begins
  -- there
  have hentered : b = 0 ∨ EmittedAt (trace config rows) φ.enteredBy (b - 1) := by
    rcases Nat.eq_zero_or_pos b with hb0 | hbpos
    · exact .inl hb0
    · refine h.entered.imp_right fun hb' => ?_
      rwa [htrace, emittedAt_take (by omega)] at hb'
  -- and no row since then emitted one
  have hquiet : ∀ j, b ≤ j → j < i → ¬ EmittedAt (trace config rows) φ.enteredBy j := by
    rintro j hbj hj ⟨event, hevent, -⟩
    have hnone := h.quiet j hbj (by omega)
    rw [htrace, eventAt_take hj, hevent] at hnone
    cases hnone
  rw [hrows, lastAll_drop_iff_evidenceWindow (by rw [List.length_take]; omega) hb hentered hquiet]
  refine evidenceWindow_congr (fun j _ => Iff.rfl) fun j hj => ?_
  exact rowAt_take (Nat.lt_succ_of_le hj)

/-- The machine a row meets is the state of the phase its predecessors lead to. -/
theorem machineBefore_trace (config : StateMachineConfig F) (rows : List (AlertRow F classes))
    {i : ℕ} (hi : i < rows.length) :
    machineBefore (trace config rows) i =
      (Transducer.after (Phase.transduce config) fresh (rows.take i)).toState := by
  cases i with
  | zero => rfl
  | succ i =>
      rw [machineBefore, trace, Transducer.getElem?_outputs _ _ _ i (by omega),
        List.take_succ_eq_append_getElem (by omega), Transducer.after_append]
      rfl

/-- The event emitted at a row is the event of the step of that phase. -/
theorem eventAt_trace (config : StateMachineConfig F) (rows : List (AlertRow F classes))
    {i : ℕ} (hi : i < rows.length) :
    eventAt (trace config rows) i =
      ((Transducer.after (Phase.transduce config) fresh
        (rows.take i)).step config rows[i]).2.2 := by
  rw [eventAt, trace, Transducer.getElem?_outputs _ _ _ i hi]
  rfl

/-- A healthy phase is entered by clearing an alert. -/
theorem enteredBy_of_healthy {φ : Phase} (h : φ.toState.state = healthyState) :
    φ.enteredBy = [.cleared] := by
  cases φ with
  | healthy pending => rfl
  | confirmed c e switch => simp at h

/-- A confirmed phase is entered by an alert or by a change of the class. -/
theorem enteredBy_of_confirmed {φ : Phase} {c : String}
    (h : φ.toState.state = confirmedState c) : φ.enteredBy = [.newAlert, .classChange] := by
  cases φ with
  | healthy pending => exact absurd h.symm (confirmedState_ne_healthyState c)
  | confirmed c' e switch => rfl

end Phase

/-! ## Exact characterisation -/

/-- What is emitted at row `i` of a sequence of valid rows, whose outcomes are `outcomes`. -/
structure RowCharacterised (config : StateMachineConfig F) (rows : List (AlertRow F classes))
    (outcomes : List (StepOutcome F)) (i : ℕ) (elapsed : F) : Prop where
  /-- A class is confirmed exactly when the machine is healthy and the last
  `entry_persistence` rows, all after the previous clear, are evidence for it. -/
  newAlert : ∀ c, eventAt outcomes i = some (newAlertEvent elapsed c) ↔
    (machineBefore outcomes i).state = healthyState ∧
      EvidenceWindow config.entryPersistence i (EmittedAt outcomes [.cleared])
        (RowAt rows fun row => row.reading.QualifiesFor config c)
  /-- A class is cleared exactly when it is confirmed and the last `exit_persistence` rows, all
  after it was confirmed or changed to, are healthy evidence. -/
  cleared : ∀ c, eventAt outcomes i = some (clearedEvent elapsed c) ↔
    (machineBefore outcomes i).state = confirmedState c ∧
      EvidenceWindow config.exitPersistence i (EmittedAt outcomes [.newAlert, .classChange])
        (RowAt rows fun row => row.reading.HealthyEvidence config)
  /-- The class changes exactly when another one is confirmed, it is not cleared, and the last
  `entry_persistence` rows, all after it was confirmed or changed to, are evidence for the new
  class. -/
  classChange : ∀ c d, eventAt outcomes i = some (classChangeEvent elapsed c d) ↔
    (machineBefore outcomes i).state = confirmedState c ∧ c ≠ d ∧
      ¬ EvidenceWindow config.exitPersistence i (EmittedAt outcomes [.newAlert, .classChange])
          (RowAt rows fun row => row.reading.HealthyEvidence config) ∧
      EvidenceWindow config.entryPersistence i (EmittedAt outcomes [.newAlert, .classChange])
        (RowAt rows fun row => row.reading.QualifiesFor config d)
  /-- There are no other events. -/
  only : ∀ event, eventAt outcomes i = some event →
    (∃ c, event = newAlertEvent elapsed c) ∨ (∃ c, event = clearedEvent elapsed c) ∨
      ∃ c d, event = classChangeEvent elapsed c d

/-- Every row of a fresh run over valid rows is characterised. -/
theorem rowCharacterised_trace {config : StateMachineConfig F}
    (hentry : 1 ≤ config.entryPersistence) {rows : List (AlertRow F classes)}
    (hvalid : ∀ row ∈ rows, row.valid = true) {i : ℕ} (hi : i < rows.length) :
    RowCharacterised config rows (Phase.trace config rows) i rows[i].elapsed := by
  obtain ⟨b, hb⟩ := Phase.exists_tracks config (rows.take i)
    fun row hrow => hvalid row (List.mem_of_mem_take hrow)
  have hrow : rows[i].valid = true := hvalid _ (List.getElem_mem hi)
  -- the phase before the row, and its event, are those of a step of the tracked phase
  have hstate := Phase.machineBefore_trace config rows hi
  have hevent := Phase.eventAt_trace config rows hi
  have hwindow := hb.lastAll_iff hi
  -- each kind of event, from what the step emits and from the window that the phase has read
  constructor
  case newAlert =>
    intro c
    rw [hevent, Phase.emits_newAlert_iff hentry hb.reads hrow, hstate]
    refine and_congr_right fun hφ => ?_
    rw [hwindow, Phase.enteredBy_of_healthy hφ]
  case cleared =>
    intro c
    rw [hevent, Phase.emits_cleared_iff hb.reads hrow, hstate]
    refine and_congr_right fun hφ => ?_
    rw [hwindow, Phase.enteredBy_of_confirmed hφ]
  case classChange =>
    intro c d
    rw [hevent, Phase.emits_classChange_iff hentry hb.reads hrow, hstate]
    refine and_congr_right fun hφ => ?_
    rw [hwindow, hwindow, Phase.enteredBy_of_confirmed hφ]
  case only =>
    intro event h
    exact Phase.emits_only hb.reads hrow (hevent ▸ h)

/-- A run over valid rows succeeds, and every event it emits is characterised by the rows since
the last event of the kind that entered the state: a class is confirmed, cleared or changed
exactly when the last rows all are evidence for it. -/
theorem runStateMachine_characterised (config : StateMachineConfig F)
    (hentry : 1 ≤ config.entryPersistence)
    (rows : List (AlertRow F classes)) (hvalid : ∀ row ∈ rows, row.valid = true) :
    ∃ outcomes, runOutcomes config .fresh rows = .ok outcomes ∧
      outcomes.length = rows.length ∧
      runStateMachine config (rows.map AlertRow.elapsed) (rows.map AlertRow.proba) none =
        .ok ⟨outcomes.map StepOutcome.rowState, outcomes.filterMap StepOutcome.event⟩ ∧
      ∀ i (hi : i < rows.length), RowCharacterised config rows outcomes i rows[i].elapsed := by
  refine ⟨_, runOutcomes_fresh config rows, Transducer.length_outputs .., ?_, ?_⟩
  · rw [runStateMachine_none config hvalid, runStateMachine_eq]
  · exact fun i hi => rowCharacterised_trace hentry hvalid hi

end

/-- The labels of the promoted classifier. -/
def plantAlphaClasses : ClassOrder :=
  ⟨["cooling_degradation", "healthy", "hydrogen_supply_issue", "sensor_anomaly"], by decide⟩

/-- The characterisation of a run that confirms a class at its second row. -/
theorem runStateMachine_characterised_confirmed :
    let config : StateMachineConfig ℕ := ⟨60, 2, 50, 2⟩
    let rows : List (AlertRow ℕ plantAlphaClasses) :=
      [⟨10, ⟨[90, 10, 0, 0], rfl⟩, true⟩, ⟨20, ⟨[70, 20, 10, 0], rfl⟩, true⟩]
    ∃ outcomes, runOutcomes config .fresh rows = .ok outcomes ∧
      outcomes.length = rows.length ∧
      runStateMachine config (rows.map AlertRow.elapsed) (rows.map AlertRow.proba) none =
        .ok ⟨outcomes.map StepOutcome.rowState, outcomes.filterMap StepOutcome.event⟩ ∧
      ∀ i (hi : i < rows.length), RowCharacterised config rows outcomes i rows[i].elapsed :=
  runStateMachine_characterised _ (by decide) _ (by decide)

end Odis.AlertPolicy
