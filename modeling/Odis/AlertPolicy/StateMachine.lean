import Mathlib.Data.List.Basic

/-!
# Alert-policy state machine

The hysteresis state machine of `alert_policy/state_machine.py`: the seven-field state a caller
carries from row to row (`AlertMachineState`), the transition on one row
(`stepStateMachine`), and the loop over a whole row sequence (`runStateMachine`).

Probabilities are compared and never computed with here, so they range over any type with a
decidable `≤`; in particular nothing is assumed of `≤` and a `nan` (a value not `≤` itself) is
allowed. `argmax` follows NumPy on such values.
-/

namespace Odis.AlertPolicy

/-- `HEALTHY_LABEL`, also the name of the healthy state. -/
def healthyState : String := "healthy"

/-- The row state of a row the machine cannot trust. -/
def insufficientDataState : String := "insufficient_data"

/-- `_confirmed_state`: `f"confirmed_{fault_class}"`. -/
def confirmedState (faultClass : String) : String := "confirmed_" ++ faultClass

/-- `_pending_state`: `f"pending_{fault_class}"`. -/
def pendingState (faultClass : String) : String := "pending_" ++ faultClass

/-- A confirmed state never reads as the healthy state. -/
@[simp]
theorem confirmedState_ne_healthyState (c : String) : confirmedState c ≠ healthyState := by
  intro h
  have hhead := congrArg (fun s : String => s.toList.head?) h
  simp [confirmedState, healthyState, String.toList_append] at hhead

/-- Neither a confirmed nor a pending state reads as the one of insufficient data. -/
theorem confirmedState_ne_insufficientDataState (c : String) :
    confirmedState c ≠ insufficientDataState := by
  intro h
  have hhead := congrArg (fun s : String => s.toList.head?) h
  simp [confirmedState, insufficientDataState, String.toList_append] at hhead

/-- The text of a pending class is not that of a lack of data. -/
theorem pendingState_ne_insufficientDataState (c : String) :
    pendingState c ≠ insufficientDataState := by
  intro h
  have hhead := congrArg (fun s : String => s.toList.head?) h
  simp [pendingState, insufficientDataState, String.toList_append] at hhead

/-- The text of a confirmed class tells the class. -/
theorem confirmedState_injective : Function.Injective confirmedState := by
  intro c d h
  have hlist := congrArg String.toList h
  simp only [confirmedState, String.toList_append, List.append_right_inj] at hlist
  exact String.toList_injective hlist

/-- The class labels of a fitted classifier, in the order of its probability columns. The
machine looks its healthy column up by name, so the healthy label is one of them. -/
structure ClassOrder where
  /-- The labels, one per probability column. -/
  labels : List String
  /-- `classes.index(HEALTHY_STATE)` succeeds. -/
  healthy_mem : healthyState ∈ labels

namespace ClassOrder

/-- There is a class, the healthy one. -/
theorem length_pos (classes : ClassOrder) : 0 < classes.labels.length :=
  List.length_pos_of_mem classes.healthy_mem

/-- `classes.index(HEALTHY_STATE)`: the position of the first healthy label. -/
def healthyIndex (classes : ClassOrder) : Fin classes.labels.length :=
  ⟨classes.labels.idxOf healthyState, List.idxOf_lt_length_of_mem classes.healthy_mem⟩

end ClassOrder

/-- One row of `predict_proba`: a probability for each class. -/
abbrev ProbaRow (F : Type) (classes : ClassOrder) : Type :=
  { row : List F // row.length = classes.labels.length }

/-- The thresholds that the machine goes by, two for the evidence and two for how long it has to
last. -/
structure StateMachineConfig (F : Type) where
  /-- Probability a non-healthy argmax needs to count as entry or switch evidence. -/
  entryProbability : F
  /-- Consecutive qualifying rows that confirm (or switch to) a class. -/
  entryPersistence : ℕ
  /-- Probability of the healthy class that counts as exit evidence. -/
  healthyExitProbability : F
  /-- Consecutive exit rows that clear a confirmed class. -/
  exitPersistence : ℕ
  deriving DecidableEq

/-- The three kinds of alert event. -/
inductive AlertEventType where
  | newAlert
  | classChange
  | cleared
  deriving DecidableEq, Repr

/-- The text of an event type in its JSON form. -/
def AlertEventType.value : AlertEventType → String
  | newAlert => "new_alert"
  | classChange => "class_change"
  | cleared => "cleared"

/-- An alert event, emitted on the row whose evidence completes it. -/
structure AlertEvent (F : Type) where
  elapsedSimSeconds : F
  eventType : AlertEventType
  fromState : String
  toState : String
  /-- The class entered (`newAlert`, `classChange`) or left (`cleared`). -/
  faultClass : Option String
  deriving DecidableEq

/-- The event emitted when the class `c` is confirmed from the healthy state. -/
def newAlertEvent {F : Type} (elapsed : F) (c : String) : AlertEvent F :=
  ⟨elapsed, .newAlert, healthyState, confirmedState c, some c⟩

/-- The event emitted when the confirmed class changes from `c` to `d`. -/
def classChangeEvent {F : Type} (elapsed : F) (c d : String) : AlertEvent F :=
  ⟨elapsed, .classChange, confirmedState c, confirmedState d, some d⟩

/-- The event emitted when the confirmed class `c` is cleared. -/
def clearedEvent {F : Type} (elapsed : F) (c : String) : AlertEvent F :=
  ⟨elapsed, .cleared, confirmedState c, healthyState, some c⟩

section Events

variable {F : Type} {elapsed : F} {c c' d d' : String}

/-- A new alert tells its class. -/
@[simp]
theorem newAlertEvent_inj : newAlertEvent elapsed c = newAlertEvent elapsed c' ↔ c = c' := by
  constructor
  · intro h
    injection h with _ _ _ _ hclass
    exact Option.some.inj hclass
  · rintro rfl
    rfl

/-- A cleared alert tells its class. -/
@[simp]
theorem clearedEvent_inj : clearedEvent elapsed c = clearedEvent elapsed c' ↔ c = c' := by
  constructor
  · intro h
    injection h with _ _ _ _ hclass
    exact Option.some.inj hclass
  · rintro rfl
    rfl

/-- A change of the class tells both classes. -/
@[simp]
theorem classChangeEvent_inj :
    classChangeEvent elapsed c d = classChangeEvent elapsed c' d' ↔ c = c' ∧ d = d' := by
  constructor
  · intro h
    injection h with _ _ hfrom _ hclass
    exact ⟨confirmedState_injective hfrom, Option.some.inj hclass⟩
  · rintro ⟨rfl, rfl⟩
    rfl

@[simp]
theorem newAlertEvent_ne_clearedEvent : newAlertEvent elapsed c ≠ clearedEvent elapsed d := by
  simp [newAlertEvent, clearedEvent]

@[simp]
theorem newAlertEvent_ne_classChangeEvent :
    newAlertEvent elapsed c ≠ classChangeEvent elapsed d d' := by
  simp [newAlertEvent, classChangeEvent]

@[simp]
theorem clearedEvent_ne_classChangeEvent :
    clearedEvent elapsed c ≠ classChangeEvent elapsed d d' := by
  simp [clearedEvent, classChangeEvent]

@[simp]
theorem clearedEvent_ne_newAlertEvent : clearedEvent elapsed c ≠ newAlertEvent elapsed d :=
  newAlertEvent_ne_clearedEvent.symm

@[simp]
theorem classChangeEvent_ne_newAlertEvent :
    classChangeEvent elapsed c c' ≠ newAlertEvent elapsed d :=
  newAlertEvent_ne_classChangeEvent.symm

@[simp]
theorem classChangeEvent_ne_clearedEvent :
    classChangeEvent elapsed c c' ≠ clearedEvent elapsed d :=
  clearedEvent_ne_classChangeEvent.symm

end Events

/-- Every value the transition reads and writes between rows. -/
structure AlertMachineState where
  state : String
  confirmedClass : Option String
  pendingClass : Option String
  pendingStreak : ℕ
  exitStreak : ℕ
  switchClass : Option String
  switchStreak : ℕ
  deriving DecidableEq, Repr

/-- The fresh-start state `AlertMachineState()`. -/
def AlertMachineState.fresh : AlertMachineState :=
  ⟨healthyState, none, none, 0, 0, none, 0⟩

/-- What one call of the transition returns: the next state, the state the row is reported
with, and the event emitted, if any. -/
structure StepOutcome (F : Type) where
  next : AlertMachineState
  rowState : String
  event : Option (AlertEvent F)
  deriving DecidableEq

/-- `assert m.confirmed_class is not None` failed. -/
inductive StepError where
  | assertionError
  deriving DecidableEq, Repr

section Reading

variable {F : Type} [LE F] [DecidableLE F]

/-- The scan of `np.argmax` after the entries before position `i`: `best` is the largest so far,
at position `bestIndex`. A `nan` replaces any best value and ends the scan. -/
def argmaxFrom (best : F) (bestIndex i : ℕ) : List F → ℕ
  | [] => bestIndex
  | x :: row =>
      if x ≤ best then argmaxFrom best bestIndex (i + 1) row
      else if x ≤ x then argmaxFrom x i (i + 1) row
      else i

/-- `np.argmax`: the first position of the largest entry, or of the first `nan`. -/
def argmax : List F → ℕ
  | [] => 0
  | x :: row => if x ≤ x then argmaxFrom x 0 1 row else 0

/-- The index of the greatest entry is that of an entry, the one found so far or a later one. -/
theorem argmaxFrom_lt (row : List F) (best : F) (bestIndex i : ℕ) (h : bestIndex < i) :
    argmaxFrom best bestIndex i row < i + row.length := by
  induction row generalizing best bestIndex i with
  | nil => simpa [argmaxFrom] using h
  | cons x row ih =>
      have hlen : i + (x :: row).length = i + 1 + row.length := by
        rw [List.length_cons]; omega
      rw [argmaxFrom, hlen]
      split_ifs
      · exact ih best bestIndex (i + 1) (by omega)
      · exact ih x i (i + 1) (by omega)
      · omega

/-- The index of the greatest probability is that of a class. -/
theorem argmax_lt {row : List F} (h : 0 < row.length) : argmax row < row.length := by
  cases row with
  | nil => simp at h
  | cons x row =>
      have hscan := argmaxFrom_lt row x 0 1 Nat.one_pos
      rw [argmax, List.length_cons]
      split_ifs <;> omega

/-- What the transition reads from a row: the diagnosis, its probability, and the probability of
the healthy class. -/
structure RowReading (F : Type) where
  diag : String
  diagProb : F
  healthyProb : F
  deriving DecidableEq

variable {classes : ClassOrder}

/-- The diagnosis of a row is the label of its largest probability. -/
def readRow (proba : ProbaRow F classes) : RowReading F :=
  have hdiag : argmax proba.val < proba.val.length :=
    argmax_lt (by rw [proba.property]; exact classes.length_pos)
  { diag := classes.labels.get ⟨argmax proba.val, Nat.lt_of_lt_of_eq hdiag proba.property⟩
    diagProb := proba.val.get ⟨argmax proba.val, hdiag⟩
    healthyProb := proba.val.get (classes.healthyIndex.cast proba.property.symm) }

/-- A row qualifies when its diagnosis is a fault class that meets `entry_probability`. -/
def RowReading.Qualifies (config : StateMachineConfig F) (reading : RowReading F) : Prop :=
  reading.diag ≠ healthyState ∧ config.entryProbability ≤ reading.diagProb

/-- A row is healthy evidence when the healthy class meets `healthy_exit_probability`. -/
def RowReading.HealthyEvidence (config : StateMachineConfig F) (reading : RowReading F) : Prop :=
  config.healthyExitProbability ≤ reading.healthyProb

instance (config : StateMachineConfig F) (reading : RowReading F) :
    Decidable (reading.Qualifies config) :=
  inferInstanceAs (Decidable (_ ∧ _))

instance (config : StateMachineConfig F) (reading : RowReading F) :
    Decidable (reading.HealthyEvidence config) :=
  inferInstanceAs (Decidable (_ ≤ _))

end Reading

section Step

variable {F : Type} [LE F] [DecidableLE F] {classes : ClassOrder}

/-- The transition on a row that is not valid. -/
def stepInvalid (m : AlertMachineState) : StepOutcome F :=
  let next :=
    if m.state = healthyState then { m with pendingClass := none, pendingStreak := 0 } else m
  ⟨next, insufficientDataState, none⟩

/-- The transition on a valid row met in the healthy state. -/
def stepHealthy (config : StateMachineConfig F) (m : AlertMachineState) (elapsed : F)
    (reading : RowReading F) : StepOutcome F :=
  let (pendingClass, pendingStreak) :=
    if reading.Qualifies config then
      if some reading.diag = m.pendingClass then (m.pendingClass, m.pendingStreak + 1)
      else (some reading.diag, 1)
    else (none, 0)
  match pendingClass with
  | none =>
      ⟨{ m with state := healthyState, confirmedClass := none, pendingClass, pendingStreak },
        healthyState, none⟩
  | some c =>
      -- the streak is complete: the class is confirmed, and the machine starts anew from it
      if config.entryPersistence ≤ pendingStreak then
        ⟨⟨confirmedState c, some c, none, 0, 0, none, 0⟩, confirmedState c,
          some (newAlertEvent elapsed c)⟩
      else
        ⟨{ m with state := healthyState, confirmedClass := none, pendingClass, pendingStreak },
          pendingState c, none⟩

/-- The transition on a valid row met while the class `confirmedClass` is confirmed. Exit is
checked before the switch. -/
def stepConfirmed (config : StateMachineConfig F) (m : AlertMachineState)
    (confirmedClass : String) (elapsed : F) (reading : RowReading F) : StepOutcome F :=
  let exitStreak := if reading.HealthyEvidence config then m.exitStreak + 1 else 0
  let (switchClass, switchStreak) :=
    if reading.diag ≠ confirmedClass ∧ reading.Qualifies config then
      (some reading.diag,
        if some reading.diag = m.switchClass then m.switchStreak + 1 else 1)
    else (none, 0)
  -- enough healthy evidence in a row clears the class
  if config.exitPersistence ≤ exitStreak then
    ⟨.fresh, healthyState, some (clearedEvent elapsed confirmedClass)⟩
  else
    match switchClass with
    | some d =>
        -- enough evidence for another class in a row confirms that one
        if config.entryPersistence ≤ switchStreak then
          ⟨⟨confirmedState d, some d, none, 0, 0, none, 0⟩, confirmedState d,
            some (classChangeEvent elapsed confirmedClass d)⟩
        else ⟨{ m with exitStreak, switchClass, switchStreak }, m.state, none⟩
    | none => ⟨{ m with exitStreak, switchClass, switchStreak }, m.state, none⟩

/-- `step_state_machine`: advance the machine by one row. -/
def stepStateMachine (config : StateMachineConfig F) (m : AlertMachineState) (elapsed : F)
    (proba : ProbaRow F classes) (valid : Bool) : Except StepError (StepOutcome F) :=
  if valid then
    if m.state = healthyState then .ok (stepHealthy config m elapsed (readRow proba))
    else
      match m.confirmedClass with
      | some c => .ok (stepConfirmed config m c elapsed (readRow proba))
      | none => .error .assertionError
  else .ok (stepInvalid m)

end Step

section Run

variable {F : Type} [LE F] [DecidableLE F] {classes : ClassOrder}

/-- The states and events of a run, in row order. -/
structure StateMachineResult (F : Type) where
  rowStates : List String
  events : List (AlertEvent F)
  deriving DecidableEq

/-- Why a run fails: one of its steps does, or the three sequences differ in length. -/
inductive RunError where
  | step (error : StepError)
  | lengthMismatch
  deriving DecidableEq, Repr

/-- The loop of `run_state_machine` over `zip(elapsed, proba, validity, strict=True)`, from the
carried state `m`. -/
def runLoop (config : StateMachineConfig F) (m : AlertMachineState) :
    List F → List (ProbaRow F classes) → List Bool → Except RunError (StateMachineResult F)
  | elapsed :: times, row :: proba, valid :: validity =>
      match stepStateMachine config m elapsed row valid with
      | .error error => .error (.step error)
      | .ok outcome =>
          (runLoop config outcome.next times proba validity).map fun rest =>
            ⟨outcome.rowState :: rest.rowStates, outcome.event.toList ++ rest.events⟩
  | [], [], [] => .ok ⟨[], []⟩
  | _, _, _ => .error .lengthMismatch

/-- `run_state_machine`: a fresh machine over one row sequence. Without `rowValid` every row is
valid. -/
def runStateMachine (config : StateMachineConfig F) (elapsedSimSeconds : List F)
    (proba : List (ProbaRow F classes)) (rowValid : Option (List Bool)) :
    Except RunError (StateMachineResult F) :=
  runLoop config .fresh elapsedSimSeconds proba
    (rowValid.getD (List.replicate proba.length true))

end Run

end Odis.AlertPolicy
