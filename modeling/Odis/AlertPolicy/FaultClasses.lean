import Odis.AlertPolicy.Phase

/-!
# What an alert event is about

The class of an alert event is read off the states that it names, so it matters what the machine
can confirm: a label of the classifier, never the healthy one (`Phase.step_announces`).
-/

namespace Odis.AlertPolicy

open TrailingRun

variable {F : Type} {classes : ClassOrder}

/-- A class that the machine can confirm. -/
def ClassOrder.IsFault (classes : ClassOrder) (c : String) : Prop :=
  c ∈ classes.labels ∧ c ≠ healthyState

/-- What an event says of the machine before and after the row that it is emitted at: the class
that is entered or left is a fault class. -/
inductive Announces (classes : ClassOrder) (before after : AlertMachineState) : AlertEvent F → Prop
  | newAlert (elapsed : F) {c : String} (fault : classes.IsFault c)
      (free : before.confirmedClass = none) (entered : after.confirmedClass = some c) :
      Announces classes before after (newAlertEvent elapsed c)
  | classChange (elapsed : F) {c d : String} (fault : classes.IsFault d)
      (left : before.confirmedClass = some c) (entered : after.confirmedClass = some d) :
      Announces classes before after (classChangeEvent elapsed c d)
  | cleared (elapsed : F) {c : String} (fault : classes.IsFault c)
      (left : before.confirmedClass = some c) (free : after.confirmedClass = none) :
      Announces classes before after (clearedEvent elapsed c)

/-- The class that a phase has confirmed is a fault class. -/
def Phase.NamesFault (classes : ClassOrder) : Phase → Prop
  | .healthy _ => True
  | .confirmed c _ _ => classes.IsFault c

variable [LE F] [DecidableLE F]

/-- A row diagnoses one of the labels. -/
theorem diag_mem (proba : ProbaRow F classes) : (readRow proba).diag ∈ classes.labels :=
  List.get_mem _ _

/-- The class that a row is evidence for is a fault class. -/
theorem isFault_of_qualifiesFor {config : StateMachineConfig F} {row : AlertRow F classes}
    {c : String} (h : row.reading.QualifiesFor config c) : classes.IsFault c := by
  obtain ⟨hne, hdiag, -⟩ := h
  refine ⟨?_, hne⟩
  rw [← hdiag]
  exact diag_mem row.proba

namespace Phase

variable {config : StateMachineConfig F} {φ : Phase} {row : AlertRow F classes}

/-- A step from the healthy phase announces a fault class, and none other, where it announces one.
-/
theorem stepHealthy_announces (pending : Option (String × ℕ)) (elapsed : F) :
    let stepped := stepHealthy config pending elapsed row.reading
    stepped.1.NamesFault classes ∧ ∀ event, stepped.2.2 = some event →
      Announces classes (healthy pending).toState stepped.1.toState event := by
  rw [stepHealthy]
  split
  next c hcompleted =>
    have hlabel := (entryLabel_eq_some_iff _ _ _).mp (label_of_completed_extendRun _ hcompleted)
    have hfault : classes.IsFault c := isFault_of_qualifiesFor hlabel
    refine ⟨hfault, ?_⟩
    rintro event ⟨⟩
    exact .newAlert elapsed hfault rfl rfl
  next =>
    refine ⟨trivial, ?_⟩
    rintro event ⟨⟩

/-- A step from a confirmed fault class announces fault classes alone. -/
theorem stepConfirmed_announces {c : String} (h : classes.IsFault c) (exitStreak : ℕ)
    (switch : Option (String × ℕ)) (elapsed : F) :
    let stepped := stepConfirmed config c exitStreak switch elapsed row.reading
    stepped.1.NamesFault classes ∧ ∀ event, stepped.2.2 = some event →
      Announces classes (confirmed c exitStreak switch).toState stepped.1.toState event := by
  dsimp only [stepConfirmed]
  split_ifs
  · -- the class is left
    refine ⟨trivial, ?_⟩
    rintro event ⟨⟩
    exact .cleared elapsed h rfl rfl
  · split
    next d hcompleted =>
      -- another class has completed its streak, and only fault classes have one
      have hlabel :=
        (switchLabel_eq_some_iff _ _ _ _).mp (label_of_completed_extendRun _ hcompleted)
      have hfault : classes.IsFault d := isFault_of_qualifiesFor hlabel.2
      refine ⟨hfault, ?_⟩
      rintro event ⟨⟩
      exact .classChange elapsed hfault rfl rfl
    next =>
      refine ⟨h, ?_⟩
      rintro event ⟨⟩

variable (config row) in
/-- A step keeps to fault classes, and so does the event that it emits. -/
theorem step_announces (h : φ.NamesFault classes) :
    (φ.step config row).1.NamesFault classes ∧ ∀ event, (φ.step config row).2.2 = some event →
      Announces classes φ.toState (φ.step config row).1.toState event := by
  cases φ with
  | healthy pending =>
      rw [step]
      split_ifs
      · exact stepHealthy_announces pending row.elapsed
      · -- a row that is not valid emits nothing
        refine ⟨trivial, ?_⟩
        rintro event ⟨⟩
  | confirmed c exitStreak switch =>
      rw [step]
      split_ifs
      · exact stepConfirmed_announces h exitStreak switch row.elapsed
      · refine ⟨h, ?_⟩
        rintro event ⟨⟩

end Phase

end Odis.AlertPolicy
