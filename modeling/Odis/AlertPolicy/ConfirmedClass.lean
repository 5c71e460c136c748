import Odis.AlertPolicy.RunCharacterisation

/-!
# The confirmed class of a run

What a row can do to the class that the machine has confirmed, and what the event and the state that
the row is reported with say of it. The evaluations read a run by its events; with these lemmas they
are compared with the class after every row.

* `Phase.step_classStep`: the event of a row tells the class before it and after it.
* `Phase.rowState_eq_confirmedState_iff`: so does the state of a valid row.
-/

namespace Odis.AlertPolicy

open TrailingRun

/-- The class before a row, the class after it, and the event of the row. -/
inductive ClassStep {F : Type} (elapsed : F) :
    Option String → Option String → Option (AlertEvent F) → Prop
  | quiet (c : Option String) : ClassStep elapsed c c none
  | newAlert (c : String) : ClassStep elapsed none (some c) (some (newAlertEvent elapsed c))
  | classChange {c d : String} (other : c ≠ d) :
      ClassStep elapsed (some c) (some d) (some (classChangeEvent elapsed c d))
  | cleared (c : String) : ClassStep elapsed (some c) none (some (clearedEvent elapsed c))

/-- The class that is named by the state of a row. -/
def confirmedClassOf (rowState : String) : Option String :=
  if "confirmed_".toList <+: rowState.toList then some (String.ofList (rowState.toList.drop 10))
  else none

/-- The class is read off the text of a row state exactly if this is the text of the confirmed
class. -/
theorem confirmedClassOf_eq_some_iff {rowState c : String} :
    confirmedClassOf rowState = some c ↔ rowState = confirmedState c := by
  rw [confirmedClassOf, Option.ite_none_right_eq_some, Option.some_inj]
  constructor
  · rintro ⟨⟨rest, hrest⟩, rfl⟩
    apply String.toList_injective
    rw [← hrest, confirmedState, String.toList_append]
    exact congrArg ("confirmed_".toList ++ ·) String.toList_ofList.symm
  · rintro rfl
    rw [confirmedState, String.toList_append]
    refine ⟨List.prefix_append _ _, ?_⟩
    rw [show ("confirmed_".toList ++ c.toList).drop 10 = c.toList from rfl, String.ofList_toList]

/-- The texts of a pending class and of a confirmed one differ in their prefixes. -/
theorem pendingState_ne_confirmedState (c d : String) : pendingState c ≠ confirmedState d := by
  intro h
  have hhead := congrArg (fun s : String => s.toList.head?) h
  simp [pendingState, confirmedState, String.toList_append] at hhead

namespace Phase

/-- The name that a phase shows is that of a confirmed class exactly if the class is confirmed. -/
theorem shownState_eq_confirmedState_iff (φ : Phase) (c : String) :
    shownState φ.toState = confirmedState c ↔ φ.toState.confirmedClass = some c := by
  cases φ with
  | healthy pending =>
      refine iff_of_false ?_ (fun h => by cases h)
      cases pending with
      | none => exact (confirmedState_ne_healthyState c).symm
      | some run => exact pendingState_ne_confirmedState run.1 c
  | confirmed d exitStreak switch =>
      show confirmedState d = confirmedState c ↔ some d = some c
      rw [confirmedState_injective.eq_iff, Option.some_inj]

variable {F : Type} [LE F] [DecidableLE F] {classes : ClassOrder}
  (config : StateMachineConfig F) (φ : Phase) (row : AlertRow F classes)

/-- The event of a row tells the class before it and after it. -/
theorem step_classStep :
    ClassStep row.elapsed φ.toState.confirmedClass (φ.step config row).1.toState.confirmedClass
      (φ.step config row).2.2 := by
  -- one case for each constructor of the phase, and in it one for each branch of the step
  cases φ with
  | healthy pending =>
      rw [step]
      split_ifs
      · dsimp only [stepHealthy]
        split
        · exact .newAlert _
        · exact .quiet _
      · exact .quiet _
  | confirmed c exitStreak switch =>
      rw [step]
      split_ifs
      · dsimp only [stepConfirmed]
        split_ifs
        · exact .cleared c
        · split
          next d hcompleted =>
            have hlabel :=
              (switchLabel_eq_some_iff _ _ _ _).mp (label_of_completed_extendRun _ hcompleted)
            exact .classChange hlabel.1
          next => exact .quiet _
      · exact .quiet _

/-- The events of a run begin with that of its first row. -/
theorem events_cons (rows : List (AlertRow F classes)) :
    (Transducer.outputs (transduce config) φ (row :: rows)).filterMap StepOutcome.event =
      (φ.step config row).2.2.toList ++
        (Transducer.outputs (transduce config) (φ.step config row).1 rows).filterMap
          StepOutcome.event := by
  rw [Transducer.outputs_cons]
  cases hevent : (φ.step config row).2.2 with
  | none =>
      have hquiet : ((transduce config φ row).2).event = none := hevent
      rw [List.filterMap_cons_none hquiet]
      rfl
  | some event =>
      have hemits : ((transduce config φ row).2).event = some event := hevent
      rw [List.filterMap_cons_some hemits]
      rfl

variable {row}

/-- A valid row is reported with a class exactly if the class is confirmed after it. -/
theorem rowState_eq_confirmedState_iff (hvalid : row.valid = true) (c : String) :
    (φ.step config row).2.1 = confirmedState c ↔
      (φ.step config row).1.toState.confirmedClass = some c := by
  rw [rowState_step, if_pos hvalid, shownState_eq_confirmedState_iff]

end Phase

end Odis.AlertPolicy
