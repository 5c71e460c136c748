import Mathlib.Data.List.Induction

/-!
# Runs of steps that need not be enabled

A system whose steps are enabled in some states only, such as the interleaved steps of several
callers. A run is a list of steps each of which is enabled where it is taken.

* `run_induction`: what holds at the start and is kept by every step holds after every run.
* `run_induction_along`: what is kept by the steps that meet a condition holds after a run of such
  steps.
* `along_of_checkAlong`: along a given run a condition can be checked.
* `iff_along`: a property that each step keeps exactly under a condition holds after a run exactly
  if the condition held at each of its steps.
-/

namespace PartialRun

variable {σ ε : Type*} (step : σ → ε → Option σ)

/-- The state a run leads to, if each of its steps is enabled. -/
def run (s : σ) (steps : List ε) : Option σ := steps.foldlM step s

/-- The condition holds at each step of a run. -/
def Along (condition : σ → ε → Prop) (s : σ) (steps : List ε) : Prop :=
  ∀ before e after mid, steps = before ++ e :: after → run step s before = some mid →
    condition mid e

/-- Whether a condition that can be checked holds at each step of a run. -/
def checkAlong (check : σ → ε → Bool) : σ → List ε → Bool
  | _, [] => true
  | s, e :: steps => check s e && (step s e).all fun s' => checkAlong check s' steps

variable {step} {s s' : σ} {e : ε} {steps : List ε}

@[simp]
theorem run_nil : run step s [] = some s := rfl

/-- A run of two parts is the run of the first and, from there, of the second. -/
theorem run_append {more : List ε} :
    run step s (steps ++ more) = (run step s steps).bind fun mid => run step mid more :=
  List.foldlM_append

/-- A run and one more step. -/
theorem run_concat_eq_some :
    run step s (steps ++ [e]) = some s' ↔
      ∃ mid, run step s steps = some mid ∧ step mid e = some s' := by
  rw [run_append, Option.bind_eq_some_iff]
  simp [run]

variable {condition : σ → ε → Prop}

/-- Along no steps every condition holds. -/
theorem along_nil : Along step condition s [] := by
  intro before e after mid hsplit
  simp at hsplit

/-- With one more step, the condition is on that step as well. -/
theorem along_concat {mid : σ} (hrun : run step s steps = some mid) :
    Along step condition s (steps ++ [e]) ↔ Along step condition s steps ∧ condition mid e := by
  constructor
  · intro h
    refine ⟨fun before e' after mid' hsplit => ?_, h steps e [] mid rfl hrun⟩
    apply h before e' (after ++ [e]) mid'
    rw [hsplit, List.append_assoc, List.cons_append]
  · rintro ⟨hsteps, hlast⟩ before e' after mid' hsplit hmid
    rcases List.eq_nil_or_concat after with rfl | ⟨after, e'', rfl⟩
    · obtain ⟨rfl, hcons⟩ := List.append_inj' hsplit rfl
      obtain rfl := List.head_eq_of_cons_eq hcons
      rw [hrun] at hmid
      obtain rfl := Option.some.inj hmid
      exact hlast
    · rw [List.concat_eq_append, ← List.cons_append, ← List.append_assoc] at hsplit
      obtain ⟨rfl, _⟩ := List.append_inj' hsplit rfl
      exact hsteps before e' after mid' rfl hmid

/-- A condition that is checked at each step of a run holds along it. -/
theorem along_of_checkAlong {check : σ → ε → Bool}
    (hcheck : ∀ {t e}, check t e = true → condition t e)
    (h : checkAlong step check s steps = true) : Along step condition s steps := by
  intro before e after mid hsplit hmid
  induction steps generalizing s before with
  | nil => simp at hsplit
  | cons first steps ih =>
      obtain ⟨hfirst, hrest⟩ := Bool.and_eq_true_iff.mp h
      cases before with
      | nil =>
          obtain rfl := List.head_eq_of_cons_eq hsplit
          obtain rfl := Option.some.inj hmid
          exact hcheck hfirst
      | cons e' before =>
          obtain ⟨rfl, htail⟩ := List.cons.inj hsplit
          obtain ⟨s', hs', hmid⟩ := Option.bind_eq_some_iff.mp hmid
          rw [hs'] at hrest
          exact ih hrest _ htail hmid

/-- What holds at the start and is kept by every step holds after every run. -/
theorem run_induction {invariant : σ → Prop} (hstart : invariant s)
    (hstep : ∀ {t t' e}, invariant t → step t e = some t' → invariant t')
    (hrun : run step s steps = some s') : invariant s' := by
  induction steps using List.reverseRecOn generalizing s' with
  | nil =>
      obtain rfl := Option.some.inj hrun
      exact hstart
  | append_singleton steps e ih =>
      obtain ⟨mid, hmid, hlast⟩ := run_concat_eq_some.mp hrun
      exact hstep (ih hmid) hlast

/-- What holds at the start and is kept by every step that meets a condition holds after a run along
which the condition holds. -/
theorem run_induction_along {invariant : σ → Prop} (hstart : invariant s)
    (hstep : ∀ {t t' e}, invariant t → condition t e → step t e = some t' → invariant t')
    (halong : Along step condition s steps) (hrun : run step s steps = some s') :
    invariant s' := by
  induction steps using List.reverseRecOn generalizing s' with
  | nil =>
      obtain rfl := Option.some.inj hrun
      exact hstart
  | append_singleton steps e ih =>
      obtain ⟨mid, hmid, hlast⟩ := run_concat_eq_some.mp hrun
      obtain ⟨hbefore, hcondition⟩ := (along_concat hmid).mp halong
      exact hstep (ih hbefore hmid) hcondition hlast

/-- A property that, wherever an invariant holds, is kept by each step exactly under a condition
holds after a run exactly if the condition held at each of its steps. -/
theorem iff_along {invariant property : σ → Prop} (hstart : invariant s) (hproperty : property s)
    (hinvariant : ∀ {t t' e}, invariant t → step t e = some t' → invariant t')
    (hstep : ∀ {t t' e}, invariant t → step t e = some t' →
      (property t' ↔ property t ∧ condition t e))
    (hrun : run step s steps = some s') : property s' ↔ Along step condition s steps := by
  induction steps using List.reverseRecOn generalizing s' with
  | nil =>
      obtain rfl := Option.some.inj hrun
      exact iff_of_true hproperty along_nil
  | append_singleton steps e ih =>
      obtain ⟨mid, hmid, hlast⟩ := run_concat_eq_some.mp hrun
      rw [hstep (run_induction hstart hinvariant hmid) hlast, ih hmid, along_concat hmid]

end PartialRun
