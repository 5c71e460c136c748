import Mathlib.Data.List.Induction

/-!
# Transducers

A transducer reads a list of inputs one at a time, carries a state, and emits one output per
input. This module relates the output at a position to the state reached by the inputs before
it, and states the rule every run result below is proved with: an invariant over the inputs read so
far (`after_induction`).
-/

namespace Transducer

variable {σ τ α β : Type*}

/-- The state reached from `s` after reading `inputs` in order. -/
def after (step : σ → α → σ × β) (s : σ) (inputs : List α) : σ :=
  inputs.foldl (fun s a => (step s a).1) s

/-- The outputs emitted from `s` while reading `inputs` in order, one per input. -/
def outputs (step : σ → α → σ × β) : σ → List α → List β
  | _, [] => []
  | s, a :: inputs => (step s a).2 :: outputs step (step s a).1 inputs

variable (step : σ → α → σ × β)

@[simp]
theorem after_nil (s : σ) : after step s [] = s := rfl

@[simp]
theorem after_cons (s : σ) (a : α) (inputs : List α) :
    after step s (a :: inputs) = after step (step s a).1 inputs := rfl

/-- The state after two lists of inputs, one after the other. -/
@[simp]
theorem after_append (s : σ) (first second : List α) :
    after step s (first ++ second) = after step (after step s first) second := by
  simp [after, List.foldl_append]

@[simp]
theorem outputs_nil (s : σ) : outputs step s [] = [] := rfl

@[simp]
theorem outputs_cons (s : σ) (a : α) (inputs : List α) :
    outputs step s (a :: inputs) = (step s a).2 :: outputs step (step s a).1 inputs := rfl

/-- Exactly one output is emitted per input. -/
@[simp]
theorem length_outputs (s : σ) (inputs : List α) :
    (outputs step s inputs).length = inputs.length := by
  induction inputs generalizing s with
  | nil => rfl
  | cons a inputs ih => simp [ih]

/-- The outputs of a concatenation are those of the first part followed by those of the
second part, read from the state the first part leads to. -/
@[simp]
theorem outputs_append (s : σ) (first second : List α) :
    outputs step s (first ++ second) =
      outputs step s first ++ outputs step (after step s first) second := by
  induction first generalizing s with
  | nil => rfl
  | cons a first ih => simp [ih]

/-- The outputs of the first `n` inputs are the first `n` outputs. -/
theorem outputs_take (s : σ) (inputs : List α) (n : ℕ) :
    outputs step s (inputs.take n) = (outputs step s inputs).take n := by
  induction inputs generalizing s n with
  | nil => simp
  | cons a inputs ih =>
      cases n with
      | zero => simp
      | succ n => simp [ih]

/-- The output at position `i` is the step from the state reached by the `i` inputs before it. -/
theorem getElem?_outputs (s : σ) (inputs : List α) (i : ℕ) (hi : i < inputs.length) :
    (outputs step s inputs)[i]? = some (step (after step s (inputs.take i)) inputs[i]).2 := by
  induction inputs generalizing s i with
  | nil => simp at hi
  | cons a inputs ih =>
      cases i with
      | zero => simp
      | succ i => simpa using ih (step s a).1 i (by simpa using hi)

/-- Every step of a run from `s` meets the condition `P` on the state before it and its input. -/
def Along (P : σ → α → Prop) : σ → List α → Prop
  | _, [] => True
  | s, a :: inputs => P s a ∧ Along P (step s a).1 inputs

instance Along.decidable (P : σ → α → Prop) [∀ s a, Decidable (P s a)] :
    ∀ (s : σ) (inputs : List α), Decidable (Along step P s inputs)
  | _, [] => inferInstanceAs (Decidable True)
  | s, a :: inputs =>
      haveI := Along.decidable P (step s a).1 inputs
      inferInstanceAs (Decidable (_ ∧ _))

/-- A run meets the condition exactly if its parts do, the second from where the first leads to. -/
theorem along_append {P : σ → α → Prop} {s : σ} {first second : List α} :
    Along step P s (first ++ second) ↔
      Along step P s first ∧ Along step P (after step s first) second := by
  induction first generalizing s with
  | nil => simp [Along]
  | cons a first ih => simp [Along, ih, and_assoc]

/-- With one more input, the condition is on that input as well. -/
theorem along_concat {P : σ → α → Prop} {s : σ} {inputs : List α} {a : α} :
    Along step P s (inputs ++ [a]) ↔ Along step P s inputs ∧ P (after step s inputs) a := by
  simp [along_append, Along]

/-- The condition is met at every step of a run exactly if it is met wherever the run is split. -/
theorem along_iff_forall_split {P : σ → α → Prop} {s : σ} {inputs : List α} :
    Along step P s inputs ↔
      ∀ past a rest, inputs = past ++ a :: rest → P (after step s past) a := by
  induction inputs generalizing s with
  | nil => simp [Along]
  | cons b inputs ih =>
      rw [Along, ih]
      constructor
      · rintro ⟨hfirst, hrest⟩ past a rest hsplit
        rcases List.cons_eq_append_iff.mp hsplit with ⟨rfl, hcons⟩ | ⟨past', rfl, hinputs⟩
        · obtain ⟨rfl, rfl⟩ := List.cons.inj hcons
          exact hfirst
        · exact hrest past' a rest hinputs
      · intro h
        refine ⟨h [] b inputs rfl, fun past a rest hsplit => ?_⟩
        apply h (b :: past) a rest
        rw [hsplit, List.cons_append]

/-- Two conditions that agree wherever an invariant holds are met by the same runs from there. -/
theorem along_congr {P Q : σ → α → Prop} {holds : σ → Prop}
    (hagree : ∀ s a, holds s → (P s a ↔ Q s a)) (hstep : ∀ s a, holds s → holds (step s a).1)
    {s : σ} (hs : holds s) (inputs : List α) : Along step P s inputs ↔ Along step Q s inputs := by
  induction inputs generalizing s with
  | nil => exact Iff.rfl
  | cons a inputs ih => exact and_congr (hagree s a hs) (ih (hstep s a hs))

/-- The invariant rule: a property of the inputs read so far and the state they lead to holds
of every run once it holds initially and every step preserves it. -/
theorem after_induction {P : List α → σ → Prop} (s : σ) (init : P [] s)
    (snoc : ∀ past a, P past (after step s past) →
      P (past ++ [a]) (step (after step s past) a).1)
    (inputs : List α) : P inputs (after step s inputs) := by
  induction inputs using List.reverseRecOn with
  | nil => exact init
  | append_singleton past a ih => simpa using snoc past a ih

/-- A component that is stepped by some inputs and untouched by the others emits, at its own inputs,
what it emits when it reads them alone. -/
theorem outputs_of_component {step' : τ → α → τ × β} (component : σ → τ) (own : α → Bool)
    (hown : ∀ s a, own a = true →
      (component (step s a).1, (step s a).2) = step' (component s) a)
    (hother : ∀ s a, own a = false → component (step s a).1 = component s) (s : σ)
    (inputs : List α) :
    ((inputs.zip (outputs step s inputs)).filter fun entry => own entry.1).map Prod.snd =
      outputs step' (component s) (inputs.filter own) := by
  induction inputs generalizing s with
  | nil => rfl
  | cons a inputs ih =>
      rw [outputs_cons, List.zip_cons_cons]
      cases ha : own a with
      | true =>
          have hstep := hown s a ha
          rw [List.filter_cons_of_pos (by exact ha), List.map_cons, ih, List.filter_cons_of_pos ha,
            outputs_cons, ← hstep]
      | false =>
          rw [List.filter_cons_of_neg (by simpa using ha), ih, hother s a ha,
            List.filter_cons_of_neg (by simpa using ha)]

/-- An input that leaves the state as it is can be left out: the outputs of all others stay the
same. -/
theorem outputs_eraseIdx {s : σ} {past rest : List α} {a : α}
    (hidle : (step (after step s past) a).1 = after step s past) :
    outputs step s (past ++ rest) = (outputs step s (past ++ a :: rest)).eraseIdx past.length := by
  rw [outputs_append, outputs_append, outputs_cons, hidle]
  have hlength : past.length = (outputs step s past).length := (length_outputs step s past).symm
  rw [hlength, List.eraseIdx_append_of_length_le (Nat.le_refl _), Nat.sub_self,
    List.eraseIdx_cons_zero]

/-- Inputs that no step tells apart give the same outputs. -/
theorem outputs_eq_of_forall₂ {R : α → α → Prop} (hstep : ∀ s a b, R a b → step s a = step s b)
    {inputs inputs' : List α} (h : List.Forall₂ R inputs inputs') (s : σ) :
    outputs step s inputs = outputs step s inputs' := by
  induction h generalizing s with
  | nil => rfl
  | cons hab _ ih => rw [outputs_cons, outputs_cons, hstep s _ _ hab, ih]

end Transducer
