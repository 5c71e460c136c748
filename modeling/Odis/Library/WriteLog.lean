import Mathlib.Data.List.Basic

/-!
# Programs that write as they go

A program over a state that it only changes by adding rows, each of which is checked before it is
added. The program may fail at any point, and what it has written by then stays: an exception keeps
the state it was raised in. `Writes` says which rows a program adds when it returns, and which when
it fails.

* `Writes.bind`, `writes_forM`: how programs compose.
* `Writes.of_ok`, `Writes.of_error`: what a program has done to its state.
-/

namespace WriteLog

variable {σ ρ ε α β : Type}

/-- How rows are added to a state, and which may be. -/
structure Log (σ ρ : Type) where
  add : σ → ρ → σ
  allowed : σ → ρ → Prop

namespace Log

variable (log : Log σ ρ)

/-- The state after some more rows. -/
def addAll (s : σ) (rows : List ρ) : σ := rows.foldl log.add s

/-- Each row may be added when it is its turn. -/
def Admitted : σ → List ρ → Prop
  | _, [] => True
  | s, row :: rows => log.allowed s row ∧ Admitted (log.add s row) rows

variable {log} {s : σ} {row : ρ} {rows rows' : List ρ}

@[simp]
theorem addAll_nil : log.addAll s [] = s := rfl

@[simp]
theorem addAll_cons : log.addAll s (row :: rows) = log.addAll (log.add s row) rows := rfl

/-- Rows are added one list after the other. -/
theorem addAll_append : log.addAll s (rows ++ rows') = log.addAll (log.addAll s rows) rows' :=
  List.foldl_append

theorem admitted_nil : log.Admitted s [] := trivial

/-- The first row is allowed, and the others after it. -/
theorem admitted_cons :
    log.Admitted s (row :: rows) ↔ log.allowed s row ∧ log.Admitted (log.add s row) rows :=
  Iff.rfl

/-- Rows are admitted one list after the other. -/
theorem admitted_append :
    log.Admitted s (rows ++ rows') ↔
      log.Admitted s rows ∧ log.Admitted (log.addAll s rows) rows' := by
  induction rows generalizing s with
  | nil => simp [admitted_nil]
  | cons row rows ih =>
      rw [List.cons_append, admitted_cons, admitted_cons, addAll_cons, ih, and_assoc]

end Log

/-- A program adds some rows if it returns, and some others if it fails. -/
def Writes (log : Log σ ρ) (program : EStateM ε σ α) (returns : α → List ρ → Prop)
    (fails : List ρ → Prop) : Prop :=
  ∀ s, match program s with
    | .ok a s' => ∃ rows, returns a rows ∧ log.Admitted s rows ∧ s' = log.addAll s rows
    | .error _ s' => ∃ rows, fails rows ∧ log.Admitted s rows ∧ s' = log.addAll s rows

variable {log : Log σ ρ} {program : EStateM ε σ α} {returns : α → List ρ → Prop}
  {fails : List ρ → Prop}

/-- A program that has returned has added rows that were admitted. -/
theorem Writes.of_ok (h : Writes log program returns fails) {s s' : σ} {a : α}
    (hrun : program s = .ok a s') :
    ∃ rows, returns a rows ∧ log.Admitted s rows ∧ s' = log.addAll s rows := by
  have hs := h s
  rw [hrun] at hs
  exact hs

/-- So has one that has raised. -/
theorem Writes.of_error (h : Writes log program returns fails) {s s' : σ} {e : ε}
    (hrun : program s = .error e s') :
    ∃ rows, fails rows ∧ log.Admitted s rows ∧ s' = log.addAll s rows := by
  have hs := h s
  rw [hrun] at hs
  exact hs

/-- What is known of the rows may be weakened. -/
theorem Writes.mono (h : Writes log program returns fails) {returns' : α → List ρ → Prop}
    {fails' : List ρ → Prop} (hreturns : ∀ a rows, returns a rows → returns' a rows)
    (hfails : ∀ rows, fails rows → fails' rows) : Writes log program returns' fails' := by
  intro s
  cases hrun : program s with
  | ok a s' =>
      obtain ⟨rows, hrows, hs'⟩ := h.of_ok hrun
      exact ⟨rows, hreturns a rows hrows, hs'⟩
  | error e s' =>
      obtain ⟨rows, hrows, hs'⟩ := h.of_error hrun
      exact ⟨rows, hfails rows hrows, hs'⟩

/-- Returning writes nothing. -/
theorem writes_pure {a : α} (h : returns a []) :
    Writes log (pure a : EStateM ε σ α) returns fails :=
  fun _ => ⟨[], h, trivial, rfl⟩

/-- Nor does raising. -/
theorem writes_throw {e : ε} (h : fails []) :
    Writes log (throw e : EStateM ε σ α) returns fails :=
  fun _ => ⟨[], h, trivial, rfl⟩

/-- After a program that returns comes the next one, from its state. -/
theorem bind_of_ok {next : α → EStateM ε σ β} {s s' : σ} {a : α}
    (h : program s = .ok a s') : (program >>= next) s = next a s' := by
  simp only [bind, EStateM.bind, h]

/-- After a program that raises nothing comes. -/
theorem bind_of_error {next : α → EStateM ε σ β} {s s' : σ} {e : ε}
    (h : program s = .error e s') : (program >>= next) s = .error e s' := by
  simp only [bind, EStateM.bind, h]

/-- A program returns when its first part returns and the rest goes on from there. -/
theorem exists_bind_of_ok {next : α → EStateM ε σ β} {s s' : σ} {a : α}
    (h : program s = .ok a s') (hnext : ∃ b s'', next a s' = .ok b s'') :
    ∃ b s'', (program >>= next) s = .ok b s'' := by
  rw [bind_of_ok h]
  exact hnext

/-- A program and one that goes on from its result. -/
theorem Writes.bind {next : α → EStateM ε σ β} {returns' : β → List ρ → Prop}
    {fails' : List ρ → Prop} (h : Writes log program returns fails)
    (hfails : ∀ rows, fails rows → fails' rows)
    (hnext : ∀ a rows, returns a rows → Writes log (next a)
      (fun b rows' => returns' b (rows ++ rows')) fun rows' => fails' (rows ++ rows')) :
    Writes log (program >>= next) returns' fails' := by
  intro s
  cases hrun : program s with
  -- the first program returns, and the second one adds to what it has written
  | ok a s' =>
      obtain ⟨rows, hrows, hadmitted, rfl⟩ := h.of_ok hrun
      rw [bind_of_ok hrun]
      cases hlast : next a (log.addAll s rows) with
      | ok b s' =>
          obtain ⟨rows', hrows', hadmitted', rfl⟩ := (hnext a rows hrows).of_ok hlast
          exact ⟨rows ++ rows', hrows', Log.admitted_append.mpr ⟨hadmitted, hadmitted'⟩,
            Log.addAll_append.symm⟩
      | error e s' =>
          obtain ⟨rows', hrows', hadmitted', rfl⟩ := (hnext a rows hrows).of_error hlast
          exact ⟨rows ++ rows', hrows', Log.admitted_append.mpr ⟨hadmitted, hadmitted'⟩,
            Log.addAll_append.symm⟩
  | error e s' =>
      obtain ⟨rows, hrows, hs'⟩ := h.of_error hrun
      rw [bind_of_error hrun]
      exact ⟨rows, hfails rows hrows, hs'⟩

/-- A program that adds nothing, and one that goes on from its result. -/
theorem Writes.bind_nil {next : α → EStateM ε σ β} {returns' : β → List ρ → Prop}
    {fails' : List ρ → Prop} {holds : α → Prop}
    (h : Writes log program (fun a rows => holds a ∧ rows = []) fun rows => rows = [])
    (hfails : fails' []) (hnext : ∀ a, holds a → Writes log (next a) returns' fails') :
    Writes log (program >>= next) returns' fails' := by
  refine h.bind ?_ ?_
  · rintro rows rfl
    exact hfails
  · rintro a rows ⟨ha, rfl⟩
    exact hnext a ha

/-- A program that adds one row if it returns, and one that goes on after it. -/
theorem Writes.bind_singleton {next : α → EStateM ε σ β} {returns' : β → List ρ → Prop}
    {fails' : List ρ → Prop} {row : ρ}
    (h : Writes log program (fun _ rows => rows = [row]) fun rows => rows = [])
    (hfails : fails' []) (hnext : ∀ a, Writes log (next a)
      (fun b rows => returns' b (row :: rows)) fun rows => fails' (row :: rows)) :
    Writes log (program >>= next) returns' fails' := by
  refine h.bind ?_ ?_
  · rintro rows rfl
    exact hfails
  · rintro a rows rfl
    exact hnext a

/-- A loop whose body adds one row or fails before it does. -/
theorem writes_forM {l : List β} {body : β → EStateM ε σ Unit} {row : β → ρ}
    (hbody : ∀ b ∈ l, Writes log (body b) (fun _ rows => rows = [row b]) fun rows => rows = []) :
    Writes log (l.forM body) (fun _ rows => rows = l.map row) fun rows => rows <+: l.map row := by
  induction l with
  | nil => exact writes_pure rfl
  | cons b l ih =>
      have hrest := ih fun b' hb' => hbody b' (List.mem_cons_of_mem _ hb')
      refine (hbody b List.mem_cons_self).bind ?_ ?_
      · rintro rows rfl
        exact List.nil_prefix
      · rintro _ rows rfl
        refine hrest.mono ?_ ?_
        · rintro _ rows rfl
          rfl
        · intro rows hrows
          exact (List.cons_prefix_cons).mpr ⟨rfl, hrows⟩

end WriteLog
