import Mathlib.Data.List.Forall2

/-!
# Programs that raise

Rules for programs in `Except`: when a sequence of programs returns, what a loop (`mapM`, `forM`)
returns, also of programs with a state, and what a constructor does that checks its value
(`accept`).
-/

namespace Exceptions

variable {E E' α β γ : Type}

/-- A sequence returns when its first part returns and its second part does on the result. -/
theorem bind_eq_ok {program : Except E α} {next : α → Except E β} {b : β} :
    program >>= next = .ok b ↔ ∃ a, program = .ok a ∧ next a = .ok b := by
  cases program with
  | error error => simp [bind, Except.bind]
  | ok a => simp [bind, Except.bind]

theorem ok_bind {a : α} {next : α → Except E β} : (.ok a >>= next) = next a := rfl

/-- A sequence returns something when its first part returns and its second part does. -/
theorem exists_bind_eq_ok {program : Except E α} {next : α → Except E β} :
    (∃ b, program >>= next = .ok b) ↔ ∃ a, program = .ok a ∧ ∃ b, next a = .ok b := by
  simp only [bind_eq_ok]
  constructor
  · rintro ⟨b, a, ha, hb⟩
    exact ⟨a, ha, b, hb⟩
  · rintro ⟨a, ha, b, hb⟩
    exact ⟨b, a, ha, hb⟩

/-- A sequence raises what its first part raises, or what its second part raises on the result. -/
theorem bind_eq_error {program : Except E α} {next : α → Except E β} {error : E} :
    program >>= next = .error error ↔
      program = .error error ∨ ∃ a, program = .ok a ∧ next a = .error error := by
  cases program with
  | error error' => simp [bind, Except.bind]
  | ok a => simp [bind, Except.bind]

/-- A sequence does not raise an exception that neither of its parts raises. -/
theorem bind_ne_error {program : Except E α} {next : α → Except E β} {error : E}
    (hprogram : program ≠ .error error) (hnext : ∀ a, program = .ok a → next a ≠ .error error) :
    program >>= next ≠ .error error := by
  intro h
  rcases bind_eq_error.mp h with hfirst | ⟨a, ha, hsecond⟩
  · exact hprogram hfirst
  · exact hnext a ha hsecond

/-- A value is mapped exactly if there is one. -/
theorem map_eq_ok {program : Except E α} {f : α → β} {b : β} :
    program.map f = .ok b ↔ ∃ a, program = .ok a ∧ f a = b := by
  cases program <;> simp [Except.map]

/-- A program that is found to return has a result. -/
theorem exists_of_toBool {program : Except E α} (h : program.toBool = true) :
    ∃ a, program = .ok a := by
  cases program with
  | error error => cases h
  | ok a => exact ⟨a, rfl⟩

/-- A check that is true has passed. -/
theorem eq_ok_of_toBool {program : Except E Unit} (h : program.toBool = true) :
    program = .ok () :=
  (exists_of_toBool h).elim fun _ ha => ha

/-- A check that is false has raised something. -/
theorem exists_error_of_toBool {program : Except E α} (h : program.toBool = false) :
    ∃ error, program = .error error := by
  cases program with
  | error error => exact ⟨error, rfl⟩
  | ok a => cases h

/-- Renaming the exceptions leaves the values as they are. -/
theorem mapError_eq_ok {program : Except E α} {f : E → E'} {a : α} :
    program.mapError f = .ok a ↔ program = .ok a := by
  cases program <;> simp [Except.mapError]

/-- What is raised afterwards was raised under another name. -/
theorem mapError_eq_error {program : Except E α} {f : E → E'} {error' : E'} :
    program.mapError f = .error error' ↔ ∃ error, program = .error error ∧ f error = error' := by
  cases program <;> simp [Except.mapError]

/-- A translated exception is one that the program does not raise. -/
theorem mapError_ne_error {program : Except E α} {f : E → E'} {error' : E'}
    (h : ∀ error, f error = error' → program ≠ .error error) :
    program.mapError f ≠ .error error' := by
  intro hmapped
  obtain ⟨error, herror, heq⟩ := mapError_eq_error.mp hmapped
  exact h error heq herror

/-- A loop depends on its body at the elements of its list only. -/
theorem mapM_congr {f g : α → Except E β} {l : List α} (h : ∀ a ∈ l, f a = g a) :
    l.mapM f = l.mapM g := by
  induction l with
  | nil => rfl
  | cons a l ih =>
      rw [List.mapM_cons, List.mapM_cons, h a List.mem_cons_self,
        ih fun b hb => h b (List.mem_cons_of_mem a hb)]

/-- A loop that returns has returned on every element, in order. -/
theorem mapM_eq_ok_cons {f : α → Except E β} {a : α} {l : List α} {bs : List β} :
    (a :: l).mapM f = .ok bs ↔ ∃ b rest, f a = .ok b ∧ l.mapM f = .ok rest ∧ bs = b :: rest := by
  simp only [List.mapM_cons, bind_eq_ok, pure, Except.pure, Except.ok.injEq]
  constructor
  · rintro ⟨b, hb, rest, hrest, rfl⟩
    exact ⟨b, rest, hb, hrest, rfl⟩
  · rintro ⟨b, rest, hb, hrest, rfl⟩
    exact ⟨b, hb, rest, hrest, rfl⟩

/-- A loop returns the results of its body, in order. -/
theorem mapM_eq_ok_iff {f : α → Except E β} {l : List α} {bs : List β} :
    l.mapM f = .ok bs ↔ List.Forall₂ (fun a b => f a = .ok b) l bs := by
  induction l generalizing bs with
  | nil =>
      rw [List.mapM_nil, List.forall₂_nil_left_iff]
      exact ⟨fun h => by cases h; rfl, fun h => by rw [h]; rfl⟩
  | cons a l ih =>
      rw [mapM_eq_ok_cons, List.forall₂_cons_left_iff]
      constructor
      · rintro ⟨b, rest, hb, hrest, rfl⟩
        exact ⟨b, rest, hb, ih.mp hrest, rfl⟩
      · rintro ⟨b, rest, hb, hrest, rfl⟩
        exact ⟨b, rest, hb, ih.mpr hrest, rfl⟩

/-- A loop raises what its body raises on the first element on which it does not return. -/
theorem mapM_eq_error_iff {f : α → Except E β} {l : List α} {error : E} :
    l.mapM f = .error error ↔
      ∃ before a after, l = before ++ a :: after ∧ (∀ b ∈ before, ∃ c, f b = .ok c) ∧
        f a = .error error := by
  induction l with
  | nil => simp [pure, Except.pure]
  | cons first rest ih =>
      rw [List.mapM_cons, bind_eq_error]
      constructor
      -- the first element raises, or it returns and the exception is one of the rest
      · rintro (hfirst | ⟨c, hc, hrest⟩)
        · exact ⟨[], first, rest, rfl, fun b hb => absurd hb List.not_mem_nil, hfirst⟩
        · rcases bind_eq_error.mp hrest with hrest | ⟨cs, -, hpure⟩
          · obtain ⟨before, a, after, rfl, hbefore, ha⟩ := ih.mp hrest
            exact ⟨first :: before, a, after, rfl,
              List.forall_mem_cons.mpr ⟨⟨c, hc⟩, hbefore⟩, ha⟩
          · cases hpure
      · rintro ⟨before, a, after, hl, hbefore, ha⟩
        cases before with
        | nil =>
            obtain ⟨rfl, -⟩ := List.cons_eq_cons.mp hl
            exact Or.inl ha
        | cons b before =>
            obtain ⟨rfl, hrest⟩ := List.cons_eq_cons.mp hl
            obtain ⟨⟨c, hc⟩, hbefore⟩ := List.forall_mem_cons.mp hbefore
            exact Or.inr ⟨c, hc, bind_eq_error.mpr (Or.inl
              (ih.mpr ⟨before, a, after, hrest, hbefore, ha⟩))⟩

/-- A loop that raises has raised what its body raises on one of the elements. -/
theorem exists_of_mapM_eq_error {f : α → Except E β} {l : List α} {error : E}
    (h : l.mapM f = .error error) : ∃ a ∈ l, f a = .error error := by
  obtain ⟨before, a, after, rfl, -, ha⟩ := mapM_eq_error_iff.mp h
  exact ⟨a, List.mem_append_right before List.mem_cons_self, ha⟩

/-- What is known of each result is known of the list of results. -/
theorem map_eq_of_mapM {f : α → Except E β} {g : β → γ} {h : α → γ}
    (hbody : ∀ a b, f a = .ok b → g b = h a) {l : List α} {bs : List β}
    (hl : l.mapM f = .ok bs) : bs.map g = l.map h := by
  induction l generalizing bs with
  | nil =>
      cases hl
      rfl
  | cons a l ih =>
      obtain ⟨b, rest, hb, hrest, rfl⟩ := mapM_eq_ok_cons.mp hl
      rw [List.map_cons, List.map_cons, hbody a b hb, ih hrest]

/-- A loop returns where its body returns on every element. -/
theorem exists_mapM_eq_ok_iff {f : α → Except E β} {l : List α} :
    (∃ bs, l.mapM f = .ok bs) ↔ ∀ a ∈ l, ∃ b, f a = .ok b := by
  induction l with
  | nil => exact iff_of_true ⟨[], rfl⟩ fun a ha => absurd ha List.not_mem_nil
  | cons a l ih =>
      rw [List.forall_mem_cons, ← ih]
      constructor
      · rintro ⟨bs, hbs⟩
        obtain ⟨b, rest, hb, hrest, -⟩ := mapM_eq_ok_cons.mp hbs
        exact ⟨⟨b, hb⟩, rest, hrest⟩
      · rintro ⟨⟨b, hb⟩, rest, hrest⟩
        exact ⟨b :: rest, mapM_eq_ok_cons.mpr ⟨b, rest, hb, hrest, rfl⟩⟩

/-- The results are those of the members. -/
theorem mem_of_mapM {f : α → Except E β} {l : List α} {bs : List β} (h : l.mapM f = .ok bs)
    {b : β} : b ∈ bs ↔ ∃ a ∈ l, f a = .ok b := by
  induction l generalizing bs with
  | nil =>
      cases h
      simp
  | cons a l ih =>
      obtain ⟨b', rest, ha, hrest, rfl⟩ := mapM_eq_ok_cons.mp h
      rw [List.mem_cons, ih hrest, List.exists_mem_cons_iff, ha, Except.ok.injEq, eq_comm]

/-- A loop without results returns where its body returns on every element. -/
theorem forM_eq_ok_iff {f : α → Except E Unit} {l : List α} :
    l.forM f = .ok () ↔ ∀ a ∈ l, f a = .ok () := by
  induction l with
  | nil => exact iff_of_true rfl fun a ha => absurd ha List.not_mem_nil
  | cons a l ih =>
      rw [List.forM, bind_eq_ok, List.forall_mem_cons, ← ih]
      exact ⟨fun ⟨_, ha, hl⟩ => ⟨ha, hl⟩, fun ⟨ha, hl⟩ => ⟨_, ha, hl⟩⟩

/-- Two loops whose bodies correspond under a map of their states end in corresponding states. -/
theorem foldlM_of_comm {σ τ : Type} {f : σ → α → Except E σ} {g : τ → α → Except E τ} {φ : σ → τ}
    (hstep : ∀ s a, g (φ s) a = (f s a).map φ) (l : List α) (s : σ) :
    l.foldlM g (φ s) = (l.foldlM f s).map φ := by
  induction l generalizing s with
  | nil => rfl
  | cons a l ih =>
      rw [List.foldlM_cons, List.foldlM_cons, hstep]
      cases f s a with
      | error error => rfl
      | ok s' => exact ih s'

/-- A loop whose body never raises returns what it computes. -/
theorem mapM_eq_ok_map {f : α → Except E β} {g : α → β} {l : List α}
    (h : ∀ a ∈ l, f a = .ok (g a)) : l.mapM f = .ok (l.map g) := by
  induction l with
  | nil => rfl
  | cons a l ih =>
      rw [mapM_eq_ok_cons]
      exact ⟨g a, l.map g, h a List.mem_cons_self,
        ih fun b hb => h b (List.mem_cons_of_mem a hb), rfl⟩

/-- What holds before a loop, and after every round from a state of which it holds, holds after the
loop. -/
theorem foldlM_induction {σ : Type} {f : σ → α → Except E σ} {P : σ → Prop}
    (hstep : ∀ s a s', P s → f s a = .ok s' → P s') {l : List α} {s s' : σ} (hs : P s)
    (h : l.foldlM f s = .ok s') : P s' := by
  induction l generalizing s with
  | nil =>
      cases h
      exact hs
  | cons a l ih =>
      rw [List.foldlM_cons] at h
      obtain ⟨next, hfirst, hrest⟩ := bind_eq_ok.mp h
      exact ih (hstep s a next hs hfirst) hrest

/-! ## Programs with a state -/

section Stateful

variable {σ : Type} {s s' : σ} {a : α}

/-- After a step that returns, the program goes on from its state. -/
theorem run_bind_of_ok {program : StateT σ (Except E) α} {next : α → StateT σ (Except E) β}
    (h : program s = .ok (a, s')) : (program >>= next) s = next a s' := by
  show (program s >>= fun r => next r.1 r.2) = next a s'
  rw [h]
  rfl

/-- A loop over a list returns, with results that are related to the items, if every round
returns such a result. -/
theorem exists_run_mapM {f : α → StateT σ (Except E) β} {l : List α} {R : α → β → Prop}
    (h : ∀ a ∈ l, ∀ s, ∃ b s', f a s = .ok (b, s') ∧ R a b) (s : σ) :
    ∃ bs s', l.mapM f s = .ok (bs, s') ∧ l.Forall₂ R bs := by
  induction l generalizing s with
  | nil => exact ⟨[], s, rfl, .nil⟩
  | cons a l ih =>
      obtain ⟨b, s', hfirst, hb⟩ := h a List.mem_cons_self s
      obtain ⟨bs, s'', hrest, hbs⟩ := ih (fun a' ha' => h a' (List.mem_cons_of_mem a ha')) s'
      refine ⟨b :: bs, s'', ?_, .cons hb hbs⟩
      rw [List.mapM_cons, run_bind_of_ok hfirst, run_bind_of_ok hrest]
      rfl

end Stateful

/-! ## Constructors -/

section Accepted

variable {check : α → Except E Unit}

/-- A value that the check of its constructor accepts. -/
structure Accepted (check : α → Except E Unit) where
  val : α
  valid : check val = .ok ()

/-- A constructor: it raises what its check raises. -/
def accept (check : α → Except E Unit) (a : α) : Except E (Accepted check) :=
  match h : check a with
  | .ok () => .ok ⟨a, h⟩
  | .error error => .error error

/-- An accepted value is accepted again. -/
theorem accept_val (x : Accepted check) : accept check x.val = .ok x := by
  rw [accept]
  split
  · rfl
  next error herror =>
    rw [x.valid] at herror
    cases herror

end Accepted

end Exceptions
