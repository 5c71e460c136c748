import Mathlib.Data.List.Induction

/-!
# Trailing runs

A list of observations is read from the left, and two kinds of counter follow it: the number of
observations at the end of the list that all satisfy a predicate (`trailingCount`), and the
longest block at the end of the list that carries one and the same label (`trailingRun`). Both
are updated from the last observation alone (`trailingCount_concat`, `trailingRun_concat`); the
module shows what they count, in terms of `LastAll n p l`: the last `n` entries of `l` all
satisfy `p`.

* `le_trailingCount_iff`: the counter reaches `n` iff the last `n` entries satisfy the predicate.
* `completed_trailingRun_iff`: the run of a label reaches `n ≥ 1` iff the last `n` entries carry
  it.
* `lastAll_drop_iff_evidenceWindow`: when the list is read since a boundary, the last `n` entries
  satisfy the predicate iff the window of `n` positions that ends here does, and does not reach
  back over a boundary.
-/

namespace TrailingRun

variable {α κ : Type*}

/-- `l` has at least `n` entries and the last `n` of them satisfy `p`. -/
def LastAll (n : ℕ) (p : α → Prop) (l : List α) : Prop :=
  n ≤ l.length ∧ ∀ a ∈ l.drop (l.length - n), p a

/-- The last zero entries have every property. -/
@[simp]
theorem lastAll_zero (p : α → Prop) (l : List α) : LastAll 0 p l := by
  simp [LastAll]

/-- There are no entries at the end of an empty list. -/
@[simp]
theorem not_lastAll_succ_nil (n : ℕ) (p : α → Prop) : ¬ LastAll (n + 1) p [] := by
  simp [LastAll]

/-- One more observation: the last `n + 1` entries satisfy `p` iff the new one does and the last
`n` before it do. -/
@[simp]
theorem lastAll_succ_concat (n : ℕ) (p : α → Prop) (l : List α) (a : α) :
    LastAll (n + 1) p (l ++ [a]) ↔ p a ∧ LastAll n p l := by
  have hdrop : l.length + 1 - (n + 1) = l.length - n := by omega
  constructor
  · rintro ⟨hlen, hall⟩
    rw [List.length_append, List.length_singleton] at hlen hall
    rw [hdrop, List.drop_append_of_le_length (by omega)] at hall
    refine ⟨hall a (by simp), by omega, fun b hb => hall b (List.mem_append_left _ hb)⟩
  · rintro ⟨ha, hlen, hall⟩
    refine ⟨by simpa using hlen, fun b hb => ?_⟩
    rw [List.length_append, List.length_singleton, hdrop,
      List.drop_append_of_le_length (by omega)] at hb
    rcases List.mem_append.mp hb with hb | hb
    · exact hall b hb
    · rw [List.mem_singleton] at hb
      exact hb ▸ ha

/-- What holds of the last entries holds of fewer of them. -/
theorem LastAll.mono {n m : ℕ} (hnm : n ≤ m) {p : α → Prop} {l : List α} (h : LastAll m p l) :
    LastAll n p l := by
  refine ⟨Nat.le_trans hnm h.1, fun a ha => h.2 a ?_⟩
  exact List.drop_subset_drop_left l (by omega) ha

/-- A condition that does not depend on the entries. -/
theorem lastAll_and_const {n : ℕ} (hn : 1 ≤ n) {P : Prop} {p : α → Prop} {l : List α} :
    LastAll n (fun a => P ∧ p a) l ↔ P ∧ LastAll n p l := by
  obtain ⟨n, rfl⟩ := Nat.exists_eq_add_of_le' hn
  cases l using List.reverseRecOn with
  | nil => simp
  | append_singleton l a =>
      simp only [lastAll_succ_concat]
      constructor
      · rintro ⟨⟨hP, ha⟩, hlen, hall⟩
        exact ⟨hP, ha, hlen, fun b hb => (hall b hb).2⟩
      · rintro ⟨hP, ha, hlen, hall⟩
        exact ⟨⟨hP, ha⟩, hlen, fun b hb => ⟨hP, hall b hb⟩⟩

/-- The last `n` entries after the first `b`, by position. -/
theorem lastAll_drop_iff {b : ℕ} {l : List α} (hb : b ≤ l.length) (n : ℕ) (p : α → Prop) :
    LastAll n p (l.drop b) ↔
      n + b ≤ l.length ∧ ∀ j (hj : j < l.length), l.length ≤ j + n → p l[j] := by
  rw [LastAll, List.length_drop, List.drop_drop]
  constructor
  · rintro ⟨hlen, hall⟩
    refine ⟨by omega, fun j hj hjn => hall _ ?_⟩
    rw [List.mem_drop_iff_getElem]
    refine ⟨j - (b + (l.length - b - n)), by omega, ?_⟩
    congr 1
    omega
  · rintro ⟨hlen, hall⟩
    refine ⟨by omega, fun a ha => ?_⟩
    obtain ⟨k, hk, rfl⟩ := List.mem_drop_iff_getElem.mp ha
    exact hall _ (by omega) (by omega)

/-! ## Windows

A counter that is reset at certain positions of a sequence counts a window that ends at the
current position and does not reach back over a reset. -/

/-- The `n` positions that end at `i` come after every boundary before `i`, and there is evidence
at each. -/
def EvidenceWindow (n i : ℕ) (boundary evidence : ℕ → Prop) : Prop :=
  n ≤ i + 1 ∧ (∀ j, j < i → boundary j → j + n ≤ i) ∧ ∀ j, j ≤ i → i < j + n → evidence j

/-- A window depends on the boundaries before its end and the evidence up to it. -/
theorem evidenceWindow_congr {n i : ℕ} {boundary boundary' evidence evidence' : ℕ → Prop}
    (hboundary : ∀ j, j < i → (boundary j ↔ boundary' j))
    (hevidence : ∀ j, j ≤ i → (evidence j ↔ evidence' j)) :
    EvidenceWindow n i boundary evidence ↔ EvidenceWindow n i boundary' evidence' := by
  refine and_congr_right' (and_congr ?_ ?_)
  · exact forall_congr' fun j => forall_congr' fun hj => imp_congr_left (hboundary j hj)
  · exact forall_congr' fun j => forall_congr' fun hj => imp_congr_right fun _ => hevidence j hj

/-- What is read since the last boundary, which is just before `b`, ends with `n` entries of
evidence iff the window of length `n` that ends at the last position does. -/
theorem lastAll_drop_iff_evidenceWindow {i b : ℕ} {l : List α} {boundary : ℕ → Prop}
    (hl : l.length = i + 1) (hb : b ≤ i) (hlast : b = 0 ∨ boundary (b - 1))
    (hquiet : ∀ j, b ≤ j → j < i → ¬ boundary j) (n : ℕ) (p : α → Prop) :
    LastAll n p (l.drop b) ↔
      EvidenceWindow n i boundary fun j => ∃ h : j < l.length, p l[j] := by
  rw [lastAll_drop_iff (by omega), EvidenceWindow]
  constructor
  · rintro ⟨hn, hall⟩
    refine ⟨by omega, fun j hj hbound => ?_, fun j hj hjn => ⟨by omega, hall j _ (by omega)⟩⟩
    have hjb : ¬ b ≤ j := fun hle => hquiet j hle hj hbound
    omega
  · rintro ⟨hn, hreset, hall⟩
    refine ⟨?_, fun j hj hjn => (hall j (by omega) (by omega)).2⟩
    rcases hlast with rfl | hbound
    · omega
    · by_cases hb0 : b = 0
      · omega
      · have := hreset (b - 1) (by omega) hbound
        omega

section Count

variable (p : α → Prop) [DecidablePred p]

/-- The number of entries at the end of the list that all satisfy `p`. -/
def trailingCount (l : List α) : ℕ :=
  l.foldl (fun k a => if p a then k + 1 else 0) 0

@[simp]
theorem trailingCount_nil : trailingCount p [] = 0 := rfl

/-- An entry with the property is counted, any other resets the count. -/
theorem trailingCount_concat (l : List α) (a : α) :
    trailingCount p (l ++ [a]) = if p a then trailingCount p l + 1 else 0 := by
  simp [trailingCount, List.foldl_append]

/-- The counter reaches `n` iff the last `n` entries satisfy the predicate. -/
theorem le_trailingCount_iff (n : ℕ) (l : List α) :
    n ≤ trailingCount p l ↔ LastAll n p l := by
  induction l using List.reverseRecOn generalizing n with
  | nil => cases n <;> simp
  | append_singleton l a ih =>
      cases n with
      | zero => simp
      | succ n =>
          rw [trailingCount_concat, lastAll_succ_concat, ← ih n]
          by_cases ha : p a <;> simp [ha]

end Count

section Run

variable [DecidableEq κ] (label : α → Option κ)

/-- The length of a run after one more observation labelled `c`: one more than before when the
run is of `c`, and `1` when it is of another label or there is none. -/
def continued (run : Option (κ × ℕ)) (c : κ) : ℕ :=
  match run with
  | some (d, k) => if c = d then k + 1 else 1
  | none => 1

/-- A run continued with its own label reaches `n + 2` iff it had reached `n + 1` before. -/
theorem add_two_le_continued_iff (run : Option (κ × ℕ)) (c : κ) (n : ℕ) :
    n + 2 ≤ continued run c ↔ ∃ k, run = some (c, k) ∧ n + 1 ≤ k := by
  rcases run with _ | ⟨d, k⟩
  · simp [continued]
  · by_cases hcd : c = d
    · simp [continued, hcd]
    · simp [continued, hcd, Ne.symm hcd]

/-- A run that goes on has at least one entry. -/
theorem one_le_continued (run : Option (κ × ℕ)) (c : κ) : 1 ≤ continued run c := by
  unfold continued
  split
  · split_ifs <;> omega
  · exact Nat.le_refl 1

/-- The run at the end of a list after one more observation: it is continued with the label of
the observation, and dropped when the observation carries none. -/
def extendRun (run : Option (κ × ℕ)) (a : α) : Option (κ × ℕ) :=
  (label a).map fun c => (c, continued run c)

/-- The label and the length of the longest block at the end of the list whose entries all carry
that label; `none` when the last entry carries no label. -/
def trailingRun (l : List α) : Option (κ × ℕ) := l.foldl (extendRun label) none

@[simp]
theorem trailingRun_nil : trailingRun label ([] : List α) = none := rfl

/-- One more entry extends the trailing run. -/
theorem trailingRun_concat (l : List α) (a : α) :
    trailingRun label (l ++ [a]) = extendRun label (trailingRun label l) a := by
  simp [trailingRun, List.foldl_append]

/-- What every entry of a run satisfies still does after one more observation that satisfies it. -/
theorem lastAll_of_extendRun {p : κ → α → Prop} {run : Option (κ × ℕ)} {l : List α} {a : α}
    (hlabel : ∀ c, label a = some c → p c a)
    (hrun : ∀ c k, run = some (c, k) → LastAll k (p c) l) {c : κ} {k : ℕ}
    (h : extendRun label run a = some (c, k)) : LastAll k (p c) (l ++ [a]) := by
  obtain ⟨d, hd, heq⟩ := Option.map_eq_some_iff.mp h
  obtain ⟨rfl, rfl⟩ := Prod.mk.inj heq
  have ha : p d a := hlabel d hd
  rcases run with _ | ⟨b, m⟩
  · simpa [continued] using ha
  · by_cases hdb : d = b
    · subst hdb
      simpa [continued] using ⟨ha, hrun d m rfl⟩
    · simpa [continued, hdb] using ha

/-- The label of a run that has reached `n`. -/
def completed (n : ℕ) (run : Option (κ × ℕ)) : Option κ :=
  run.bind fun labelled => if n ≤ labelled.2 then some labelled.1 else none

omit [DecidableEq κ] in
@[simp]
theorem completed_none (n : ℕ) : completed n (none : Option (κ × ℕ)) = none := rfl

omit [DecidableEq κ] in
/-- A run is complete from its length on. -/
@[simp]
theorem completed_some (n k : ℕ) (c : κ) :
    completed n (some (c, k)) = if n ≤ k then some c else none := rfl

omit [DecidableEq κ] in
/-- A class is complete if the run is of this class and long enough. -/
theorem completed_eq_some_iff (n : ℕ) (run : Option (κ × ℕ)) (c : κ) :
    completed n run = some c ↔ ∃ k, run = some (c, k) ∧ n ≤ k := by
  rcases run with _ | ⟨d, k⟩
  · simp
  · by_cases hk : n ≤ k
    · simp [hk]
    · simp only [completed_some, hk, if_false, Option.some.injEq, Prod.mk.injEq]
      constructor
      · intro h
        cases h
      · rintro ⟨k', ⟨-, rfl⟩, hn⟩
        exact absurd hn hk

/-- A completed run that has just been extended carries the label of the last observation. -/
theorem label_of_completed_extendRun {n : ℕ} {run : Option (κ × ℕ)} {a : α} {c : κ}
    (h : completed n (extendRun label run a) = some c) : label a = some c := by
  obtain ⟨k, hrun, -⟩ := (completed_eq_some_iff n _ c).mp h
  obtain ⟨d, hlabel, hd⟩ := Option.map_eq_some_iff.mp hrun
  rw [hlabel, (Prod.mk.inj hd).1]

/-- The run of the label `c` reaches `n + 1` iff the last `n + 1` entries carry `c`. -/
theorem completed_succ_trailingRun_iff (n : ℕ) (c : κ) (l : List α) :
    completed (n + 1) (trailingRun label l) = some c ↔
      LastAll (n + 1) (fun a => label a = some c) l := by
  rw [completed_eq_some_iff]
  induction l using List.reverseRecOn generalizing n with
  | nil => simp
  | append_singleton l a ih =>
      rw [trailingRun_concat, lastAll_succ_concat, extendRun]
      cases hlabel : label a with
      | none => simp
      | some d =>
          by_cases hdc : d = c
          · subst hdc
            cases n with
            | zero => simp [one_le_continued]
            | succ n =>
                -- the run goes on, so that it had reached one less before
                have hcontinued := add_two_le_continued_iff (trailingRun label l) d n
                rw [ih n] at hcontinued
                simpa [Nat.succ_le_iff] using hcontinued
          · simp [hdc]

/-- The run of the label `c` reaches `n ≥ 1` iff the last `n` entries carry `c`. -/
theorem completed_trailingRun_iff {n : ℕ} (hn : 1 ≤ n) (c : κ) (l : List α) :
    completed n (trailingRun label l) = some c ↔ LastAll n (fun a => label a = some c) l := by
  obtain ⟨n, rfl⟩ := Nat.exists_eq_add_of_le' hn
  exact completed_succ_trailingRun_iff label n c l

end Run

end TrailingRun
