import Mathlib.Algebra.BigOperators.Group.List.Basic
import Mathlib.Data.List.Pairwise
import Mathlib.Order.Lattice
import Mathlib.Tactic.Abel

/-!
# Stretches of a labelled sequence

Of a sequence of times, some of which carry a label, the maximal intervals with one label. A stretch
lasts until the label changes, or until the end of the sequence, where it is cut off.

* `pairwise_stretchesFrom`: they are disjoint and in order.
* `label_eq_some_iff`: they cover the times that carry a label, each with its own.
* `sum_durations`: their lengths add up to the labelled part of the sequence.
-/

namespace Stretches

/-- The times from `start` on and before `stop`, which carry one label. A stretch is censored if the
sequence ends before the label does. -/
structure Stretch (T L : Type*) where
  label : L
  start : T
  stop : T
  censored : Bool

variable {T L : Type*}

/-- A time lies in a stretch. -/
def Stretch.Covers [LE T] [LT T] (stretch : Stretch T L) (time : T) : Prop :=
  stretch.start ≤ time ∧ time < stretch.stop

variable [DecidableEq L]

/-- The stretches of a sequence that ends at `stop`, one of which may be open already. -/
def stretchesFrom (stop : T) : Option (T × L) → List (T × Option L) → List (Stretch T L)
  | opened, [] => (opened.map fun o => ⟨o.2, o.1, stop, true⟩).toList
  | opened, (time, label) :: rows =>
      if opened.map Prod.snd = label then stretchesFrom stop opened rows
      else
        (opened.map fun o => ⟨o.2, o.1, time, false⟩).toList ++
          stretchesFrom stop (label.map fun l => (time, l)) rows

variable {stop time : T} {opened : Option (T × L)} {label : Option L}
  {rows : List (T × Option L)}

/-- Only the last stretch is cut off. -/
theorem censored_dropLast :
    ∀ stretch ∈ (stretchesFrom stop opened rows).dropLast, stretch.censored = false := by
  induction rows generalizing opened with
  | nil =>
      intro stretch hmem
      cases opened with
      | none => cases hmem
      | some o => cases hmem
  | cons row rows ih =>
      rw [stretchesFrom]
      split_ifs
      · exact ih
      · cases opened with
        | none => exact ih
        | some o =>
            intro stretch hmem
            have hcases := (List.dropLast_sublist _).subset hmem
            rcases List.mem_cons.mp hcases with rfl | hrest
            · rfl
            · -- the stretch that is closed is followed by others
              have hne : stretchesFrom stop (row.2.map fun l => (row.1, l)) rows ≠ [] :=
                List.ne_nil_of_mem hrest
              change stretch ∈ (⟨o.2, o.1, row.1, false⟩ ::
                stretchesFrom stop (row.2.map fun l => (row.1, l)) rows).dropLast at hmem
              rw [List.dropLast_cons_of_ne_nil hne] at hmem
              rcases List.mem_cons.mp hmem with rfl | hmem
              · rfl
              · exact ih stretch hmem

/-! ## Order -/

section Order

variable [LinearOrder T]

/-- The times increase, from that of the open stretch to the end. -/
structure Increasing (stop : T) (opened : Option (T × L)) (rows : List (T × Option L)) : Prop where
  pairwise : rows.Pairwise fun a b => a.1 < b.1
  lt_stop : ∀ row ∈ rows, row.1 < stop
  opened_lt_stop : ∀ o ∈ opened, o.1 < stop
  opened_lt : ∀ o ∈ opened, ∀ row ∈ rows, o.1 < row.1

omit [DecidableEq L] in
/-- A row that is like the one before it leaves the open stretch open. -/
theorem Increasing.same (h : Increasing stop opened ((time, label) :: rows)) :
    Increasing stop opened rows where
  pairwise := (List.pairwise_cons.mp h.pairwise).2
  lt_stop row hrow := h.lt_stop row (List.mem_cons_of_mem _ hrow)
  opened_lt_stop := h.opened_lt_stop
  opened_lt o ho row hrow := h.opened_lt o ho row (List.mem_cons_of_mem _ hrow)

omit [DecidableEq L] in
/-- A row with another label opens a stretch. -/
theorem Increasing.next (h : Increasing stop opened ((time, label) :: rows)) :
    Increasing stop (label.map fun l => (time, l)) rows where
  pairwise := (List.pairwise_cons.mp h.pairwise).2
  lt_stop row hrow := h.lt_stop row (List.mem_cons_of_mem _ hrow)
  opened_lt_stop o ho := by
    obtain ⟨l, -, rfl⟩ := Option.map_eq_some_iff.mp ho
    exact h.lt_stop _ List.mem_cons_self
  opened_lt o ho row hrow := by
    obtain ⟨l, -, rfl⟩ := Option.map_eq_some_iff.mp ho
    exact (List.pairwise_cons.mp h.pairwise).1 row hrow

/-- The stretches start when the open one does or later. -/
theorem le_start {bound : T} (hopened : ∀ o ∈ opened, bound ≤ o.1)
    (hrows : ∀ row ∈ rows, bound ≤ row.1) :
    ∀ stretch ∈ stretchesFrom stop opened rows, bound ≤ stretch.start := by
  induction rows generalizing opened with
  | nil =>
      intro stretch hmem
      obtain ⟨o, ho, rfl⟩ := Option.map_eq_some_iff.mp (Option.mem_toList.mp hmem)
      exact hopened o ho
  | cons row rows ih =>
      have hrest : ∀ row ∈ rows, bound ≤ row.1 := fun row hrow =>
        hrows row (List.mem_cons_of_mem _ hrow)
      rw [stretchesFrom]
      split_ifs
      · exact ih hopened hrest
      -- the open stretch is closed here, or the stretch starts at this row or later
      · intro stretch hmem
        rcases List.mem_append.mp hmem with hmem | hmem
        · obtain ⟨o, ho, rfl⟩ := Option.map_eq_some_iff.mp (Option.mem_toList.mp hmem)
          exact hopened o ho
        · refine ih ?_ hrest stretch hmem
          intro o ho
          obtain ⟨l, -, rfl⟩ := Option.map_eq_some_iff.mp ho
          exact hrows row List.mem_cons_self

/-- The stretches that follow a row start at its time or later. -/
theorem time_le_start (h : Increasing stop opened ((time, label) :: rows)) :
    ∀ stretch ∈ stretchesFrom stop (label.map fun l => (time, l)) rows, time ≤ stretch.start := by
  apply le_start
  · intro o ho
    obtain ⟨l, -, rfl⟩ := Option.map_eq_some_iff.mp ho
    exact le_refl time
  · intro row hrow
    exact ((List.pairwise_cons.mp h.pairwise).1 row hrow).le

/-- No stretch is empty. -/
theorem start_lt_stop (h : Increasing stop opened rows) :
    ∀ stretch ∈ stretchesFrom stop opened rows, stretch.start < stretch.stop := by
  induction rows generalizing opened with
  | nil =>
      intro stretch hmem
      obtain ⟨o, ho, rfl⟩ := Option.map_eq_some_iff.mp (Option.mem_toList.mp hmem)
      exact h.opened_lt_stop o ho
  | cons row rows ih =>
      rw [stretchesFrom]
      split_ifs
      · exact ih h.same
      · intro stretch hmem
        rcases List.mem_append.mp hmem with hmem | hmem
        · obtain ⟨o, ho, rfl⟩ := Option.map_eq_some_iff.mp (Option.mem_toList.mp hmem)
          exact h.opened_lt o ho row List.mem_cons_self
        · exact ih h.next stretch hmem

/-- A stretch ends before the next one starts. -/
theorem pairwise_stretchesFrom (h : Increasing stop opened rows) :
    (stretchesFrom stop opened rows).Pairwise fun a b => a.stop ≤ b.start := by
  induction rows generalizing opened with
  | nil => cases opened <;> simp [stretchesFrom]
  | cons row rows ih =>
      rw [stretchesFrom]
      split_ifs
      · exact ih h.same
      · rw [List.pairwise_append]
        refine ⟨by cases opened <;> simp, ih h.next, ?_⟩
        intro stretch hmem stretch' hmem'
        obtain ⟨o, ho, rfl⟩ := Option.map_eq_some_iff.mp (Option.mem_toList.mp hmem)
        exact time_le_start h stretch' hmem'

/-! ## What they cover -/

/-- The stretches that cover a time before all rows are the open one. -/
theorem exists_covers_before {c : L} (hstop : time < stop) (hrows : ∀ row ∈ rows, time < row.1)
    (hopened : ∀ o ∈ opened, o.1 ≤ time) (h : Increasing stop opened rows) :
    (∃ stretch ∈ stretchesFrom stop opened rows, stretch.label = c ∧ stretch.Covers time) ↔
      opened.map Prod.snd = some c := by
  -- wherever the open stretch ends, it covers the time
  have hcovers : ∀ (last : T) (censored : Bool), time < last →
      ((∃ stretch ∈ (opened.map fun o => (⟨o.2, o.1, last, censored⟩ : Stretch T L)).toList,
        stretch.label = c ∧ stretch.Covers time) ↔ opened.map Prod.snd = some c) := by
    intro last censored hlast
    cases opened with
    | none => simp
    | some o => simp [Stretch.Covers, hlast, hopened o rfl]
  induction rows with
  | nil => exact hcovers stop true hstop
  | cons row rows ih =>
      have hrest : ∀ row ∈ rows, time < row.1 := fun row hrow =>
        hrows row (List.mem_cons_of_mem _ hrow)
      have htime : time < row.1 := hrows row List.mem_cons_self
      rw [stretchesFrom]
      split_ifs
      · exact ih hrest h.same
      · rw [← hcovers row.1 false htime]
        constructor
        · rintro ⟨stretch, hmem, hlabel, hcover⟩
          rcases List.mem_append.mp hmem with hmem | hmem
          · exact ⟨stretch, hmem, hlabel, hcover⟩
          · -- the later stretches start too late
            exact absurd (htime.trans_le (time_le_start h stretch hmem)) (not_lt_of_ge hcover.1)
        · rintro ⟨stretch, hmem, hlabel, hcover⟩
          exact ⟨stretch, List.mem_append_left _ hmem, hlabel, hcover⟩

/-- A row has a label exactly if a stretch with this label covers its time. -/
theorem label_eq_some_iff {c : L} (h : Increasing stop opened rows) :
    ∀ row ∈ rows, row.2 = some c ↔
      ∃ stretch ∈ stretchesFrom stop opened rows, stretch.label = c ∧ stretch.Covers row.1 := by
  induction rows generalizing opened with
  | nil =>
      intro row hrow
      cases hrow
  | cons first rows ih =>
      intro row hrow
      have hlater : ∀ row ∈ rows, first.1 < row.1 := (List.pairwise_cons.mp h.pairwise).1
      have hstop : first.1 < stop := h.lt_stop first List.mem_cons_self
      rw [stretchesFrom]
      split_ifs with hsame
      -- the row goes on with the open stretch
      · rcases List.mem_cons.mp hrow with rfl | hrow
        · have hopened : ∀ o ∈ opened, o.1 ≤ row.1 := fun o ho =>
            (h.opened_lt o ho row List.mem_cons_self).le
          rw [exists_covers_before hstop hlater hopened h.same, hsame]
        · exact ih h.same row hrow
      · -- the stretch that is closed has ended
        have hclosed : ∀ time, first.1 ≤ time →
            ((∃ stretch ∈ (opened.map fun o => (⟨o.2, o.1, first.1, false⟩ : Stretch T L)).toList ++
                stretchesFrom stop (first.2.map fun l => (first.1, l)) rows,
              stretch.label = c ∧ stretch.Covers time) ↔
            ∃ stretch ∈ stretchesFrom stop (first.2.map fun l => (first.1, l)) rows,
              stretch.label = c ∧ stretch.Covers time) := by
          intro time htime
          constructor
          · rintro ⟨stretch, hmem, hlabel, hcover⟩
            rcases List.mem_append.mp hmem with hmem | hmem
            · obtain ⟨o, -, rfl⟩ := Option.map_eq_some_iff.mp (Option.mem_toList.mp hmem)
              exact absurd hcover.2 (not_lt_of_ge htime)
            · exact ⟨stretch, hmem, hlabel, hcover⟩
          · rintro ⟨stretch, hmem, hlabel, hcover⟩
            exact ⟨stretch, List.mem_append_right _ hmem, hlabel, hcover⟩
        rcases List.mem_cons.mp hrow with rfl | hrow
        · have hopened : ∀ o ∈ (row.2.map fun l => (row.1, l)), o.1 ≤ row.1 := by
            intro o ho
            obtain ⟨l, -, rfl⟩ := Option.map_eq_some_iff.mp ho
            exact le_refl row.1
          rw [hclosed row.1 (le_refl row.1), exists_covers_before hstop hlater hopened h.next,
            Option.map_map]
          cases row.2 <;> simp
        · rw [hclosed row.1 (hlater row hrow).le]
          exact ih h.next row hrow

omit [DecidableEq L] in
/-- Of disjoint stretches, only one covers a time. -/
theorem eq_of_covers {stretches : List (Stretch T L)}
    (h : stretches.Pairwise fun a b => a.stop ≤ b.start) {a b : Stretch T L} (ha : a ∈ stretches)
    (hb : b ∈ stretches) (hcovers : a.Covers time) (hcovers' : b.Covers time) : a = b := by
  by_contra hne
  have hdisjoint : stretches.Pairwise fun a b => ¬ (a.Covers time ∧ b.Covers time) :=
    h.imp fun hle hboth => absurd (hboth.1.2.trans_le hle) (not_lt_of_ge hboth.2.1)
  have : Std.Symm fun a b : Stretch T L => ¬ (a.Covers time ∧ b.Covers time) :=
    ⟨fun _ _ h hboth => h hboth.symm⟩
  exact hdisjoint.forall ha hb hne ⟨hcovers, hcovers'⟩

end Order

/-! ## Lengths -/

section Lengths

variable {M : Type*} [AddCommGroup M] (value : T → M)

/-- The time of the first row, or the end. -/
def firstTime (stop : T) (rows : List (T × Option L)) : T := (rows.head?.map Prod.fst).getD stop

/-- The length of the part of a sequence that carries a label, from each row to the next. -/
def labelledLength (stop : T) : List (T × Option L) → M
  | [] => 0
  | (time, label) :: rows =>
      (if label.isSome then value (firstTime stop rows) - value time else 0) +
        labelledLength stop rows

/-- The lengths of the stretches add up to the labelled part. -/
theorem sum_durations :
    ((stretchesFrom stop opened rows).map fun s => value s.stop - value s.start).sum =
      (opened.elim 0 fun o => value (firstTime stop rows) - value o.1) +
        labelledLength value stop rows := by
  induction rows generalizing opened with
  | nil => cases opened <;> simp [stretchesFrom, labelledLength, firstTime]
  | cons row rows ih =>
      obtain ⟨time, label⟩ := row
      rw [stretchesFrom]
      -- the open stretch goes on, or it ends here and the next one starts here
      split_ifs with hsame
      · rw [ih]
        cases opened with
        | none =>
            cases hsame
            simp [labelledLength]
        | some o =>
            cases hsame
            simp only [Option.elim_some, labelledLength, firstTime, List.head?_cons,
              Option.map_some, Option.getD_some, Option.isSome_some, if_true]
            abel
      · rw [List.map_append, List.sum_append, ih]
        cases opened <;> cases label <;> simp [labelledLength, firstTime]

end Lengths

end Stretches
