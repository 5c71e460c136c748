import Mathlib.Data.List.SplitBy
import Mathlib.Data.List.TakeWhile

/-!
# Runs of one key

A list, cut into its maximal runs of entries with one key, by a scan that looks for the end of each
run.

* `runs_eq_splitBy`: the scan cuts the list where two neighbours have different keys.
* `runs_map`: the runs of a list are seen on its keys alone.
-/

namespace Runs

variable {α κ : Type*} [DecidableEq κ] (key : α → κ)

/-- The maximal runs of entries with one key. -/
def runs : List α → List (List α)
  | [] => []
  | a :: l =>
      (a :: l.takeWhile fun b => key b = key a) :: runs (l.dropWhile fun b => key b = key a)
termination_by l => l.length
decreasing_by exact Nat.lt_succ_of_le (List.length_dropWhile_le _ l)

variable {key} {a : α} {l : List α}

theorem runs_nil : runs key [] = [] := by rw [runs]

/-- The first run goes as far as the key stays the same. -/
theorem runs_cons : runs key (a :: l) =
    (a :: l.takeWhile fun b => key b = key a) :: runs key (l.dropWhile fun b => key b = key a) := by
  rw [runs]

/-- Entries of one key are one run. -/
theorem splitBy_of_forall_eq (h : ∀ b ∈ l, key b = key a) :
    (a :: l).splitBy (fun b c => key b == key c) = [a :: l] := by
  apply List.splitBy_of_isChain (List.cons_ne_nil a l)
  apply List.Pairwise.isChain
  rw [List.pairwise_cons]
  constructor
  · intro b hb
    exact beq_iff_eq.mpr (h b hb).symm
  · refine List.Pairwise.imp_of_mem (fun {b c} hb hc _ => ?_)
      (List.pairwise_of_forall fun _ _ => trivial)
    exact beq_iff_eq.mpr ((h b hb).trans (h c hc).symm)

/-- The scan cuts a list where the key changes. -/
theorem runs_eq_splitBy (l : List α) : runs key l = l.splitBy fun a b => key a == key b := by
  induction l using runs.induct key with
  | case1 => rw [runs_nil, List.splitBy_nil]
  | case2 a l ih =>
      let same := l.takeWhile fun b => key b = key a
      let rest := l.dropWhile fun b => key b = key a
      have hsame : ∀ b ∈ same, key b = key a := by
        intro b hb
        simpa using List.mem_takeWhile_imp hb
      have hsplit : (a :: same) ++ rest = a :: l :=
        congrArg (a :: ·) List.takeWhile_append_dropWhile
      -- the last entry of the run and the first one after it
      have hcut : ∀ x ∈ (a :: same).getLast?, ∀ y ∈ rest.head?, (key x == key y) = false := by
        intro x hx y hy
        have hlast : key x = key a := by
          rcases List.mem_cons.mp (List.mem_of_getLast? hx) with rfl | hmem
          · rfl
          · exact hsame x hmem
        have hnext : ¬ key y = key a := by
          have hfalse := List.head?_dropWhile_not (fun b => decide (key b = key a)) l
          rw [show (l.dropWhile fun b => decide (key b = key a)).head? = some y from hy] at hfalse
          simpa using hfalse
        rw [beq_eq_false_iff_ne, hlast]
        exact fun heq => hnext heq.symm
      -- so cutting there leaves the first run whole, and the rest is cut as before
      rw [runs_cons, ih, ← hsplit, List.splitBy_append hcut, splitBy_of_forall_eq hsame]
      rfl

/-- The keys of the runs are the runs of the keys. -/
theorem runs_map (l : List α) : runs id (l.map key) = (runs key l).map (List.map key) := by
  induction l using runs.induct key with
  | case1 => rw [List.map_nil, runs_nil, runs_nil, List.map_nil]
  | case2 a l ih =>
      rw [List.map_cons, runs_cons, runs_cons, List.takeWhile_map, List.dropWhile_map,
        List.map_cons, List.map_cons, ← ih]
      rfl

end Runs
