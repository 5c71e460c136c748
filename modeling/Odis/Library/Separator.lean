import Mathlib.Data.List.Basic

/-!
# Words joined by a separator

Two words joined by a separator can be told apart from two others if the second ones have no
separator in them (`join_eq_join_iff_of_notMem`). Otherwise a piece between two separators may
belong to either word (`join_eq_join_iff`).
-/

namespace Separator

variable {α : Type*} {c : α} {xs ys xs' ys' : List α}

/-- The two pairs of words are equal, or a piece at the end of the one's first word stands at the
start of the other's second word. -/
def JoinsAlike (c : α) (xs ys xs' ys' : List α) : Prop :=
  (xs = xs' ∧ ys = ys') ∨
    (∃ piece, xs' = xs ++ c :: piece ∧ ys = piece ++ c :: ys') ∨
    ∃ piece, xs = xs' ++ c :: piece ∧ ys' = piece ++ c :: ys

/-- Joining alike goes both ways. -/
theorem JoinsAlike.symm (h : JoinsAlike c xs ys xs' ys') : JoinsAlike c xs' ys' xs ys := by
  rcases h with ⟨rfl, rfl⟩ | h | h
  · exact .inl ⟨rfl, rfl⟩
  · exact .inr (.inr h)
  · exact .inr (.inl h)

/-- Pairs that join alike have the same join. -/
theorem JoinsAlike.join_eq_join (h : JoinsAlike c xs ys xs' ys') :
    xs ++ c :: ys = xs' ++ c :: ys' := by
  rcases h with ⟨rfl, rfl⟩ | ⟨piece, rfl, rfl⟩ | ⟨piece, rfl, rfl⟩
  · rfl
  · simp
  · simp

/-- A join that is longer in its first word carries the separator and a piece over. -/
theorem joinsAlike_of_append {rest : List α} (hxs : xs' = xs ++ rest)
    (hys : c :: ys = rest ++ c :: ys') : JoinsAlike c xs ys xs' ys' := by
  cases rest with
  | nil =>
      refine .inl ⟨?_, (List.cons.inj hys).2⟩
      rw [hxs, List.append_nil]
  | cons d piece =>
      obtain ⟨rfl, rfl⟩ := List.cons.inj hys
      exact .inr (.inl ⟨piece, hxs, rfl⟩)

/-- Which pairs of words are joined to the same word. -/
theorem join_eq_join_iff : xs ++ c :: ys = xs' ++ c :: ys' ↔ JoinsAlike c xs ys xs' ys' := by
  refine ⟨fun h => ?_, JoinsAlike.join_eq_join⟩
  rcases List.append_eq_append_iff.mp h with ⟨rest, hxs, hys⟩ | ⟨rest, hxs, hys⟩
  · exact joinsAlike_of_append hxs hys
  · exact (joinsAlike_of_append hxs hys).symm

/-- Without a separator in the second words, the words are those of the join. -/
theorem join_eq_join_iff_of_notMem (h : c ∉ ys) (h' : c ∉ ys') :
    xs ++ c :: ys = xs' ++ c :: ys' ↔ xs = xs' ∧ ys = ys' := by
  rw [join_eq_join_iff, JoinsAlike]
  refine or_iff_left ?_
  rintro (⟨piece, -, rfl⟩ | ⟨piece, -, rfl⟩)
  · exact h (by simp)
  · exact h' (by simp)

end Separator
