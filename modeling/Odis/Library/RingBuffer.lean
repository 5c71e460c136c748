import Mathlib.Data.List.Induction

/-!
# Ring buffers

A buffer that keeps the last `capacity` elements it was given. Pushing an element onto the end of a
list gives the end of the longer list (`push_lastEntries`), and the slices that end at its last
element and are no longer than it are slices of the whole list (`slice_drop`).
-/

namespace RingBuffer

variable {α : Type*}

/-- Append an element, and drop the oldest ones beyond the capacity. -/
def push (capacity : ℕ) (buffer : List α) (a : α) : List α :=
  (buffer ++ [a]).drop ((buffer ++ [a]).length - capacity)

/-- The last `capacity` elements of a list. -/
def lastEntries (capacity : ℕ) (l : List α) : List α := l.drop (l.length - capacity)

/-- The `length` elements that end at position `index`. -/
def slice (l : List α) (index length : ℕ) : List α :=
  (l.take (index + 1)).drop (index + 1 - length)

/-- Pushing onto the last entries keeps the last entries. -/
theorem push_lastEntries (capacity : ℕ) (l : List α) (a : α) :
    push capacity (lastEntries capacity l) a = lastEntries capacity (l ++ [a]) := by
  have hsplit : l.drop (l.length - capacity) ++ [a] = (l ++ [a]).drop (l.length - capacity) := by
    rw [List.drop_append_of_le_length (Nat.sub_le _ _)]
  have hlength : (l ++ [a]).length = l.length + 1 := by simp
  rw [push, lastEntries, lastEntries, hsplit, List.drop_drop, List.length_drop, hlength]
  congr 1
  omega

/-- Dropping elements before a slice leaves the slice. -/
theorem slice_drop (l : List α) {dropped index length : ℕ} (h : length ≤ index + 1) :
    slice (l.drop dropped) index length = slice l (dropped + index) length := by
  have hcut : dropped + index + 1 - length = dropped + (index + 1 - length) := by omega
  have htake : (l.take (dropped + index + 1)).drop dropped = (l.drop dropped).take (index + 1) := by
    rw [List.drop_take, Nat.add_assoc, Nat.add_sub_cancel_left]
  rw [slice, slice, hcut, ← List.drop_drop, htake]

/-- Elements after a slice are not in it. -/
theorem slice_append (l more : List α) {index length : ℕ} (h : index < l.length) :
    slice (l ++ more) index length = slice l index length := by
  rw [slice, slice, List.take_append_of_le_length h]

end RingBuffer
