import Mathlib.Data.List.Nodup
import Mathlib.Data.List.Sort

/-!
# Tables with a primary key and a partial unique index

A table of a relational store whose rows have a primary key and, where a predicate covers them,
a unique index value. Both constraints are part of the value (`Table`), as the store keeps them:
a statement whose result would break one of them fails (`check`) and changes nothing.

* `insert_of_fresh`, `upsert_of_fresh`, `upsert_of_conflict`, `updateWhere_of_stable`: when the
  statements succeed, and the rows they leave.
* `eq_of_covered`: a unique index covers at most one row with a given value.
-/

namespace KeyedTable

variable {R K I : Type*}

/-- What a store declares about the rows of a table. -/
structure Schema (R K I : Type*) where
  /-- The primary key. -/
  key : R → K
  /-- The predicate of the partial unique index. -/
  covered : R → Bool
  /-- The indexed value. -/
  indexKey : R → I

/-- The rows of a table, in insertion order, with the two constraints. -/
@[ext]
structure Table (schema : Schema R K I) where
  rows : List R
  key_nodup : (rows.map schema.key).Nodup
  index_nodup : ((rows.filter schema.covered).map schema.indexKey).Nodup

/-- The constraint a statement violates. -/
inductive Conflict where
  | primaryKey
  | uniqueIndex
  deriving DecidableEq, Repr

variable {schema : Schema R K I}

/-- The table without rows. -/
def Table.empty : Table schema := ⟨[], List.nodup_nil, List.nodup_nil⟩

@[simp]
theorem Table.rows_empty : (Table.empty : Table schema).rows = [] := rfl

/-- Where `g` takes each value once, an entry is the only one with its value. -/
theorem filter_eq_singleton [DecidableEq K] {l : List R} {g : R → K} (hnodup : (l.map g).Nodup)
    {a : R} (ha : a ∈ l) : l.filter (fun b => g b = g a) = [a] := by
  obtain ⟨before, after, rfl⟩ := List.append_of_mem ha
  rw [List.map_append, List.map_cons, List.nodup_middle, List.nodup_cons] at hnodup
  have hne : ∀ b ∈ before ++ after, ¬ g b = g a := fun b hb heq =>
    hnodup.1 (by rw [← List.map_append, ← heq]; exact List.mem_map_of_mem hb)
  rw [List.filter_append, List.filter_cons_of_pos (by simp),
    List.filter_eq_nil_iff.mpr fun b hb => by simpa using hne b (List.mem_append_left _ hb),
    List.filter_eq_nil_iff.mpr fun b hb => by simpa using hne b (List.mem_append_right _ hb)]
  rfl

namespace Table

/-- Two rows with the same primary key are the same row. -/
theorem eq_of_key (table : Table schema) {r r' : R} (hr : r ∈ table.rows) (hr' : r' ∈ table.rows)
    (hkey : schema.key r = schema.key r') : r = r' :=
  List.inj_on_of_nodup_map table.key_nodup hr hr' hkey

/-- Two covered rows with the same indexed value are the same row. -/
theorem eq_of_covered (table : Table schema) {r r' : R} (hr : r ∈ table.rows)
    (hr' : r' ∈ table.rows) (hcov : schema.covered r) (hcov' : schema.covered r')
    (hindex : schema.indexKey r = schema.indexKey r') : r = r' :=
  List.inj_on_of_nodup_map table.index_nodup (List.mem_filter.mpr ⟨hr, hcov⟩)
    (List.mem_filter.mpr ⟨hr', hcov'⟩) hindex

/-- A row is the only one with its primary key. -/
theorem filter_key [DecidableEq K] (table : Table schema) {row : R} (hrow : row ∈ table.rows) :
    table.rows.filter (fun r => schema.key r = schema.key row) = [row] :=
  filter_eq_singleton table.key_nodup hrow

/-- A covered row is the only one with its indexed value. -/
theorem filter_index [DecidableEq I] (table : Table schema) {row : R} (hrow : row ∈ table.rows)
    (hcov : schema.covered row) :
    table.rows.filter (fun r => schema.covered r && schema.indexKey r = schema.indexKey row) =
      [row] := by
  have h := filter_eq_singleton table.index_nodup (List.mem_filter.mpr ⟨hrow, hcov⟩)
  rw [List.filter_filter] at h
  rw [← h]
  exact List.filter_congr fun r _ => Bool.and_comm _ _

end Table

section Statements

variable [DecidableEq K] [DecidableEq I]

/-- The table with the given rows, or the constraint they break. -/
def check (schema : Schema R K I) (rows : List R) : Except Conflict (Table schema) :=
  if hkey : (rows.map schema.key).Nodup then
    if hindex : ((rows.filter schema.covered).map schema.indexKey).Nodup then
      .ok ⟨rows, hkey, hindex⟩
    else .error .uniqueIndex
  else .error .primaryKey

/-- `INSERT INTO … VALUES row`. -/
def insert (table : Table schema) (row : R) : Except Conflict (Table schema) :=
  check schema (table.rows ++ [row])

/-- `UPDATE … SET f WHERE p`. -/
def updateWhere (table : Table schema) (p : R → Bool) (f : R → R) :
    Except Conflict (Table schema) :=
  check schema (table.rows.map fun r => if p r then f r else r)

/-- The row a new row conflicts with on the partial unique index. -/
def conflicting (table : Table schema) (row : R) : Option R :=
  if schema.covered row then
    table.rows.find? fun r => schema.covered r && schema.indexKey r = schema.indexKey row
  else none

/-- `INSERT … ON CONFLICT (index) DO UPDATE SET f RETURNING *`: the row inserted or updated, and
the table after it. -/
def upsert (table : Table schema) (row : R) (f : R → R) : Except Conflict (R × Table schema) :=
  match conflicting table row with
  | none => (insert table row).map (row, ·)
  | some old =>
      (updateWhere table (fun r => schema.key r = schema.key old) f).map (f old, ·)

/-- Rows with distinct keys, in the table and in the index, pass the check. -/
theorem check_of_nodup {rows : List R} (hkey : (rows.map schema.key).Nodup)
    (hindex : ((rows.filter schema.covered).map schema.indexKey).Nodup) :
    check schema rows = .ok ⟨rows, hkey, hindex⟩ := by
  rw [check, dif_pos hkey, dif_pos hindex]

/-- A row with a new key, and a new indexed value if it is covered, is inserted. -/
theorem insert_of_fresh (table : Table schema) (row : R)
    (hkey : ∀ r ∈ table.rows, schema.key r ≠ schema.key row)
    (hindex : schema.covered row → ∀ r ∈ table.rows, schema.covered r →
      schema.indexKey r ≠ schema.indexKey row) :
    ∃ table', insert table row = .ok table' ∧ table'.rows = table.rows ++ [row] := by
  refine ⟨_, check_of_nodup ?_ ?_, rfl⟩
  · rw [List.map_append, List.map_singleton]
    refine List.Nodup.append table.key_nodup (List.nodup_singleton _) ?_
    simpa [List.disjoint_singleton] using hkey
  · rw [List.filter_append, List.map_append]
    cases hcov : schema.covered row with
    | false => simpa [hcov] using table.index_nodup
    | true =>
        rw [List.filter_cons_of_pos hcov, List.filter_nil, List.map_singleton]
        refine List.Nodup.append table.index_nodup (List.nodup_singleton _) ?_
        simpa [List.disjoint_singleton] using hindex hcov

omit [DecidableEq K] [DecidableEq I] in
/-- Rows that keep their indexed value and of which none becomes covered keep at most the indexed
values there were. -/
theorem indexed_map_sublist (rows : List R) {g : R → R}
    (hcov : ∀ r ∈ rows, schema.covered (g r) → schema.covered r)
    (hindex : ∀ r, schema.indexKey (g r) = schema.indexKey r) :
    (((rows.map g).filter schema.covered).map schema.indexKey).Sublist
      ((rows.filter schema.covered).map schema.indexKey) := by
  induction rows with
  | nil => simp
  | cons r rows ih =>
      have htail := ih fun r' hr' => hcov r' (List.mem_cons_of_mem _ hr')
      have hhead := hcov r List.mem_cons_self
      -- the row leaves the index, or stays in it with its value
      rw [List.map_cons, List.filter_cons, List.filter_cons]
      by_cases hnew : schema.covered (g r) = true
      · rw [if_pos hnew, if_pos (hhead hnew), List.map_cons, List.map_cons, hindex]
        exact htail.cons_cons _
      · rw [if_neg hnew]
        split_ifs
        · exact htail.cons _
        · exact htail

/-- An update that keeps the keys and the indexed values and covers no new row succeeds. -/
theorem updateWhere_of_stable (table : Table schema) {p : R → Bool} {f : R → R}
    (hkey : ∀ r, schema.key (f r) = schema.key r)
    (hcov : ∀ r ∈ table.rows, p r → schema.covered (f r) → schema.covered r)
    (hindex : ∀ r, schema.indexKey (f r) = schema.indexKey r) :
    ∃ table', updateWhere table p f = .ok table' ∧
      table'.rows = table.rows.map fun r => if p r then f r else r := by
  have hkeys : (table.rows.map fun r => if p r then f r else r).map schema.key =
      table.rows.map schema.key := by
    rw [List.map_map]
    refine List.map_congr_left fun r _ => ?_
    show schema.key (if p r then f r else r) = schema.key r
    split_ifs
    · exact hkey r
    · rfl
  -- the rows that the index covers afterwards were covered before
  have hsublist := indexed_map_sublist table.rows (g := fun r => if p r then f r else r)
    (fun r hr h => by
      split_ifs at h with hp
      · exact hcov r hr hp h
      · exact h)
    (fun r => by
      show schema.indexKey (if p r then f r else r) = schema.indexKey r
      split_ifs
      · exact hindex r
      · rfl)
  exact ⟨_, check_of_nodup (hkeys ▸ table.key_nodup) (table.index_nodup.sublist hsublist), rfl⟩

omit [DecidableEq K] in
/-- A row is free of conflict if no covered row has its index key. -/
theorem conflicting_eq_none_iff {table : Table schema} {row : R} :
    conflicting table row = none ↔
      (schema.covered row → ∀ r ∈ table.rows, schema.covered r →
        schema.indexKey r ≠ schema.indexKey row) := by
  unfold conflicting
  split_ifs with hcov <;> simp [hcov]

omit [DecidableEq K] in
/-- A conflicting row is a covered one of the table with the same index key. -/
theorem of_conflicting_eq_some {table : Table schema} {row old : R}
    (h : conflicting table row = some old) :
    old ∈ table.rows ∧ schema.covered old ∧ schema.indexKey old = schema.indexKey row := by
  unfold conflicting at h
  split_ifs at h
  have hold := List.find?_some h
  simp only [Bool.and_eq_true, decide_eq_true_eq] at hold
  exact ⟨List.mem_of_find?_eq_some h, hold⟩

/-- Without a conflict, a row with a new key is inserted. -/
theorem upsert_of_fresh (table : Table schema) (row : R) {f : R → R}
    (hkey : ∀ r ∈ table.rows, schema.key r ≠ schema.key row)
    (hnone : conflicting table row = none) :
    ∃ table', upsert table row f = .ok (row, table') ∧ table'.rows = table.rows ++ [row] := by
  obtain ⟨table', hinsert, hrows⟩ :=
    insert_of_fresh table row hkey (conflicting_eq_none_iff.mp hnone)
  exact ⟨table', by simp [upsert, hnone, hinsert, Except.map], hrows⟩

/-- On a conflict, an update that keeps the key, the indexed value and the coverage succeeds. -/
theorem upsert_of_conflict {table : Table schema} {row old : R} {f : R → R}
    (hkey : ∀ r, schema.key (f r) = schema.key r)
    (hcov : ∀ r, schema.covered (f r) = schema.covered r)
    (hindex : ∀ r, schema.indexKey (f r) = schema.indexKey r)
    (hsome : conflicting table row = some old) :
    ∃ table', upsert table row f = .ok (f old, table') ∧
      table'.rows = table.rows.map fun r => if schema.key r = schema.key old then f r else r := by
  obtain ⟨table', hupdate, hrows⟩ := updateWhere_of_stable table
    (p := fun r => decide (schema.key r = schema.key old)) hkey (fun r _ _ h => hcov r ▸ h) hindex
  refine ⟨table', by simp [upsert, hsome, hupdate, Except.map], by simpa using hrows⟩

end Statements

section Queries

/-- `SELECT * … WHERE p ORDER BY le LIMIT 1`. -/
def selectFirst (table : Table schema) (p : R → Bool) (le : R → R → Prop) [DecidableRel le] :
    Option R :=
  ((table.rows.filter p).insertionSort le).head?

variable {table : Table schema} {p : R → Bool} {le : R → R → Prop} [DecidableRel le] {row : R}

/-- Nothing is selected where no row matches. -/
theorem selectFirst_eq_none_iff :
    selectFirst table p le = none ↔ ∀ row ∈ table.rows, ¬ p row = true := by
  rw [selectFirst, List.head?_eq_none_iff, ← List.length_eq_zero_iff, List.length_insertionSort,
    List.length_eq_zero_iff, List.filter_eq_nil_iff]

/-- The row selected in a total order of the keys is the matching row before all others. -/
theorem selectFirst_eq_some_iff (htrans : ∀ a b c, le a b → le b c → le a c)
    (htotal : ∀ a b, le a b ∨ le b a)
    (hantisymm : ∀ a b, le a b → le b a → schema.key a = schema.key b) :
    selectFirst table p le = some row ↔
      row ∈ table.rows ∧ p row = true ∧ ∀ other ∈ table.rows, p other = true → le row other := by
  have : IsTrans R le := ⟨htrans⟩
  have : Std.Total le := ⟨htotal⟩
  -- the first row of the sorted ones comes before all of them
  have hselected : ∀ first, selectFirst table p le = some first →
      first ∈ table.rows ∧ p first = true ∧
        ∀ other ∈ table.rows, p other = true → le first other := by
    intro first hfirst
    have hsorted := List.pairwise_insertionSort le (table.rows.filter p)
    obtain ⟨rest, hrest⟩ := List.head?_eq_some_iff.mp hfirst
    have hmem : ∀ r, r ∈ first :: rest ↔ r ∈ table.rows ∧ p r = true := by
      intro r
      rw [← hrest, List.mem_insertionSort, List.mem_filter]
    obtain ⟨hin, hp⟩ := (hmem first).mp List.mem_cons_self
    refine ⟨hin, hp, fun other hother hpother => ?_⟩
    rcases List.mem_cons.mp ((hmem other).mpr ⟨hother, hpother⟩) with rfl | hlater
    · exact (htotal other other).elim id id
    · rw [hrest] at hsorted
      exact (List.pairwise_cons.mp hsorted).1 other hlater
  constructor
  · exact hselected row
  · rintro ⟨hrow, hp, hfirst⟩
    cases hselect : selectFirst table p le with
    | none => exact absurd hp (selectFirst_eq_none_iff.mp hselect row hrow)
    | some first =>
        obtain ⟨hin, hpfirst, hle⟩ := hselected first hselect
        -- two rows that come before all others have the same key, and are the same row
        have hkey := hantisymm _ _ (hfirst first hin hpfirst) (hle row hrow hp)
        rw [table.eq_of_key hrow hin hkey]

end Queries

end KeyedTable
