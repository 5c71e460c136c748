import Mathlib.Data.List.Sort
import Mathlib.Data.String.Basic
import Odis.Library.KeyedTable
import Odis.ReasoningBridge.Evidence

/-!
# The evidence repository

`SqlAlchemyAiFaultEvidenceRepository`: the table of evidence records, whose primary key is the id of
the source event. The latest row of an asset is the one with the last timestamp of observation, and
the last id among those.

* `getLatestForAsset_eq_some_iff`: the latest row of an asset.
* `getLatestForAsset_append_of_after`, `getLatestForAsset_append_of_late`: what a further row of the
  asset makes of it.
-/

namespace Odis.ReasoningBridge

open KeyedTable

variable {F J : Type} [PyFloat F]

/-- `AiFaultEvidenceModel`: a primary key and no further constraint. -/
def evidenceSchema (F J : Type) [PyFloat F] : Schema (AiFaultEvidence F J) String String where
  key row := row.id
  covered _ := false
  indexKey row := row.id

/-- The table of evidence records. -/
abbrev EvidenceTable (F J : Type) [PyFloat F] : Type := Table (evidenceSchema F J)

/-- `get`. -/
def EvidenceTable.get (table : EvidenceTable F J) (evidenceId : String) :
    Option (AiFaultEvidence F J) :=
  table.rows.find? fun row => row.id = evidenceId

/-- `save`: a row whose id exists is refused. -/
def EvidenceTable.save (table : EvidenceTable F J) (evidence : AiFaultEvidence F J) :
    Except Conflict (EvidenceTable F J) :=
  match table.get evidence.id with
  | some _ => .error .primaryKey
  | none => insert table evidence

/-- The order of `observed_at, id`: the row is the other one or sorts before it. -/
def NotAfter (row other : AiFaultEvidence F J) : Prop :=
  row.observedAt.instant < other.observedAt.instant ∨
    (row.observedAt.instant = other.observedAt.instant ∧ row.id ≤ other.id)

instance (row other : AiFaultEvidence F J) : Decidable (NotAfter row other) :=
  inferInstanceAs (Decidable (_ ∨ _))

/-- `get_latest_for_asset`. -/
def EvidenceTable.getLatestForAsset (table : EvidenceTable F J) (assetId : String) :
    Option (AiFaultEvidence F J) :=
  selectFirst table (fun row => row.assetId = assetId) fun row other => NotAfter other row

section Order

variable {row other third : AiFaultEvidence F J}

/-- No record comes after itself. -/
theorem NotAfter.refl (row : AiFaultEvidence F J) : NotAfter row row :=
  Or.inr ⟨rfl, le_refl _⟩

/-- The order of the records is transitive. -/
theorem NotAfter.trans (h : NotAfter row other) (h' : NotAfter other third) :
    NotAfter row third := by
  rcases h with h | ⟨heq, hle⟩
  · rcases h' with h' | ⟨heq', _⟩
    · exact Or.inl (Int.lt_trans h h')
    · exact Or.inl (heq' ▸ h)
  · rcases h' with h' | ⟨heq', hle'⟩
    · exact Or.inl (heq ▸ h')
    · exact Or.inr ⟨heq.trans heq', le_trans hle hle'⟩

/-- And it is total. -/
theorem notAfter_total (row other : AiFaultEvidence F J) :
    NotAfter row other ∨ NotAfter other row := by
  rcases Int.lt_trichotomy row.observedAt.instant other.observedAt.instant with h | h | h
  · exact Or.inl (Or.inl h)
  · rcases le_total row.id other.id with hle | hle
    · exact Or.inl (Or.inr ⟨h, hle⟩)
    · exact Or.inr (Or.inr ⟨h.symm, hle⟩)
  · exact Or.inr (Or.inl h)

/-- Two rows neither of which sorts after the other have the same id. -/
theorem NotAfter.id_eq (h : NotAfter row other) (h' : NotAfter other row) : row.id = other.id := by
  rcases h with h | ⟨_, hle⟩
  · rcases h' with h' | ⟨heq, _⟩
    · exact absurd h' (Int.not_lt.mpr (Int.le_of_lt h))
    · exact absurd h (by rw [heq]; exact Int.lt_irrefl _)
  · rcases h' with h' | ⟨_, hle'⟩
    · rename_i heq
      exact absurd h' (by rw [heq]; exact Int.lt_irrefl _)
    · exact le_antisymm hle hle'

end Order

section Latest

variable {table table' : EvidenceTable F J} {assetId : String} {row new : AiFaultEvidence F J}

/-- An id is not found if no record has it. -/
theorem get_eq_none_iff {evidenceId : String} :
    table.get evidenceId = none ↔ ∀ row ∈ table.rows, row.id ≠ evidenceId := by
  simp [EvidenceTable.get, List.find?_eq_none]

/-- A record that is found has the id. -/
theorem of_get_eq_some {evidenceId : String} (h : table.get evidenceId = some row) :
    row ∈ table.rows ∧ row.id = evidenceId :=
  ⟨List.mem_of_find?_eq_some h, by simpa using List.find?_some h⟩

/-- A record of the table is found by its id. -/
theorem get_of_mem (h : row ∈ table.rows) : table.get row.id = some row := by
  cases hget : table.get row.id with
  | none => exact absurd rfl (get_eq_none_iff.mp hget row h)
  | some found =>
      obtain ⟨hfound, hid⟩ := of_get_eq_some hget
      rw [table.eq_of_key hfound h hid]

variable (table new) in
/-- A row with a new id is saved at the end of the table. -/
theorem save_of_new (h : table.get new.id = none) :
    ∃ saved, table.save new = .ok saved ∧ saved.rows = table.rows ++ [new] := by
  rw [EvidenceTable.save, h]
  exact insert_of_fresh table new (get_eq_none_iff.mp h) fun hcovered => by
    simp [evidenceSchema] at hcovered

/-- The latest row of an asset is the row of the asset that no other sorts after. -/
theorem getLatestForAsset_eq_some_iff :
    table.getLatestForAsset assetId = some row ↔
      row ∈ table.rows ∧ row.assetId = assetId ∧
        ∀ other ∈ table.rows, other.assetId = assetId → NotAfter other row := by
  rw [EvidenceTable.getLatestForAsset, selectFirst_eq_some_iff]
  · simp only [decide_eq_true_eq]
  · intro a b c hab hbc
    exact hbc.trans hab
  · intro a b
    exact notAfter_total b a
  · intro a b hab hba
    exact hba.id_eq hab

/-- An asset has no latest record if it has none. -/
theorem getLatestForAsset_eq_none_iff :
    table.getLatestForAsset assetId = none ↔ ∀ row ∈ table.rows, row.assetId ≠ assetId := by
  simp [EvidenceTable.getLatestForAsset, selectFirst_eq_none_iff]

/-- A row of another asset leaves the latest row of an asset. -/
theorem getLatestForAsset_append_of_ne (hrows : table'.rows = table.rows ++ [new])
    (hne : new.assetId ≠ assetId) :
    table'.getLatestForAsset assetId = table.getLatestForAsset assetId := by
  cases hlatest : table.getLatestForAsset assetId with
  | none =>
      rw [getLatestForAsset_eq_none_iff] at hlatest ⊢
      intro row hrow
      rw [hrows] at hrow
      rcases List.mem_append.mp hrow with hold | hnew
      · exact hlatest row hold
      · rwa [List.mem_singleton.mp hnew]
  | some latest =>
      rw [getLatestForAsset_eq_some_iff] at hlatest ⊢
      obtain ⟨hmem, hasset, hlast⟩ := hlatest
      refine ⟨by rw [hrows]; exact List.mem_append_left _ hmem, hasset, fun other hother hown => ?_⟩
      rw [hrows] at hother
      rcases List.mem_append.mp hother with hold | hnew
      · exact hlast other hold hown
      -- the new row is none of the asset
      · rw [List.mem_singleton.mp hnew] at hown
        exact absurd hown hne

/-- A row that every row of its asset sorts before is the latest one. -/
theorem getLatestForAsset_append_of_after (hrows : table'.rows = table.rows ++ [new])
    (hafter : ∀ latest, table.getLatestForAsset new.assetId = some latest → NotAfter latest new) :
    table'.getLatestForAsset new.assetId = some new := by
  rw [getLatestForAsset_eq_some_iff]
  refine ⟨by rw [hrows]; exact List.mem_append_right _ (List.mem_singleton_self _), rfl,
    fun other hother hown => ?_⟩
  rw [hrows] at hother
  rcases List.mem_append.mp hother with hold | hnew
  · cases hlatest : table.getLatestForAsset new.assetId with
    | none => exact absurd hown (getLatestForAsset_eq_none_iff.mp hlatest other hold)
    | some latest =>
        have hother' := (getLatestForAsset_eq_some_iff.mp hlatest).2.2 other hold hown
        exact hother'.trans (hafter latest hlatest)
  · rw [List.mem_singleton.mp hnew]
    exact .refl new

/-- A row that does not sort after the latest row of its asset leaves it the latest. -/
theorem getLatestForAsset_append_of_late (hrows : table'.rows = table.rows ++ [new])
    (hlatest : table.getLatestForAsset new.assetId = some row) (hlate : ¬ NotAfter row new) :
    table'.getLatestForAsset new.assetId = some row := by
  obtain ⟨hmem, hasset, hlast⟩ := getLatestForAsset_eq_some_iff.mp hlatest
  rw [getLatestForAsset_eq_some_iff]
  refine ⟨by rw [hrows]; exact List.mem_append_left _ hmem, hasset, fun other hother hown => ?_⟩
  rw [hrows] at hother
  rcases List.mem_append.mp hother with hold | hnew
  · exact hlast other hold hown
  · rw [List.mem_singleton.mp hnew]
    exact (notAfter_total row new).resolve_left hlate

end Latest

end Odis.ReasoningBridge
