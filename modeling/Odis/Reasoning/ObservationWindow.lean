import Mathlib.Data.List.Sort
import Odis.Inference.Telemetry
import Odis.Library.KeyedWindow

/-!
# The observation window

`bound_recent_observations` (`application/reasoning/observation_window.py`) keeps the most recent
observations of each measurement type. The observations keep their order by timestamp and id, which
the choice of the primary measurement type depends on.

* `boundRecentObservations_spec`: what is kept are the most recent observations of each type, for
  every order of the observations; windows compose.
* `boundRecentObservations_eq`: the observations of a repository are already in order.
-/

namespace Odis.Reasoning

open Inference KeyedWindow

variable {F : Type}

/-- The order `(timestamp, id)`. -/
def PrecedesOrEq (a b : Observation F) : Prop :=
  a.timestamp.instant < b.timestamp.instant ∨
    (a.timestamp.instant = b.timestamp.instant ∧ a.id ≤ b.id)

instance : DecidableRel (PrecedesOrEq (F := F)) := fun a b => by
  unfold PrecedesOrEq
  infer_instance

/-- `sorted(observations, key=lambda observation: (observation.timestamp, observation.id))`. -/
def sortedByTimestampAndId (observations : List (Observation F)) : List (Observation F) :=
  observations.insertionSort PrecedesOrEq

/-- `ValueError("window must be > 0")`. -/
inductive WindowError where
  | notPositive
  deriving DecidableEq, Repr

/-- `bound_recent_observations`. -/
def boundRecentObservations (observations : List (Observation F)) (window : ℤ) :
    Except WindowError (List (Observation F)) :=
  if window ≤ 0 then .error .notPositive
  else
    let byType := grouped Observation.measurementType observations
    let keptIds := byType.values.flatMap fun typeObservations =>
      ((sortedByTimestampAndId typeObservations).rtake window.toNat).map Observation.id
    .ok ((sortedByTimestampAndId observations).filter fun observation => observation.id ∈ keptIds)

/-- The observations as a repository lists them: in the order `(timestamp, id)`, and with distinct
ids. -/
structure RepositoryOrder (observations : List (Observation F)) : Prop where
  sorted : observations.Pairwise PrecedesOrEq
  ids_nodup : (observations.map Observation.id).Nodup

variable {observations : List (Observation F)}

/-- Observations with distinct ids are told apart by their ids. -/
theorem RepositoryOrder.eq_of_id (h : RepositoryOrder observations) {a b : Observation F}
    (ha : a ∈ observations) (hb : b ∈ observations) (hid : a.id = b.id) : a = b :=
  List.inj_on_of_nodup_map h.ids_nodup ha hb hid

/-! ## The order -/

/-- The order of observations is transitive. -/
theorem PrecedesOrEq.trans {a b c : Observation F} (hab : PrecedesOrEq a b)
    (hbc : PrecedesOrEq b c) : PrecedesOrEq a c := by
  rcases hab with hab | ⟨hab, hids⟩
  · rcases hbc with hbc | ⟨hbc, -⟩
    · exact Or.inl (hab.trans hbc)
    · exact Or.inl (hab.trans_eq hbc)
  · rcases hbc with hbc | ⟨hbc, hids'⟩
    · exact Or.inl (hab.trans_lt hbc)
    · exact Or.inr ⟨hab.trans hbc, String.le_trans hids hids'⟩

/-- And it is total. -/
theorem precedesOrEq_total (a b : Observation F) : PrecedesOrEq a b ∨ PrecedesOrEq b a := by
  rcases lt_trichotomy a.timestamp.instant b.timestamp.instant with hlt | heq | hgt
  · exact Or.inl (Or.inl hlt)
  · exact (String.le_total a.id b.id).imp (fun h => Or.inr ⟨heq, h⟩) fun h => Or.inr ⟨heq.symm, h⟩
  · exact Or.inr (Or.inl hgt)

/-- Two observations that precede each other have the same id. -/
theorem PrecedesOrEq.id_eq {a b : Observation F} (hab : PrecedesOrEq a b)
    (hba : PrecedesOrEq b a) : a.id = b.id := by
  rcases hab with hab | ⟨hab, hids⟩
  · rcases hba with hba | ⟨hba, -⟩
    · exact absurd hba hab.asymm
    · exact absurd hba hab.ne'
  · rcases hba with hba | ⟨-, hids'⟩
    · exact absurd hab hba.ne'
    · exact String.le_antisymm hids hids'

instance : IsTrans (Observation F) PrecedesOrEq := ⟨fun _ _ _ => PrecedesOrEq.trans⟩

instance : Std.Total (PrecedesOrEq (F := F)) := ⟨precedesOrEq_total⟩

/-- Sorted observations stay as they are when they are sorted again. -/
theorem sortedByTimestampAndId_eq (h : observations.Pairwise PrecedesOrEq) :
    sortedByTimestampAndId observations = observations :=
  List.Pairwise.insertionSort_eq h

/-- Sorting only permutes the observations. -/
theorem perm_sortedByTimestampAndId (observations : List (Observation F)) :
    (sortedByTimestampAndId observations).Perm observations :=
  List.perm_insertionSort _ observations

/-- Sorted observations are in order. -/
theorem pairwise_sortedByTimestampAndId (observations : List (Observation F)) :
    (sortedByTimestampAndId observations).Pairwise PrecedesOrEq :=
  List.pairwise_insertionSort _ observations

/-- Observations with distinct ids have only one order. -/
theorem eq_of_perm_of_sorted {kept kept' : List (Observation F)}
    (hids : (kept.map Observation.id).Nodup) (hperm : kept.Perm kept')
    (hsorted : kept.Pairwise PrecedesOrEq) (hsorted' : kept'.Pairwise PrecedesOrEq) :
    kept = kept' := by
  apply hperm.eq_of_pairwise _ hsorted hsorted'
  intro a b ha hb hab hba
  exact List.inj_on_of_nodup_map hids ha (hperm.mem_iff.mpr hb) (hab.id_eq hba)

/-- Sorted, any observations with distinct ids are in the order of a repository. -/
theorem repositoryOrder_sorted (hids : (observations.map Observation.id).Nodup) :
    RepositoryOrder (sortedByTimestampAndId observations) where
  sorted := pairwise_sortedByTimestampAndId observations
  ids_nodup :=
    ((perm_sortedByTimestampAndId observations).map Observation.id).nodup_iff.mpr hids

/-- The observations of one type, sorted by themselves or with all the others. -/
theorem sortedByTimestampAndId_ofKey (hids : (observations.map Observation.id).Nodup)
    (type : String) :
    sortedByTimestampAndId (ofKey Observation.measurementType type observations) =
      ofKey Observation.measurementType type (sortedByTimestampAndId observations) := by
  have hsub : (sortedByTimestampAndId
      (ofKey Observation.measurementType type observations)).Perm
        (ofKey Observation.measurementType type (sortedByTimestampAndId observations)) :=
    (perm_sortedByTimestampAndId _).trans
      ((perm_sortedByTimestampAndId observations).symm.filter _)
  apply eq_of_perm_of_sorted _ hsub (pairwise_sortedByTimestampAndId _)
    ((pairwise_sortedByTimestampAndId observations).filter _)
  rw [((perm_sortedByTimestampAndId _).map Observation.id).nodup_iff]
  exact hids.sublist (List.filter_sublist.map _)

/-! ## The window -/

/-- What is kept are the last observations of each type. -/
theorem boundRecentObservations_eq_sorted (hids : (observations.map Observation.id).Nodup)
    {window : ℤ} (hpos : 0 < window) :
    boundRecentObservations observations window =
      .ok (recentByKey Observation.measurementType window.toNat
        (sortedByTimestampAndId observations)) := by
  let sorted := sortedByTimestampAndId observations
  have horder : RepositoryOrder sorted := repositoryOrder_sorted hids
  have hmem : ∀ o, o ∈ sorted ↔ o ∈ observations := fun o =>
    (perm_sortedByTimestampAndId observations).mem_iff
  rw [boundRecentObservations, if_neg (Int.not_le.mpr hpos)]
  -- an observation is kept if its id is among those of the last ones of its type
  refine congrArg Except.ok
    (recentByKey_eq_filter (List.Nodup.of_map _ horder.ids_nodup) fun o ho => ?_)
  rw [decide_eq_true_eq, List.mem_flatMap]
  constructor
  · rintro ⟨group, hgroup, hid⟩
    obtain ⟨_, type, rfl⟩ := mem_values_grouped.mp hgroup
    rw [sortedByTimestampAndId_ofKey hids] at hid
    obtain ⟨o', ho', heq⟩ := List.mem_map.mp hid
    obtain ⟨hmem', rfl⟩ := mem_ofKey.mp (List.mem_of_mem_drop ho')
    -- the observation with this id is `o` itself
    rwa [horder.eq_of_id hmem' ho heq] at ho'
  · intro hrecent
    refine ⟨ofKey Observation.measurementType o.measurementType observations,
      mem_values_grouped.mpr ⟨?_, _, rfl⟩, ?_⟩
    · exact List.ne_nil_of_mem (mem_ofKey.mpr ⟨(hmem o).mp ho, rfl⟩)
    · rw [sortedByTimestampAndId_ofKey hids]
      exact List.mem_map_of_mem hrecent

/-- Of the observations of a repository, the last ones of each type are kept. -/
theorem boundRecentObservations_eq (h : RepositoryOrder observations) {window : ℤ}
    (hpos : 0 < window) :
    boundRecentObservations observations window =
      .ok (recentByKey Observation.measurementType window.toNat observations) := by
  rw [boundRecentObservations_eq_sorted h.ids_nodup hpos, sortedByTimestampAndId_eq h.sorted]

/-- The most recent observations of each type, in the order `(timestamp, id)`. -/
structure IsRecentWindow (window : ℕ) (observations kept : List (Observation F)) : Prop where
  sorted : kept.Pairwise PrecedesOrEq
  nodup : kept.Nodup
  subset : kept ⊆ observations
  /-- As many of each type as there are, up to the window. -/
  count : ∀ type, (ofKey Observation.measurementType type kept).length =
    min window (ofKey Observation.measurementType type observations).length
  /-- What is left out comes before all that is kept of its type. -/
  greatest : ∀ o ∈ kept, ∀ o' ∈ observations, o'.measurementType = o.measurementType →
    o' ∉ kept → PrecedesOrEq o' o

/-- The last observations of each type are a recent window. -/
theorem isRecentWindow_recentByKey (hids : (observations.map Observation.id).Nodup)
    (window : ℕ) :
    IsRecentWindow window observations
      (recentByKey Observation.measurementType window (sortedByTimestampAndId observations)) := by
  have horder := repositoryOrder_sorted hids
  have hperm := perm_sortedByTimestampAndId observations
  exact
    { sorted := horder.sorted.sublist sublist_recentByKey
      nodup := (List.Nodup.of_map _ horder.ids_nodup).sublist sublist_recentByKey
      subset := fun o ho => hperm.mem_iff.mp (sublist_recentByKey.subset ho)
      count := fun type => by
        have hgroup : (ofKey Observation.measurementType type
            (sortedByTimestampAndId observations)).length =
              (ofKey Observation.measurementType type observations).length :=
          (hperm.filter _).length_eq
        rw [length_ofKey_recentByKey, hgroup]
      greatest := fun o ho o' ho' htype hout =>
        rel_of_mem_recentByKey horder.sorted ho (hperm.mem_iff.mpr ho') htype hout }

/-- An observation that only one of two windows keeps would have to come both before and after one
that only the other keeps. -/
theorem IsRecentWindow.subset_of {window : ℕ} {kept kept' : List (Observation F)}
    (hids : (observations.map Observation.id).Nodup)
    (h : IsRecentWindow window observations kept)
    (h' : IsRecentWindow window observations kept') : kept ⊆ kept' := by
  intro o ho
  by_contra hout
  let group := ofKey Observation.measurementType o.measurementType kept
  let group' := ofKey Observation.measurementType o.measurementType kept'
  have hmem : o ∈ group := mem_ofKey.mpr ⟨ho, rfl⟩
  have hlength : group.length = group'.length := (h.count _).trans (h'.count _).symm
  -- the windows hold equally many of this type, so the other one has an observation for `o`
  obtain ⟨o', ho', hout'⟩ : ∃ o' ∈ group', o' ∉ group := by
    by_contra hnone
    push Not at hnone
    have hperm : group'.Perm group :=
      (List.subperm_of_subset (h'.nodup.filter _) hnone).perm_of_length_le hlength.le
    exact hout (mem_ofKey.mp (hperm.mem_iff.mpr hmem)).1
  obtain ⟨hkept', htype⟩ := mem_ofKey.mp ho'
  have hlost : o' ∉ kept := fun hkept => hout' (mem_ofKey.mpr ⟨hkept, htype⟩)
  have hbefore := h.greatest o ho o' (h'.subset hkept') htype hlost
  have hafter := h'.greatest o' hkept' o (h.subset ho) htype.symm hout
  have heq : o = o' := List.inj_on_of_nodup_map hids (h.subset ho) (h'.subset hkept')
    (hafter.id_eq hbefore)
  exact hlost (heq ▸ ho)

/-- There is one such window. -/
theorem IsRecentWindow.unique {window : ℕ} {kept kept' : List (Observation F)}
    (hids : (observations.map Observation.id).Nodup)
    (h : IsRecentWindow window observations kept)
    (h' : IsRecentWindow window observations kept') : kept = kept' := by
  have hperm : kept.Perm kept' := (List.perm_ext_iff_of_nodup h.nodup h'.nodup).mpr fun o =>
    ⟨fun ho => h.subset_of hids h' ho, fun ho => h'.subset_of hids h ho⟩
  apply hperm.eq_of_pairwise _ h.sorted h'.sorted
  intro a b ha hb hab hba
  exact List.inj_on_of_nodup_map hids (h.subset ha) (h'.subset hb) (hab.id_eq hba)

/-- The observations that `bound_recent_observations` keeps are the most recent ones of each type
and no others. They do not depend on the order of the observations, and a window of a window that
is at least as wide is the window itself. -/
theorem boundRecentObservations_spec (hids : (observations.map Observation.id).Nodup) {window : ℤ}
    (hpos : 1 ≤ window) :
    ∃ kept, boundRecentObservations observations window = .ok kept ∧
      (∀ kept', IsRecentWindow window.toNat observations kept' ↔ kept' = kept) ∧
      (∀ permuted, permuted.Perm observations →
        boundRecentObservations permuted window = .ok kept) ∧
      boundRecentObservations kept window = .ok kept ∧
      ∀ wider, window ≤ wider → ∃ keptWider,
        boundRecentObservations observations wider = .ok keptWider ∧
          boundRecentObservations keptWider window = .ok kept := by
  have horder := repositoryOrder_sorted hids
  have hwindow := isRecentWindow_recentByKey hids window.toNat
  -- a window of a sequence in repository order is again in that order
  have hrecent : ∀ wider : ℕ, RepositoryOrder
      (recentByKey Observation.measurementType wider (sortedByTimestampAndId observations)) :=
    fun wider =>
      { sorted := horder.sorted.sublist sublist_recentByKey
        ids_nodup := horder.ids_nodup.sublist (sublist_recentByKey.map _) }
  refine ⟨_, boundRecentObservations_eq_sorted hids hpos, fun kept' => ?_, fun permuted hperm => ?_,
    ?_, fun wider hle => ⟨_, boundRecentObservations_eq_sorted hids (hpos.trans hle), ?_⟩⟩
  · exact ⟨fun h => h.unique hids hwindow, fun h => h ▸ hwindow⟩
  · have hids' := (hperm.map Observation.id).nodup_iff.mpr hids
    have hsorted : sortedByTimestampAndId permuted = sortedByTimestampAndId observations :=
      eq_of_perm_of_sorted (repositoryOrder_sorted hids').ids_nodup
        ((perm_sortedByTimestampAndId permuted).trans
          (hperm.trans (perm_sortedByTimestampAndId observations).symm))
        (pairwise_sortedByTimestampAndId permuted) (pairwise_sortedByTimestampAndId observations)
    rw [boundRecentObservations_eq_sorted hids' hpos, hsorted]
  · rw [boundRecentObservations_eq (hrecent _) hpos, recentByKey_recentByKey le_rfl]
  · rw [boundRecentObservations_eq (hrecent _) hpos,
      recentByKey_recentByKey (Int.toNat_le_toNat hle)]

/-- A string of one character is not empty. -/
theorem ofList_singleton_ne_empty (c : Char) : String.ofList [c] ≠ "" := by
  intro h
  have hlength := congrArg String.length h
  simp at hlength

/-- An observation of `stack-1` with a one-letter id. -/
def letterObservation (letter : Char) (measurementType : String) (second : ℕ) : Observation ℚ :=
  ⟨String.ofList [letter], "stack-1", .utc (1000000 * second), measurementType, 60, "unit",
    ofList_singleton_ne_empty letter, stack1_ne_empty, unit_ne_empty⟩

/-- Observations of two types, three of them at the same time. -/
def mixedObservations : List (Observation ℚ) :=
  [letterObservation 'c' "voltage" 1, letterObservation 'b' "current" 1,
    letterObservation 'a' "voltage" 1, letterObservation 'd' "voltage" 0]

/-- The specification at observations of two types, with ties. -/
theorem boundRecentObservations_spec_mixed :
    ∃ kept, boundRecentObservations mixedObservations 2 = .ok kept ∧
      (∀ kept', IsRecentWindow 2 mixedObservations kept' ↔ kept' = kept) ∧
      (∀ permuted, permuted.Perm mixedObservations →
        boundRecentObservations permuted 2 = .ok kept) ∧
      boundRecentObservations kept 2 = .ok kept ∧
      ∀ wider, 2 ≤ wider → ∃ keptWider,
        boundRecentObservations mixedObservations wider = .ok keptWider ∧
          boundRecentObservations keptWider 2 = .ok kept :=
  boundRecentObservations_spec (by decide +kernel) (by decide)

end Odis.Reasoning
