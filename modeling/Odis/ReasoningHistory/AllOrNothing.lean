import Odis.Library.Transducer
import Odis.ReasoningHistory.Runs

/-!
# Runs that leave nothing or everything

`ReasoningSession.run` has no rollback: what a repository was given before an exception stays in it.
Whether a run that raises leaves the repositories as they were is told by the attempts it makes, in
their order, to publish an event, to save a record, or to go on with the next step of the reasoning.

* `ReasoningSession.attempts`: the attempts of a run.
* `ReasoningSession.Completes`: none of them fails, so that the run returns.
* `ReasoningSession.RefusedAtOnce`: one of them fails before a record is kept.
* `allOrNothingWhen`: these are the only runs that are all-or-nothing, and the readers resolve all
  registered runs exactly if all calls were such.
-/

namespace Odis.ReasoningHistory

open Exceptions Inference Reasoning WriteLog

variable {F E : Type}

/-! ## Attempts -/

/-- What a run attempts at one point. -/
inductive Attempt (F E : Type) where
  | announce (event : SessionEvent)
  | save (row : Row F)
  /-- A step of the reasoning that raises. -/
  | raise (error : SessionError E)

/-- The record that an attempt is to save. -/
def Attempt.saved : Attempt F E → Option (Row F)
  | .save row => some row
  | _ => none

/-- A record as the repositories tell it apart: where it belongs, and its id. -/
def keyOf : Row F → ℕ × String
  | .run run => (0, run.id)
  | .registry entry => (1, entry.runId)
  | .observation observation => (2, observation.id)
  | .situation situation => (3, situation.id)
  | .context context => (4, context.id)
  | .plan plan => (5, plan.id)
  | .index index => (6, index.runId)

/-- After a record is put its id is taken, and no other one is. -/
theorem isTaken_put (repositories : Repositories F) (row row' : Row F) :
    (repositories.put row).isTaken row' = true ↔
      repositories.isTaken row' = true ∨ keyOf row' = keyOf row := by
  cases row <;> cases row' <;> simp [Repositories.put, Repositories.isTaken, keyOf]

namespace ReasoningSession

variable (session : ReasoningSession F E)

/-- An attempt is made. -/
def attempt : Attempt F E → SessionM F E Unit
  | .announce event => session.announce event
  | .save row => session.save row
  | .raise error => throw error

/-- The attempts of the loop over the observations. -/
def observationAttempts (observations : List (Observation F)) : List (Attempt F E) :=
  observations.flatMap fun observation =>
    [.announce (.observationRecorded observation.id observation.timestamp),
      .save (.observation observation)]

/-- The attempts after the stages are done. -/
def artifactAttempts (draws : RunDraws) (observations : List (Observation F))
    (situation : OperationalSituation) (context : DecisionContext) (plan : DecisionPlan) :
    List (Attempt F E) :=
  [.announce (.operationalSituationCreated situation.id draws.situationAnnouncedAt),
    .save (.situation situation),
    .announce (.decisionContextCreated context.id context.createdAt),
    .save (.context context),
    .announce (.decisionPlanGenerated plan.id plan.createdAt),
    .save (.plan plan),
    .save (.index (indexOf draws observations situation context plan))]

/-- The attempts of a run, up to a step of the reasoning that raises. -/
def attempts [PyFloat F] (draws : RunDraws) (goal : OperationalGoal)
    (observations : List (Observation F)) : List (Attempt F E) :=
  .save (.run draws.run) :: .save (.registry ⟨draws.run.id, draws.run.startedAt⟩) ::
    match session.windowed observations with
    | .error error => [.raise (.window error)]
    | .ok windowed =>
        observationAttempts windowed ++
          match runStages session.texts draws.drawn
            { goal := goal, observations := windowed, profile := session.profile } with
          | .error error => [.raise (.stage error)]
          | .ok reasoningContext =>
              match populated reasoningContext.artifacts with
              | .error error => [.raise error]
              | .ok ⟨situation, _, context, plan⟩ =>
                  artifactAttempts draws windowed situation context plan

/-- Recording observations is a list of attempts. -/
theorem recordObservations_eq (observations : List (Observation F)) :
    session.recordObservations observations =
      (observationAttempts observations).forM session.attempt := by
  unfold recordObservations observationAttempts
  simp only [List.forM_eq_forM]
  induction observations with
  | nil => rfl
  | cons observation observations ih =>
      rw [List.forM_cons, List.flatMap_cons, List.forM_append, ← ih]
      simp only [List.forM_cons, List.forM_nil, bind_assoc]
      rfl

/-- So is recording the artifacts. -/
theorem recordArtifacts_eq (draws : RunDraws) (observations : List (Observation F))
    (situation : OperationalSituation) (context : DecisionContext) (plan : DecisionPlan) :
    session.recordArtifacts draws observations situation context plan =
      (artifactAttempts draws observations situation context plan).forM session.attempt := by
  unfold recordArtifacts artifactAttempts
  simp only [List.forM_eq_forM, List.forM_cons, List.forM_nil]
  simp only [attempt, bind_pure_unit]

/-- A run makes its attempts one after the other. -/
theorem run_eq_attempts [PyFloat F] (draws : RunDraws) (goal : OperationalGoal)
    (observations : List (Observation F)) :
    (fun _ => ()) <$> session.run draws goal observations =
      (session.attempts draws goal observations).forM session.attempt := by
  unfold run attempts
  simp only [List.forM_eq_forM, List.forM_cons, map_bind]
  congr 1; funext _; congr 1; funext _
  -- what is left to attempt depends on what the window and the stages return
  cases hwindowed : session.windowed observations with
  | error error => rfl
  | ok windowed =>
      simp only [Except.mapError, raising, pure_bind, recordObservations_eq, List.forM_append]
      congr 1; funext _
      cases hstages : runStages session.texts draws.drawn
        { goal := goal, observations := windowed, profile := session.profile } with
      | error error => rfl
      | ok reasoningContext =>
          cases hpopulated : (populated reasoningContext.artifacts :
            Except (SessionError E) Populated) with
          | error error =>
              simp only [pure_bind, hpopulated]
              rfl
          | ok found =>
              obtain ⟨situation, structuredAssessment, context, plan⟩ := found
              simp only [pure_bind, hpopulated, recordArtifacts_eq, map_pure, bind_pure_unit]
              rfl

/-! ## Which attempts fail -/

/-- An attempt fails in a state of the repositories. -/
def FailsIn (repositories : Repositories F) : Attempt F E → Prop
  | .announce event => ∃ error, session.publish event = .error error
  | .save row => session.configuration.gives row = true ∧ repositories.isTaken row = true
  | .raise _ => True

/-- The record that an attempt leaves in a repository that is given. -/
def kept (attempt : Attempt F E) : Option (Row F) :=
  attempt.saved.filter session.configuration.gives

/-- The repositories with the record that an attempt leaves. -/
def leave (repositories : Repositories F) (attempt : Attempt F E) : Repositories F :=
  match session.kept attempt with
  | some row => repositories.put row
  | none => repositories

variable {session} {repositories : Repositories F}

variable (repositories) in
/-- An attempt that fails changes nothing, and any other one leaves its record. -/
theorem attempt_eq (attempt : Attempt F E) :
    session.FailsIn repositories attempt ∧
        (∃ error, session.attempt attempt repositories = .error error repositories) ∨
      ¬ session.FailsIn repositories attempt ∧
        session.attempt attempt repositories = .ok () (session.leave repositories attempt) := by
  cases attempt with
  | announce event =>
      unfold ReasoningSession.attempt FailsIn announce
      dsimp only
      cases hpublish : session.publish event with
      | error error => exact .inl ⟨⟨error, rfl⟩, _, rfl⟩
      | ok _ => exact .inr ⟨by rintro ⟨_, ⟨⟩⟩, rfl⟩
  -- a row is refused if its id is taken, and left out if there is no repository for it
  | save row =>
      unfold ReasoningSession.attempt FailsIn save
      dsimp only
      split_ifs with htaken
      · exact .inl ⟨htaken, _, rfl⟩
      · refine .inr ⟨htaken, ?_⟩
        unfold leave kept Configuration.add
        cases hgives : session.configuration.gives row <;>
          simp [Attempt.saved, Option.filter, hgives]
  | raise error => exact .inl ⟨trivial, error, rfl⟩

/-- An attempt fails after another one if it would have before, or if both keep a record and the
two have one id. -/
theorem failsIn_leave (attempt other : Attempt F E) :
    session.FailsIn (session.leave repositories attempt) other ↔
      session.FailsIn repositories other ∨ ∃ row ∈ session.kept attempt,
        ∃ row' ∈ session.kept other, keyOf row' = keyOf row := by
  cases other with
  | announce event => simp [FailsIn, kept, Attempt.saved]
  | raise error => simp [FailsIn]
  | save row' =>
      unfold FailsIn leave
      cases hgives : session.configuration.gives row' with
      | false => simp [kept, Attempt.saved, hgives]
      | true =>
          cases session.kept attempt with
          | none => simp
          | some row => simp [kept, Attempt.saved, hgives, isTaken_put]

/-- Attempts are all made if none of them fails at first and no two keep records of one id. -/
theorem exists_forM_iff {attempts : List (Attempt F E)} :
    (∃ after, attempts.forM session.attempt repositories = .ok () after) ↔
      (∀ attempt ∈ attempts, ¬ session.FailsIn repositories attempt) ∧
        ((attempts.filterMap session.kept).map keyOf).Nodup := by
  induction attempts generalizing repositories with
  | nil => exact iff_of_true ⟨repositories, rfl⟩ (by simp)
  | cons attempt attempts ih =>
      rw [List.forM_eq_forM] at ih ⊢
      rw [List.forM_cons, List.forall_mem_cons]
      rcases attempt_eq repositories attempt with
        ⟨hfails, error, hattempt⟩ | ⟨hfails, hattempt⟩
      · rw [bind_of_error hattempt]
        exact iff_of_false (by rintro ⟨after, ⟨⟩⟩) fun h => h.1.1 hfails
      · rw [bind_of_ok hattempt, ih]
        simp only [failsIn_leave, not_or, hfails, not_false_eq_true, true_and]
        cases hkept : session.kept attempt with
        | none => simp [hkept]
        | some row =>
            rw [List.filterMap_cons_some hkept, List.map_cons, List.nodup_cons]
            -- the first record takes its id, so no other attempt may keep one with the same id
            have hfresh : keyOf row ∉ (attempts.filterMap session.kept).map keyOf ↔
                ∀ other ∈ attempts, ¬ ∃ row' ∈ session.kept other, keyOf row' = keyOf row := by
              simp only [List.mem_map, List.mem_filterMap, not_exists, not_and]
              exact ⟨fun h other hother row' hrow' => h row' ⟨other, hother, hrow'⟩,
                fun h row' ⟨other, hother, hrow'⟩ => h other hother row' hrow'⟩
            rw [hfresh]
            simp [forall_and, and_assoc]

/-- An id that is taken still is after any attempts. -/
theorem isTaken_forM {attempts : List (Attempt F E)} {row : Row F} {after : Repositories F}
    (hafter : attempts.forM session.attempt repositories = .ok () after ∨
      ∃ error, attempts.forM session.attempt repositories = .error error after)
    (htaken : repositories.isTaken row = true) : after.isTaken row = true := by
  induction attempts generalizing repositories with
  | nil =>
      rcases hafter with hok | ⟨error, herror⟩
      · cases hok
        exact htaken
      · cases herror
  | cons attempt attempts ih =>
      rw [List.forM_eq_forM] at ih hafter
      rw [List.forM_cons] at hafter
      rcases attempt_eq repositories attempt with
        ⟨-, error, hattempt⟩ | ⟨-, hattempt⟩
      · rw [bind_of_error hattempt] at hafter
        rcases hafter with ⟨⟨⟩⟩ | ⟨_, ⟨⟩⟩
        exact htaken
      · rw [bind_of_ok hattempt] at hafter
        -- the first attempt removes no row
        refine ih hafter ?_
        unfold leave
        cases session.kept attempt with
        | none => exact htaken
        | some row' => exact (isTaken_put _ _ _).mpr (.inl htaken)

/-- The id of a record that is kept was free. -/
theorem isTaken_of_kept {attempt : Attempt F E} {row : Row F}
    (hkept : session.kept attempt = some row) :
    session.FailsIn repositories attempt ↔ repositories.isTaken row = true := by
  cases attempt with
  | announce event => cases hkept
  | raise error => cases hkept
  | save row' =>
      obtain ⟨hrow, hgives⟩ := Option.filter_eq_some_iff.mp hkept
      obtain rfl := Option.some.inj hrow
      exact and_iff_right hgives

variable (session repositories) in
/-- An attempt fails before one of them keeps a record. -/
def FailsFirst (attempts : List (Attempt F E)) : Prop :=
  ∃ earlier attempt later, attempts = earlier ++ attempt :: later ∧
    (∀ other ∈ earlier, session.kept other = none) ∧ session.FailsIn repositories attempt

/-- Attempts that fail have changed nothing exactly if they fail before they keep a record. -/
theorem forM_unchanged_iff {attempts : List (Attempt F E)} :
    (∀ error after, attempts.forM session.attempt repositories = .error error after →
        after = repositories) ↔
      (∃ after, attempts.forM session.attempt repositories = .ok () after) ∨
        FailsFirst session repositories attempts := by
  induction attempts with
  | nil => exact iff_of_true (by rintro error after ⟨⟩) (.inl ⟨repositories, rfl⟩)
  | cons attempt attempts ih =>
      rw [List.forM_eq_forM] at ih ⊢
      rw [List.forM_cons]
      rcases attempt_eq repositories attempt with
        ⟨hfails, error, hattempt⟩ | ⟨hfails, hattempt⟩
      · rw [bind_of_error hattempt]
        refine iff_of_true ?_ (.inr ⟨[], attempt, attempts, rfl, by simp, hfails⟩)
        rintro _ _ ⟨⟩
        rfl
      rw [bind_of_ok hattempt]
      cases hkept : session.kept attempt with
      | none =>
          have hleave : session.leave repositories attempt = repositories := by
            unfold leave
            rw [hkept]
          -- an attempt that keeps nothing does not count
          have hfirst : FailsFirst session repositories (attempt :: attempts) ↔
              FailsFirst session repositories attempts := by
            constructor
            · rintro ⟨_ | ⟨first, earlier⟩, other, later, hall, hearlier, hother⟩
              · obtain ⟨rfl, -⟩ := List.cons_eq_cons.mp hall
                exact absurd hother hfails
              · obtain ⟨rfl, rfl⟩ := List.cons_eq_cons.mp hall
                exact ⟨earlier, other, later, rfl, (List.forall_mem_cons.mp hearlier).2, hother⟩
            · rintro ⟨earlier, other, later, rfl, hearlier, hother⟩
              exact ⟨attempt :: earlier, other, later, rfl,
                List.forall_mem_cons.mpr ⟨hkept, hearlier⟩, hother⟩
          rw [hleave, ih, hfirst]
      | some row =>
          -- from here on there is a record more
          have hfirst : ¬ FailsFirst session repositories (attempt :: attempts) := by
            rintro ⟨_ | ⟨first, earlier⟩, other, later, hall, hearlier, hother⟩
            · obtain ⟨rfl, -⟩ := List.cons_eq_cons.mp hall
              exact hfails hother
            · obtain ⟨rfl, -⟩ := List.cons_eq_cons.mp hall
              exact absurd (hkept.symm.trans (hearlier _ List.mem_cons_self)) (by simp)
          rw [or_iff_left hfirst]
          constructor
          · intro hunchanged
            cases hrest : forM attempts session.attempt (session.leave repositories attempt) with
            | ok _ after => exact ⟨after, rfl⟩
            | error error after =>
                -- the record is there still when a later attempt fails
                have hnew : (session.leave repositories attempt).isTaken row = true := by
                  unfold leave
                  rw [hkept]
                  exact (isTaken_put _ _ _).mpr (.inr rfl)
                have hafter := isTaken_forM (.inr ⟨error, hrest⟩) hnew
                rw [hunchanged error after hrest] at hafter
                exact absurd ((isTaken_of_kept hkept).mpr hafter) hfails
          · rintro ⟨after, hok⟩ error after' herror
            rw [hok] at herror
            cases herror

/-! ## Runs -/

section Run

variable [PyFloat F] {draws : RunDraws} {goal : OperationalGoal}
  {observations : List (Observation F)}

variable (session repositories draws goal observations) in
/-- A run is not refused: the window and the stages go through, the publisher accepts every event,
and no id that is saved is taken or, among the observations, there twice. -/
structure Completes : Prop where
  succeeds : ∀ attempt ∈ session.attempts draws goal observations,
    ¬ session.FailsIn repositories attempt
  distinct : session.configuration.observations = true → ∀ windowed,
    session.windowed observations = .ok windowed → (windowed.map Observation.id).Nodup

variable (session repositories draws goal observations) in
/-- A run is refused before it has kept a record. -/
def RefusedAtOnce : Prop :=
  FailsFirst session repositories (session.attempts draws goal observations)

omit [PyFloat F] in
/-- The records that the loop over the observations saves. -/
theorem filterMap_observationAttempts (observations : List (Observation F)) :
    (observationAttempts observations : List (Attempt F E)).filterMap Attempt.saved =
      observations.map Row.observation := by
  unfold observationAttempts
  induction observations with
  | nil => rfl
  | cons observation observations ih =>
      rw [List.flatMap_cons, List.filterMap_append, ih]
      rfl

/-- No two records that a run keeps have one id if no two observations do. -/
theorem nodup_kept_iff (hsucceeds : ∀ attempt ∈ session.attempts draws goal observations,
    ¬ session.FailsIn repositories attempt) :
    (((session.attempts draws goal observations).filterMap session.kept).map keyOf).Nodup ↔
      (session.configuration.observations = true → ∀ windowed,
        session.windowed observations = .ok windowed → (windowed.map Observation.id).Nodup) := by
  unfold attempts at hsucceeds ⊢
  cases hwindowed : session.windowed observations with
  | error error =>
      rw [hwindowed] at hsucceeds
      exact absurd trivial (hsucceeds (.raise (.window error)) (by simp))
  | ok windowed =>
      rw [hwindowed] at hsucceeds
      dsimp only at hsucceeds ⊢
      cases hstages : runStages session.texts draws.drawn
        { goal := goal, observations := windowed, profile := session.profile } with
      | error error =>
          rw [hstages] at hsucceeds
          exact absurd trivial (hsucceeds (.raise (.stage error)) (by simp))
      | ok reasoningContext =>
          rw [hstages] at hsucceeds
          dsimp only at hsucceeds ⊢
          cases hpopulated : (populated reasoningContext.artifacts :
            Except (SessionError E) Populated) with
          | error error =>
              rw [hpopulated] at hsucceeds
              exact absurd trivial (hsucceeds (.raise error) (by simp))
          | ok found =>
              obtain ⟨situation, _, context, plan⟩ := found
              -- there is one record of each of the other repositories
              have hkept {attempts : List (Attempt F E)} : attempts.filterMap session.kept =
                  (attempts.filterMap Attempt.saved).filter session.configuration.gives :=
                List.filter_filterMap.symm
              -- the ids are those of the observations, and one for each artifact
              unfold List.Nodup
              rw [hkept, List.pairwise_map, List.pairwise_filter]
              simp only [List.filterMap_cons, Attempt.saved, List.filterMap_append,
                filterMap_observationAttempts, artifactAttempts, List.filterMap_nil]
              simp only [List.pairwise_cons, List.pairwise_append, List.forall_mem_cons,
                List.forall_mem_append, List.forall_mem_map, List.pairwise_map]
              cases hgiven : session.configuration.observations with
              | false =>
                  simp [keyOf, Configuration.gives, hgiven, List.pairwise_of_forall]
              | true => simp [keyOf, Configuration.gives, hgiven]

/-- A run returns if it is not refused. -/
theorem exists_run_iff : (∃ result after,
    session.run draws goal observations repositories = .ok result after) ↔
      Completes session repositories draws goal observations := by
  have hattempts := congrFun (session.run_eq_attempts draws goal observations) repositories
  -- the attempts all succeed if none fails on its own and no id is drawn twice
  have hcompletes : Completes session repositories draws goal observations ↔ ∃ after,
      (session.attempts draws goal observations).forM session.attempt repositories =
        .ok () after := by
    rw [exists_forM_iff]
    constructor
    · exact fun h => ⟨h.succeeds, (nodup_kept_iff h.succeeds).mpr h.distinct⟩
    · exact fun h => ⟨h.1, (nodup_kept_iff h.1).mp h.2⟩
  rw [hcompletes, ← hattempts]
  cases hrun : session.run draws goal observations repositories with
  | ok result after =>
      refine iff_of_true ⟨result, after, rfl⟩ ⟨after, ?_⟩
      simp only [Functor.map, EStateM.map, hrun]
  | error error after =>
      refine iff_of_false (by rintro ⟨_, _, ⟨⟩⟩) ?_
      simp [Functor.map, EStateM.map, hrun]

/-- A run is all-or-nothing exactly if it returns or is refused at once. -/
theorem run_unchanged_iff :
    (∀ error after, session.run draws goal observations repositories = .error error after →
        after = repositories) ↔
      Completes session repositories draws goal observations ∨
        RefusedAtOnce session repositories draws goal observations := by
  have hattempts := congrFun (session.run_eq_attempts draws goal observations) repositories
  have hunchanged : (∀ error after,
      (session.attempts draws goal observations).forM session.attempt repositories =
        .error error after → after = repositories) ↔ _ := forM_unchanged_iff
  rw [← hattempts] at hunchanged
  rw [← exists_run_iff, RefusedAtOnce]
  cases hrun : session.run draws goal observations repositories with
  | ok result after =>
      exact iff_of_true (by rintro _ _ ⟨⟩) (.inl ⟨result, after, rfl⟩)
  | error error after =>
      simp only [Functor.map, EStateM.map, hrun] at hunchanged
      simpa using hunchanged

end Run

end ReasoningSession

/-! ## Sequences of calls -/

section Calls

variable [PyFloat F]

/-- A call returns, or is refused before it has kept a record. -/
def Call.WholeOrNothing (repositories : Repositories F) (call : Call F E) : Prop :=
  ReasoningSession.Completes call.session repositories call.draws call.goal call.observations ∨
    ReasoningSession.RefusedAtOnce call.session repositories call.draws call.goal
      call.observations

/-- The readers resolve every run that is registered. -/
structure Resolves (repositories : Repositories F) : Prop where
  replayed : ∀ entry ∈ repositories.registry,
    ∃ result, repositories.replay entry.runId = .ok result
  analyzed : ∀ entry ∈ repositories.registry,
    ∃ analysis, repositories.analyze entry.runId = .ok analysis
  ranked : ∃ items, repositories.rank = .ok items

/-- The readers resolve every registered run if all of them returned. -/
theorem resolves_performAll_iff (calls : List (Call F E)) :
    Resolves (performAll calls).1 ↔
      ∀ entry ∈ (performAll calls).1.registry, entry.runId ∈ (performAll calls).2 := by
  obtain ⟨hresolved, hindexed⟩ := resolved_performAll calls
  constructor
  · intro h entry hentry
    rw [← hindexed, ← exists_replay_iff hresolved]
    exact h.replayed entry hentry
  · intro hreturned
    have hregistered : ∀ entry ∈ (performAll calls).1.registry,
        entry.runId ∈ (performAll calls).1.indexes.map ReasoningRunIndex.runId :=
      fun entry hentry => (hindexed _).mpr (hreturned entry hentry)
    refine ⟨fun entry hentry => (exists_replay_iff hresolved).mpr (hregistered entry hentry),
      fun entry hentry => (exists_analyze_iff hresolved).mpr ⟨hregistered entry hentry, ?_⟩,
      (exists_rank_iff hresolved).mpr hregistered⟩
    intro earlier hearlier
    obtain ⟨other, hother, rfl⟩ := List.mem_map.mp (List.takeWhile_subset _ hearlier)
    exact hregistered other hother

/-- A call that raises after it has kept a record has registered its run, under a new id. -/
theorem Call.registered_of_not_wholeOrNothing {repositories : Repositories F} {call : Call F E}
    (hresolved : Resolved repositories.Contains) (h : ¬ call.WholeOrNothing repositories) :
    (call.perform repositories).2 = false ∧
      call.draws.run.id ∉ repositories.runs.map ReasoningRun.id ∧
      call.draws.run.id ∈ (call.perform repositories).1.registry.map
        ReasoningRunRegistryEntry.runId := by
  obtain ⟨hcompletes, hrefused⟩ := not_or.mp h
  obtain ⟨rest, hattempts⟩ : ∃ rest,
      call.session.attempts call.draws call.goal call.observations =
        .save (.run call.draws.run) ::
          .save (.registry ⟨call.draws.run.id, call.draws.run.startedAt⟩) :: rest := ⟨_, rfl⟩
  have hall (row : Row F) : call.session.configuration.gives row = true := by
    rw [call.configuration_all]
    cases row <;> rfl
  -- the run is saved, since its id is new
  have hnew : repositories.isTaken (.run call.draws.run) = false := by
    by_contra htaken
    exact hrefused ⟨[], _, _, hattempts, by simp, hall _, by simpa using htaken⟩
  -- then so is its entry, since no entry is without its run
  have hentry : repositories.isTaken
      (.registry ⟨call.draws.run.id, call.draws.run.startedAt⟩) = false := by
    by_contra htaken
    have hmem : call.draws.run.id ∈
        repositories.registry.map ReasoningRunRegistryEntry.runId := by
      simpa [Repositories.isTaken] using htaken
    obtain ⟨entry, hentry, hid⟩ := List.mem_map.mp hmem
    obtain ⟨run, hrun, hrunId⟩ := hresolved.entries entry hentry
    exact of_decide_eq_false hnew (List.mem_map.mpr ⟨run, hrun, hrunId.trans hid⟩)
  -- both are there when the rest begins, and stay whatever the rest does
  have hboth : (call.session.attempts call.draws call.goal call.observations).forM
      call.session.attempt repositories = rest.forM call.session.attempt
        ((repositories.put (.run call.draws.run)).put
          (.registry ⟨call.draws.run.id, call.draws.run.startedAt⟩)) := by
    have hsave (repositories : Repositories F) (row : Row F)
        (hfree : repositories.isTaken row = false) :
        call.session.attempt (.save row) repositories = .ok () (repositories.put row) := by
      unfold ReasoningSession.attempt ReasoningSession.save Configuration.add
      simp [hfree, hall]
    have hentry' : (repositories.put (.run call.draws.run)).isTaken
        (.registry ⟨call.draws.run.id, call.draws.run.startedAt⟩) = false := hentry
    rw [hattempts, List.forM_eq_forM, List.forM_cons, bind_of_ok (hsave _ _ hnew),
      List.forM_cons, bind_of_ok (hsave _ _ hentry')]
  have hrun := congrFun (call.session.run_eq_attempts call.draws call.goal call.observations)
    repositories
  rw [hboth] at hrun
  unfold Call.perform
  cases hresult : call.session.run call.draws call.goal call.observations repositories with
  | ok result after =>
      exact absurd (ReasoningSession.exists_run_iff.mp ⟨result, after, hresult⟩) hcompletes
  | error error after =>
      refine ⟨rfl, of_decide_eq_false hnew, ?_⟩
      simp only [Functor.map, EStateM.map, hresult] at hrun
      have htaken := ReasoningSession.isTaken_forM (.inr ⟨error, hrun.symm⟩)
        ((isTaken_put _ (.registry ⟨call.draws.run.id, call.draws.run.startedAt⟩) _).mpr (.inr rfl))
      simpa [Repositories.isTaken] using htaken

/-- The records after calls are those that each call has left to the next one. -/
theorem performAll_eq_after (calls : List (Call F E)) :
    (performAll calls).1 =
      Transducer.after (fun repositories call => call.perform repositories) {} calls := by
  induction calls using List.reverseRecOn with
  | nil => rfl
  | append_singleton calls call ih =>
      rw [performAll_concat, Transducer.after_append, ← ih]
      rfl

/-- A call that is refused at once and does not return changes nothing. -/
theorem Call.perform_of_refused {repositories : Repositories F} {call : Call F E}
    (h : call.WholeOrNothing repositories)
    (hcompletes : ¬ ReasoningSession.Completes call.session repositories call.draws call.goal
      call.observations) : call.perform repositories = (repositories, false) := by
  unfold Call.perform
  cases hresult : call.session.run call.draws call.goal call.observations repositories with
  | ok result after =>
      exact absurd (ReasoningSession.exists_run_iff.mp ⟨result, after, hresult⟩) hcompletes
  | error error after =>
      rw [ReasoningSession.run_unchanged_iff.mpr h error after hresult]

/-- A call that returns has registered its run, under a new id, and no other run. -/
theorem Call.perform_of_completes {repositories : Repositories F} {call : Call F E}
    (h : ReasoningSession.Completes call.session repositories call.draws call.goal
      call.observations) :
    (call.perform repositories).2 = true ∧
      call.draws.run.id ∉ repositories.runs.map ReasoningRun.id ∧
      ∀ entry, entry ∈ (call.perform repositories).1.registry ↔
        entry ∈ repositories.registry ∨ entry = ⟨call.draws.run.id, call.draws.run.startedAt⟩ := by
  obtain ⟨result, after, hrun⟩ := ReasoningSession.exists_run_iff.mpr h
  obtain ⟨rows, ⟨windowed, -, -, hrows⟩, -, rfl⟩ := writes_run.of_ok hrun
  unfold Call.perform
  rw [hrun]
  refine ⟨rfl, fun htaken => ?_, fun entry => ?_⟩
  · refine h.succeeds (.save (.run call.draws.run)) List.mem_cons_self ⟨?_, ?_⟩
    · rw [call.configuration_all]
      rfl
    · exact decide_eq_true htaken
  · dsimp only
    rw [add_of_all call.configuration_all]
    refine Iff.trans (contains_foldl : _ ↔ _ ∨ Row.registry entry ∈ _) (or_congr Iff.rfl ?_)
    rw [hrows]
    simp

/-- The readers resolve every registered run exactly if every call returned or was refused before
it had kept a record. -/
theorem resolves_iff_along (calls : List (Call F E)) :
    Resolves (performAll calls).1 ↔
      Transducer.Along (fun repositories call => call.perform repositories)
        Call.WholeOrNothing {} calls := by
  rw [resolves_performAll_iff]
  induction calls using List.reverseRecOn with
  | nil => exact iff_of_true (by rintro entry ⟨⟩) trivial
  | append_singleton calls call ih =>
      obtain ⟨hresolved, hindexed⟩ := resolved_performAll calls
      rw [Transducer.along_concat, ← ih, ← performAll_eq_after, performAll_concat]
      dsimp only
      by_cases hwhole : call.WholeOrNothing (performAll calls).1
      · rw [and_iff_left hwhole]
        -- a call that returns adds its run to both sides, and one that is refused adds nothing
        by_cases hcompletes : ReasoningSession.Completes call.session (performAll calls).1
            call.draws call.goal call.observations
        · obtain ⟨hreturned, hnew, hregistry⟩ := call.perform_of_completes hcompletes
          rw [if_pos hreturned]
          simp only [hregistry, List.mem_append, List.mem_singleton]
          constructor
          · intro h entry hentry
            refine (h entry (.inl hentry)).resolve_right fun hid => hnew ?_
            obtain ⟨run, hrun, hrunId⟩ := hresolved.entries entry hentry
            exact List.mem_map.mpr ⟨run, hrun, hrunId.trans hid⟩
          · rintro h entry (hentry | rfl)
            · exact .inl (h entry hentry)
            · exact .inr rfl
        · rw [call.perform_of_refused hwhole hcompletes]
          simp
      · -- the run that the call has registered has not returned, and its id is not an earlier one
        obtain ⟨hraised, hnew, hregistered⟩ :=
          Call.registered_of_not_wholeOrNothing hresolved hwhole
        refine iff_of_false (fun h => hnew ?_) fun h => hwhole h.2
        obtain ⟨entry, hentry, hid⟩ := List.mem_map.mp hregistered
        have hreturned := h entry hentry
        rw [if_neg (by simp [hraised]), List.append_nil, ← hindexed] at hreturned
        obtain ⟨index, hindex, hindexId⟩ := List.mem_map.mp hreturned
        obtain ⟨run, hrun, hrunId⟩ := hresolved.runs index hindex
        exact List.mem_map.mpr ⟨run, hrun, hrunId.trans (hindexId.trans hid)⟩

/-- When a run is all-or-nothing, and when the readers resolve what runs have registered. -/
structure AllOrNothingWhen (F E : Type) [PyFloat F] : Prop where
  /-- A run that raises leaves every repository as it was exactly if it was refused before it had
  kept a record. -/
  unchanged : ∀ (session : ReasoningSession F E) (draws : RunDraws) (goal : OperationalGoal)
    (observations : List (Observation F)) (repositories : Repositories F),
    (∀ error after, session.run draws goal observations repositories = .error error after →
        after = repositories) ↔
      ReasoningSession.Completes session repositories draws goal observations ∨
        ReasoningSession.RefusedAtOnce session repositories draws goal observations
  /-- The first of the two is that the run returns. -/
  returns : ∀ (session : ReasoningSession F E) (draws : RunDraws) (goal : OperationalGoal)
    (observations : List (Observation F)) (repositories : Repositories F),
    (∃ result after, session.run draws goal observations repositories = .ok result after) ↔
      ReasoningSession.Completes session repositories draws goal observations
  /-- The readers resolve every registered run exactly if each call met the condition. -/
  resolved : ∀ calls : List (Call F E), Resolves (performAll calls).1 ↔
    Transducer.Along (fun repositories call => call.perform repositories) Call.WholeOrNothing {}
      calls

/-- Runs are all-or-nothing only if they raise before they have kept a record. -/
theorem allOrNothingWhen : AllOrNothingWhen F E where
  unchanged _ _ _ _ _ := ReasoningSession.run_unchanged_iff
  returns _ _ _ _ _ := ReasoningSession.exists_run_iff
  resolved := resolves_iff_along

variable (F E) in
/-- A run that raises leaves every repository as it was, and the readers resolve every run that
calls have registered. -/
def AllOrNothing : Prop :=
  (∀ (session : ReasoningSession F E) (draws : RunDraws) (goal : OperationalGoal)
    (observations : List (Observation F)) (repositories : Repositories F) error after,
    session.run draws goal observations repositories = .error error after →
      after = repositories) ∧
  ∀ calls : List (Call F E), Resolves (performAll calls).1

end Calls

/-- A run over no observations, of a session that is given all repositories. -/
noncomputable def emptyCall : Call ExactReal Empty := { watchCall with observations := [] }

/-- The first stage raises over no observations. The run and its entry are kept, and no reader gets
past that entry. -/
theorem not_allOrNothing :
    (∃ error, emptyCall.session.run emptyCall.draws emptyCall.goal emptyCall.observations {} =
      .error error { runs := [⟨"run-1", midnight⟩], registry := [⟨"run-1", midnight⟩] }) ∧
      ¬ AllOrNothing ExactReal Empty := by
  have hrun : ∃ error,
      emptyCall.session.run emptyCall.draws emptyCall.goal emptyCall.observations {} =
        .error error { runs := [⟨"run-1", midnight⟩], registry := [⟨"run-1", midnight⟩] } :=
    ⟨_, rfl⟩
  refine ⟨hrun, fun h => ?_⟩
  obtain ⟨error, herror⟩ := hrun
  have hunchanged := congrArg Repositories.runs (h.1 _ _ _ _ _ _ _ herror)
  cases hunchanged

end Odis.ReasoningHistory
