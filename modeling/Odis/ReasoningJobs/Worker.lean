import Odis.Library.Transaction
import Odis.ReasoningJobs.Repository

/-!
# The reasoning worker

`ReasoningWorker.process_next`: claim the oldest pending job, run the reasoning for its asset,
complete the job, commit, and dispatch the outbox, all in one unit of work and in one `try` block
whose handler fails the job. The reasoning run is the sequence of rows it writes
(`runWrites`); it can raise before any of them, and so can the commit and the dispatch.
-/

namespace Odis.ReasoningJobs

open Transaction

/-- The tables a reasoning run writes, other than the outbox. -/
inductive ArtifactTable where
  | reasoningRun
  | situation
  | decisionContext
  | decisionPlan
  | reasoningRunIndex
  | structuredAssessment
  | reasoningTrace
  deriving DecidableEq, Repr

/-- A row of one of these tables, by its primary key. -/
structure ArtifactRow where
  table : ArtifactTable
  id : String
  deriving DecidableEq, Repr

/-- A row of the outbox. -/
structure OutboxRow where
  id : String
  eventType : String
  dispatchedAt : Option Instant
  deriving DecidableEq, Repr

/-- What the unit of work of the worker reads and writes. -/
structure Database where
  jobs : JobTable
  artifacts : List ArtifactRow
  outbox : List OutboxRow

/-- A row a reasoning run writes. -/
inductive RunWrite where
  | artifact (row : ArtifactRow)
  | outbox (id eventType : String)
  deriving DecidableEq, Repr

/-- The database with one more row. -/
def Database.add (db : Database) : RunWrite → Database
  | .artifact row => { db with artifacts := db.artifacts ++ [row] }
  | .outbox id eventType => { db with outbox := db.outbox ++ [⟨id, eventType, none⟩] }

/-- What decides which rows a reasoning run writes: whether the asset has enough observations, the
identifiers of the run and of what it creates, and which changes it announces. -/
structure RunOutline where
  /-- `_can_run_reasoning`. -/
  canRun : Bool
  runId : String
  situationId : String
  contextId : String
  planId : String
  trendChanged : Bool
  recommendationUpdated : Bool
  healthChanged : Bool
  riskChanged : Bool
  notificationCreated : Bool
  /-- The identifiers drawn for the outbox rows. -/
  outboxId : String → String

/-- The rows written by `_run_reasoning_for_asset`, in order: those of `ReasoningSession.run`, then
the outbox rows around the assessment and the trace. -/
def runWrites (run : RunOutline) : List RunWrite :=
  let outbox (eventType : String) : RunWrite := .outbox (run.outboxId eventType) eventType
  let announce (condition : Bool) (eventType : String) : List RunWrite :=
    if condition then [outbox eventType] else []
  if run.canRun then
    [.artifact ⟨.reasoningRun, run.runId⟩,
      .artifact ⟨.situation, run.situationId⟩,
      .artifact ⟨.decisionContext, run.contextId⟩,
      .artifact ⟨.decisionPlan, run.planId⟩,
      .artifact ⟨.reasoningRunIndex, run.runId⟩,
      outbox "ReasoningStarted",
      .artifact ⟨.structuredAssessment, run.runId⟩,
      .artifact ⟨.reasoningTrace, run.runId⟩]
    ++ announce run.trendChanged "TrendChanged"
    ++ announce run.recommendationUpdated "RecommendationUpdated"
    ++ announce run.healthChanged "HealthChanged"
    ++ announce run.riskChanged "RiskChanged"
    ++ announce run.notificationCreated "NotificationCreated"
    ++ [outbox "ReasoningCompleted"]
  else []

/-- How a reasoning run raises. What the session accepts afterwards depends on it, and on the
database for a failed statement. -/
inductive RaiseKind where
  /-- In its own code: the session goes on. -/
  | ownCode
  /-- A statement failed that the session had sent for the run. PostgreSQL refuses the rest of the
  transaction then, and SQLite does not (`WorkerCall.abortsOnFailedStatement`). -/
  | statement
  /-- The session failed to flush rows of the run. It accepts nothing then before a rollback,
  whatever the database. -/
  | flush
  deriving DecidableEq, Repr

/-- Where a call of the worker raises. -/
inductive RaisePoint where
  /-- The reasoning run, after it wrote the given number of rows. -/
  | run (written : ℕ) (kind : RaiseKind)
  | commit
  /-- The dispatch after the commit. -/
  | dispatch
  deriving DecidableEq, Repr

/-- What a call of the worker raises. -/
inductive WorkerError where
  | reasoning
  | database (error : DatabaseError)
  | statementFailed
  | flushFailed
  | commitFailed
  | dispatch
  /-- The session needs a rollback first. -/
  | pendingRollback
  deriving DecidableEq, Repr

/-- What a call of the worker meets: the times it reads, the identifiers it draws, the choice of
the store between jobs created at the same time, the reasoning run, where it raises, what the
database makes of a failed statement, and what the dispatch makes of the outbox. -/
structure WorkerCall where
  tie : ℕ
  claimedAt : Instant
  completedAt : Instant
  failedAt : Instant
  /-- The identifier `complete` draws for a follow-up. -/
  completeFollowUpId : String
  /-- The identifier `fail` draws for a follow-up. -/
  failFollowUpId : String
  run : RunOutline
  raises : Option RaisePoint
  /-- Whether the database refuses the rest of a transaction after a statement of it failed.
  PostgreSQL does, and SQLite goes on. -/
  abortsOnFailedStatement : Bool
  dispatch : List OutboxRow → List OutboxRow

/-- A program of the worker. -/
abbrev WorkerM (α : Type) : Type := SessionM Database WorkerError α

/-- A statement of the job repository. -/
def onJobs {α : Type} (f : JobTable → Except DatabaseError (α × JobTable)) : WorkerM α :=
  execute .pendingRollback fun db =>
    match f db.jobs with
    | .ok (a, jobs) => .ok (a, { db with jobs })
    | .error error => .error (.database error)

/-- The rows a reasoning run adds. -/
def write (rows : List RunWrite) : WorkerM Unit :=
  execute .pendingRollback fun db => .ok ((), rows.foldl Database.add db)

/-- `run_reasoning_for_asset`. -/
def runReasoning (call : WorkerCall) : WorkerM Unit :=
  match call.raises with
  | some (.run written .ownCode) => do
      write ((runWrites call.run).take written)
      throw .reasoning
  | some (.run written .statement) => do
      write ((runWrites call.run).take written)
      if call.abortsOnFailedStatement then Transaction.fail .statementFailed
      else throw .statementFailed
  | some (.run written .flush) => do
      write ((runWrites call.run).take written)
      Transaction.fail .flushFailed
  | _ => write (runWrites call.run)

/-- `uow.commit()` after the job was completed. -/
def commitCompleted (call : WorkerCall) : WorkerM Unit :=
  match call.raises with
  | some .commit => Transaction.fail .commitFailed
  | _ => commit .pendingRollback

/-- `OutboxDispatcher.dispatch`, in a session of its own. -/
def dispatchOutbox (call : WorkerCall) : WorkerM Unit := do
  externally fun db => { db with outbox := call.dispatch db.outbox }
  match call.raises with
  | some .dispatch => throw .dispatch
  | _ => pure ()

/-- The `try` block, for the claimed job. -/
def processJob (call : WorkerCall) (job : ReasoningJob) : WorkerM Unit := do
  runReasoning call
  let _ ← onJobs (completeAndReschedule call.completeFollowUpId call.completedAt job)
  commitCompleted call
  dispatchOutbox call

/-- The handler of the `try` block. -/
def failJob (call : WorkerCall) (job : ReasoningJob) : WorkerM Unit := do
  let _ ← onJobs (failAndReschedule call.failFollowUpId call.failedAt job)
  commit .pendingRollback

/-- The body of the `with` block of `process_next`. -/
def processNextBody (call : WorkerCall) : WorkerM Bool := do
  match ← onJobs (claimOldestPending call.tie call.claimedAt) with
  | none => pure false
  | some job =>
      tryCatch
        (do processJob call job; pure true)
        (fun error => do failJob call job; throw error)

/-- `process_next`: leaving the `with` block commits what is open after a normal return, and drops
it after an exception. -/
def processNext (call : WorkerCall) (db : Database) :
    Except WorkerError Bool × Session Database :=
  match processNextBody call (.begin db) with
  | .ok ran s =>
      if s.commits.isEmpty then
        match (commit .pendingRollback : WorkerM Unit) s with
        | .ok _ s => (.ok ran, s)
        | .error error s => (.error error, s)
      else (.ok ran, s)
  | .error error s => (.error error, s.rollback)

end Odis.ReasoningJobs
