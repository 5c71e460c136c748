import Mathlib.Data.List.Basic

/-!
# Transactions

A session over a store: statements change its working copy, `commit` makes the working copy
durable, and `Session.rollback` returns to the durable content. A session can become unusable
(`fail`): every further statement, and `commit`, is then refused until the rollback. An exception
of the program that uses the session leaves the session as it is.

The durable contents are recorded in `commits`, so that a property of a program can speak of
everything it ever made durable.
-/

namespace Transaction

variable {D E α : Type}

/-- A session over a store with content of type `D`. -/
structure Session (D : Type) where
  /-- What is committed. -/
  durable : D
  /-- The durable content with the statements of the open transaction. -/
  working : D
  /-- Whether statements are accepted. -/
  usable : Bool
  /-- Every content made durable since the session was opened, oldest first. -/
  commits : List D

/-- A session that was just opened. -/
def Session.begin (content : D) : Session D := ⟨content, content, true, []⟩

/-- The open transaction is dropped, and the session is usable again. -/
def Session.rollback (s : Session D) : Session D := { s with working := s.durable, usable := true }

/-- A program over a session. An exception keeps the state it was raised in. -/
abbrev SessionM (D E α : Type) : Type := EStateM E (Session D) α

/-- A statement. `refused` is raised on a session that is not usable. -/
def execute (refused : E) (f : D → Except E (α × D)) : SessionM D E α := fun s =>
  if s.usable then
    match f s.working with
    | .ok (a, working) => .ok a { s with working }
    | .error error => .error error { s with usable := false }
  else .error refused s

/-- The store refuses what the program asks for, and whatever comes before the next rollback. -/
def fail (error : E) : SessionM D E α := fun s => .error error { s with usable := false }

/-- The open transaction is made durable. -/
def commit (refused : E) : SessionM D E Unit := fun s =>
  if s.usable then
    .ok () { s with durable := s.working, commits := s.commits ++ [s.working] }
  else .error refused s

/-- Between two transactions of the session, another session commits a change. -/
def externally (f : D → D) : SessionM D E Unit := fun s =>
  .ok () { s with
    durable := f s.durable
    working := f s.durable
    commits := s.commits ++ [f s.durable] }

section

variable {s : Session D} {refused error : E} {f : D → Except E (α × D)}

/-- A statement that returns changes the working copy. -/
theorem execute_ok {a : α} {working : D} (husable : s.usable = true)
    (hf : f s.working = .ok (a, working)) : execute refused f s = .ok a { s with working } := by
  rw [execute, if_pos husable, hf]

/-- A session that has failed refuses further statements. -/
theorem execute_of_not_usable (husable : s.usable = false) :
    execute refused f s = .error refused s := by
  rw [execute, if_neg (by simp [husable])]

/-- A commit makes the working copy durable. -/
theorem commit_ok (husable : s.usable = true) : (commit refused : SessionM D E Unit) s =
    .ok () { s with durable := s.working, commits := s.commits ++ [s.working] } := by
  rw [commit, if_pos husable]

/-! How programs compose: a program that raises ends a sequence, and starts a handler, in the
state it leaves. -/

variable {β : Type} {s' : Session D} {a : α}

/-- After a program that returns comes the next one, from its session. -/
theorem bind_ok {program : SessionM D E α} {next : α → SessionM D E β}
    (h : program s = .ok a s') : (program >>= next) s = next a s' := by
  simp only [bind, EStateM.bind, h]

/-- After a program that raises nothing comes. -/
theorem bind_error {program : SessionM D E α} {next : α → SessionM D E β}
    (h : program s = .error error s') : (program >>= next) s = .error error s' := by
  simp only [bind, EStateM.bind, h]

/-- The handler is not called for a program that returns. -/
theorem tryCatch_ok {program : SessionM D E α} {handler : E → SessionM D E α}
    (h : program s = .ok a s') : tryCatch program handler s = .ok a s' := by
  simp only [tryCatch, tryCatchThe, MonadExceptOf.tryCatch, EStateM.tryCatch, h]

/-- It is called with what was raised, in the session that is left. -/
theorem tryCatch_error {program : SessionM D E α} {handler : E → SessionM D E α}
    (h : program s = .error error s') : tryCatch program handler s = handler error s' := by
  simp only [tryCatch, tryCatchThe, MonadExceptOf.tryCatch, EStateM.tryCatch, h]
  rfl

end

end Transaction
