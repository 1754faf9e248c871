import ResourceApi.Script

/-!
# Scoped transactions

A scope owns one open transaction for the length of one unit of work and finishes it exactly once:
it commits when the work succeeds, rolls back when the work or the commit fails or the work crashes,
and releases the transaction last. What goes wrong in a rollback or a release is recorded and never
replaces the reason for it.

## Main definitions

- `Scope.State` — how far a scope has come
- `Scope.commit`, `Scope.rollback`, `Scope.abandon` — the three ends of a scope
- `Scope.runFor`, `Scope.run` — runs work inside a scope
-/

namespace ResourceApi.Scope

variable {E α ε : Type}

/-- How far a scope has come. -/
inductive State where
  /-- Work may go on. -/
  | opened
  /-- The changes are committed. -/
  | committed
  /-- The changes are discarded. -/
  | rolledBack
  /-- The transaction is given back. -/
  | released
deriving DecidableEq

/-- The name of a state. -/
def State.name : State → String
  | .opened => "open"
  | .committed => "committed"
  | .rolledBack => "rolled_back"
  | .released => "released"

/-- Releases the transaction from a state. -/
def release (state : State) : Script E Unit := do
  match ← Script.call .release with
  | .ok _ => pure ()
  | .error failure =>
    Script.emit ⟨.error, .scopes, "transaction release failed",
      [("error", .text failure.text), ("state", .text state.name)]⟩

/-- Rolls the transaction back without releasing it. -/
def discard : Script E Unit := do
  match ← Script.call .rollback with
  | .ok _ => Script.emit ⟨.debug, .scopes, "transaction rolled back", []⟩
  | .error failure =>
    Script.emit ⟨.error, .scopes, "transaction rollback failed", [("error", .text failure.text)]⟩

/-- Ends a scope by rolling back. -/
def rollback : Script E Unit := do
  discard
  release .rolledBack

/-- Ends a scope that is left while it is open. -/
def abandon : Script E Unit := do
  Script.emit ⟨.warn, .scopes, "transaction scope dropped while open, rolling back", []⟩
  rollback

/-- Ends a scope by committing. When the commit fails the scope rolls back instead. -/
def commit : Script E (Except Failure Unit) :=
  .ask .commit fun
    | .returned _ => do
      Script.emit ⟨.debug, .scopes, "transaction committed", []⟩
      release .committed
      pure (.ok ())
    | .failed failure => do
      Script.emit ⟨.error, .scopes, "transaction commit failed, rolling back",
        [("error", .text failure.text)]⟩
      rollback
      pure (.error failure)
    | .crashed message => do
      -- The scope is left while it is open.
      abandon
      .crash message

/-- Runs work inside a scope over the open transaction. The work has failures of its own, among
which the failure of a commit is reported. -/
def runFor (report : Failure → ε) (work : Script E (Except ε α)) : Script E (Except ε α) := do
  match ← work.attempt with
  | .ok (.ok value) =>
    match ← commit with
    | .ok _ => pure (.ok value)
    | .error failure => pure (.error (report failure))
  | .ok (.error failure) =>
    rollback
    pure (.error failure)
  | .error message =>
    -- A crash of the work goes on behind the scope.
    abandon
    .crash message

/-- Runs work whose failures are those of the repository. -/
def run (work : Script E (Except Failure α)) : Script E (Except Failure α) := runFor id work

end ResourceApi.Scope
