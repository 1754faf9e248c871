import ResourceApi.Journal
import ResourceApi.Store.Basic

/-!
# Scripts

What a request does to a repository, written down as a tree: which call comes first, and what
follows for each reply to it. A script says nothing about how a call is answered, so one script runs
over the store, over a repository that fails at will, and next to other scripts.

## Main definitions

- `Call`, `Call.Result` — the calls of a repository and its transactions, and what they return
- `Reply` — a call returns, fails or crashes
- `Script` — a tree of calls and log events
- `Script.run` — runs a script over an answerer with a state, recording calls and events
- `Script.attempt` — turns a crash into a result

## Design notes

A script has at most one transaction open at a time, so calls need not name it.
-/

namespace ResourceApi

/-- A call of a repository or of the transaction opened on it. -/
inductive Call (E : Type) where
  | findAll (query : Query)
  | findById (id : Int)
  | contains (id : Int)
  | begin
  | insert (entity : E)
  | update (entity : E)
  | updatePartial (entity : E)
  | delete (id : Int)
  | commit
  | rollback
  | release

def Call.Result {E : Type} : Call E → Type
  | .findAll _ => List E
  | .findById _ => Option E
  | .contains _ => Bool
  | .insert _ | .update _ | .updatePartial _ => E
  | .delete _ => Bool
  | .begin | .commit | .rollback | .release => Unit

/-- The reply to a call. -/
inductive Reply (α : Type) where
  | returned (value : α)
  | failed (failure : Failure)
  | crashed (message : String)

/-- The reply for the result of a call that does not crash. -/
def Reply.ofExcept {α : Type} : Except Failure α → Reply α
  | .ok a => .returned a
  | .error failure => .failed failure

/-- A tree of calls and log events. -/
inductive Script (E α : Type) where
  | done (value : α)
  | crash (message : String)
  /-- The script calls, and goes on as the reply says. -/
  | ask (call : Call E) (next : Reply call.Result → Script E α)
  /-- The script records an event and goes on. -/
  | note (event : Event) (next : Script E α)

namespace Script

variable {E α β σ : Type}

/-- Continues a script with another one. A crash ends both. -/
def bind : Script E α → (α → Script E β) → Script E β
  | .done a, f => f a
  | .crash message, _ => .crash message
  | .ask call next, f => .ask call fun reply => (next reply).bind f
  | .note event next, f => .note event (next.bind f)

instance : Monad (Script E) where
  pure := .done
  bind := Script.bind

def emit (event : Event) : Script E Unit := .note event (.done ())

/-- A call whose crash is the script's crash. -/
def call (c : Call E) : Script E (Except Failure c.Result) :=
  .ask c fun
    | .returned value => .done (.ok value)
    | .failed failure => .done (.error failure)
    | .crashed message => .crash message

/-- Turns a crash into a result, so that another script can go on after it. -/
def attempt : Script E α → Script E (Except String α)
  | .done a => .done (.ok a)
  | .crash message => .done (.error message)
  | .ask call next => .ask call fun reply => (next reply).attempt
  | .note event next => .note event next.attempt

/-- Everything that can be seen of a script that has run. -/
structure Run (E σ α : Type) where
  /-- The value the script returned, or the message it crashed with. -/
  outcome : Except String α
  state : σ
  calls : List (Call E)
  events : List Event

/-- How calls are answered from a state. -/
abbrev Answerer (E σ : Type) := (call : Call E) → σ → Reply call.Result × σ

def run (answer : Answerer E σ) : Script E α → σ → Run E σ α
  | .done a, s => ⟨.ok a, s, [], []⟩
  | .crash message, s => ⟨.error message, s, [], []⟩
  | .ask call next, s =>
    let (reply, s) := answer call s
    let rest := (next reply).run answer s
    ⟨rest.outcome, rest.state, call :: rest.calls, rest.events⟩
  | .note event next, s =>
    let rest := next.run answer s
    ⟨rest.outcome, rest.state, rest.calls, event :: rest.events⟩

end Script

end ResourceApi
