import ResourceApi.Store.Session

/-!
# Concurrent transactions

A store with any number of transactions open on it, each known by a handle. The calls of all callers
form one sequence of steps; each step runs as a call of the session that the handle names.

## Main definitions

- `World` — a store and the write sets of the transactions
- `Step` — one call, with the handle of the transaction it belongs to
- `Answer` — what a call returns
- `World.step`, `World.run` — one step, and several
-/

namespace ResourceApi

/-- A store and the write sets of the transactions open on it. -/
structure World (τ E : Type) where
  store : Store E
  /-- The write set behind a handle; nothing is staged behind an unused one. -/
  writes : τ → WriteSet E

/-- One call on the store. -/
inductive Step (τ E : Type) where
  /-- Opens a transaction; a handle in use is taken over. -/
  | begin (tx : τ)
  | commit (tx : τ)
  | rollback (tx : τ)
  | release (tx : τ)
  | insert (tx : τ) (entity : E)
  | update (tx : τ) (entity : E)
  | updatePartial (tx : τ) (entity : E)
  | delete (tx : τ) (id : Int)
  | find (id : Int)
  | contains (id : Int)
  | list (query : Query)
  | plant (change : Faults → Faults)

/-- What a call returns. -/
inductive Answer (E : Type) where
  | done
  | stored (entity : E)
  | removed (yes : Bool)
  | found (entity : Option E)
  | known (yes : Bool)
  | listed (entities : List E)
  | failed (failure : Failure)

namespace Answer

variable {α E : Type}

/-- The answer for the result of a call. -/
def ofResult (answer : α → Answer E) : Except Failure α → Answer E
  | .ok a => answer a
  | .error failure => .failed failure

end Answer

namespace World

variable {α τ E : Type} [DecidableEq τ]

omit [DecidableEq τ] in
def ofStore (store : Store E) : World τ E := ⟨store, fun _ => ∅⟩

omit [DecidableEq τ] in
def session (w : World τ E) (tx : τ) : Session E := ⟨w.store, w.writes tx⟩

/-- The world after a session has gone on. -/
def resume (w : World τ E) (tx : τ) (x : Session E) : World τ E :=
  ⟨x.store, fun other => if other = tx then x.writes else w.writes other⟩

/-- A call of the session behind a handle. -/
def within (w : World τ E) (tx : τ) (answer : α → Answer E)
    (call : Session E → Except Failure α × Session E) : Answer E × World τ E :=
  let (result, x) := call (w.session tx)
  (Answer.ofResult answer result, w.resume tx x)

omit [DecidableEq τ] in
def outside (w : World τ E) (answer : α → Answer E)
    (call : Session E → Except Failure α × Session E) : Answer E × World τ E :=
  let (result, x) := call ⟨w.store, ∅⟩
  (Answer.ofResult answer result, ⟨x.store, w.writes⟩)

variable [Entity E]

def step (w : World τ E) : Step τ E → Answer E × World τ E
  | .begin tx => w.within tx (fun _ => .done) Session.begin
  | .commit tx => w.within tx (fun _ => .done) Session.commit
  | .rollback tx => w.within tx (fun _ => .done) Session.rollback
  | .release tx => w.within tx (fun _ => .done) Session.release
  | .insert tx e => w.within tx .stored (·.insert e)
  | .update tx e => w.within tx .stored (·.update e)
  | .updatePartial tx e => w.within tx .stored (·.update e)
  | .delete tx id => w.within tx .removed (·.delete id)
  | .find id => w.outside .found (·.findById id)
  | .contains id => w.outside .known (·.contains id)
  | .list query => w.outside .listed (·.findAll query)
  | .plant change => (.done, ⟨w.store.withFaults (change w.store.faults), w.writes⟩)

def run (w : World τ E) : List (Step τ E) → List (Answer E) × World τ E
  | [] => ([], w)
  | s :: steps =>
    let (answer, w) := w.step s
    let (answers, w) := w.run steps
    (answer :: answers, w)

end World

end ResourceApi
