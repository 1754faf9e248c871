import ResourceApi.Scope
import ResourceApi.Store.Answerer

/-!
# Batches of changes

Several changes as one unit of work: they are staged in order in one transaction, and the first one
that fails ends the batch and leaves nothing behind.

## Main definitions

- `Change`, `Change.Effect` — one change, and what it returns
- `Batch.work` — the changes in order
- `Batch.run` — the changes in a transaction of their own
-/

namespace ResourceApi

/-- One part of a unit of work. -/
inductive Change (E : Type) where
  | insert (entity : E)
  | update (entity : E)
  | updatePartial (entity : E)
  | delete (id : Int)
  | fail (failure : Failure)
  | crash (message : String)

/-- What a change returns. -/
inductive Change.Effect (E : Type) where
  | stored (entity : E)
  | removed (yes : Bool)

variable {E : Type}

def Change.script : Change E → Script E (Except Failure (Change.Effect E))
  | .insert e => do pure ((← Script.call (.insert e)).map .stored)
  | .update e => do pure ((← Script.call (.update e)).map .stored)
  | .updatePartial e => do pure ((← Script.call (.updatePartial e)).map .stored)
  | .delete id => do pure ((← Script.call (.delete id)).map .removed)
  | .fail failure => .done (.error failure)
  | .crash message => .crash message

namespace Batch

/-- The changes in order, up to the first one that fails. -/
def work : List (Change E) → Script E (Except Failure (List (Change.Effect E)))
  | [] => .done (.ok [])
  | change :: changes => do
    match ← change.script with
    | .error failure => pure (.error failure)
    | .ok effect => pure ((← work changes).map (effect :: ·))

/-- The changes in a transaction of their own. -/
def run (changes : List (Change E)) : Script E (Except Failure (List (Change.Effect E))) := do
  match ← Script.call .begin with
  | .error failure => pure (.error failure)
  | .ok _ => Scope.run (work changes)

end Batch

end ResourceApi
