import ResourceApi.Store.Basic

/-!
# Sessions

A session is the store together with one open transaction. The transaction stages its changes in a
write set of its own. A commit checks the whole write set against the committed entities before it
applies any of it; a rollback discards the set. The identifier counter is never turned back.

## Main definitions

- `Staged`, `WriteSet` — the changes that a transaction has staged
- `Session` — a store and a write set
- `Session.visible` — the identifiers taken, as seen from inside the transaction
- `Session.insert`, `Session.update`, `Session.delete` — the changes
- `Session.commit`, `Session.rollback`, `Session.begin`, `Session.release` — the transaction itself

## Design notes

Every call is a function from a session to an answer and a session. What is staged under one
identifier says what the commit relies on: an insert relies on the identifier being free, an update
on its being taken, a delete on nothing.

The counter moves when an identifier is drawn and when staged entities are committed, both times
without regard to the greatest integer of 64 bits.
-/

namespace ResourceApi

/-- A staged change of one identifier. -/
inductive Staged (E : Type) where
  /-- A free identifier gets an entity. -/
  | insert (entity : E)
  /-- A taken identifier gets another entity. -/
  | update (entity : E)
  /-- The identifier becomes free. -/
  | delete

/-- The staged changes of a transaction by identifier. -/
abbrev WriteSet (E : Type) := Std.ExtTreeMap Int (Staged E)

/-- The store and the transaction that a caller has open on it. -/
structure Session (E : Type) where
  store : Store E
  writes : WriteSet E

namespace Store

variable {E : Type}

def withFaults (s : Store E) (faults : Faults) : Store E := { s with faults := faults }

def withTally (s : Store E) (tally : Tally) : Store E := { s with tally := tally }

/-- The store with one staged change applied. The counter moves behind the identifier. -/
def applyStaged (s : Store E) (id : Int) : Staged E → Store E
  | .insert e | .update e =>
    { s with entities := s.entities.insert id e, nextId := max s.nextId (id + 1) }
  | .delete => { s with entities := s.entities.erase id }

/-- Whether the committed entities contradict a staged change. -/
def contradicts (s : Store E) (id : Int) : Staged E → Bool
  | .insert _ => s.entities.contains id
  | .update _ => !s.entities.contains id
  | .delete => false

/-- The least identifier at which the committed entities contradict a write set. -/
def conflict? (s : Store E) (writes : WriteSet E) : Option Int :=
  (writes.toList.find? fun entry => s.contradicts entry.1 entry.2).map Prod.fst

/-- The store with a whole write set applied. -/
def applyAll (s : Store E) (writes : WriteSet E) : Store E :=
  writes.toList.foldl (fun s entry => s.applyStaged entry.1 entry.2) s

end Store

namespace Session

variable {E : Type}

/-- Whether an identifier is taken, as seen from inside the transaction. -/
def visible (x : Session E) (id : Int) : Bool :=
  match x.writes[id]? with
  | some (.insert _) | some (.update _) => true
  | some .delete => false
  | none => x.store.entities.contains id

def stage (x : Session E) (id : Int) (change : Staged E) : Session E :=
  ⟨x.store, x.writes.insert id change⟩

/-- Stages an entity under an identifier that was free. -/
def stageInsert (x : Session E) (id : Int) (e : E) : Session E :=
  match x.writes[id]? with
  -- An identifier that the transaction itself freed is committed: taking it up again updates it.
  | some .delete => x.stage id (.update e)
  | _ => x.stage id (.insert e)

/-- Stages an entity under an identifier that was taken. -/
def stageUpdate (x : Session E) (id : Int) (e : E) : Session E :=
  match x.writes[id]? with
  -- What the transaction itself inserted stays an insert.
  | some (.insert _) => x.stage id (.insert e)
  | _ => x.stage id (.update e)

/-- Stages the removal of an identifier that was taken. -/
def stageDelete (x : Session E) (id : Int) : Session E :=
  match x.writes[id]? with
  -- What the transaction itself inserted is forgotten.
  | some (.insert _) => ⟨x.store, x.writes.erase id⟩
  | _ => x.stage id .delete

/-- The session without the fault planted for the next change. -/
def clearMutationFault (x : Session E) : Session E :=
  ⟨x.store.withFaults { x.store.faults with mutation := none }, x.writes⟩

/-- Runs a change, unless a fault is planted for it. -/
def unlessFaulty {α : Type} (x : Session E) (step : Failure.Step)
    (change : Session E → Except Failure α × Session E) : Except Failure α × Session E :=
  match x.store.faults.mutation with
  | some message => (.error (.databaseError step message), x.clearMutationFault)
  | none => change x

/-- Draws an identifier from the counter. -/
def drawId (x : Session E) : Session E :=
  ⟨{ x.store with nextId := x.store.nextId + 1 }, x.writes⟩

/-- Removes an entity. Tells whether there was one to remove. -/
def delete (x : Session E) (id : Int) : Except Failure Bool × Session E :=
  x.unlessFaulty .delete fun x =>
    if x.store.faults.refuseDelete then
      (.ok false, ⟨x.store.withFaults { x.store.faults with refuseDelete := false }, x.writes⟩)
    else if x.visible id then (.ok true, x.stageDelete id)
    else (.ok false, x)

/-- Opens a transaction with nothing staged, unless a fault is planted. -/
def begin (x : Session E) : Except Failure Unit × Session E :=
  match x.store.faults.begin with
  | some failure =>
    (.error failure, ⟨x.store.withFaults { x.store.faults with begin := none }, x.writes⟩)
  | none =>
    (.ok (), ⟨x.store.withTally { x.store.tally with begun := x.store.tally.begun + 1 }, ∅⟩)

/-- What a commit reports when the committed entities contradict the write set. -/
def conflictMessage (id : Int) : String :=
  "id " ++ Number.decimal id ++ " was changed by a concurrent transaction"

/-- Commits the staged changes, all or none. -/
def commit (x : Session E) : Except Failure Unit × Session E :=
  match x.store.faults.commit with
  | some message =>
    (.error (.transactionFailed .commit message),
      ⟨x.store.withFaults { x.store.faults with commit := none }, x.writes⟩)
  | none =>
    match x.store.conflict? x.writes with
    -- A commit that fails leaves the changes staged.
    | some id => (.error (.transactionFailed .commit (conflictMessage id)), x)
    | none =>
      let store := x.store.applyAll x.writes
      (.ok (), ⟨store.withTally { store.tally with committed := store.tally.committed + 1 }, ∅⟩)

/-- Discards the staged changes. -/
def rollback (x : Session E) : Except Failure Unit × Session E :=
  (.ok (),
    ⟨x.store.withTally { x.store.tally with rolledBack := x.store.tally.rolledBack + 1 }, ∅⟩)

def release (x : Session E) : Except Failure Unit × Session E :=
  (.ok (), ⟨x.store.withTally { x.store.tally with ended := x.store.tally.ended + 1 }, x.writes⟩)

/-- Looks an entity up among the committed ones, unless a fault is planted. -/
def findById (x : Session E) (id : Int) : Except Failure (Option E) × Session E :=
  match x.store.faults.findById with
  | some failure =>
    (.error failure, ⟨x.store.withFaults { x.store.faults with findById := none }, x.writes⟩)
  | none => (.ok (x.store.get? id), x)

/-- Tells whether an entity is committed. A fault planted for look-ups strikes here too. -/
def contains (x : Session E) (id : Int) : Except Failure Bool × Session E :=
  let (found, x) := x.findById id
  (found.map Option.isSome, x)

variable [Entity E]

/-- Lists the committed entities that a query selects, unless a fault is planted. -/
def findAll (x : Session E) (q : Query) : Except Failure (List E) × Session E :=
  match x.store.faults.findAll with
  | some failure =>
    (.error failure, ⟨x.store.withFaults { x.store.faults with findAll := none }, x.writes⟩)
  | none => (.ok (x.store.select q), x)

/-- Inserts an entity under an identifier, if it is free. -/
def insertAt (x : Session E) (id : Int) (e : E) : Except Failure E × Session E :=
  if x.visible id then (.error (.alreadyExists "entity" (Number.decimal id)), x)
  else (.ok e, x.stageInsert id e)

/-- Inserts an entity, under its own identifier if it has one and else under a drawn one. -/
def insert (x : Session E) (e : E) : Except Failure E × Session E :=
  x.unlessFaulty .insert fun x =>
    if 0 < Entity.id e then x.insertAt (Entity.id e) e
    else x.drawId.insertAt x.store.nextId (Entity.withId e x.store.nextId)

def update (x : Session E) (e : E) : Except Failure E × Session E :=
  x.unlessFaulty .update fun x =>
    if x.visible (Entity.id e) then (.ok e, x.stageUpdate (Entity.id e) e)
    else (.error (.notFound "entity" (Number.decimal (Entity.id e))), x)

end Session

end ResourceApi
