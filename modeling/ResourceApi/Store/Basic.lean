import Std.Data.ExtTreeMap
import ResourceApi.Failure
import ResourceApi.Query.Build

/-!
# The store

Entities under integer identifiers. What a store shows to its readers are the committed entities;
the rest of it is bookkeeping: a counter from which identifiers are drawn, a tally of transactions,
and faults planted to make later calls fail.

## Main definitions

- `Entity` — what the store has to know about the entities it holds
- `Store` — the committed entities and the bookkeeping
- `Store.get?`, `Store.toList`, `Store.size` — the views of the committed entities
- `Store.select` — the entities that a query selects

## Design notes

Identifiers and the counter are unbounded integers that stand for integers of 64 bits. A store
behaves as described as long as all identifiers are less than `Number.maxInt64`, since the counter
is one ahead of them. What happens when it would pass that number is not described.

A list request that sorts by a field in which an entity has a NaN compares values by something that
is no total order. Which order then comes out is the choice of the sort, and one that insists on a
total order may refuse altogether; the order here is that of `stableSort`.
-/

namespace ResourceApi

/-- What the store has to know about an entity. -/
class Entity (E : Type) where
  /-- The identifier; zero and negative numbers mean that none is assigned yet. -/
  id : E → Int
  withId : E → Int → E
  /-- The value of a field, if the entity has one. -/
  field : E → String → Option Value

/-- How many transactions were opened and how they went on. -/
structure Tally where
  begun : Nat
  committed : Nat
  rolledBack : Nat
  ended : Nat
deriving DecidableEq

/-- The faults planted for later calls. Each is gone once it has struck. Those of mutations, commits
and deletes can be planted in a repository in memory. The failures of listings, of look-ups and of
attempts to open a transaction never come of one: with them the store stands for a repository behind
which something else fails. -/
structure Faults where
  /-- The message with which the next insert, update or delete fails. -/
  mutation : Option String
  /-- The message with which the next commit fails. -/
  commit : Option String
  /-- Whether the next delete removes nothing. -/
  refuseDelete : Bool
  /-- The failure of the next listing, for a repository that fails. -/
  findAll : Option Failure
  /-- The failure of the next look-up, for a repository that fails. -/
  findById : Option Failure
  /-- The failure of the next attempt to open a transaction, for a repository that fails. -/
  begin : Option Failure
deriving DecidableEq

/-- No fault is planted. -/
def Faults.none : Faults := ⟨.none, .none, false, .none, .none, .none⟩

/-- The committed entities and the bookkeeping. -/
structure Store (E : Type) where
  entities : Std.ExtTreeMap Int E
  nextId : Int
  tally : Tally
  faults : Faults

namespace Store

variable {E : Type}

def get? (s : Store E) (id : Int) : Option E := s.entities[id]?

/-- The committed entities in increasing order of identifiers. -/
def toList (s : Store E) : List E := s.entities.toList.map Prod.snd

def size (s : Store E) : Nat := s.entities.size

variable [Entity E]

/-- The given entities by identifier; of several with one identifier the last is kept. -/
def index (entities : List E) : Std.ExtTreeMap Int E :=
  entities.foldl (fun held e => held.insert (Entity.id e) e) ∅

/-- A store that holds the given entities. The counter starts behind the greatest identifier, and at
one if no identifier is positive. -/
def ofList (entities : List E) : Store E where
  entities := index entities
  nextId := (index entities).toList.foldl (fun greatest entry => max greatest entry.1) 0 + 1
  tally := ⟨0, 0, 0, 0⟩
  faults := Faults.none

/-- The committed entities that a query selects, in the order and the window it asks for. -/
def select (s : Store E) (q : Query) : List E :=
  let chosen := s.toList.filter fun e =>
    match q.filter with
    | none => true
    | some expression => expression.satisfiedBy (Entity.field e)
  let arranged := match q.sort with
    | none => chosen
    | some key => key.apply Entity.field chosen
  match q.window with
  | none => arranged
  | some window => window.apply arranged

end Store

end ResourceApi
