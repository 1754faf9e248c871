/-!
# Failures of a repository

What a repository or a transaction reports when a call fails: the step that failed, the kind of
failure, a message, and the entity concerned if there is one. Only the fact of a failure and its
text matter to the layers above.

## Main definitions

- `Failure.Step`, `Failure.Kind` — where and how a call failed
- `Failure` — a failed call
- `Failure.text` — its wording in logs
-/

namespace ResourceApi

namespace Failure

/-- The step that failed. -/
inductive Step where
  | findById
  | findAll
  | exists_
  | insert
  | update
  | updatePartial
  | delete
  | begin
  | commit
  | rollback
deriving DecidableEq

def Step.all : List Step :=
  [.findById, .findAll, .exists_, .insert, .update, .updatePartial, .delete, .begin, .commit,
   .rollback]

def Step.name : Step → String
  | .findById => "find_by_id"
  | .findAll => "find_all"
  | .exists_ => "exists"
  | .insert => "insert"
  | .update => "update"
  | .updatePartial => "update_partial"
  | .delete => "delete"
  | .begin => "begin"
  | .commit => "commit"
  | .rollback => "rollback"

/-- The kind of a failure. -/
inductive Kind where
  | notFound
  | alreadyExists
  | connectionFailed
  | transactionFailed
  | databaseError
  | other
deriving DecidableEq

def Kind.all : List Kind :=
  [.notFound, .alreadyExists, .connectionFailed, .transactionFailed, .databaseError, .other]

def Kind.name : Kind → String
  | .notFound => "not_found"
  | .alreadyExists => "already_exists"
  | .connectionFailed => "connection_failed"
  | .transactionFailed => "transaction_failed"
  | .databaseError => "database_error"
  | .other => "other"

end Failure

/-- A failed call. -/
structure Failure where
  step : Failure.Step
  kind : Failure.Kind
  message : String
  /-- The type and the identifier of the entity concerned. -/
  entity : Option (String × String)
deriving DecidableEq

namespace Failure

/-- A failure that concerns no particular entity. -/
def of (step : Step) (kind : Kind) (message : String) : Failure := ⟨step, kind, message, none⟩

/-- The failure, said of an entity. -/
def about (f : Failure) (type id : String) : Failure := { f with entity := some (type, id) }

def notFound (type id : String) : Failure := (of .findById .notFound "no such record").about type id

def alreadyExists (type id : String) : Failure :=
  (of .insert .alreadyExists "duplicate identifier").about type id

def connectionFailed (message : String) : Failure := of .begin .connectionFailed message

def transactionFailed (step : Step) (message : String) : Failure :=
  of step .transactionFailed message

def databaseError (step : Step) (message : String) : Failure := of step .databaseError message

def text (f : Failure) : String :=
  f.step.name ++ " failed (" ++ f.kind.name ++ "): " ++ f.message ++
    match f.entity with
    | some (type, id) => ", " ++ type ++ " " ++ id
    | none => ""

end Failure

end ResourceApi
