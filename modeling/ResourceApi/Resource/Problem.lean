import ResourceApi.Filter.Error
import ResourceApi.Journal
import ResourceApi.Resource.Violations
import ResourceApi.Text.Ascii
import ResourceApi.Text.Quoted

/-!
# Problems

Why a request is refused: the operation it asked for, the kind of problem, what the client is told,
and what only the log is told. A failure inside the service shows its client a reference to the log
and nothing else, unless the service is told to be open about it.

## Main definitions

- `Operation` — what a request asks for
- `Problem.Kind` — the kinds of problems, with their status and their code
- `Problem` — a refused request
- `Problem.internal`, `Problem.expose` — failures inside the service, hidden and open
- `Problem.node` — what the client is shown
- `Problem.event` — what the log is told

## Design notes

References are drawn at random when a problem is shown. Which one is drawn matters to nobody but the
reader of the log, so a problem only says whether it has one, and the text in its place is fixed.
-/

namespace ResourceApi

/-- What a request asks for. -/
inductive Operation where
  | list
  | get
  | create
  | update
  /-- Other values for some fields of an entity. -/
  | updatePartial
  | delete
deriving DecidableEq

namespace Operation

def all : List Operation := [.list, .get, .create, .update, .updatePartial, .delete]

def name : Operation → String
  | .list => "list"
  | .get => "get"
  | .create => "create"
  | .update => "update"
  | .updatePartial => "update_partial"
  | .delete => "delete"

end Operation

namespace Problem

/-- The kind of a problem. -/
inductive Kind where
  /-- The identifier is not a positive integer. -/
  | invalidIdentifier
  /-- The body is unusable, breaks rules or contradicts the path. -/
  | validationFailed
  /-- The query string is unusable. -/
  | malformedQuery
  | notFound
  | methodNotAllowed
  | conflict
  /-- Something inside the service failed. -/
  | internalError
deriving DecidableEq

namespace Kind

def all : List Kind :=
  [.invalidIdentifier, .validationFailed, .malformedQuery, .notFound, .methodNotAllowed, .conflict,
   .internalError]

/-- The status of an answer with a problem. -/
def status : Kind → Nat
  | .invalidIdentifier | .validationFailed | .malformedQuery => 400
  | .notFound => 404
  | .methodNotAllowed => 405
  | .conflict => 409
  | .internalError => 500

def code : Kind → String
  | .invalidIdentifier => "INVALID_IDENTIFIER"
  | .validationFailed => "VALIDATION_FAILED"
  | .malformedQuery => "MALFORMED_QUERY"
  | .notFound => "NOT_FOUND"
  | .methodNotAllowed => "METHOD_NOT_ALLOWED"
  | .conflict => "CONFLICT"
  | .internalError => "INTERNAL_ERROR"

/-- The name of a kind, for readers: its code in small letters. -/
def name (k : Kind) : String := String.ofList (Text.lower k.code.toList)

end Kind

end Problem

/-- A refused request. -/
structure Problem where
  operation : Operation
  kind : Problem.Kind
  /-- What the client is told. -/
  message : String
  /-- The resource and the identifier concerned. -/
  entity : Option (String × String)
  violations : Option Violations
  /-- Whether the client is given a reference to the log. -/
  referenced : Bool
  /-- What only the log is told. -/
  detail : Option String

namespace Problem

/-- A problem of which nothing more is known. -/
def of (operation : Operation) (kind : Kind) (message : String) : Problem :=
  ⟨operation, kind, message, none, none, false, none⟩

def about (p : Problem) (resource id : String) : Problem := { p with entity := some (resource, id) }

def invalidIdentifier (operation : Operation) (raw : String) : Problem :=
  of operation .invalidIdentifier ("Invalid identifier '" ++ raw ++ "'")

def validationFailed (operation : Operation) (violations : Violations) : Problem :=
  { of operation .validationFailed "Validation failed" with violations := some violations }

/-- A body that is unusable as a whole. -/
def invalidBody (operation : Operation) (message : String) : Problem :=
  of operation .validationFailed message

def malformedQuery (message : String) : Problem := of .list .malformedQuery message

/-- A query string with a fault in its filters or parameters. -/
def ofFilterError (e : Filter.Error) : Problem :=
  malformedQuery ("Malformed query string: " ++ e.message)

def notFound (operation : Operation) (resource id : String) : Problem :=
  (of operation .notFound "No such resource").about resource id

def methodNotAllowed (operation : Operation) (message : String) : Problem :=
  of operation .methodNotAllowed message

def conflict (operation : Operation) (message : String) : Problem := of operation .conflict message

/-- What a client is told of a failure inside the service. -/
def internalMessage : String := "An internal error occurred"

/-- A failure inside the service. Its detail is for the log. -/
def internal (operation : Operation) (detail : String) : Problem :=
  { of operation .internalError internalMessage with referenced := true, detail := some detail }

/-- The problem with its detail, if it has one, as what the client is told. -/
def expose (p : Problem) : Problem :=
  match p.detail with
  | some detail => { p with message := detail }
  | none => p

def status (p : Problem) : Nat := p.kind.status

def text (p : Problem) : String :=
  p.operation.name ++ " rejected (" ++ p.kind.name ++ "): " ++ p.message ++
    match p.entity with
    | some (resource, id) => ", " ++ resource ++ " " ++ id
    | none => ""

/-- The text in the place of a reference. -/
def reference : String := "<reference>"

def node (p : Problem) : Json.Node :=
  .ofMembers <|
    [("error", .ofText p.message), ("code", .ofText p.kind.code),
      ("status", .ofInt p.status), ("operation", .ofText p.operation.name)]
    ++ (match p.entity with
      | some (resource, id) => [("entity_type", .ofText resource), ("entity_id", .ofText id)]
      | none => [])
    ++ (match p.violations with
      | some violations => [("violations", violations.node)]
      | none => [])
    ++ (if p.referenced then [("reference", .ofText reference)] else [])

/-- What the log is told when the client is answered. -/
def event (p : Problem) : Event :=
  let resource := Datum.text (Text.quoteOption (p.entity.map Prod.fst))
  let id := Datum.text (Text.quoteOption (p.entity.map Prod.snd))
  match p.kind with
  | .internalError =>
    ⟨.error, .problems, "request failed",
      [("operation", .text p.operation.name), ("resource", resource), ("id", id),
       ("reference", .text (if p.referenced then reference else Text.quoteOption none)),
       ("detail", .text (Text.quoteOption p.detail))]⟩
  | kind =>
    ⟨.warn, .problems, "request rejected",
      [("operation", .text p.operation.name), ("code", .text kind.code), ("resource", resource),
       ("id", id), ("error", .text p.message)]⟩

end Problem

end ResourceApi
