import ResourceApi.Resource.Basic
import ResourceApi.Resource.Grant
import ResourceApi.Scope
import ResourceApi.Text.Blank

/-!
# The service of a resource

Requests to a resource, each as a script in stages: identifier, policy, existence, body and rules,
agreement of the identifiers, transaction, answer. The first stage that fails refuses the request,
and no transaction is opened before all earlier stages have passed.

## Main definitions

- `Options` — where a resource is mounted, how large pages are, how open the service is
- `Service` — a resource with options
- `Request` — what a client asks for
- `Service.handle` — the script of a request

## Design notes

Why a body cannot be read is told by the reader of JSON in words of its own, to the client and in
the journal. Here `Service.unreadable` stands for what the client is told, whatever the reason, and
the event that `Service.bind` emits leaves out the field with the error.
-/

namespace ResourceApi

/-- How a service presents a resource. -/
structure Options where
  /-- The path of the collection; without one, nobody is told where new entities are found. -/
  basePath : Option String
  /-- The size of a page when none is asked for. -/
  standardPageSize : Nat
  greatestPageSize : Nat
  /-- Whether clients are told of failures inside the service. -/
  exposeFailures : Bool
deriving DecidableEq

namespace Options

/-- No path, the usual page sizes, and silence about failures. -/
def usual : Options := ⟨none, PageLimits.usual.standard, PageLimits.usual.greatest, false⟩

def limits (o : Options) : PageLimits := .clamp o.standardPageSize o.greatestPageSize

end Options

/-- A resource with options. -/
structure Service (E D : Type) where
  resource : Resource E D
  options : Options

/-- What a client asks for. A header may be missing. -/
inductive Request where
  /-- The entities that the pairs of a query string select. -/
  | list (pairs : List (String × String)) (accept : Option String)
  | get (id : Int) (accept : Option String)
  | create (body : Bytes) (accept : Option String)
  | update (id : Int) (body : Bytes)
  /-- Other values for some parts of an entity. -/
  | updatePartial (id : Int) (body : Bytes)
  | delete (id : Int)

def Request.operation : Request → Operation
  | .list .. => .list
  | .get .. => .get
  | .create .. => .create
  | .update .. => .update
  | .updatePartial .. => .updatePartial
  | .delete .. => .delete

/-- A part of a request that may refuse it. -/
abbrev Stage (E α : Type) := ExceptT Problem (Script E) α

namespace Service

variable {E D α : Type}

def note (s : Service E D) (level : Level) (message : String) (data : List (String × Datum)) :
    Stage E Unit :=
  ExceptT.lift (Script.emit
    ⟨level, .requests, message, ("resource", .text s.resource.name) :: data⟩)

/-- The problem of a failure inside the service. -/
def internal (s : Service E D) (operation : Operation) (id : Option Int) (detail : String) :
    Problem :=
  let problem := Problem.internal operation detail
  let problem := match id with
    | some id => problem.about s.resource.name (Number.decimal id)
    | none => problem
  if s.options.exposeFailures then problem.expose else problem

/-- The problem of an entity that does not exist. -/
def missing (s : Service E D) (operation : Operation) (id : Int) : Problem :=
  .notFound operation s.resource.name (Number.decimal id)

/-- Runs a script that may report a failure. -/
def guarded (s : Service E D) (operation : Operation) (id : Option Int)
    (script : Script E (Except Failure α)) : Stage E α := do
  match ← ExceptT.lift script with
  | .ok value => pure value
  | .error failure => throw (s.internal operation id failure.text)

def checkIdentifier (s : Service E D) (operation : Operation) (id : Int) : Stage E Unit := do
  if id ≤ 0 then
    s.note .debug "rejecting non-positive identifier" [("id", .number id)]
    throw (.invalidIdentifier operation (Number.decimal id))

def find (s : Service E D) (operation : Operation) (id : Int) : Stage E E := do
  match ← s.guarded operation (some id) (Script.call (.findById id)) with
  | some entity => pure entity
  | none => throw (s.missing operation id)

/-- There has to be an entity under an identifier. -/
def checkExistence (s : Service E D) (operation : Operation) (id : Int) : Stage E Unit := do
  let known : Bool ← s.guarded operation (some id) (Script.call (.contains id))
  unless known do throw (s.missing operation id)

/-- What a client is told of a body that is no document of the resource. -/
def unreadable : String := "Invalid request body: it does not describe an entity"

def bind (s : Service E D) (operation : Operation) (body : Bytes) : Stage E D := do
  match s.resource.read body with
  | some document => pure document
  | none =>
    s.note .debug "request body did not bind" [("operation", .text operation.name)]
    throw (.invalidBody operation unreadable)

def checkRules (s : Service E D) (operation : Operation) (id : Option Int)
    (verdict : Except Violations Unit) : Stage E Unit := do
  match verdict with
  | .ok _ => pure ()
  | .error violations =>
    s.note .debug "validation failed" <|
      [("operation", .text operation.name), ("violations", .number violations.count)]
      ++ (match id with
        | some id => [("id", .number id)]
        | none => [])
    throw (.validationFailed operation violations)

/-- The identifier that a document claims has to be the one of the path. -/
def checkAgreement (s : Service E D) (operation : Operation) (id : Int) (document : D) :
    Stage E Unit := do
  match s.resource.claimedId document with
  | none => pure ()
  | some claimed =>
    if claimed = id then pure ()
    else do
      s.note .debug "identifier mismatch" [("id", .number id), ("body_id", .number claimed)]
      throw (.invalidBody operation
        ("Body id " ++ Number.decimal claimed ++ " does not match path id " ++ Number.decimal id))

/-- Runs work in a transaction of its own. -/
def transact (s : Service E D) (operation : Operation) (id : Option Int)
    (work : Script E (Except Failure α)) : Stage E α := do
  let _ ← s.guarded operation id (Script.call .begin)
  s.guarded operation id (Scope.run work)

/-- Work with an entity that has to be made first. -/
def withEntity (made : Except String E) (work : E → Script E (Except Failure α)) :
    Script E (Except Failure α) :=
  match made with
  | .ok entity => work entity
  | .error message => .crash message

/-- A body in the representation that a client prefers. -/
def render (s : Service E D) (operation : Operation) (accept : Option String)
    (json : Except String Json.Node) (xml : String) : Stage E Rendering :=
  match Representation.negotiate accept with
  | .xml => pure ⟨.xml, Text.utf8 xml⟩
  | .json =>
    match json with
    | .ok node => pure ⟨.json, node.bytes⟩
    | .error reason => throw (s.internal operation none reason)

/-- A document in the representation that a client prefers. -/
def renderOne (s : Service E D) (operation : Operation) (accept : Option String) (document : D) :
    Stage E Rendering :=
  s.render operation accept (s.resource.json document) (s.resource.xml document)

/-- Several documents in the representation that a client prefers. -/
def renderAll (s : Service E D) (operation : Operation) (accept : Option String)
    (documents : List D) : Stage E Rendering :=
  s.render operation accept (Json.Node.array <$> documents.mapM s.resource.json)
    (s.resource.xmlList documents)

def list (s : Service E D) (pairs : List (String × String)) (accept : Option String) :
    Stage E Grant := do
  match s.resource.query s.resource.schema s.options.limits pairs with
  | .error e =>
    s.note .debug "rejecting list query"
      [("parse_failure", .boolean e.isSpelling), ("error", .text e.message)]
    throw (.ofFilterError e)
  | .ok query =>
    let entities : List E ← s.guarded .list none (Script.call (.findAll query))
    s.note .debug "listed entities" [("count", .number entities.length)]
    return .ok (← s.renderAll .list accept (entities.map s.resource.present))

def get (s : Service E D) (id : Int) (accept : Option String) : Stage E Grant := do
  s.checkIdentifier .get id
  let entity ← s.find .get id
  return .ok (← s.renderOne .get accept (s.resource.present entity))

def location? (s : Service E D) (id : Int) : Option String :=
  s.options.basePath.map fun base =>
    String.ofList (Text.dropEndWhile (· == '/') base.toList) ++ "/" ++ Number.decimal id

def create (s : Service E D) (body : Bytes) (accept : Option String) : Stage E Grant := do
  let document ← s.bind .create body
  s.checkRules .create none (s.resource.checkCreate document)
  let saved : E ← s.transact .create none <|
    withEntity (s.resource.create document none) fun e => Script.call (.insert e)
  let id := s.resource.identify saved
  s.note .info "created entity" [("id", .number id)]
  let shown ← s.renderOne .create accept (s.resource.present saved)
  return { Grant.created shown with location := s.location? id }

def noteUpdate (s : Service E D) (operation : Operation) (id : Int) : Stage E Unit :=
  s.note .info "updated entity" [("id", .number id), ("operation", .text operation.name)]

/-- Puts another entity in the place of one. -/
def update (s : Service E D) (id : Int) (body : Bytes) : Stage E Grant := do
  s.checkIdentifier .update id
  s.checkExistence .update id
  let document ← s.bind .update body
  s.checkRules .update (some id) (s.resource.checkUpdate document)
  s.checkAgreement .update id document
  let _ ← s.transact .update (some id) <|
    withEntity (s.resource.create document (some id)) fun e => Script.call (.update e)
  s.noteUpdate .update id
  return .noContent

/-- Gives some parts of an entity other values. -/
def updatePartial (s : Service E D) (id : Int) (body : Bytes) : Stage E Grant := do
  s.checkIdentifier .updatePartial id
  -- The entity is read before the transaction opens.
  let existing ← s.find .updatePartial id
  let document ← s.bind .updatePartial body
  s.checkRules .updatePartial (some id) (s.resource.checkPartial document)
  s.checkAgreement .updatePartial id document
  let _ ← s.transact .updatePartial (some id) <|
    withEntity (s.resource.merge existing document) fun e => Script.call (.updatePartial e)
  s.noteUpdate .updatePartial id
  return .noContent

/-- What a client is told of an entity that is in use. -/
def inUse : String := "Entity already in use"

/-- What is reported when a removal removes nothing. -/
def nothingRemoved : String := "Cannot delete selected entity"

/-- Entities have to be deletable, all of them and this one. -/
def checkPolicy (s : Service E D) (id : Int) : Stage E Unit := do
  if s.resource.deletionAllowed then
    if s.resource.deletable id then pure ()
    else do
      s.note .debug "entity protected from deletion" [("id", .number id)]
      throw ((Problem.conflict .delete inUse).about s.resource.name (Number.decimal id))
  else do
    s.note .debug "deletion disabled" [("id", .number id)]
    throw (.methodNotAllowed .delete ("Deleting " ++ s.resource.name ++ " is not allowed"))

/-- Removes an entity. -/
def remove (id : Int) : Script E (Except Failure Unit) := do
  let removed : Except Failure Bool ← Script.call (.delete id)
  match removed with
  | .error failure => pure (.error failure)
  | .ok true => pure (.ok ())
  -- It is a failure if there is nothing to remove.
  | .ok false => pure (.error (.of .delete .other nothingRemoved))

def delete (s : Service E D) (id : Int) : Stage E Grant := do
  s.checkIdentifier .delete id
  s.checkPolicy id
  s.checkExistence .delete id
  s.transact .delete (some id) (remove id)
  s.note .info "deleted entity" [("id", .number id)]
  return .noContent

def stages (s : Service E D) : Request → Stage E Grant
  | .list pairs accept => s.list pairs accept
  | .get id accept => s.get id accept
  | .create body accept => s.create body accept
  | .update id body => s.update id body
  | .updatePartial id body => s.updatePartial id body
  | .delete id => s.delete id

def handle (s : Service E D) (request : Request) : Script E (Except Problem Grant) :=
  (s.stages request).run

end Service

end ResourceApi
